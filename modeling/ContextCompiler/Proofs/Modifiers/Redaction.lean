import ContextCompiler.Modifiers.Redaction
import ContextCompiler.Proofs.Except
import ContextCompiler.Proofs.Regex.Reading
import ContextCompiler.Proofs.Regex.Words

/-!
The keywords of a redaction are left nowhere.

Each keyword is redacted from what the keywords before it have left. A marker that shares no
character with any of them stands between what is kept, so no keyword is put together anew from
what stood before and behind another one.
-/

namespace ContextCompiler

open Text

namespace Redaction

variable {keyword : String} {keywords : List String} {marker s t : List Char}

/-! ## The expression of a keyword -/

/-- A keyword that is written out as an expression is read as the word in whatever case. -/
theorem read?_keywordExpression (keyword : String) :
    Regex.read? (keywordExpression keyword) = some (anyCaseWord keyword) := by
  have hchars : (keywordExpression keyword).toList =
      '(' :: '?' :: 'i' :: ')' :: keyword.toList.flatMap Glob.escaped := String.toList_ofList
  rw [Regex.read?, hchars]
  obtain ⟨n, hn⟩ : ∃ n, n + 1 = 2 * ('(' :: '?' :: 'i' :: ')' ::
    keyword.toList.flatMap Glob.escaped).length + 2 := ⟨_, rfl⟩
  have hlength : (keyword.toList.flatMap Glob.escaped).length < n := by
    simp only [List.length_cons] at hn
    omega
  obtain ⟨w, hread, hbranches, hparts⟩ := @Regex.readUntilClose?_flatMap_escaped
    ⟨{ Regex.Flags.start with anyCase := true }, 0, [], [], [], false⟩ n 0 keyword.toList rfl
    hlength
  rw [← hn, Regex.readUntilClose?_anyCase rfl, hread]
  simp [Regex.Reading.whole, Regex.Reading.branch, hbranches, hparts, Regex.alts, anyCaseWord,
    Regex.anyCase, Regex.Reading.charSet, Regex.Flags.start]

/-- A keyword is redacted where it stands in whatever case, unless its expression is too large,
which only that of a long keyword is. -/
theorem redact_readKeyword (hkeyword : keyword ≠ "") (marker s : List Char) :
    (∃ t, redact readKeyword (Template.escape marker) s keyword = .ok t ∧
      Redacts keyword.toList marker s t) ∨
    500 ≤ keyword.length ∧ ∃ e, readKeyword keyword = .error e ∧
      redact readKeyword (Template.escape marker) s keyword = .error e := by
  have hne : keyword.toList ≠ [] := mt String.toList_eq_nil_iff.1 hkeyword
  cases hread : readKeyword keyword with
  | ok r =>
    refine .inl ⟨r.replaceAll (Template.escape marker) s, ?_, ?_⟩
    · rw [redact, hread]
      rfl
    · rw [readKeyword, compile, read?_keywordExpression] at hread
      dsimp only at hread
      split at hread
      · cases hread
      · cases hread
        exact Regex.redacts_replaceAll hne marker s
  | error e =>
    refine .inr ⟨?_, e, rfl, ?_⟩
    · rw [readKeyword, compile, read?_keywordExpression] at hread
      dsimp only at hread
      split at hread
      · next hlarge =>
        refine Nat.le_of_not_lt fun hshort => ?_
        exact absurd hlarge (Bool.eq_false_iff.1 (Regex.isTooLarge_anyCase hne hshort))
      · cases hread
    · rw [redact, hread]
      rfl

/-! ## One keyword after the other -/

/-- Keywords are redacted one after the other. -/
inductive RedactsEach (marker : List Char) : List String → List Char → List Char → Prop
  | nil {s : List Char} : RedactsEach marker [] s s
  | cons {keyword : String} {keywords : List String} {s m t : List Char} :
      Redacts keyword.toList marker s m → RedactsEach marker keywords m t →
      RedactsEach marker (keyword :: keywords) s t

/-- Later keywords bring in no word that shares no character with the marker. -/
theorem RedactsEach.not_folded_infix_of_not {word : List Char}
    (h : RedactsEach marker keywords s t) (hmarker : marker ≠ []) (hword : word ≠ [])
    (hapart : ∀ c ∈ word, ∀ d ∈ marker, sameFold c d = false)
    (hfree : ¬ folded word <:+: folded s) : ¬ folded word <:+: folded t := by
  induction h with
  | nil => exact hfree
  | cons hfirst _ ih => exact ih (hfirst.not_folded_infix_of_not hmarker hword hapart hfree)

/-- None of the keywords is left. -/
theorem RedactsEach.not_folded_infix (h : RedactsEach marker keywords s t) (hmarker : marker ≠ [])
    (hne : ∀ keyword ∈ keywords, keyword ≠ "")
    (hapart : ∀ keyword ∈ keywords, ∀ c ∈ keyword.toList, ∀ d ∈ marker, sameFold c d = false) :
    ∀ keyword ∈ keywords, ¬ folded keyword.toList <:+: folded t := by
  induction h with
  | nil => exact fun _ h => nomatch h
  | cons hfirst hrest ih =>
    obtain ⟨hne, hnes⟩ := List.forall_mem_cons.1 hne
    obtain ⟨hapart, haparts⟩ := List.forall_mem_cons.1 hapart
    have hword := mt String.toList_eq_nil_iff.1 hne
    refine List.forall_mem_cons.2 ⟨?_, ih hnes haparts⟩
    exact hrest.not_folded_infix_of_not hmarker hword hapart
      (hfirst.not_folded_infix hmarker hword hapart)

/-- All keywords are redacted, unless the expression of one is too large. -/
theorem foldlM_readKeyword (hne : ∀ keyword ∈ keywords, keyword ≠ "") (marker s : List Char) :
    (∃ t, keywords.foldlM (redact readKeyword (Template.escape marker)) s = .ok t ∧
      RedactsEach marker keywords s t) ∨
    ∃ keyword ∈ keywords, 500 ≤ keyword.length ∧ ∃ e, readKeyword keyword = .error e ∧
      keywords.foldlM (redact readKeyword (Template.escape marker)) s = .error e := by
  induction keywords generalizing s with
  | nil => exact .inl ⟨s, rfl, .nil⟩
  | cons keyword keywords ih =>
    obtain ⟨hkeyword, hkeywords⟩ := List.forall_mem_cons.1 hne
    rcases redact_readKeyword hkeyword marker s with ⟨m, hm, hfirst⟩ | ⟨hlength, e, he, hfails⟩
    · rw [List.foldlM_cons, hm]
      rcases ih hkeywords m with ⟨t, ht, hrest⟩ | ⟨long, hmem, hlong⟩
      · exact .inl ⟨t, ht, .cons hfirst hrest⟩
      · exact .inr ⟨long, List.mem_cons_of_mem _ hmem, hlong⟩
    · refine .inr ⟨keyword, List.mem_cons_self, hlength, e, he, ?_⟩
      rw [List.foldlM_cons, hfails]
      rfl

end Redaction

namespace RedactionOptions

open Redaction

variable {o : RedactionOptions} {s m : List Char}

/-- The keywords that are looked for. -/
def terms (o : RedactionOptions) : List String := o.keywords.filter (!·.isEmpty)

theorem mem_terms {keyword : String} : keyword ∈ o.terms ↔ keyword ∈ o.keywords ∧ keyword ≠ "" := by
  simp [terms]

theorem apply_eq_bind (o : RedactionOptions) (s : List Char) :
    o.apply s = ({ o with keywords := [] } : RedactionOptions).apply s >>=
      o.terms.foldlM (redact readKeyword (Template.escape o.replacement.toList)) := by
  simp [apply, terms]

/-- Expressions that can be read come to a result. -/
theorem apply_without_keywords (hpatterns : ∀ p ∈ o.patterns, ∃ r, readPattern p = .ok r)
    (s : List Char) : ∃ m, ({ o with keywords := [] } : RedactionOptions).apply s = .ok m := by
  have hfold : ∀ patterns : List String, (∀ p ∈ patterns, ∃ r, readPattern p = .ok r) →
      ∀ marker s, ∃ m, patterns.foldlM (redact readPattern marker) s = .ok m := by
    intro patterns hpatterns marker
    induction patterns with
    | nil => exact fun s => ⟨s, rfl⟩
    | cons pattern patterns ih =>
      intro s
      obtain ⟨⟨r, hr⟩, hrest⟩ := List.forall_mem_cons.1 hpatterns
      rw [List.foldlM_cons, redact, hr]
      exact ih hrest _
  simpa [apply] using hfold o.patterns hpatterns _ _

/-- With expressions that can be read, and a marker that shares no character with a keyword in any
case, what the expressions leave has its keywords replaced one after the other by just the marker,
and none of them is left in any case. Only a keyword of 500 characters or more can be refused. -/
theorem apply_leaves_no_keyword (hpatterns : ∀ p ∈ o.patterns, ∃ r, readPattern p = .ok r)
    (hmarker : o.replacement ≠ "")
    (hapart : ∀ keyword ∈ o.keywords, ∀ c ∈ keyword.toList, ∀ d ∈ o.replacement.toList,
      sameFold c d = false) (s : List Char) :
    ∃ m, ({ o with keywords := [] } : RedactionOptions).apply s = .ok m ∧
      ((∃ t, o.apply s = .ok t ∧ RedactsEach o.replacement.toList o.terms m t ∧
          ∀ keyword ∈ o.keywords, keyword ≠ "" → ¬ folded keyword.toList <:+: folded t) ∨
        ∃ keyword ∈ o.keywords, 500 ≤ keyword.length ∧
          ∃ e, readKeyword keyword = .error e ∧ o.apply s = .error e) := by
  obtain ⟨m, hm⟩ := apply_without_keywords hpatterns s
  have hne : ∀ keyword ∈ o.terms, keyword ≠ "" := fun keyword h => (mem_terms.1 h).2
  refine ⟨m, hm, ?_⟩
  rw [apply_eq_bind, hm]
  rcases foldlM_readKeyword hne o.replacement.toList m with ⟨t, ht, heach⟩ | ⟨long, hmem, hlong⟩
  · refine .inl ⟨t, ht, heach, fun keyword hkeyword hnonempty => ?_⟩
    exact heach.not_folded_infix (mt String.toList_eq_nil_iff.1 hmarker) hne
      (fun k hk => hapart k (mem_terms.1 hk).1) keyword (mem_terms.2 ⟨hkeyword, hnonempty⟩)
  · exact .inr ⟨long, (mem_terms.1 hmem).1, hlong⟩

/-- Two keywords of which one may stand within the other, and a marker with a dollar sign. -/
def falcon : RedactionOptions := ⟨["[0-9]+"], ["Falcon", "", "onYx"], "$1", false⟩

theorem falcon_leaves_no_keyword :
    (∀ p ∈ falcon.patterns, ∃ r, readPattern p = .ok r) ∧ falcon.replacement ≠ "" ∧
    (∀ keyword ∈ falcon.keywords, ∀ c ∈ keyword.toList, ∀ d ∈ falcon.replacement.toList,
      sameFold c d = false) ∧
    ∃ m t, ({ falcon with keywords := [] } : RedactionOptions).apply
        "FALCON onfalconyx 22 ONYX".toList = .ok m ∧
      falcon.apply "FALCON onfalconyx 22 ONYX".toList = .ok t ∧
      RedactsEach falcon.replacement.toList falcon.terms m t ∧
      ∀ keyword ∈ falcon.keywords, keyword ≠ "" → ¬ folded keyword.toList <:+: folded t := by
  have hpatterns : ∀ p ∈ falcon.patterns, ∃ r, readPattern p = .ok r :=
    List.forall_mem_singleton.2 ⟨.many1 (.one (.range '0' '9')), by cbv⟩
  have hmarker : falcon.replacement ≠ "" := by decide
  have hapart : ∀ keyword ∈ falcon.keywords, ∀ c ∈ keyword.toList, ∀ d ∈ falcon.replacement.toList,
      sameFold c d = false := by
    have hall : (falcon.keywords.all fun k => k.toList.all fun c =>
        falcon.replacement.toList.all fun d => !sameFold c d) = true := by cbv
    simpa [List.all_eq_true] using hall
  have hshort : ∀ keyword ∈ falcon.keywords, keyword.length < 500 := by decide
  refine ⟨hpatterns, hmarker, hapart, ?_⟩
  obtain ⟨m, hm, ⟨t, ht⟩ | ⟨long, hmem, hlong, -⟩⟩ :=
    apply_leaves_no_keyword hpatterns hmarker hapart "FALCON onfalconyx 22 ONYX".toList
  · exact ⟨m, t, hm, ht⟩
  · exact absurd (hshort long hmem) (Nat.not_lt.2 hlong)

end RedactionOptions

end ContextCompiler
