import Mathlib.Computability.Language
import ContextCompiler.Proofs.Glob.Match

/-!
The paths of a pattern as a language.

A pattern without three stars in a row is read from left to right, and a path on one line has its
form when it can be cut into pieces that have the forms of the tokens. Without two stars in a row
the tokens fit as many slashes as stand in the pattern.
-/

namespace ContextCompiler

namespace GlobToken

variable {c : Char} {cs s : List Char} {t : GlobToken}

/-! ## Reading from left to right -/

/-- The tokens of a pattern text, each as long as it can be. -/
def readChars : List Char → List GlobToken
  | [] => []
  | '*' :: '*' :: '/' :: cs => deepSlash :: readChars cs
  | '*' :: '*' :: cs => deep :: readChars cs
  | '*' :: cs => run :: readChars cs
  | '?' :: cs => one :: readChars cs
  | c :: cs => lit c :: readChars cs

/-- A pattern text without three stars in a row. -/
def NoTripleStar (cs : List Char) : Prop := ¬ ['*', '*', '*'] <:+: cs

instance : Decidable (NoTripleStar cs) := inferInstanceAs (Decidable (¬ _))

theorem NoTripleStar.of_suffix {cs' : List Char} (h : NoTripleStar cs) (hs : cs' <:+ cs) :
    NoTripleStar cs' :=
  fun hstars => h (hstars.trans hs.isInfix)

theorem markDeepSlash_cons (hc : c ≠ '*') :
    markDeepSlash (c :: cs) = some c :: markDeepSlash cs := by
  cases cs with
  | nil => rfl
  | cons d cs =>
    cases cs with
    | nil => rfl
    | cons e cs =>
      rw [markDeepSlash, if_neg]
      simp [hc]

theorem markDeepSlash_star_cons {d : Char} (hd : d ≠ '*') :
    markDeepSlash ('*' :: d :: cs) = some '*' :: markDeepSlash (d :: cs) := by
  cases cs with
  | nil => rfl
  | cons e cs =>
    rw [markDeepSlash, if_neg]
    simp [hd]

/-- Two stars that no slash follows are left as they are, if they are no part of a longer run. -/
theorem markDeepSlash_stars (h : NoTripleStar ('*' :: '*' :: cs)) (hslash : cs.head? ≠ some '/') :
    markDeepSlash ('*' :: '*' :: cs) = some '*' :: some '*' :: markDeepSlash cs := by
  cases cs with
  | nil => rfl
  | cons c cs =>
    have hc : c ≠ '*' := by
      rintro rfl
      exact h ⟨[], cs, rfl⟩
    have hc' : c ≠ '/' := fun e => hslash (by rw [e, List.head?_cons])
    rw [markDeepSlash, if_neg (by simp [hc']), markDeepSlash_star_cons hc]

/-- Without three stars in a row it makes no difference that `**/` is looked for first. -/
theorem ofChars_eq_readChars (h : NoTripleStar cs) : ofChars cs = readChars cs := by
  unfold ofChars
  fun_induction readChars cs with
  | case1 => rfl
  | case2 cs ih =>
    show deepSlash :: ofMarked (markDeepSlash cs) = _
    rw [ih (h.of_suffix ⟨['*', '*', '/'], rfl⟩)]
  | case3 cs hslash ih =>
    have hhead : cs.head? ≠ some '/' := by
      intro hhead
      obtain ⟨rest, rfl⟩ := List.head?_eq_some_iff.1 hhead
      exact hslash rest rfl
    rw [markDeepSlash_stars h hhead, ofMarked, ih (h.of_suffix ⟨['*', '*'], rfl⟩)]
  | case4 cs _ hstar ih =>
    have hih := ih (h.of_suffix ⟨['*'], rfl⟩)
    cases cs with
    | nil => rfl
    | cons d cs =>
      have hd : d ≠ '*' := fun e => hstar cs (by rw [e])
      rw [markDeepSlash_star_cons hd, ← hih, markDeepSlash_cons hd, ofMarked]
      exact fun _ e => hd (Option.some.inj (List.cons.inj e).1)
  | case5 cs ih =>
    rw [markDeepSlash_cons (by decide), ofMarked, ih (h.of_suffix ⟨['?'], rfl⟩)]
  | case6 c cs _ _ hstar hone ih =>
    rw [markDeepSlash_cons hstar, ofMarked, ih (h.of_suffix ⟨[c], rfl⟩)]
    · exact fun _ _ e => hstar e
    · exact hstar
    · exact hone

/-! ## Languages -/

/-- The texts that a token stands for. -/
def language : GlobToken → Language Char
  | lit c => {[c]}
  | one => {s | ∃ c, c ≠ '/' ∧ s = [c]}
  | run => {s | '/' ∉ s}
  | deep => Set.univ
  | deepSlash => {s | s = [] ∨ s.getLast? = some '/'}

theorem mem_language_lit : s ∈ (lit c).language ↔ s = [c] := Iff.rfl

theorem mem_language_one : s ∈ one.language ↔ ∃ c, c ≠ '/' ∧ s = [c] := Iff.rfl

theorem mem_language_run : s ∈ run.language ↔ '/' ∉ s := Iff.rfl

theorem mem_language_deep : s ∈ deep.language := Set.mem_univ s

theorem mem_language_deepSlash :
    s ∈ deepSlash.language ↔ s = [] ∨ s.getLast? = some '/' := Iff.rfl

/-- The texts that can be cut into pieces of the tokens. -/
def languageOf (ts : List GlobToken) : Language Char := (ts.map language).prod

theorem mem_languageOf_nil : s ∈ languageOf [] ↔ s = [] := Language.mem_one s

theorem mem_languageOf_cons {ts : List GlobToken} :
    s ∈ languageOf (t :: ts) ↔
      ∃ front ∈ t.language, ∃ rest ∈ languageOf ts, front ++ rest = s := by
  unfold languageOf
  rw [List.map_cons, List.prod_cons, Language.mem_mul]

end GlobToken

namespace Glob

variable {ts : List GlobToken} {s : List Char} {k : List Char → Bool}

theorem someAfterSlash_iff : someAfterSlash k s = true ↔
    ∃ front rest, s = front ++ '/' :: rest ∧ '\n' ∉ front ∧ k rest = true := by
  induction s with
  | nil =>
    constructor
    · intro hk
      cases hk
    · rintro ⟨front, rest, heq, -⟩
      simp at heq
  | cons c s ih =>
    rw [someAfterSlash, Bool.or_eq_true, Bool.and_eq_true, Bool.and_eq_true, beq_iff_eq,
      bne_iff_ne, ih]
    constructor
    · rintro (⟨rfl, hk⟩ | ⟨hc, front, rest, rfl, hfront, hk⟩)
      · exact ⟨[], s, rfl, List.not_mem_nil, hk⟩
      · refine ⟨c :: front, rest, rfl, ?_, hk⟩
        rw [List.mem_cons, not_or]
        exact ⟨hc.symm, hfront⟩
    · rintro ⟨front, rest, heq, hfront, hk⟩
      cases front with
      | nil =>
        obtain ⟨rfl, rfl⟩ := List.cons.inj heq
        exact .inl ⟨rfl, hk⟩
      | cons d front =>
        obtain ⟨rfl, rfl⟩ := List.cons.inj heq
        rw [List.mem_cons, not_or] at hfront
        exact .inr ⟨Ne.symm hfront.1, front, rest, rfl, hfront.2, hk⟩

/-- A text on one line fits the tokens when it is in their language. The induction is on the tokens,
with the text cut behind what the first of them takes. -/
theorem matchTokens_iff (h : '\n' ∉ s) :
    matchTokens ts s = true ↔ s ∈ GlobToken.languageOf ts := by
  induction ts generalizing s with
  | nil => rw [matchTokens, List.isEmpty_iff, GlobToken.mem_languageOf_nil]
  | cons t ts ih =>
    have hrest : ∀ {f rest}, s = f ++ rest →
        (matchTokens ts rest = true ↔ rest ∈ GlobToken.languageOf ts) := fun heq =>
      ih fun hfeed => h (heq ▸ List.mem_append_right _ hfeed)
    rw [GlobToken.mem_languageOf_cons]
    cases t with
    | lit c =>
      constructor
      · intro hmatch
        cases s with
        | nil => cases hmatch
        | cons d s =>
          rw [matchTokens, Bool.and_eq_true, beq_iff_eq] at hmatch
          obtain ⟨rfl, hmatch⟩ := hmatch
          exact ⟨[c], GlobToken.mem_language_lit.2 rfl, s, (hrest (f := [c]) rfl).1 hmatch, rfl⟩
      · rintro ⟨front, hfront, rest, hmem, rfl⟩
        obtain rfl := GlobToken.mem_language_lit.1 hfront
        show (c == c && matchTokens ts rest) = true
        rw [beq_self_eq_true, Bool.true_and]
        exact (hrest rfl).2 hmem
    | one =>
      constructor
      · intro hmatch
        cases s with
        | nil => cases hmatch
        | cons d s =>
          rw [matchTokens, Bool.and_eq_true, bne_iff_ne] at hmatch
          exact ⟨[d], GlobToken.mem_language_one.2 ⟨d, hmatch.1, rfl⟩, s,
            (hrest (f := [d]) rfl).1 hmatch.2, rfl⟩
      · rintro ⟨front, hfront, rest, hmem, rfl⟩
        obtain ⟨d, hd, rfl⟩ := GlobToken.mem_language_one.1 hfront
        show (d != '/' && matchTokens ts rest) = true
        rw [bne_iff_ne.2 hd, Bool.true_and]
        exact (hrest rfl).2 hmem
    | run =>
      rw [matchTokens, someRest_iff]
      constructor
      · rintro ⟨front, rest, heq, hfront, hmatch⟩
        refine ⟨front, GlobToken.mem_language_run.2 fun hslash => ?_, rest, (hrest heq).1 hmatch,
          heq.symm⟩
        exact absurd (hfront _ hslash) (by decide)
      · rintro ⟨front, hfront, rest, hmem, heq⟩
        refine ⟨front, rest, heq.symm, fun c hc => bne_iff_ne.2 ?_, (hrest heq.symm).2 hmem⟩
        rintro rfl
        exact GlobToken.mem_language_run.1 hfront hc
    | deep =>
      rw [matchTokens, someRest_iff]
      constructor
      · rintro ⟨front, rest, heq, -, hmatch⟩
        exact ⟨front, GlobToken.mem_language_deep, rest, (hrest heq).1 hmatch, heq.symm⟩
      · rintro ⟨front, -, rest, hmem, heq⟩
        refine ⟨front, rest, heq.symm, fun c hc => bne_iff_ne.2 ?_, (hrest heq.symm).2 hmem⟩
        rintro rfl
        exact h (heq ▸ List.mem_append_left _ hc)
    | deepSlash =>
      rw [matchTokens, Bool.or_eq_true, someAfterSlash_iff]
      constructor
      · rintro (hmatch | ⟨front, rest, heq, -, hmatch⟩)
        · exact ⟨[], GlobToken.mem_language_deepSlash.2 (.inl rfl), s,
            (hrest (f := []) rfl).1 hmatch, rfl⟩
        · have hcut : s = (front ++ ['/']) ++ rest := by rw [heq, List.append_cons]
          exact ⟨front ++ ['/'], GlobToken.mem_language_deepSlash.2 (.inr List.getLast?_concat),
            rest, (hrest hcut).1 hmatch, hcut.symm⟩
      · rintro ⟨front, hfront, rest, hmem, heq⟩
        have hmatch := (hrest heq.symm).2 hmem
        rcases GlobToken.mem_language_deepSlash.1 hfront with rfl | hlast
        · exact .inl (heq ▸ hmatch)
        · obtain ⟨front, rfl⟩ := List.getLast?_eq_some_iff.1 hlast
          have hcut : s = front ++ '/' :: rest := by
            rw [← heq, List.append_assoc, List.singleton_append]
          refine .inr ⟨front, rest, hcut, fun hfeed => ?_, hmatch⟩
          exact h (hcut ▸ List.mem_append_left _ hfeed)

/-- A path on one line has the form of a pattern without three stars in a row exactly when, with
backslashes as slashes, it can be cut into pieces of the tokens that the pattern reads as from left
to right. -/
theorem isMatch_iff_mem {pattern path : String} (hstars : GlobToken.NoTripleStar pattern.toList)
    (hpath : '\n' ∉ path.toList) : (ofString pattern).isMatch path = true ↔
      pathChars path ∈ GlobToken.languageOf (GlobToken.readChars pattern.toList) := by
  have hline : '\n' ∉ pathChars path := by
    intro hfeed
    obtain ⟨c, hc, heq⟩ := List.mem_map.1 hfeed
    split at heq
    · cases heq
    · exact hpath (heq ▸ hc)
  rw [isMatch_eq, matchTokens_iff hline, ofString, GlobToken.ofChars_eq_readChars hstars]

/-! ## Slashes -/

/-- A text has the slashes of the tokens that it fits, where none of them fits any number. -/
theorem count_slash_of_matchTokens (hts : ∀ t ∈ ts, t ≠ .deep ∧ t ≠ .deepSlash)
    (h : matchTokens ts s = true) : s.count '/' = ts.count (.lit '/') := by
  induction ts generalizing s with
  | nil =>
    rw [matchTokens, List.isEmpty_iff] at h
    rw [h]
    rfl
  | cons t ts ih =>
    obtain ⟨ht, hmore⟩ := List.forall_mem_cons.1 hts
    have hrest : ∀ {rest}, matchTokens ts rest = true → rest.count '/' = ts.count (.lit '/') :=
      fun hmatch => ih hmore hmatch
    cases t with
    | lit c =>
      cases s with
      | nil => cases h
      | cons d s =>
        rw [matchTokens, Bool.and_eq_true, beq_iff_eq] at h
        obtain ⟨rfl, h⟩ := h
        rw [List.count_cons, List.count_cons, hrest h]
        congr 1
        by_cases hc : c = '/' <;> simp [hc]
    | one =>
      cases s with
      | nil => cases h
      | cons d s =>
        rw [matchTokens, Bool.and_eq_true, bne_iff_ne] at h
        rw [List.count_cons_of_ne h.1, List.count_cons_of_ne (by decide), hrest h.2]
    | run =>
      obtain ⟨front, rest, rfl, hfront, hmatch⟩ := someRest_iff.1 h
      have hzero : front.count '/' = 0 := List.count_eq_zero.2 fun hslash =>
        absurd (hfront _ hslash) (by decide)
      rw [List.count_append, hzero, Nat.zero_add, hrest hmatch,
        List.count_cons_of_ne (by decide)]
    | deep => exact absurd rfl ht.1
    | deepSlash => exact absurd rfl ht.2

end Glob

namespace GlobToken

/-- A pattern text without two stars in a row. -/
def NoDoubleStar (cs : List Char) : Prop := ¬ ['*', '*'] <:+: cs

theorem NoDoubleStar.noTripleStar {cs : List Char} (h : NoDoubleStar cs) : NoTripleStar cs :=
  fun hstars => h (List.IsInfix.trans ⟨[], ['*'], rfl⟩ hstars)

/-- The tokens of such a text are one for each character. -/
theorem NoDoubleStar.readChars_cons {c : Char} {cs : List Char} (h : NoDoubleStar (c :: cs)) :
    ∃ t, readChars (c :: cs) = t :: readChars cs ∧ t ≠ deep ∧ t ≠ deepSlash ∧
      (t = lit '/' ↔ c = '/') := by
  by_cases hstar : c = '*'
  · subst hstar
    refine ⟨run, ?_, by decide, by decide, by decide⟩
    cases cs with
    | nil => rfl
    | cons d cs =>
      have hd : d ≠ '*' := by
        rintro rfl
        exact h ⟨[], cs, rfl⟩
      rw [readChars]
      · exact fun _ e => hd (List.cons.inj e).1
      · exact fun _ e => hd (List.cons.inj e).1
  · by_cases hone : c = '?'
    · subst hone
      exact ⟨one, rfl, by decide, by decide, by decide⟩
    · refine ⟨lit c, ?_, by simp, by simp, by simp⟩
      rw [readChars]
      · exact fun _ e => absurd e hstar
      · exact fun _ e => absurd e hstar
      · exact hstar
      · exact hone

theorem NoDoubleStar.readChars {cs : List Char} (h : NoDoubleStar cs) :
    (∀ t ∈ readChars cs, t ≠ deep ∧ t ≠ deepSlash) ∧
      (GlobToken.readChars cs).count (lit '/') = cs.count '/' := by
  induction cs with
  | nil => exact ⟨fun _ ht => absurd ht List.not_mem_nil, rfl⟩
  | cons c cs ih =>
    obtain ⟨t, hread, hdeep, hdeepSlash, hslash⟩ := h.readChars_cons
    obtain ⟨hmore, hcount⟩ := ih fun hin => h (hin.trans (List.suffix_cons c cs).isInfix)
    rw [hread]
    refine ⟨List.forall_mem_cons.2 ⟨⟨hdeep, hdeepSlash⟩, hmore⟩, ?_⟩
    rw [List.count_cons, List.count_cons, hcount]
    simp only [beq_iff_eq, hslash]

end GlobToken

/-- A path that has the form of a pattern without two stars in a row has as many slashes, its
backslashes among them, as the pattern. -/
theorem Glob.count_slash_of_isMatch {pattern path : String}
    (h : GlobToken.NoDoubleStar pattern.toList) (hmatch : (ofString pattern).isMatch path = true) :
    (pathChars path).count '/' = pattern.toList.count '/' := by
  obtain ⟨hdeep, hcount⟩ := h.readChars
  rw [isMatch_eq, ofString, GlobToken.ofChars_eq_readChars h.noTripleStar] at hmatch
  rw [count_slash_of_matchTokens hdeep hmatch, hcount]

end ContextCompiler
