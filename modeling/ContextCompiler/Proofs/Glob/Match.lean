import ContextCompiler.Glob.Pattern

/-!
What the tokens of a pattern fit.

Without stars a pattern fits texts of its own length only. A pattern whose tokens keep to one
segment fits no text with a slash.
-/

namespace ContextCompiler

namespace GlobToken

/-- The token of a character that is no star. -/
def plain (c : Char) : GlobToken := if c = '?' then one else lit c

/-- Where two stars and a slash never stand together, all characters are left as they are. -/
theorem markDeepSlash_eq_map {cs : List Char} (h : ¬ ['*', '*', '/'] <:+: cs) :
    markDeepSlash cs = cs.map some := by
  fun_induction markDeepSlash cs with
  | case1 => rfl
  | case2 => rfl
  | case3 => rfl
  | case4 a b c s hstars ih =>
    simp only [Bool.and_eq_true, beq_iff_eq] at hstars
    obtain ⟨⟨rfl, rfl⟩, rfl⟩ := hstars
    exact absurd ⟨[], s, rfl⟩ h
  | case5 a b c s _ ih =>
    rw [ih fun hin => h (hin.trans (List.suffix_cons _ _).isInfix)]
    rfl

theorem ofMarked_of_not_mem {cs : List Char} (h : '*' ∉ cs) :
    ofMarked (cs.map some) = cs.map plain := by
  induction cs with
  | nil => rfl
  | cons c cs ih =>
    have hc : c ≠ '*' := fun e => h (e ▸ List.mem_cons_self)
    rw [List.map_cons, List.map_cons, ← ih (List.not_mem_of_not_mem_cons h)]
    by_cases hq : c = '?'
    · subst hq
      rfl
    · rw [plain, if_neg hq, ofMarked]
      · exact fun _ _ e => hc e
      · exact hc
      · exact hq

/-- A pattern without stars has a token for each of its characters. -/
theorem ofChars_of_not_mem {cs : List Char} (h : '*' ∉ cs) : ofChars cs = cs.map plain := by
  rw [ofChars, markDeepSlash_eq_map fun hin => h (hin.subset (by decide)),
    ofMarked_of_not_mem h]

/-- A token that fits no slash. -/
def IsWithin : GlobToken → Prop
  | lit c => c ≠ '/'
  | one => True
  | run => True
  | deep => False
  | deepSlash => False

/-- A pattern text without slashes and pairs of stars. -/
def KeepsToSegment (cs : List Char) : Prop := '/' ∉ cs ∧ ¬ ['*', '*'] <:+: cs

instance {cs : List Char} : Decidable (KeepsToSegment cs) :=
  inferInstanceAs (Decidable (_ ∧ _))

theorem KeepsToSegment.tail {c : Char} {cs : List Char} (h : KeepsToSegment (c :: cs)) :
    KeepsToSegment cs :=
  ⟨List.not_mem_of_not_mem_cons h.1,
    fun hin => h.2 (hin.trans (List.suffix_cons _ _).isInfix)⟩

/-- Such a pattern has no token that fits a slash. -/
theorem KeepsToSegment.isWithin {cs : List Char} {t : GlobToken} (hkeeps : KeepsToSegment cs)
    (h : t ∈ ofChars cs) : t.IsWithin := by
  rw [ofChars, markDeepSlash_eq_map fun hin => hkeeps.1 (hin.subset (by decide))] at h
  generalize hms : cs.map some = ms at h
  fun_induction ofMarked ms generalizing cs with
  | case1 => cases h
  | case2 ms =>
    obtain ⟨c, cs, rfl, hc, -⟩ := List.map_eq_cons_iff.1 hms
    cases hc
  | case3 ms =>
    obtain ⟨c, cs, rfl, hc, hmore⟩ := List.map_eq_cons_iff.1 hms
    obtain ⟨d, cs, rfl, hd, -⟩ := List.map_eq_cons_iff.1 hmore
    cases hc
    cases hd
    exact absurd ⟨[], cs, rfl⟩ hkeeps.2
  | case4 ms _ ih =>
    obtain ⟨c, cs, rfl, -, hmore⟩ := List.map_eq_cons_iff.1 hms
    rcases List.mem_cons.1 h with rfl | h
    · trivial
    · exact ih hkeeps.tail hmore h
  | case5 ms ih =>
    obtain ⟨c, cs, rfl, -, hmore⟩ := List.map_eq_cons_iff.1 hms
    rcases List.mem_cons.1 h with rfl | h
    · trivial
    · exact ih hkeeps.tail hmore h
  | case6 d ms _ _ _ ih =>
    obtain ⟨c, cs, rfl, hc, hmore⟩ := List.map_eq_cons_iff.1 hms
    rcases List.mem_cons.1 h with rfl | h
    · exact fun hd => hkeeps.1 (Option.some.inj hc ▸ hd ▸ List.mem_cons_self)
    · exact ih hkeeps.tail hmore h

end GlobToken

namespace Glob

variable {ts : List GlobToken} {cs s : List Char} {p : Char → Bool} {k : List Char → Bool}

theorem someRest_iff : someRest p k s = true ↔
    ∃ front rest, s = front ++ rest ∧ (∀ c ∈ front, p c = true) ∧ k rest = true := by
  induction s with
  | nil =>
    refine ⟨fun h => ⟨[], [], rfl, by simp, h⟩, ?_⟩
    rintro ⟨front, rest, h, -, hk⟩
    rw [(List.append_eq_nil_iff.1 h.symm).2] at hk
    exact hk
  | cons c s ih =>
    rw [someRest, Bool.or_eq_true, Bool.and_eq_true, ih]
    constructor
    · rintro (hk | ⟨hc, front, rest, rfl, hfront, hk⟩)
      · exact ⟨[], c :: s, rfl, by simp, hk⟩
      · exact ⟨c :: front, rest, rfl, by simpa using ⟨hc, hfront⟩, hk⟩
    · rintro ⟨front, rest, h, hfront, hk⟩
      cases front with
      | nil => exact .inl (h ▸ hk)
      | cons d front =>
        obtain ⟨rfl, rfl⟩ := List.cons.inj h
        exact .inr ⟨hfront c List.mem_cons_self, front, rest, rfl,
          fun d hd => hfront d (List.mem_cons_of_mem _ hd), hk⟩

/-- A pattern without stars fits texts of its length. -/
theorem length_of_matchTokens_plain (h : matchTokens (cs.map GlobToken.plain) s = true) :
    s.length = cs.length := by
  induction cs generalizing s with
  | nil =>
    rw [List.map_nil, matchTokens, List.isEmpty_iff] at h
    rw [h]
  | cons c cs ih =>
    cases s with
    | nil =>
      rw [List.map_cons, GlobToken.plain] at h
      split at h <;> cases h
    | cons d s =>
      have hrest : matchTokens (cs.map GlobToken.plain) s = true := by
        rw [List.map_cons, GlobToken.plain] at h
        split at h <;> exact (Bool.and_eq_true_iff.1 h).2
      rw [List.length_cons, List.length_cons, ih hrest]

/-- A pattern that keeps to one segment fits nothing with a slash. -/
theorem not_mem_of_matchTokens (hts : ∀ t ∈ ts, t.IsWithin) (h : matchTokens ts s = true) :
    '/' ∉ s := by
  induction ts generalizing s with
  | nil =>
    rw [matchTokens, List.isEmpty_iff] at h
    rw [h]
    exact List.not_mem_nil
  | cons t ts ih =>
    have hrest := fun {s} => ih (s := s) fun t ht => hts t (List.mem_cons_of_mem _ ht)
    have ht := hts t List.mem_cons_self
    cases t with
    | lit c =>
      cases s with
      | nil => exact List.not_mem_nil
      | cons d s =>
        rw [matchTokens, Bool.and_eq_true, beq_iff_eq] at h
        rw [List.mem_cons, not_or]
        exact ⟨h.1 ▸ Ne.symm ht, hrest h.2⟩
    | one =>
      cases s with
      | nil => exact List.not_mem_nil
      | cons d s =>
        rw [matchTokens, Bool.and_eq_true, bne_iff_ne] at h
        rw [List.mem_cons, not_or]
        exact ⟨Ne.symm h.1, hrest h.2⟩
    | run =>
      obtain ⟨front, rest, rfl, hfront, hk⟩ := someRest_iff.1 h
      rw [List.mem_append, not_or]
      exact ⟨fun hslash => absurd (hfront _ hslash) (by decide), hrest hk⟩
    | deep => exact ht.elim
    | deepSlash => exact ht.elim

end Glob

end ContextCompiler
