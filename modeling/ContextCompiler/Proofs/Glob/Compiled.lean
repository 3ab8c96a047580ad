import ContextCompiler.Proofs.Glob.Language
import ContextCompiler.Proofs.Regex.Ends
import ContextCompiler.Proofs.Regex.Reading

/-!
The regular expression of a pattern finds the paths of the pattern.

The expression is read token by token. What it finds in a text is then seen from the relation
between the spots that its parts match between, where only the text that is left behind a part
counts for the parts after it.
-/

namespace ContextCompiler

open Glob

namespace GlobToken

variable {t : GlobToken} {ts : List GlobToken} {w : Regex.Reading} {n : Nat} {s : List Char}

/-! ## Reading -/

/-- The expression of a token. -/
def regex : GlobToken → Regex
  | lit c => .one (.single c)
  | one => .one (.compl (.single '/'))
  | run => .many (.one (.compl (.single '/')))
  | deep => .many (.one (.compl (.single '\n')))
  | deepSlash => .maybe (.seq (.many (.one (.compl (.single '\n')))) (.one (.single '/')))

/-- The expression of tokens for a whole text. -/
def regexOf (ts : List GlobToken) : Regex :=
  Regex.seqs (.anchor .textStart :: (ts.map regex ++ [.anchor .textEnd]))

theorem readUntilClose?_group (hw : w.flags = .start) (hs : s.head? ≠ some '?') (n : Nat) :
    Regex.readUntilClose? (n + 5) 0 w (fragment deepSlash ++ s) =
      Regex.readUntilClose? (n + 3) 0 (w.add deepSlash.regex) s := by
  have hescaped : escaped '/' = ['/'] := by decide
  have hinside : Regex.readUntilClose? (n + 4) 1 (w.inner .start)
      ('.' :: '*' :: (escaped '/' ++ ')' :: '?' :: s)) =
      some (((w.inner .start).add deep.regex).add (.one (.single '/')), ')' :: '?' :: s) := by
    rw [Regex.readUntilClose?_dot rfl, Regex.readUntilClose?_star rfl (by simp [hescaped]),
      Regex.readUntilClose?_escaped rfl, Regex.readUntilClose?_close rfl]
    rfl
  rw [hescaped] at hinside
  have hopen := Regex.readUntilClose?_open hw (Nat.zero_le _) hinside
  refine hopen.trans ?_
  exact Regex.readUntilClose?_maybe hw hs

/-- A token is read in a few steps. -/
theorem readUntilClose?_fragment (t : GlobToken) (hw : w.flags = .start)
    (hs : s.head? ≠ some '?') (hn : (fragment t).length + s.length < n) : ∃ k, s.length < k ∧
      Regex.readUntilClose? n 0 w (fragment t ++ s) =
        Regex.readUntilClose? k 0 (w.add t.regex) s := by
  cases t with
  | lit c =>
    have hlength := List.length_pos_iff.2 (fragment_ne_nil (lit c))
    obtain ⟨k, rfl⟩ : ∃ k, n = k + 1 := ⟨n - 1, by omega⟩
    exact ⟨k, by omega, Regex.readUntilClose?_escaped hw⟩
  | one =>
    have hlength : (fragment one).length = 4 := rfl
    obtain ⟨k, rfl⟩ : ∃ k, n = k + 1 := ⟨n - 1, by omega⟩
    exact ⟨k, by omega, Regex.readUntilClose?_set hw⟩
  | run =>
    have hlength : (fragment run).length = 5 := rfl
    obtain ⟨k, rfl⟩ : ∃ k, n = k + 2 := ⟨n - 2, by omega⟩
    exact ⟨k, by omega, (Regex.readUntilClose?_set hw).trans (Regex.readUntilClose?_star hw hs)⟩
  | deep =>
    have hlength : (fragment deep).length = 2 := rfl
    obtain ⟨k, rfl⟩ : ∃ k, n = k + 2 := ⟨n - 2, by omega⟩
    exact ⟨k, by omega, (Regex.readUntilClose?_dot hw).trans (Regex.readUntilClose?_star hw hs)⟩
  | deepSlash =>
    have hlength : (fragment deepSlash).length = 8 := rfl
    obtain ⟨k, rfl⟩ : ∃ k, n = k + 5 := ⟨n - 5, by omega⟩
    exact ⟨k + 3, by omega, readUntilClose?_group hw hs k⟩

/-- No fragment asks for as little as possible of the one before it. -/
theorem head?_flatMap_fragment (ts : List GlobToken) :
    (ts.flatMap fragment ++ ['$']).head? ≠ some '?' := by
  intro h
  cases hts : ts.flatMap fragment with
  | nil =>
    rw [hts] at h
    cases h
  | cons c cs =>
    rw [hts] at h
    have hmark : '?' ∈ ['*', '?'] := by decide
    refine @not_prefix_flatMap '?' ts hmark ?_
    rw [hts, ← Option.some.inj h]
    exact ⟨cs, rfl⟩

/-- Tokens are read one after the other, up to the end. -/
theorem readUntilClose?_fragments (ts : List GlobToken) (hw : w.flags = .start)
    (hn : (ts.flatMap fragment ++ ['$']).length < n) : ∃ w' : Regex.Reading,
      Regex.readUntilClose? n 0 w (ts.flatMap fragment ++ ['$']) = some (w', []) ∧
        w'.branches = w.branches ∧
        w'.parts = .anchor .textEnd :: (ts.map regex).reverse ++ w.parts := by
  induction ts generalizing w n with
  | nil =>
    obtain ⟨k, rfl⟩ : ∃ k, n = k + 2 := ⟨n - 2, by simp at hn; omega⟩
    exact ⟨w.add (.anchor .textEnd),
      (Regex.readUntilClose?_dollar hw).trans (Regex.readUntilClose?_nil hw), rfl, rfl⟩
  | cons t ts ih =>
    have hlength : (fragment t).length + (ts.flatMap fragment ++ ['$']).length < n := by
      simpa [Nat.add_assoc] using hn
    obtain ⟨k, hk, hread⟩ := readUntilClose?_fragment t hw (head?_flatMap_fragment ts) hlength
    obtain ⟨w', hread', hbranches, hparts⟩ := ih (w := w.add t.regex) hw hk
    refine ⟨w', ?_, hbranches, ?_⟩
    · rw [List.flatMap_cons, List.append_assoc, hread, hread']
    · rw [hparts]
      simp [Regex.Reading.add]

end GlobToken

open GlobToken

/-- The expression of a pattern is read as that of its tokens. -/
theorem Glob.read?_expression (pattern : String) :
    Regex.read? (expression pattern) = some (regexOf (ofString pattern).tokens) := by
  rw [expression_eq, Regex.read?, String.toList_ofList]
  obtain ⟨n, hn⟩ : ∃ n, n + 1 = 2 * ('^' :: ((ofString pattern).tokens.flatMap fragment ++
    ['$'])).length + 2 := ⟨_, rfl⟩
  rw [← hn, Regex.readUntilClose?_caret rfl]
  obtain ⟨w', hread, hbranches, hparts⟩ := readUntilClose?_fragments (n := n)
    (w := Regex.Reading.add ⟨.start, 0, [], [], [], false⟩ (.anchor .textStart))
    (ofString pattern).tokens rfl (by simp only [List.length_cons] at hn; omega)
  rw [hread]
  simp [Regex.Reading.whole, Regex.Reading.branch, hbranches, hparts, Regex.Reading.add,
    Regex.alts, regexOf]

/-! ## Matching -/

namespace CharSet

variable {c d : Char}

theorem has_single : (single c).has d = (d == c) := by
  rw [Bool.eq_iff_iff, beq_iff_eq]
  show (decide (c ≤ d) && decide (d ≤ c)) = true ↔ d = c
  rw [Bool.and_eq_true, decide_eq_true_eq, decide_eq_true_eq]
  exact ⟨fun h => Char.le_antisymm h.2 h.1, fun h => h ▸ ⟨Char.le_refl _, Char.le_refl _⟩⟩

theorem has_compl_single : (compl (single c)).has d = (d != c) :=
  congrArg not has_single

end CharSet

namespace GlobToken

variable {p : Spot}

/-- Behind a token of a pattern that part of a text is left that the other tokens are matched
with. -/
theorem exists_moves_regex (t : GlobToken) (ts : List GlobToken) :
    (∃ q, t.regex.Moves p q ∧ matchTokens ts q.rest = true) ↔
      matchTokens (t :: ts) p.rest = true := by
  cases t with
  | lit c =>
    refine (Regex.exists_moves_one (K := (matchTokens ts · = true))).trans ?_
    simp only [CharSet.has_single]
    cases p.rest with
    | nil => simp [matchTokens]
    | cons d s =>
      show _ ↔ (c == d && matchTokens ts s) = true
      rw [Bool.and_eq_true, beq_iff_eq]
      constructor
      · rintro ⟨_, _, heq, hc, h⟩
        cases heq
        exact ⟨(beq_iff_eq.1 hc).symm, h⟩
      · rintro ⟨rfl, h⟩
        exact ⟨c, s, rfl, beq_self_eq_true c, h⟩
  | one =>
    refine (Regex.exists_moves_one (K := (matchTokens ts · = true))).trans ?_
    simp only [CharSet.has_compl_single]
    cases p.rest with
    | nil => simp [matchTokens]
    | cons d s => simp [matchTokens]
  | run =>
    refine (Regex.exists_moves_many (K := (matchTokens ts · = true))).trans ?_
    simp only [CharSet.has_compl_single]
    rw [matchTokens, someRest_iff]
  | deep =>
    refine (Regex.exists_moves_many (K := (matchTokens ts · = true))).trans ?_
    simp only [CharSet.has_compl_single]
    rw [matchTokens, someRest_iff]
  | deepSlash =>
    refine (Regex.exists_moves_maybe (K := (matchTokens ts · = true))).trans ?_
    rw [matchTokens, Bool.or_eq_true, someAfterSlash_iff]
    refine or_congr_right ?_
    refine (Regex.exists_moves_seq (K := (matchTokens ts · = true))).trans ?_
    simp only [Regex.exists_moves_one (K := (matchTokens ts · = true)), CharSet.has_single]
    refine (Regex.exists_moves_many (K := fun s =>
      ∃ c s', s = c :: s' ∧ (c == '/') = true ∧ matchTokens ts s' = true)).trans ?_
    simp only [CharSet.has_compl_single]
    constructor
    · rintro ⟨front, _, hrest, hfront, c, rest, rfl, hc, h⟩
      refine ⟨front, rest, by rw [hrest, beq_iff_eq.1 hc], fun hfeed => ?_, h⟩
      exact absurd (hfront _ hfeed) (by decide)
    · rintro ⟨front, rest, hrest, hfront, h⟩
      refine ⟨front, '/' :: rest, hrest, fun c hc => bne_iff_ne.2 ?_, '/', rest, rfl, rfl, h⟩
      rintro rfl
      exact hfront hc

theorem exists_moves_tokens (ts : List GlobToken) :
    (∃ q, (Regex.seqs (ts.map regex ++ [.anchor .textEnd])).Moves p q) ↔
      matchTokens ts p.rest = true := by
  induction ts generalizing p with
  | nil =>
    show (∃ q, p.satisfies .textEnd = true ∧ q = p) ↔ p.rest.isEmpty = true
    rw [exists_and_left]
    cases hrest : p.rest with
    | nil => simp [Spot.satisfies, hrest]
    | cons c s => simp [Spot.satisfies, hrest]
  | cons t ts ih =>
    have hne : ts.map regex ++ [.anchor .textEnd] ≠ [] := by simp
    obtain ⟨r, rs, hrs⟩ := List.exists_cons_of_ne_nil hne
    rw [hrs] at ih
    rw [List.map_cons, List.cons_append, hrs, ← exists_moves_regex]
    simp only [← ih]
    show (∃ q m, t.regex.Moves p m ∧ (Regex.seqs (r :: rs)).Moves m q) ↔ _
    constructor
    · rintro ⟨q, m, hm, hq⟩
      exact ⟨m, hm, q, hq⟩
    · rintro ⟨m, hm, q, hq⟩
      exact ⟨q, m, hm, hq⟩

/-- Tokens are matched with a whole text just where their expression is found in it. -/
theorem isSome_findFrom_regexOf (ts : List GlobToken) (s : List Char) :
    ((regexOf ts).findFrom 0 none s).isSome = matchTokens ts s := by
  rw [Bool.eq_iff_iff, Regex.isSome_findFrom]
  refine Iff.trans ?_ (exists_moves_tokens (p := Spot.start s) ts)
  have hne : ts.map regex ++ [.anchor .textEnd] ≠ [] := by simp
  obtain ⟨r, rs, hrs⟩ := List.exists_cons_of_ne_nil hne
  rw [regexOf, hrs]
  constructor
  · rintro ⟨p, q, hahead, m, ⟨hstart, rfl⟩, hq⟩
    -- the start of the text is the one spot with nothing before it
    obtain ⟨front, rest, rfl, rfl⟩ := hahead
    cases front with
    | nil => exact ⟨q, hq⟩
    | cons c front => simp [Spot.satisfies] at hstart
  · rintro ⟨q, hq⟩
    exact ⟨Spot.start s, q, Spot.ahead_bare _, Spot.start s, ⟨rfl, rfl⟩, hq⟩

end GlobToken

namespace Glob

/-- The expression of a pattern is found in the paths that have its form. -/
theorem exists_read?_expression (pattern path : String) :
    ∃ r, Regex.read? (expression pattern) = some r ∧
      (r.findFrom 0 none (pathChars path)).isSome = (ofString pattern).isMatch path := by
  refine ⟨_, read?_expression pattern, ?_⟩
  rw [GlobToken.isSome_findFrom_regexOf, isMatch_eq]

/-- A path on one line has the form of a pattern without three stars in a row exactly when, with
backslashes as slashes, it can be cut into pieces of the tokens that the pattern reads as from left
to right; and that is so exactly when the expression that the pattern is written out as is found in
it. -/
theorem isMatch_iff_mem_languageOf {pattern path : String}
    (hstars : GlobToken.NoTripleStar pattern.toList) (hpath : '\n' ∉ path.toList) :
    ((ofString pattern).isMatch path = true ↔
      pathChars path ∈ GlobToken.languageOf (GlobToken.readChars pattern.toList)) ∧
    ∃ r, Regex.read? (expression pattern) = some r ∧
      ((r.findFrom 0 none (pathChars path)).isSome = true ↔
        pathChars path ∈ GlobToken.languageOf (GlobToken.readChars pattern.toList)) := by
  have hmatch := isMatch_iff_mem hstars hpath
  obtain ⟨r, hread, hfound⟩ := exists_read?_expression pattern path
  exact ⟨hmatch, r, hread, by rw [hfound, hmatch]⟩

/-- A pattern of all kinds of tokens among signs, and a path with backslashes. -/
theorem mem_languageOf_of_isMatch :
    GlobToken.NoTripleStar "(a+b)/**/v?.*".toList ∧ '\n' ∉ "(a+b)\\x\\v1.md".toList ∧
      (ofString "(a+b)/**/v?.*").isMatch "(a+b)\\x\\v1.md" = true ∧
      pathChars "(a+b)\\x\\v1.md" ∈
        GlobToken.languageOf (GlobToken.readChars "(a+b)/**/v?.*".toList) ∧
      ∃ r, Regex.read? (expression "(a+b)/**/v?.*") = some r ∧
        (r.findFrom 0 none (pathChars "(a+b)\\x\\v1.md")).isSome = true := by
  have hmatch : (ofString "(a+b)/**/v?.*").isMatch "(a+b)\\x\\v1.md" = true := by decide
  obtain ⟨hiff, r, hread, hfound⟩ := @isMatch_iff_mem_languageOf "(a+b)/**/v?.*"
    "(a+b)\\x\\v1.md" (by decide) (by decide)
  have hmem := hiff.1 hmatch
  exact ⟨by decide, by decide, hmatch, hmem, r, hread, hfound.2 hmem⟩

end Glob

end ContextCompiler
