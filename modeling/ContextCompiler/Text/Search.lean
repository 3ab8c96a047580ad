/-!
Finding, splitting and replacing parts of a text.

All functions work on lists of characters and take the leftmost match; matches of a
replacement do not overlap.
-/

namespace ContextCompiler.Text

/-- The rest of `s` after the prefix `p`, when `s` starts with `p`. -/
def dropPrefix? : List Char → List Char → Option (List Char)
  | [], s => some s
  | _ :: _, [] => none
  | c :: p, d :: s => if c == d then dropPrefix? p s else none

theorem dropPrefix?_eq_some_iff {p s r : List Char} : dropPrefix? p s = some r ↔ s = p ++ r := by
  induction p generalizing s with
  | nil => simp [dropPrefix?]
  | cons c p ih =>
    cases s with
    | nil => simp [dropPrefix?]
    | cons d s =>
      by_cases h : c = d
      · subst h; simp [dropPrefix?, ih]
      · have h' : ¬ d = c := fun e => h e.symm
        simp [dropPrefix?, h, h']

/-- The rest of `s` before the suffix `p`, when `s` ends with `p`. -/
def dropSuffix? (p s : List Char) : Option (List Char) :=
  (dropPrefix? p.reverse s.reverse).map List.reverse

/-- Whether `p` occurs in `s`. -/
def occursIn (p : List Char) : List Char → Bool
  | [] => p.isEmpty
  | c :: s => p.isPrefixOf (c :: s) || occursIn p s

/-- The parts before and after the first occurrence of `p`. -/
def splitFirst (p : List Char) : List Char → Option (List Char × List Char)
  | [] => if p.isEmpty then some ([], []) else none
  | c :: s =>
    match dropPrefix? p (c :: s) with
    | some r => some ([], r)
    | none => (splitFirst p s).map fun (a, b) => (c :: a, b)

/-- The parts before and after the last occurrence of `p`. -/
def splitLast (p s : List Char) : Option (List Char × List Char) :=
  (splitFirst p.reverse s.reverse).map fun (a, b) => (b.reverse, a.reverse)

/-- The pieces of `s` between the separators `c`; always at least one piece. -/
def splitOn (c : Char) : List Char → List (List Char)
  | [] => [[]]
  | d :: s =>
    if d == c then [] :: splitOn c s
    else
      match splitOn c s with
      | [] => [[d]]
      | piece :: rest => (d :: piece) :: rest

/-- Joins pieces by a separator. -/
def joinWith (sep : List Char) : List (List Char) → List Char
  | [] => []
  | [x] => x
  | x :: y :: rest => x ++ sep ++ joinWith sep (y :: rest)

theorem splitOn_ne_nil (c : Char) (s : List Char) : splitOn c s ≠ [] := by
  cases s with
  | nil => simp [splitOn]
  | cons d s =>
    unfold splitOn
    split
    · simp
    · split <;> simp

/-- Splitting loses nothing: the pieces joined by the separator are the text. -/
theorem joinWith_splitOn (c : Char) (s : List Char) : joinWith [c] (splitOn c s) = s := by
  induction s with
  | nil => rfl
  | cons d s ih =>
    by_cases h : d = c
    · subst h
      cases hs : splitOn d s with
      | nil => exact absurd hs (splitOn_ne_nil d s)
      | cons p ps =>
        rw [hs] at ih
        simp [splitOn, hs, joinWith, ih]
    · cases hs : splitOn c s with
      | nil => exact absurd hs (splitOn_ne_nil c s)
      | cons p ps =>
        rw [hs] at ih
        cases ps with
        | nil => simpa [splitOn, hs, h, joinWith] using ih
        | cons q qs => simpa [splitOn, hs, h, joinWith] using ih

theorem mem_joinWith {c : Char} {sep : List Char} {parts : List (List Char)}
    (h : c ∈ joinWith sep parts) : c ∈ sep ∨ ∃ p ∈ parts, c ∈ p := by
  induction parts with
  | nil => exact absurd h List.not_mem_nil
  | cons p rest ih =>
    cases rest with
    | nil => exact .inr ⟨p, List.mem_cons_self, h⟩
    | cons q rest =>
      rcases List.mem_append.1 h with h | h
      · rcases List.mem_append.1 h with h | h
        · exact .inr ⟨p, List.mem_cons_self, h⟩
        · exact .inl h
      · rcases ih h with h | ⟨r, hr, hc⟩
        · exact .inl h
        · exact .inr ⟨r, List.mem_cons_of_mem _ hr, hc⟩

theorem mem_joinWith_of_mem {c : Char} {sep p : List Char} {parts : List (List Char)}
    (hp : p ∈ parts) (hc : c ∈ p) : c ∈ joinWith sep parts := by
  induction parts with
  | nil => exact absurd hp List.not_mem_nil
  | cons q rest ih =>
    cases rest with
    | nil => exact List.mem_singleton.1 hp ▸ hc
    | cons r rest =>
      rcases List.mem_cons.1 hp with rfl | hp
      · exact List.mem_append_left _ (List.mem_append_left _ hc)
      · exact List.mem_append_right _ (ih hp)

theorem mem_of_mem_splitOn {c d : Char} {p s : List Char} (hp : p ∈ splitOn d s) (hc : c ∈ p) :
    c ∈ s := by
  rw [← joinWith_splitOn d s]
  exact mem_joinWith_of_mem hp hc

theorem not_mem_of_mem_splitOn {c : Char} {p s : List Char} (hp : p ∈ splitOn c s) : c ∉ p := by
  induction s generalizing p with
  | nil =>
    rw [List.mem_singleton.1 hp]
    exact List.not_mem_nil
  | cons d s ih =>
    unfold splitOn at hp
    split at hp
    · rcases List.mem_cons.1 hp with rfl | hp
      · exact List.not_mem_nil
      · exact ih hp
    · next hd =>
      have hcd : c ≠ d := fun e => hd (beq_iff_eq.2 e.symm)
      split at hp
      · rw [List.mem_singleton.1 hp, List.mem_singleton]
        exact hcd
      · next piece rest hs =>
        rcases List.mem_cons.1 hp with rfl | hp
        · rw [List.mem_cons, not_or]
          exact ⟨hcd, ih (hs ▸ List.mem_cons_self)⟩
        · exact ih (hs ▸ List.mem_cons_of_mem _ hp)

theorem splitOn_append {c : Char} {p : List Char} (hp : c ∉ p) (s : List Char) :
    splitOn c (p ++ c :: s) = p :: splitOn c s := by
  induction p with
  | nil => simp [splitOn]
  | cons d p ih =>
    rw [List.mem_cons, not_or] at hp
    have hd : (d == c) = false := beq_eq_false_iff_ne.2 (Ne.symm hp.1)
    simp [splitOn, hd, ih hp.2]

theorem splitOn_of_not_mem {c : Char} {s : List Char} (h : c ∉ s) : splitOn c s = [s] := by
  induction s with
  | nil => rfl
  | cons d s ih =>
    rw [List.mem_cons, not_or] at h
    have hd : (d == c) = false := beq_eq_false_iff_ne.2 (Ne.symm h.1)
    simp [splitOn, hd, ih h.2]

/-- Joining loses nothing where no piece holds the separator. -/
theorem splitOn_joinWith {c : Char} {parts : List (List Char)} (hne : parts ≠ [])
    (h : ∀ p ∈ parts, c ∉ p) : splitOn c (joinWith [c] parts) = parts := by
  induction parts with
  | nil => exact absurd rfl hne
  | cons p rest ih =>
    have hp := h p List.mem_cons_self
    cases rest with
    | nil => exact splitOn_of_not_mem hp
    | cons q rest =>
      have hrest := ih (List.cons_ne_nil _ _) fun r hr => h r (List.mem_cons_of_mem _ hr)
      have happend : joinWith [c] (p :: q :: rest) = p ++ c :: joinWith [c] (q :: rest) := by
        simp [joinWith]
      rw [happend, splitOn_append hp, hrest]

theorem splitFirst_eq_some {p s a b : List Char} (h : splitFirst p s = some (a, b)) :
    s = a ++ p ++ b := by
  induction s generalizing a with
  | nil =>
    unfold splitFirst at h
    split at h
    · next hp =>
      cases h
      rw [List.isEmpty_iff.1 hp]
      rfl
    · cases h
  | cons c s ih =>
    unfold splitFirst at h
    split at h
    · next hp =>
      cases h
      exact dropPrefix?_eq_some_iff.1 hp
    · obtain ⟨⟨a', b'⟩, hs, e⟩ := Option.map_eq_some_iff.1 h
      cases e
      rw [ih hs]
      rfl

theorem splitLast_eq_some {p s a b : List Char} (h : splitLast p s = some (a, b)) :
    s = a ++ p ++ b := by
  obtain ⟨⟨b', a'⟩, hs, e⟩ := Option.map_eq_some_iff.1 h
  cases e
  have hrev := congrArg List.reverse (splitFirst_eq_some hs)
  simpa using hrev

theorem splitFirst_append {c : Char} {a : List Char} (h : c ∉ a) (b : List Char) :
    splitFirst [c] (a ++ c :: b) = some (a, b) := by
  induction a with
  | nil => simp [splitFirst, dropPrefix?]
  | cons d a ih =>
    rw [List.mem_cons, not_or] at h
    simp [splitFirst, dropPrefix?, h.1, ih h.2]

/-- Replaces every occurrence of a non-empty `p`, left to right. `fuel` bounds the scan. -/
def replaceAllAux (p r : List Char) : Nat → List Char → List Char
  | 0, s => s
  | _ + 1, [] => []
  | n + 1, c :: s =>
    match dropPrefix? p (c :: s) with
    | some rest => r ++ replaceAllAux p r n rest
    | none => c :: replaceAllAux p r n s

/-- Every occurrence of the non-empty text `p` in `s` replaced by `r`. -/
def replaceAll (p r s : List Char) : List Char :=
  if p.isEmpty then s else replaceAllAux p r (s.length + 1) s

/-- The first occurrence of `p` in `s` replaced by `r`. -/
def replaceFirst (p r s : List Char) : List Char :=
  match splitFirst p s with
  | some (a, b) => a ++ r ++ b
  | none => s

/-- Whether the string `s` starts with `p`. -/
def hasPrefix (p s : String) : Bool := p.toList.isPrefixOf s.toList

/-- Whether the string `s` ends with `p`. -/
def hasSuffix (p s : String) : Bool := p.toList.isSuffixOf s.toList

/-- Whether the string `p` occurs in `s`. -/
def contains (p s : String) : Bool := occursIn p.toList s.toList

/-- The pieces of a string between the separators `c`. -/
def split (c : Char) (s : String) : List String :=
  (splitOn c s.toList).map String.ofList

/-- Joins strings by a separator. -/
def join (sep : String) (parts : List String) : String :=
  String.ofList (joinWith sep.toList (parts.map String.toList))

/-- Every occurrence of `p` in the string replaced by `r`. -/
def replace (p r s : String) : String :=
  String.ofList (replaceAll p.toList r.toList s.toList)

/-- A string with the ASCII letters in lower case. -/
def lowerAscii (s : String) : String :=
  String.ofList (s.toList.map Char.toLower)

end ContextCompiler.Text
