import Mathlib
import ContextCompiler.Proofs.Glob.Expression
import ContextCompiler.Proofs.Regex.Ends
import ContextCompiler.Regex.Size
import ContextCompiler.Regex.Template

/-!
Words that are replaced, in whatever case they stand.

The expression of a word is found just where the word is spelled, and a marker that goes into the
template in escaped form comes out of it as it was. So replacing is a walk from left to right
(`Redacts`): where the word is spelled the marker stands for it, and every other character is kept.
A text that shares no character with the marker is found behind such a walk only if it was there
before and the walk kept it (`Redacts.exists_suffix`). That is what makes a walk complete, and what
keeps later walks from bringing earlier words back.
-/

namespace ContextCompiler

namespace Text

/-- A text with all its characters in folded form. -/
def folded (s : List Char) : List Char := s.map fold

/-- From left to right, every place where a word is spelled in some case has a marker in the other
text, and all other characters are the same. -/
inductive Redacts (word marker : List Char) : List Char → List Char → Prop
  | done : Redacts word marker [] []
  | keep {c : Char} {s t : List Char} : ¬ folded word <+: folded (c :: s) →
      Redacts word marker s t → Redacts word marker (c :: s) (c :: t)
  | redact {w s t : List Char} : folded w = folded word → Redacts word marker s t →
      Redacts word marker (w ++ s) (marker ++ t)

variable {word marker p s t : List Char}

@[simp] theorem folded_nil : folded [] = [] := rfl

@[simp] theorem folded_cons (c : Char) (s : List Char) : folded (c :: s) = fold c :: folded s := rfl

@[simp] theorem folded_append (s t : List Char) : folded (s ++ t) = folded s ++ folded t :=
  List.map_append

theorem folded_eq_nil_iff : folded s = [] ↔ s = [] := List.map_eq_nil_iff

/-- A spelling of a word is no longer or shorter than the word. -/
theorem length_eq_of_folded (h : folded s = folded t) : s.length = t.length := by
  have hlength := congrArg List.length h
  rwa [folded, folded, List.length_map, List.length_map] at hlength

/-- Texts without a character in common up to case. -/
theorem not_mem_folded (h : ∀ c ∈ s, ∀ d ∈ t, sameFold c d = false) :
    ∀ x ∈ folded s, x ∉ folded t := by
  intro x hs ht
  obtain ⟨c, hc, rfl⟩ := List.mem_map.1 hs
  obtain ⟨d, hd, heq⟩ := List.mem_map.1 ht
  have hsame : sameFold c d = true := beq_iff_eq.2 heq.symm
  exact absurd (h c hc d hd) (by simp [hsame])

/-- A text without a character of another one does not start in it. -/
theorem infix_of_infix_append {front : List Char} (hp : p ≠ []) (hfront : ∀ x ∈ p, x ∉ front)
    (h : p <:+: front ++ s) : p <:+: s := by
  induction front with
  | nil => exact h
  | cons c front ih =>
    rcases List.infix_cons_iff.1 h with h | h
    · obtain ⟨d, p, rfl⟩ := List.exists_cons_of_ne_nil hp
      obtain ⟨rfl, -⟩ := List.cons_prefix_cons.1 h
      exact absurd List.mem_cons_self (hfront d List.mem_cons_self)
    · exact ih (fun x hx => List.not_mem_of_not_mem_cons (hfront x hx)) h

namespace Redacts

/-- What stands at the start of the other text, without a character of the marker, stands at the
start of the text. -/
theorem folded_prefix (h : Redacts word marker s t) (hmarker : marker ≠ [])
    (hapart : ∀ x ∈ p, x ∉ folded marker) (hp : p <+: folded t) : p <+: folded s := by
  induction h generalizing p with
  | done => exact hp
  | keep _ _ ih =>
    cases p with
    | nil => exact List.nil_prefix
    | cons x p =>
      obtain ⟨rfl, hrest⟩ := List.cons_prefix_cons.1 hp
      exact List.cons_prefix_cons.2 ⟨rfl, ih (List.forall_mem_cons.1 hapart).2 hrest⟩
  | redact _ _ _ =>
    cases p with
    | nil => exact List.nil_prefix
    | cons x p =>
      obtain ⟨c, marker, rfl⟩ := List.exists_cons_of_ne_nil hmarker
      obtain ⟨rfl, -⟩ := List.cons_prefix_cons.1 hp
      exact absurd List.mem_cons_self (hapart _ List.mem_cons_self)

/-- What stands in the other text, without a character of the marker, stands in the text at a place
that was kept. -/
theorem exists_suffix (h : Redacts word marker s t) (hmarker : marker ≠ []) (hne : p ≠ [])
    (hapart : ∀ x ∈ p, x ∉ folded marker) (hp : p <:+: folded t) :
    ∃ y, y <:+ s ∧ p <+: folded y ∧ ¬ folded word <+: folded y := by
  induction h with
  | done => exact absurd (List.infix_nil.1 hp) hne
  | @keep c s t hword hrest ih =>
    rcases List.infix_cons_iff.1 hp with hp | hp
    · have hall := Redacts.keep hword hrest
      exact ⟨c :: s, List.suffix_rfl, hall.folded_prefix hmarker hapart hp, hword⟩
    · obtain ⟨y, hy, hfound⟩ := ih hp
      exact ⟨y, hy.trans (List.suffix_cons c s), hfound⟩
  | @redact w s t _ _ ih =>
    rw [folded_append] at hp
    obtain ⟨y, hy, hfound⟩ := ih (infix_of_infix_append hne hapart hp)
    exact ⟨y, hy.trans (List.suffix_append w s), hfound⟩

/-- A word that is redacted is left nowhere. -/
theorem not_folded_infix (h : Redacts word marker s t) (hmarker : marker ≠ []) (hword : word ≠ [])
    (hapart : ∀ c ∈ word, ∀ d ∈ marker, sameFold c d = false) :
    ¬ folded word <:+: folded t := by
  intro hfound
  obtain ⟨y, -, hy, hnot⟩ := h.exists_suffix hmarker (mt folded_eq_nil_iff.1 hword)
    (not_mem_folded hapart) hfound
  exact hnot hy

/-- A word that shares no character with the marker is not brought in. -/
theorem not_folded_infix_of_not {other : List Char} (h : Redacts word marker s t)
    (hmarker : marker ≠ []) (hother : other ≠ [])
    (hapart : ∀ c ∈ other, ∀ d ∈ marker, sameFold c d = false)
    (hfree : ¬ folded other <:+: folded s) : ¬ folded other <:+: folded t := by
  intro hfound
  obtain ⟨y, ⟨x, hxy⟩, hy, -⟩ := h.exists_suffix hmarker (mt folded_eq_nil_iff.1 hother)
    (not_mem_folded hapart) hfound
  rw [← hxy, folded_append] at hfree
  exact hfree (hy.isInfix.trans (List.suffix_append _ _).isInfix)

end Redacts

end Text

namespace Template

/-- A text comes out of its template as it is. -/
theorem expand_escape (group : List Char → List Char) (s : List Char) :
    expand group (escape s) = s := by
  induction s with
  | nil => rw [escape, Text.replaceAll_nil, expand]
  | cons c s ih =>
    by_cases hc : c = '$'
    · subst hc
      have hescape : escape ('$' :: s) = '$' :: '$' :: escape s :=
        Text.replaceAll_append (List.cons_ne_nil _ _) _ s
      rw [hescape, expand, if_pos (beq_self_eq_true '$')]
      exact congrArg ('$' :: ·) ih
    · have hprefix : ¬ ['$'] <+: c :: s := fun h => hc (List.cons_prefix_cons.1 h).1.symm
      rw [escape, Text.replaceAll_cons (List.cons_ne_nil _ _) hprefix, expand,
        if_neg (by simpa using hc)]
      exact congrArg (c :: ·) ih

end Template

namespace CharSet

theorem has_caseOf (c d : Char) : (caseOf c).has d = (Text.fold d == Text.fold c) := by
  rw [has, Text.sameFold, Bool.eq_iff_iff, Bool.or_eq_true]
  simp only [beq_iff_eq]
  constructor
  · rintro (rfl | h)
    · rfl
    · exact h
  · exact .inr

end CharSet

namespace Regex

open Text

variable {word marker s : List Char} {p q a b : Spot} {K : List Char → Prop}

/-! ## Where a word is found -/

theorem anyCase_cons (c : Char) (hword : word ≠ []) :
    anyCase (c :: word) = .seq (.one (.caseOf c)) (anyCase word) := by
  obtain ⟨d, word, rfl⟩ := List.exists_cons_of_ne_nil hword
  rfl

/-- Behind a match of a word that part of a text is left which follows a spelling of it. -/
theorem exists_moves_anyCase : (∃ q, (anyCase word).Moves p q ∧ K q.rest) ↔
    ∃ w rest, folded w = folded word ∧ p.rest = w ++ rest ∧ K rest := by
  induction word generalizing p with
  | nil =>
    constructor
    · rintro ⟨q, rfl, hK⟩
      exact ⟨[], q.rest, rfl, rfl, hK⟩
    · rintro ⟨w, rest, hw, hrest, hK⟩
      obtain rfl := folded_eq_nil_iff.1 hw
      rw [List.nil_append] at hrest
      exact ⟨p, rfl, hrest ▸ hK⟩
  | cons c word ih =>
    have hone : ∀ K : List Char → Prop, (∃ q, (one (.caseOf c)).Moves p q ∧ K q.rest) ↔
        ∃ d s, p.rest = d :: s ∧ fold d = fold c ∧ K s := fun K => by
      simp only [exists_moves_one, CharSet.has_caseOf, beq_iff_eq]
    by_cases hword : word = []
    · -- the last character is an expression of its own, with none behind it
      subst hword
      refine (hone K).trans ?_
      constructor
      · rintro ⟨d, s, hrest, hd, hK⟩
        exact ⟨[d], s, by simp [hd], hrest, hK⟩
      · rintro ⟨w, rest, hw, hrest, hK⟩
        obtain ⟨d, w, rfl, hd, hnil⟩ := List.map_eq_cons_iff.1 hw
        obtain rfl := folded_eq_nil_iff.1 hnil
        exact ⟨d, rest, hrest, hd, hK⟩
    · rw [anyCase_cons c hword, exists_moves_seq]
      simp only [ih]
      refine (hone fun s => ∃ w rest, folded w = folded word ∧ s = w ++ rest ∧ K rest).trans ?_
      constructor
      · rintro ⟨d, s, hrest, hd, w, rest, hw, rfl, hK⟩
        exact ⟨d :: w, rest, by simp [hd, hw], hrest, hK⟩
      · rintro ⟨w, rest, hw, hrest, hK⟩
        obtain ⟨d, w, rfl, hd, hw⟩ := List.map_eq_cons_iff.1 hw
        exact ⟨d, w ++ rest, hrest, hd, w, rest, hw, rfl, hK⟩

/-- An expression has no match at a spot just where its word is not spelled. -/
theorem head?_ends_anyCase_eq_none : ((anyCase word).ends p).head? = none ↔
    ¬ folded word <+: folded p.rest := by
  have hmoves : (∃ q, (anyCase word).Moves p.bare q) ↔ folded word <+: folded p.rest := by
    have hall := @exists_moves_anyCase word p.bare fun _ => True
    simp only [and_true] at hall
    rw [hall]
    constructor
    · rintro ⟨w, rest, hw, hrest⟩
      rw [show p.rest = w ++ rest from hrest, folded_append, hw]
      exact List.prefix_append _ _
    · rintro ⟨rest, hrest⟩
      obtain ⟨w, rest, heq, hw, -⟩ := List.map_eq_append_iff.1 hrest.symm
      exact ⟨w, rest, hw, heq⟩
  rw [← hmoves, ← head?_ends, Option.not_isSome_iff_eq_none]

/-- What is between the ends of a match is the word. -/
theorem spelled_of_head?_ends (h : ((anyCase word).ends p).head? = some q) :
    ∃ w, folded w = folded word ∧ p.rest = w ++ q.rest ∧ q.pos = p.pos + w.length := by
  have hmem : q ∈ (anyCase word).ends p := List.mem_of_head? h
  have hmoves : (anyCase word).Moves p.bare q.bare :=
    ((follows_ends (anyCase word)).has_iff p q.bare).1 ⟨q, hmem, rfl⟩
  obtain ⟨w, rest, hw, hrest, heq⟩ := (@exists_moves_anyCase word p.bare (· = q.rest)).1
    ⟨q.bare, hmoves, rfl⟩
  subst heq
  refine ⟨w, hw, hrest, ?_⟩
  have hlength := ((follows_ends (anyCase word)).ahead_of_mem hmem).length_add
  have hsplit : p.rest.length = w.length + q.rest.length := by
    rw [show p.rest = w ++ q.rest from hrest, List.length_append]
  have hlength' : q.rest.length + q.pos = p.rest.length + p.pos := hlength
  omega

/-! ## Searching and replacing -/

/-- Where no match is found all characters are kept. -/
theorem redacts_of_findFrom_eq_none {pos : Nat} {before : Option Char}
    (h : (anyCase word).findFrom pos before s = none) :
    Redacts word marker s s := by
  induction s generalizing pos before with
  | nil => exact .done
  | cons c s ih =>
    rw [findFrom] at h
    split at h
    · cases h
    · next hnone => exact .keep (head?_ends_anyCase_eq_none.1 hnone) (ih h)

/-- Up to the first match all characters are kept, and there the word stands. -/
theorem redacts_of_findFrom_eq_some {pos : Nat} {before : Option Char} (marker : List Char)
    (h : (anyCase word).findFrom pos before s = some (a, b)) :
    ∃ front w, folded w = folded word ∧ s = front ++ (w ++ b.rest) ∧
      a.pos = pos + front.length ∧ b.pos = a.pos + w.length ∧
      ∀ t, Redacts word marker (w ++ b.rest) t → Redacts word marker s (front ++ t) := by
  induction s generalizing pos before with
  | nil =>
    rw [findFrom, Option.map_eq_some_iff] at h
    obtain ⟨q, hq, heq⟩ := h
    cases heq
    obtain ⟨w, hw, hrest, hpos⟩ := spelled_of_head?_ends hq
    exact ⟨[], w, hw, hrest, rfl, hpos, fun t => (congrArg (Redacts word marker · t) hrest).mpr⟩
  | cons c s ih =>
    rw [findFrom] at h
    split at h
    · next q hq =>
      cases h
      obtain ⟨w, hw, hrest, hpos⟩ := spelled_of_head?_ends hq
      exact ⟨[], w, hw, hrest, rfl, hpos, fun t => (congrArg (Redacts word marker · t) hrest).mpr⟩
    · next hnone =>
      obtain ⟨front, w, hw, rfl, ha, hb, hredacts⟩ := ih h
      refine ⟨c :: front, w, hw, rfl, ?_, hb, fun t ht => ?_⟩
      · rw [ha, List.length_cons, Nat.add_assoc, Nat.add_comm 1]
      · exact .keep (head?_ends_anyCase_eq_none.1 hnone) (hredacts t ht)

/-- The match of a word is not empty, so the next match is just the one found next. -/
theorem next?_anyCase (hword : word ≠ []) (p : Spot) (afterMatch : Bool) :
    (anyCase word).next? p afterMatch = (anyCase word).findFrom p.pos p.before p.rest := by
  rw [next?]
  cases hfind : (anyCase word).findFrom p.pos p.before p.rest with
  | none => rfl
  | some ab =>
    obtain ⟨a, b⟩ := ab
    obtain ⟨_, w, hw, -, -, hpos, -⟩ := redacts_of_findFrom_eq_some [] hfind
    have hlength : 0 < w.length := length_eq_of_folded hw ▸ List.length_pos_iff.2 hword
    have hne : (a.pos == b.pos) = false := beq_eq_false_iff_ne.2 (by omega)
    simp [hne]

theorem redacts_replaceFrom (hword : word ≠ []) {f : Spot → Spot → List Char}
    (hf : ∀ a b, f a b = marker) {fuel : Nat} (afterMatch : Bool) (h : p.rest.length < fuel) :
    Redacts word marker p.rest ((anyCase word).replaceFrom f fuel p afterMatch) := by
  induction fuel generalizing p afterMatch with
  | zero => cases h
  | succ fuel ih =>
    -- every match takes a character at least, so what is left behind it has fuel enough
    rw [replaceFrom, next?_anyCase hword]
    cases hfind : (anyCase word).findFrom p.pos p.before p.rest with
    | none => exact redacts_of_findFrom_eq_none hfind
    | some ab =>
      obtain ⟨a, b⟩ := ab
      obtain ⟨front, w, hw, hrest, ha, -, hredacts⟩ := redacts_of_findFrom_eq_some marker hfind
      have hlength : 0 < w.length := length_eq_of_folded hw ▸ List.length_pos_iff.2 hword
      have hshorter : b.rest.length < fuel := by
        rw [hrest, List.length_append, List.length_append] at h
        omega
      have hfront : p.rest.take (a.pos - p.pos) = front := by
        rw [ha, Nat.add_sub_cancel_left, hrest, List.take_left]
      dsimp only
      rw [hfront, hf, List.append_assoc]
      exact hredacts _ (.redact hw (ih true hshorter))

/-- A word is redacted by replacing what its expression finds by the marker in escaped form. -/
theorem redacts_replaceAll (hword : word ≠ []) (marker s : List Char) :
    Redacts word marker s ((anyCase word).replaceAll (Template.escape marker) s) :=
  redacts_replaceFrom (p := .start s) hword (fun _ _ => Template.expand_escape _ _) false
    (Nat.lt_succ_of_lt (Nat.lt_succ_self _))

/-- What stands before and behind a marker is no word together, and a dollar sign refers to
nothing. -/
example : (anyCase "onyx".toList).replaceAll (Template.escape "$1".toList)
    "on$1yx ONYX".toList = "on$1yx $1".toList := by
  cbv

/-! ## The room of a word -/

theorem runsBelow_le (a : CharSet) (code : Nat) : a.runsBelow code ≤ code := by
  rw [CharSet.runsBelow]
  induction code with
  | zero => exact Nat.le_refl 0
  | succ code ih =>
    rw [Nat.fold_succ]
    generalize code.fold _ (0, false) = runs at ih ⊢
    dsimp only
    split
    · exact Nat.succ_le_succ ih
    · exact Nat.le_succ_of_le ih

theorem room_caseOf_le (c : Char) : (CharSet.caseOf c).room (fun _ => 800) ≤ 21000 := by
  have hruns := runsBelow_le (.caseOf c) 128
  show CharSet.room.more (fun _ => 800) (.caseOf c) ≤ 21000
  rw [CharSet.room.more, CharSet.cell]
  split <;> omega

theorem size_anyCase_le (hword : word ≠ []) :
    (anyCase word).size (CharSet.room fun _ => 800) ≤ 21000 * word.length := by
  induction word with
  | nil => exact absurd rfl hword
  | cons c word ih =>
    have hroom := room_caseOf_le c
    by_cases hrest : word = []
    · subst hrest
      exact hroom
    · have hle := ih hrest
      rw [anyCase_cons c hrest, size, List.length_cons]
      show (CharSet.caseOf c).room (fun _ => 800) + _ ≤ _
      omega

/-- Only the expressions of long words are refused. -/
theorem isTooLarge_anyCase (hword : word ≠ []) (hlength : word.length < 500) :
    (anyCase word).isTooLarge = false := by
  have hsize := size_anyCase_le hword
  rw [isTooLarge, Bool.and_eq_false_iff, decide_eq_false_iff_not, sizeLimit]
  left
  omega

end Regex

end ContextCompiler
