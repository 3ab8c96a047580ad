import Mathlib.Algebra.Ring.Parity
import ContextCompiler.Proofs.Markdown.Tidy

/-!
Lines that tidying spares.

A line is spared when its fence has no marked language and when it stands in code or has no wrapper
tag. Every other line loses weight, and no line gains any. So a text of which all lines are found
again has spared lines only.
-/

namespace ContextCompiler.Markdown

variable {l h : List Char} {ls front back : List (List Char)} {inCode : Bool}

/-! ## Lines -/

/-- The line after the passes that work on lines. -/
def tidyLine (inCode : Bool) (line : List Char) : List Char :=
  if inCode || isFence line then prepared line else dropWrappers (prepared line)

/-- A line of which nothing that shows goes away. `inCode` tells whether code is open before it. -/
def IsSpared (inCode : Bool) (line : List Char) : Prop :=
  ¬ IsMarked line ∧ (inCode = false → isFence line = false → ¬ HasWrapper line)

instance : Decidable (IsSpared inCode l) := inferInstanceAs (Decidable (_ ∧ (_ → _ → _)))

theorem isFence_prepared (l : List Char) : isFence (prepared l) = isFence l := by
  rw [prepared, isFence_dropReturn, isFence_plainLanguage, isFence_dropReturn]

theorem prepared_of_not_isMarked (h : ¬ IsMarked l) :
    prepared l = Text.dropReturn (Text.dropReturn l) := by
  rw [prepared, plainLanguage_of_not_isMarked (isMarked_dropReturn.not.2 h)]

theorem weight_prepared_le (l : List Char) : weight (prepared l) ≤ weight l := by
  rw [prepared, weight_dropReturn, ← weight_dropReturn l]
  exact weight_le_of_sublist (plainLanguage_sublist _)

theorem weight_prepared_lt (h : IsMarked l) : weight (prepared l) < weight l := by
  rw [prepared, weight_dropReturn, ← weight_dropReturn l]
  exact weight_plainLanguage_lt (isMarked_dropReturn.2 h)

theorem weight_tidyLine_le (inCode : Bool) (l : List Char) :
    weight (tidyLine inCode l) ≤ weight l := by
  unfold tidyLine
  split
  · exact weight_prepared_le l
  · exact (weight_le_of_sublist (dropWrappers_sublist _)).trans (weight_prepared_le l)

/-- A line that keeps its weight is spared. -/
theorem isSpared_of_weight_le (h : weight l ≤ weight (tidyLine inCode l)) : IsSpared inCode l := by
  have hle : weight (tidyLine inCode l) ≤ weight (prepared l) := by
    unfold tidyLine
    split
    · exact Nat.le_refl _
    · exact weight_le_of_sublist (dropWrappers_sublist _)
  have hmarked : ¬ IsMarked l := fun hmarked =>
    absurd (weight_prepared_lt hmarked) (Nat.not_lt.2 (h.trans hle))
  refine ⟨hmarked, fun hcode hfence hwrapper => ?_⟩
  have hprepared : HasWrapper (prepared l) := by
    rwa [prepared_of_not_isMarked hmarked, hasWrapper_dropReturn, hasWrapper_dropReturn]
  have hlt := weight_dropWrappers_lt hprepared
  rw [tidyLine, hcode, hfence, Bool.or_self, if_neg Bool.false_ne_true] at h
  exact absurd (h.trans_lt hlt) (Nat.not_lt.2 (weight_prepared_le l))

theorem dropEndWhile_tidyLine (h : IsSpared inCode l) :
    Text.dropEndWhile Text.isBlank (tidyLine inCode l) = Text.dropEndWhile Text.isBlank l := by
  have hprepared : Text.dropEndWhile Text.isBlank (prepared l) =
      Text.dropEndWhile Text.isBlank l := by
    rw [prepared_of_not_isMarked h.1, Text.dropEndWhile_dropReturn, Text.dropEndWhile_dropReturn]
  unfold tidyLine
  split
  · exact hprepared
  · next hout =>
    rw [Bool.or_eq_true, not_or, Bool.not_eq_true, Bool.not_eq_true] at hout
    have hwrapper : ¬ HasWrapper (prepared l) := by
      rw [prepared_of_not_isMarked h.1, hasWrapper_dropReturn, hasWrapper_dropReturn]
      exact h.2 hout.1 hout.2
    rw [dropWrappers_of_not_hasWrapper hwrapper, hprepared]

/-! ## Texts -/

/-- Lines that are spared one after the other. -/
def AreSpared : Bool → List (List Char) → Prop
  | _, [] => True
  | inCode, l :: ls => IsSpared inCode l ∧ AreSpared (inCode ^^ isFence l) ls

instance decidableAreSpared : ∀ inCode ls, Decidable (AreSpared inCode ls)
  | _, [] => .isTrue trivial
  | inCode, l :: ls =>
    have := decidableAreSpared (inCode ^^ isFence l) ls
    inferInstanceAs (Decidable (IsSpared inCode l ∧ AreSpared (inCode ^^ isFence l) ls))

/-- The number of characters of lines that are not blank. -/
def totalWeight (ls : List (List Char)) : Nat := (ls.map weight).sum

theorem tidyLines_cons (inCode : Bool) (l : List Char) (ls : List (List Char)) :
    tidyLines inCode (l :: ls) =
      tidyLine inCode l :: tidyLines (inCode ^^ isFence l) ls := by
  rw [tidyLines, List.map_cons, mapOutside, isFence_prepared, tidyLine]
  cases hfence : isFence l with
  | true =>
    rw [if_pos rfl, Bool.or_true, if_pos rfl, Bool.xor_true]
    rfl
  | false =>
    rw [if_neg Bool.false_ne_true, Bool.or_false, Bool.xor_false]
    rfl

theorem totalWeight_shown (ls : List (List Char)) :
    totalWeight (Text.shown ls) = totalWeight ls := by
  induction ls with
  | nil => rfl
  | cons l ls ih =>
    have hl := weight_dropEndWhile l
    rw [Text.shown_cons]
    simp only [totalWeight, List.map_cons, List.sum_cons] at ih ⊢
    split
    · next hblank =>
      rw [hblank] at hl
      rw [ih, ← hl]
      exact (Nat.zero_add _).symm
    · rw [List.map_cons, List.sum_cons, hl, ih]

theorem totalWeight_tidyLines_le (inCode : Bool) (ls : List (List Char)) :
    totalWeight (tidyLines inCode ls) ≤ totalWeight ls := by
  induction ls generalizing inCode with
  | nil => exact Nat.le_refl _
  | cons l ls ih =>
    rw [tidyLines_cons]
    simp only [totalWeight, List.map_cons, List.sum_cons]
    exact Nat.add_le_add (weight_tidyLine_le inCode l) (ih _)

theorem areSpared_of_totalWeight_le (h : totalWeight ls ≤ totalWeight (tidyLines inCode ls)) :
    AreSpared inCode ls := by
  induction ls generalizing inCode with
  | nil => trivial
  | cons l ls ih =>
    have hline := weight_tidyLine_le inCode l
    have hrest := totalWeight_tidyLines_le (inCode ^^ isFence l) ls
    rw [tidyLines_cons] at h
    simp only [totalWeight, List.map_cons, List.sum_cons] at h hrest ih
    exact ⟨isSpared_of_weight_le (by omega), ih (by omega)⟩

theorem shown_tidyLines (h : AreSpared inCode ls) :
    Text.shown (tidyLines inCode ls) = Text.shown ls := by
  induction ls generalizing inCode with
  | nil => rfl
  | cons l ls ih =>
    rw [tidyLines_cons, Text.shown_cons, Text.shown_cons, dropEndWhile_tidyLine h.1, ih h.2]

theorem totalWeight_le_of_sublist {ms : List (List Char)} (hsub : ls.Sublist ms) :
    totalWeight ls ≤ totalWeight ms := by
  induction hsub with
  | slnil => exact Nat.le_refl _
  | cons m _ ih =>
    rw [totalWeight, totalWeight, List.map_cons, List.sum_cons]
    exact ih.trans (Nat.le_add_left _ _)
  | cons_cons m _ ih =>
    rw [totalWeight, totalWeight, List.map_cons, List.sum_cons, List.map_cons, List.sum_cons]
    exact Nat.add_le_add_left ih _

theorem isFence_of_isMarked (h : IsMarked l) : isFence l = true := by
  obtain ⟨mark, -, c, -, rest, rfl⟩ := h
  rw [List.append_assoc, List.append_assoc, isFence_ticks_append]

theorem isSpared_of_isFence_eq_false (hfence : isFence l = false) : IsSpared true l := by
  refine ⟨fun hmarked => ?_, nofun⟩
  rw [isFence_of_isMarked hmarked] at hfence
  cases hfence

/-- Lines in code that are found again after a line that is no fence are spared. If they are found
below that line no weight is lost. Otherwise the first of them is that line, so code stays open
and the rest is found again after it. -/
theorem areSpared_of_sublist (hfence : isFence h = false)
    (hsub : (Text.shown ls).Sublist (h :: Text.shown (tidyLines true ls))) :
    AreSpared true ls := by
  induction ls with
  | nil => trivial
  | cons l ls ih =>
    have hcode : isFence l = false → (Text.shown ls).Sublist (h :: Text.shown (tidyLines true ls)) →
        AreSpared true (l :: ls) := fun hl hrest =>
      ⟨isSpared_of_isFence_eq_false hl, by rw [hl]; exact ih hrest⟩
    have htidy : isFence l = false → Text.shown (tidyLines true (l :: ls)) =
        Text.shown (l :: tidyLines true ls) := fun hl => by
      rw [tidyLines_cons, hl, Text.shown_cons, Text.shown_cons,
        dropEndWhile_tidyLine (isSpared_of_isFence_eq_false hl), Bool.xor_false]
    have hfences := isFence_dropEndWhile l
    rw [Text.shown_cons] at hsub
    split at hsub
    · next hblank =>
      rw [hblank] at hfences
      refine hcode hfences.symm ?_
      rwa [htidy hfences.symm, Text.shown_cons, if_pos hblank] at hsub
    · next hblank =>
      rcases List.cons_sublist_cons'.1 hsub with hbelow | ⟨heq, hrest⟩
      · refine areSpared_of_totalWeight_le ?_
        rw [← totalWeight_shown, ← totalWeight_shown (tidyLines true (l :: ls)), Text.shown_cons,
          if_neg hblank]
        exact totalWeight_le_of_sublist hbelow
      · rw [heq, hfence] at hfences
        refine hcode hfences.symm ?_
        rwa [htidy hfences.symm, Text.shown_cons, if_neg hblank, heq] at hrest

theorem isSpared_nil (inCode : Bool) : IsSpared inCode [] := by
  refine ⟨fun hmarked => ?_, fun _ _ hwrapper => ?_⟩
  · cases isFence_of_isMarked hmarked
  · obtain ⟨tag, ⟨slash, name, attributes, -, -, -, rfl⟩, hin⟩ := hwrapper
    cases List.infix_nil.1 hin

/-- A blank line at the end plays no part. -/
theorem areSpared_concat_nil : AreSpared inCode (ls ++ [[]]) ↔ AreSpared inCode ls := by
  induction ls generalizing inCode with
  | nil => exact and_iff_right (isSpared_nil inCode)
  | cons l ls ih => exact and_congr_right fun _ => ih

theorem decide_odd_countP_cons (l : List Char) (front : List (List Char)) :
    decide (Odd ((l :: front).countP isFence)) =
      (isFence l ^^ decide (Odd (front.countP isFence))) := by
  cases hfence : isFence l with
  | true =>
    simp only [List.countP_cons_of_pos hfence, Nat.odd_add_one, decide_not, Bool.true_xor]
  | false =>
    rw [List.countP_cons_of_neg (by rw [hfence]; exact Bool.false_ne_true), Bool.false_xor]

theorem areSpared_iff : AreSpared inCode ls ↔ ∀ front line back, ls = front ++ line :: back →
    IsSpared (inCode ^^ decide (Odd (front.countP isFence))) line := by
  induction ls generalizing inCode with
  | nil => simp [AreSpared]
  | cons l ls ih =>
    rw [AreSpared, ih]
    constructor
    · rintro ⟨hl, hls⟩ front line back heq
      cases front with
      | nil =>
        cases heq
        simpa using hl
      | cons m front =>
        cases heq
        rw [decide_odd_countP_cons, ← Bool.xor_assoc]
        exact hls front line back rfl
    · intro h
      refine ⟨by simpa using h [] l ls rfl, fun front line back heq => ?_⟩
      have hline := h (l :: front) line back (by rw [heq]; rfl)
      rwa [decide_odd_countP_cons, ← Bool.xor_assoc] at hline

theorem areSpared_true_iff : AreSpared true ls ↔
    ∀ front line back, ls = front ++ line :: back → ¬ IsMarked line ∧
      (Odd (front.countP isFence) → isFence line = false →
        ¬ HasWrapper line) := by
  rw [areSpared_iff]
  refine forall_congr' fun front => forall₃_congr fun line back _ => and_congr_right fun _ => ?_
  rw [Bool.true_xor, Bool.not_eq_false', decide_eq_true_iff]

end ContextCompiler.Markdown
