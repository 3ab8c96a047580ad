import Mathlib.Data.List.Forall2

/-!
Work that may fail, one step after the other.
-/

namespace ContextCompiler

variable {ε α β : Type} {x : Except ε α} {f : α → Except ε β} {b : β}

/-- Two steps come to a result when both do. -/
theorem except_bind_eq_ok : x >>= f = .ok b ↔ ∃ a, x = .ok a ∧ f a = .ok b := by
  cases x with
  | error e => exact ⟨nofun, fun ⟨_, h, _⟩ => nomatch h⟩
  | ok a => exact ⟨fun h => ⟨a, rfl, h⟩, fun ⟨_, h, h'⟩ => by cases h; exact h'⟩

theorem except_map_eq_ok {f : α → β} : x.map f = .ok b ↔ ∃ a, x = .ok a ∧ f a = b := by
  cases x with
  | error e => exact ⟨nofun, fun ⟨_, h, _⟩ => nomatch h⟩
  | ok a =>
    refine ⟨fun h => ⟨a, rfl, Except.ok.inj h⟩, fun ⟨_, h, h'⟩ => ?_⟩
    cases h
    exact congrArg _ h'

theorem except_mapError_eq_ok {δ : Type} {f : ε → δ} {a : α} :
    x.mapError f = .ok a ↔ x = .ok a := by
  cases x with
  | error e => exact ⟨nofun, nofun⟩
  | ok b => exact ⟨fun h => congrArg _ (Except.ok.inj h), fun h => congrArg _ (Except.ok.inj h)⟩

/-- A check that stands in front of other work lets it come to a result when it does not strike. -/
theorem except_check_eq_ok {c : Prop} [Decidable c] {e : ε} {k : PUnit → Except ε β} :
    (if c then throw e >>= k else k ⟨⟩) = .ok b ↔ ¬ c ∧ k ⟨⟩ = .ok b := by
  split
  · next h => exact ⟨nofun, fun h' => absurd h h'.1⟩
  · next h => exact ⟨fun h' => ⟨h, h'⟩, fun h' => h'.2⟩

/-- Steps over a numbered list come to results when each of them does. -/
theorem except_mapM_zipIdx_eq_ok {f : α × Nat → Except ε β} {R : α → β → Prop}
    (h : ∀ x i y, f (x, i) = .ok y ↔ R x y) {xs : List α} {n : Nat} {ys : List β} :
    (xs.zipIdx n).mapM f = .ok ys ↔ List.Forall₂ R xs ys := by
  induction xs generalizing n ys with
  | nil =>
    rw [List.forall₂_nil_left_iff]
    exact ⟨fun h => (Except.ok.inj h).symm, fun h => h ▸ rfl⟩
  | cons x xs ih =>
    simp only [List.zipIdx_cons, List.mapM_cons, except_bind_eq_ok, h, ih,
      List.forall₂_cons_left_iff]
    constructor
    · rintro ⟨y, hy, zs, hzs, e⟩
      exact ⟨y, zs, hy, hzs, (Except.ok.inj e).symm⟩
    · rintro ⟨y, zs, hy, hzs, rfl⟩
      exact ⟨y, hy, zs, hzs, rfl⟩

end ContextCompiler
