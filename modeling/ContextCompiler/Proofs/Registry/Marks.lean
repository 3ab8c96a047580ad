import Mathlib.Logic.Function.Basic
import ContextCompiler.Proofs.Registry.Documents

/-!
Output paths that tell where a document has come from.

Every configuration has a number, and a mark of so many letters. A trail is the marks of
configurations with slashes between them. A mark as a prefix adds itself to the front of a trail,
and trails that are the same text are of the same configurations.
-/

namespace ContextCompiler

variable {number : String → Nat} {x y : String} {ids ids' : List String} {path : String}

/-- So many letters and one more. -/
def mark (n : Nat) : List Char := List.replicate (n + 1) 'a'

/-- The marks of configurations. -/
def trail (number : String → Nat) (ids : List String) : String :=
  String.ofList (Text.joinWith ['/'] (ids.map fun x => mark (number x)))

theorem normalizeOutputPath_of_ends {l l' : List Char} (hhead : path.toList = 'a' :: l)
    (hlast : path.toList = l' ++ ['a']) : normalizeOutputPath path = path := by
  have htrim : ∀ p : Char → Bool, p 'a' = false → Text.trimWhile p path.toList = path.toList := by
    intro p hp
    rw [Text.trimWhile, hhead, List.dropWhile_cons_of_neg (by simp [hp]), ← hhead, hlast]
    exact Text.dropEndWhile_append_of_neg hp
  have hdrop : Path.dropHere path.toList = path.toList := by
    rw [hhead]
    rfl
  unfold normalizeOutputPath
  simp only [htrim Text.isBlank (by decide), hdrop, htrim (· == '/') (by decide),
    String.ofList_toList]

theorem mark_eq_cons (n : Nat) : ∃ l, mark n = 'a' :: l := ⟨_, List.replicate_succ⟩

theorem mark_eq_append (n : Nat) : ∃ l, mark n = l ++ ['a'] := ⟨_, List.replicate_succ'⟩

theorem toList_trail_cons : (trail number (x :: y :: ids)).toList =
    mark (number x) ++ '/' :: (trail number (y :: ids)).toList := by
  simp [trail, Text.joinWith]

theorem toList_trail_singleton : (trail number [x]).toList = mark (number x) := by
  simp [trail, Text.joinWith]

/-- A trail starts and ends with a letter. -/
theorem normalizeOutputPath_trail :
    normalizeOutputPath (trail number (x :: ids)) = trail number (x :: ids) := by
  have hlast : ∀ x, ∃ l, (trail number (x :: ids)).toList = l ++ ['a'] := by
    induction ids with
    | nil =>
      intro x
      rw [toList_trail_singleton]
      exact mark_eq_append _
    | cons y ids ih =>
      intro x
      obtain ⟨l, hl⟩ := ih y
      rw [toList_trail_cons, hl]
      exact ⟨mark (number x) ++ '/' :: l, by simp⟩
  have hhead : ∃ l, (trail number (x :: ids)).toList = 'a' :: l := by
    obtain ⟨l, hl⟩ := mark_eq_cons (number x)
    cases ids with
    | nil => exact ⟨l, toList_trail_singleton.trans hl⟩
    | cons y ids =>
      rw [toList_trail_cons, hl]
      exact ⟨_, List.cons_append⟩
  obtain ⟨l, hl⟩ := hhead
  obtain ⟨l', hl'⟩ := hlast x
  exact normalizeOutputPath_of_ends hl hl'

/-- A mark as a prefix goes in front of a trail. -/
theorem prefixOutputPath_trail :
    prefixOutputPath (trail number [x]) (trail number (y :: ids)) =
      trail number (x :: y :: ids) := by
  have hne : trail number [x] ≠ "" := by
    intro h
    have hnil := congrArg String.toList h
    rw [toList_trail_singleton] at hnil
    obtain ⟨l, hl⟩ := mark_eq_cons (number x)
    rw [hl] at hnil
    cases hnil
  unfold prefixOutputPath
  simp only [normalizeOutputPath_trail, if_neg hne]
  apply String.toList_injective
  rw [toList_trail_cons, String.toList_append, String.toList_append, toList_trail_singleton]
  simp

end ContextCompiler
