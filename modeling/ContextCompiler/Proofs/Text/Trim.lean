import Mathlib.Data.List.DropRight
import ContextCompiler.Text.Blank

/-!
Trimming.

What trimming leaves is the text without a front and a back of characters that may go, and it
starts and ends with none of them.
-/

namespace ContextCompiler.Text

variable {p : Char → Bool} {s front back : List Char}

theorem dropEndWhile_eq_rdropWhile (p : Char → Bool) (s : List Char) :
    dropEndWhile p s = s.rdropWhile p := rfl

/-- A text whose last character stays is left as it is. -/
theorem dropEndWhile_eq_self (h : ∀ c ∈ s.getLast?, p c = false) : dropEndWhile p s = s := by
  rw [dropEndWhile_eq_rdropWhile, List.rdropWhile_eq_self_iff]
  intro hne
  rw [h _ (List.getLast?_eq_some_getLast hne)]
  exact Bool.false_ne_true

theorem getLast?_dropEndWhile {c : Char} (h : c ∈ (dropEndWhile p s).getLast?) : p c = false := by
  have hne : dropEndWhile p s ≠ [] := by
    rintro hnil
    rw [hnil] at h
    cases h
  rw [List.getLast?_eq_some_getLast hne, Option.mem_some_iff] at h
  rw [← h, ← Bool.not_eq_true]
  exact List.rdropWhile_last_not p s hne

theorem dropEndWhile_append (h : ∀ c ∈ back, p c = true) :
    dropEndWhile p (s ++ back) = dropEndWhile p s := by
  induction back using List.reverseRecOn with
  | nil => rw [List.append_nil]
  | append_singleton back c ih =>
    rw [← List.append_assoc, dropEndWhile_append_of_pos (h c (by simp))]
    exact ih fun d hd => h d (List.mem_append_left _ hd)

theorem exists_append_dropEndWhile (p : Char → Bool) (s : List Char) :
    ∃ back, s = dropEndWhile p s ++ back ∧ ∀ c ∈ back, p c = true :=
  ⟨s.rtakeWhile p, List.rdropWhile_append_rtakeWhile.symm,
    fun _ hc => List.mem_rtakeWhile_imp hc⟩

theorem dropEndWhile_subset (p : Char → Bool) (s : List Char) : dropEndWhile p s ⊆ s := by
  obtain ⟨back, h, -⟩ := exists_append_dropEndWhile p s
  conv_rhs => rw [h]
  exact List.subset_append_left _ _

/-- What is left of a text between characters that may go, where its own ends stay. -/
theorem trimWhile_between (hfront : ∀ c ∈ front, p c = true) (hback : ∀ c ∈ back, p c = true)
    (hhead : ∀ c ∈ s.head?, p c = false) (hlast : ∀ c ∈ s.getLast?, p c = false) :
    trimWhile p (front ++ s ++ back) = s := by
  rw [trimWhile, List.append_assoc, List.dropWhile_append_of_pos hfront]
  cases s with
  | nil =>
    rw [List.nil_append, List.dropWhile_eq_nil_iff.2 hback]
    rfl
  | cons c s =>
    rw [List.cons_append, List.dropWhile_cons_of_neg (by simp [hhead c rfl]), ← List.cons_append,
      dropEndWhile_append hback, dropEndWhile_eq_self hlast]

theorem exists_append_trimWhile (p : Char → Bool) (s : List Char) :
    ∃ front back, s = front ++ trimWhile p s ++ back ∧ (∀ c ∈ front, p c = true) ∧
      ∀ c ∈ back, p c = true := by
  obtain ⟨back, hback, hall⟩ := exists_append_dropEndWhile p (s.dropWhile p)
  refine ⟨s.takeWhile p, back, ?_, fun c hc => List.mem_takeWhile_imp hc, hall⟩
  rw [trimWhile, List.append_assoc, ← hback, List.takeWhile_append_dropWhile]

/-- What is trimmed starts with a character that stays. -/
theorem head?_trimWhile {c : Char} (h : c ∈ (trimWhile p s).head?) : p c = false := by
  obtain ⟨back, hback, -⟩ := exists_append_dropEndWhile p (s.dropWhile p)
  obtain ⟨rest, hrest⟩ := List.head?_eq_some_iff.1 (Option.mem_def.1 h)
  rw [trimWhile] at hrest
  have hhead := List.head?_dropWhile_not p s
  rw [hback, hrest, List.cons_append, List.head?_cons] at hhead
  simpa using hhead

end ContextCompiler.Text
