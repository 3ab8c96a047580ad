import ContextCompiler.Proofs.Storage.Follow
import ContextCompiler.Storage.Path

/-!
Absolute paths.

Paths under an absolute directory are absolute, and so is the directory of a file. In its plainest
form an absolute path is that of a place of names alone.
-/

namespace ContextCompiler

namespace Path

variable {dir p : String} {ps : List Part}

/-! ## Starting at the root -/

theorem isAbsolute_iff : isAbsolute p = true ↔ ∃ t, p.toList = '/' :: t := by
  unfold isAbsolute
  rw [beq_iff_eq, List.head?_eq_some_iff]

theorem isAbsolute_append (h : isAbsolute dir = true) : isAbsolute (dir ++ p) = true := by
  obtain ⟨t, ht⟩ := isAbsolute_iff.1 h
  exact isAbsolute_iff.2 ⟨t ++ p.toList, by rw [String.toList_append, ht, List.cons_append]⟩

theorem split_of_isAbsolute (h : isAbsolute p = true) :
    ∃ pieces, Text.split '/' p = "" :: pieces ∧ ∀ n ∈ pieces, '/' ∉ n.toList := by
  obtain ⟨t, ht⟩ := isAbsolute_iff.1 h
  refine ⟨(Text.splitOn '/' t).map String.ofList, by simp [Text.split, ht, Text.splitOn], ?_⟩
  intro n hn
  obtain ⟨piece, hpiece, rfl⟩ := List.mem_map.1 hn
  rw [String.toList_ofList]
  exact Text.not_mem_of_mem_splitOn hpiece

theorem partOf?_cases {first : Bool} {piece : String} {part : Part}
    (h : partOf? first piece = some part) :
    first = true ∧ part = .here ∨ part = .up ∨ part = .name piece ∧ Storage.IsName piece := by
  unfold partOf? at h
  split at h
  · cases h
  · next h₁ =>
    split at h
    · split at h
      · next hfirst => exact .inl ⟨hfirst, (Option.some.inj h).symm⟩
      · cases h
    · next h₂ =>
      split at h
      · exact .inr (.inl (Option.some.inj h).symm)
      · next h₃ =>
        simp only [beq_iff_eq] at h₁ h₂ h₃
        exact .inr (.inr ⟨(Option.some.inj h).symm, h₁, h₂, h₃⟩)

theorem getLast?_dropIdleEnd {n : Nat} {cs : List Char} (h : cs.getLast? = some '/') :
    (dropIdleEnd n cs).getLast? = some '/' := by
  fun_induction dropIdleEnd n cs with
  | case1 => exact h
  | case2 => rfl
  | case3 n cs hne ih =>
    cases cs with
    | nil => exact absurd rfl hne
    | cons c cs => exact ih (by rwa [List.getLast?_cons_cons] at h)
  | case4 => rfl
  | case5 n cs hne ih =>
    cases cs with
    | nil => exact absurd rfl hne
    | cons c cs => exact ih (by rwa [List.getLast?_cons_cons, List.getLast?_cons_cons] at h)
  | case6 => exact h

/-- The directory of an absolute path is absolute. -/
theorem isAbsolute_parent? (h : isAbsolute p = true) (hd : parent? p = some dir) :
    isAbsolute dir = true := by
  obtain ⟨t, ht⟩ := isAbsolute_iff.1 h
  have hlast : p.toList.reverse.getLast? = some '/' := by
    rw [List.getLast?_reverse, ht, List.head?_cons]
  have hdrop : ∀ cs : List Char, cs.getLast? = some '/' →
      (cs.dropWhile (· != '/')).getLast? = some '/' := by
    intro cs hcs
    induction cs with
    | nil => exact hcs
    | cons c cs ih =>
      by_cases hc : c = '/'
      · rw [List.dropWhile_cons_of_neg (by simp [hc])]
        exact hcs
      · rw [List.dropWhile_cons_of_pos (by simp [hc])]
        cases cs with
        | nil => exact absurd (Option.some.inj hcs) hc
        | cons d cs => exact ih (by rwa [List.getLast?_cons_cons] at hcs)
  unfold parent? at hd
  split at hd
  · cases hd
  · cases hd
  · cases hd
    rw [isAbsolute, beq_iff_eq, String.toList_ofList, List.head?_reverse]
    exact getLast?_dropIdleEnd (hdrop _ (getLast?_dropIdleEnd hlast))

end Path

end ContextCompiler
