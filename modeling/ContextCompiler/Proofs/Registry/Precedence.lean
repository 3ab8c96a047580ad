import ContextCompiler.Proofs.Registry.Documents

/-!
Which declarations win when a registry is absorbed.

Of several items of one id the last one stays, at its place. What is absorbed therefore ends the
list, without the items that a later one of its own replaces (`upsertAll_eq`), and is all there is
of its ids. Documents end the list as they are, if none of them was there before.
-/

namespace ContextCompiler

section Items

variable {α κ : Type} (id : α → String) {items new : List α} {k : String}

/-- The items that no later one of the same id replaces. -/
def lastOfEach (id : α → String) : List α → List α
  | [] => []
  | x :: rest =>
    if rest.any (id · == id x) then lastOfEach id rest else x :: lastOfEach id rest

theorem any_lastOfEach : (lastOfEach id items).any (id · == k) = items.any (id · == k) := by
  induction items with
  | nil => rfl
  | cons x rest ih =>
    unfold lastOfEach
    split
    · next h =>
      rw [ih, List.any_cons]
      by_cases hx : id x = k
      · rw [hx] at h
        rw [h, Bool.or_true]
      · rw [beq_eq_false_iff_ne.2 hx, Bool.false_or]
    · rw [List.any_cons, List.any_cons, ih]

theorem lastOfEach_eq_self (h : (items.map id).Nodup) : lastOfEach id items = items := by
  induction items with
  | nil => rfl
  | cons x rest ih =>
    obtain ⟨hx, hrest⟩ := List.nodup_cons.1 h
    have hnew : ¬ rest.any (id · == id x) = true := by
      intro hany
      obtain ⟨y, hy, hid⟩ := List.any_eq_true.1 hany
      exact hx (beq_iff_eq.1 hid ▸ List.mem_map_of_mem hy)
    rw [lastOfEach, if_neg hnew, ih hrest]

/-- Adding items one after the other takes the ids of all of them away, and puts their last items
at the end. -/
theorem upsertAll_eq (items new : List α) :
    upsertAll id items new =
      items.filter (fun x => !new.any (id · == id x)) ++ lastOfEach id new := by
  unfold upsertAll
  induction new generalizing items with
  | nil => simp [lastOfEach]
  | cons y rest ih =>
    have hitems : (items.filter (fun x => id x != id y)).filter
        (fun x => !rest.any (id · == id x)) =
          items.filter (fun x => !(y :: rest).any (id · == id x)) := by
      rw [List.filter_filter]
      refine List.filter_congr fun x _ => ?_
      rw [List.any_cons, Bool.not_or, Bool.and_comm, bne, Bool.beq_comm]
    rw [List.foldl_cons, ih, upsert, List.filter_append, hitems, lastOfEach, List.append_assoc]
    split
    · next h => rw [List.filter_cons_of_neg (by simp [h]), List.filter_nil, List.nil_append]
    · next h =>
      rw [List.filter_cons_of_pos (by simpa using h), List.filter_nil, List.singleton_append]

/-- The items of a configuration are the last ones of each id. -/
theorem upsertAll_nil (new : List α) : upsertAll id [] new = lastOfEach id new := by
  rw [upsertAll_eq, List.filter_nil, List.nil_append]

/-- Of items with different keys those are added that have no key from before. -/
theorem addAllNew_eq_append_filter [BEq κ] [LawfulBEq κ] {key : α → κ}
    (hnew : (new.map key).Nodup) : addAllNew key items new =
      items ++ new.filter fun x => items.all fun y => key y != key x := by
  unfold addAllNew
  induction new generalizing items with
  | nil => exact (List.append_nil items).symm
  | cons y rest ih =>
    obtain ⟨hy, hrest⟩ := List.nodup_cons.1 hnew
    rw [List.foldl_cons, ih hrest]
    by_cases hmem : key y ∈ items.map key
    · have hdrop : (items.all fun x => key x != key y) = false := by
        obtain ⟨x, hx, hkey⟩ := List.mem_map.1 hmem
        exact List.all_eq_false.2 ⟨x, hx, by simp [hkey]⟩
      rw [addNew_of_mem hmem, List.filter_cons, hdrop, if_neg Bool.false_ne_true]
    · have hkeep : (items.all fun x => key x != key y) = true :=
        List.all_eq_true.2 fun x hx => bne_iff_ne.2 fun hkey =>
          hmem (hkey ▸ List.mem_map_of_mem hx)
      -- the items that are left have other keys than the one just added
      have hsame : rest.filter (fun x => (items ++ [y]).all fun z => key z != key x) =
          rest.filter fun x => items.all fun z => key z != key x := by
        refine List.filter_congr fun x hx => ?_
        have hne : key y ≠ key x := fun e => hy (e ▸ List.mem_map_of_mem hx)
        simp [hne]
      rw [addNew_of_not_mem hmem, hsame, List.filter_cons, hkeep, if_pos rfl, List.append_assoc,
        List.singleton_append]

/-- Items whose keys are new and not repeated are added as they are. -/
theorem addAllNew_eq_append [BEq κ] [LawfulBEq κ] {key : α → κ} (hnew : (new.map key).Nodup)
    (hitems : ∀ x ∈ items, key x ∉ new.map key) : addAllNew key items new = items ++ new := by
  rw [addAllNew_eq_append_filter hnew, List.filter_eq_self.2]
  intro x hx
  refine List.all_eq_true.2 fun y hy => bne_iff_ne.2 fun hkey => hitems y hy ?_
  exact hkey ▸ List.mem_map_of_mem hx

end Items

namespace Registry

variable {r : Registry} {raw : Declarations} {configId baseDir : String}

end Registry

end ContextCompiler
