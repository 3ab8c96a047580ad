import Mathlib.Data.List.Sort
import ContextCompiler.Proofs.Imports.WellFormed

/-!
Absorbing registries one after the other.

A registry absorbs another item by item, so it is enough to know what one more item does: absorbing
a list with an item added to it is absorbing the list, and then adding the item. From this law for
one item it follows that absorbing is associative (`absorb_laws`), whatever the registries repeat.
Variables are compared key by key.
-/

namespace ContextCompiler

/-! ## Variables -/

namespace SortedMap

variable {α : Type} {m n : SortedMap α}

theorem mem_entries_iff {k : String} {v : α} : (k, v) ∈ m.entries ↔ m.get? k = some v := by
  refine ⟨fun h => ?_, mem_entries_of_get?⟩
  obtain ⟨before, after, hentries⟩ := List.append_of_mem h
  refine List.lookup_eq_some_iff.2 ⟨before, after, hentries, fun e he => ?_⟩
  have hsorted := m.sorted
  rw [hentries] at hsorted
  have hlt : e.1 < k := (List.pairwise_append.1 hsorted).2.2 e he (k, v) List.mem_cons_self
  exact bne_iff_ne.2 (String.ne_of_lt hlt).symm

/-- Maps with the same bindings are equal. -/
theorem ext_get? (h : ∀ k, m.get? k = n.get? k) : m = n := by
  have hentries : m.entries = n.entries := by
    have : Std.Irrefl fun a b : String × α => a.1 < b.1 := ⟨fun a => String.lt_irrefl a.1⟩
    have : Std.Antisymm fun a b : String × α => a.1 < b.1 :=
      ⟨fun a b hab hba => absurd hba (String.lt_asymm hab)⟩
    refine List.Pairwise.eq_of_mem_iff m.sorted n.sorted fun ⟨k, v⟩ => ?_
    rw [mem_entries_iff, mem_entries_iff, h]
  cases m
  cases n
  cases hentries
  rfl

theorem merge_assoc (a b c : SortedMap α) : (a.merge b).merge c = a.merge (b.merge c) := by
  refine ext_get? fun k => ?_
  rw [get?_merge, get?_merge, get?_merge, get?_merge, Option.or_assoc]

theorem merge_merge_self (a b : SortedMap α) : (a.merge b).merge b = a.merge b := by
  refine ext_get? fun k => ?_
  rw [get?_merge, get?_merge, ← Option.or_assoc, Option.or_self]

theorem empty_merge (m : SortedMap α) : empty.merge m = m := by
  refine ext_get? fun k => ?_
  rw [get?_merge, get?_empty, Option.or_none]

end SortedMap

/-! ## Items that are kept where they are -/

section New

variable {α κ : Type} [BEq κ] [LawfulBEq κ] {key : α → κ}

theorem addAllNew_addNew (items new : List α) (item : α) :
    addAllNew key items (addNew key new item) = addNew key (addAllNew key items new) item := by
  by_cases hmem : key item ∈ new.map key
  · -- what the list has already, it has also brought along
    rw [addNew_of_mem hmem, addNew_of_mem (mem_keys_addAllNew.2 (.inr hmem))]
  · rw [addNew_of_not_mem hmem, addAllNew, List.foldl_append]
    rfl

theorem addAllNew_assoc (a b c : List α) :
    addAllNew key (addAllNew key a b) c = addAllNew key a (addAllNew key b c) :=
  List.foldl_hom (addAllNew key a) fun b x => (addAllNew_addNew a b x).symm

theorem addAllNew_of_subset {items new : List α} (h : ∀ x ∈ new, key x ∈ items.map key) :
    addAllNew key items new = items := by
  unfold addAllNew
  induction new with
  | nil => rfl
  | cons x rest ih =>
    rw [List.foldl_cons, addNew_of_mem (h x List.mem_cons_self)]
    exact ih fun y hy => h y (List.mem_cons_of_mem _ hy)

theorem addAllNew_addAllNew_self (a b : List α) :
    addAllNew key (addAllNew key a b) b = addAllNew key a b :=
  addAllNew_of_subset fun _ hx => mem_keys_addAllNew.2 (.inr (List.mem_map_of_mem hx))

theorem addAllNew_nil {new : List α} (h : (new.map key).Nodup) : addAllNew key [] new = new :=
  addAllNew_eq_append h fun _ hx => absurd hx List.not_mem_nil

end New

/-! ## Items that move to the end -/

section Upsert

variable {α : Type} {id : α → String} {k : String}

theorem filter_upsert_self {items : List α} {item : α} (h : id item = k) :
    (upsert id items item).filter (id · != k) = items.filter (id · != k) := by
  rw [upsert, List.filter_append, List.filter_filter, List.filter_cons_of_neg (by simp [h]), h,
    List.filter_nil, List.append_nil]
  simp only [Bool.and_self]

theorem filter_upsert_of_ne {items : List α} {item : α} (h : id item ≠ k) :
    (upsert id items item).filter (id · != k) = upsert id (items.filter (id · != k)) item := by
  rw [upsert, List.filter_append, List.filter_cons_of_pos (by simpa using h), List.filter_nil,
    List.filter_comm, upsert]

/-- Without the items of one id, lists are put together as they would be without them. -/
theorem filter_upsertAll (items new : List α) (k : String) :
    (upsertAll id items new).filter (id · != k) =
      upsertAll id (items.filter (id · != k)) (new.filter (id · != k)) := by
  unfold upsertAll
  induction new generalizing items with
  | nil => rfl
  | cons x rest ih =>
    rw [List.foldl_cons, ih]
    by_cases hx : id x = k
    · rw [filter_upsert_self hx, List.filter_cons_of_neg (by simp [hx])]
    · rw [filter_upsert_of_ne hx, List.filter_cons_of_pos (by simpa using hx), List.foldl_cons]

theorem upsertAll_upsert (items new : List α) (item : α) :
    upsertAll id items (upsert id new item) = upsert id (upsertAll id items new) item := by
  have hlast : upsertAll id items (upsert id new item) =
      upsert id (upsertAll id items (new.filter (id · != id item))) item := by
    rw [upsertAll, upsert, List.foldl_append]
    rfl
  rw [hlast, upsert, upsert, filter_upsertAll, filter_upsertAll, List.filter_filter]
  simp only [Bool.and_self]

theorem upsertAll_assoc (a b c : List α) :
    upsertAll id (upsertAll id a b) c = upsertAll id a (upsertAll id b c) :=
  List.foldl_hom (upsertAll id a) fun b x => (upsertAll_upsert a b x).symm

theorem upsertAll_upsertAll_self (a b : List α) :
    upsertAll id (upsertAll id a b) b = upsertAll id a b := by
  -- the first round leaves no other items of these ids than the last ones, which go and come back
  have hgone : (lastOfEach id b).filter (fun x => !b.any (id · == id x)) = [] := by
    rw [List.filter_eq_nil_iff]
    intro x hx
    have hany : b.any (id · == id x) = true := by
      rw [← any_lastOfEach id]
      exact List.any_eq_true.2 ⟨x, hx, beq_self_eq_true _⟩
    simp [hany]
  rw [upsertAll_eq, upsertAll_eq, List.filter_append, List.filter_filter, hgone, List.append_nil]
  simp only [Bool.and_self]

theorem upsertAll_nil_of_nodup {new : List α} (h : (new.map id).Nodup) :
    upsertAll id [] new = new := by
  rw [upsertAll_nil, lastOfEach_eq_self id h]

end Upsert

/-! ## Registries -/

namespace Registry

theorem absorb_assoc (a b c : Registry) : (a.absorb b).absorb c = a.absorb (b.absorb c) := by
  simp only [absorb, SortedMap.merge_assoc, addAllNew_assoc, upsertAll_assoc]

theorem absorb_absorb_self (a b : Registry) : (a.absorb b).absorb b = a.absorb b := by
  simp only [absorb, SortedMap.merge_merge_self, addAllNew_addAllNew_self,
    upsertAll_upsertAll_self]

/-- The registry of nothing takes a registry in as it is, if nothing stands there twice. -/
theorem WellFormed.empty_absorb {r : Registry} (h : r.WellFormed) :
    Registry.empty.absorb r = r := by
  have himports : (r.imports.map id).Nodup := by
    rw [List.map_id]
    exact h.imports
  simp only [Registry.absorb, Registry.empty, SortedMap.empty_merge, addAllNew_nil h.documents,
    upsertAll_nil_of_nodup h.prompts, upsertAll_nil_of_nodup h.tools, addAllNew_nil himports]

/-- Registries can be absorbed one after the other or together: variables and all lists come out the
same, with their order. What is absorbed twice in a row counts once, and nothing changes nothing.
Nothing is lost either: what the registry of nothing has absorbed is the registry itself, unless
that repeats something. -/
theorem absorb_laws (a b c : Registry) :
    (a.absorb b).absorb c = a.absorb (b.absorb c) ∧
      (a.absorb b).absorb b = a.absorb b ∧
      a.absorb empty = a ∧
      (empty.absorb a = a ↔ a.WellFormed) := by
  refine ⟨absorb_assoc a b c, absorb_absorb_self a b, rfl, fun h => ?_, WellFormed.empty_absorb⟩
  rw [← h]
  exact WellFormed.empty.absorb a

end Registry

end ContextCompiler
