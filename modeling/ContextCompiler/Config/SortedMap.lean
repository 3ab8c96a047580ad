/-!
Finite maps from texts, kept in the order of their keys.

The keys of the entries increase strictly, so two maps with the same bindings are equal.
-/

namespace ContextCompiler

/-- Adds or replaces the binding of `k` in a list of entries with increasing keys. -/
def insertEntry {α : Type} (k : String) (v : α) : List (String × α) → List (String × α)
  | [] => [(k, v)]
  | (j, w) :: rest =>
    if k < j then (k, v) :: (j, w) :: rest
    else if k = j then (k, v) :: rest
    else (j, w) :: insertEntry k v rest

theorem mem_insertEntry {α : Type} {k : String} {v : α} {es : List (String × α)}
    {e : String × α} (h : e ∈ insertEntry k v es) : e.1 = k ∨ e ∈ es := by
  induction es with
  | nil => simp [insertEntry] at h; exact .inl (by rw [h])
  | cons d rest ih =>
    obtain ⟨j, w⟩ := d
    unfold insertEntry at h
    split at h
    · rcases List.mem_cons.1 h with h | h
      · exact .inl (by rw [h])
      · exact .inr h
    · split at h
      · rcases List.mem_cons.1 h with h | h
        · exact .inl (by rw [h])
        · exact .inr (List.mem_cons_of_mem _ h)
      · rcases List.mem_cons.1 h with h | h
        · exact .inr (by rw [h]; exact List.mem_cons_self)
        · rcases ih h with h | h
          · exact .inl h
          · exact .inr (List.mem_cons_of_mem _ h)

theorem pairwise_insertEntry {α : Type} (k : String) (v : α) {es : List (String × α)}
    (h : es.Pairwise (·.1 < ·.1)) : (insertEntry k v es).Pairwise (·.1 < ·.1) := by
  induction es with
  | nil => simp [insertEntry]
  | cons d rest ih =>
    obtain ⟨j, w⟩ := d
    obtain ⟨hd, hr⟩ := List.pairwise_cons.1 h
    unfold insertEntry
    split
    · rename_i hk
      refine List.pairwise_cons.2 ⟨fun e he => ?_, h⟩
      rcases List.mem_cons.1 he with he | he
      · rw [he]; exact hk
      · exact String.lt_trans hk (hd e he)
    · split
      · rename_i hk
        subst hk
        exact List.pairwise_cons.2 ⟨hd, hr⟩
      · rename_i h1 h2
        refine List.pairwise_cons.2 ⟨fun e he => ?_, ih hr⟩
        rcases mem_insertEntry he with he | he
        · rw [he]
          rcases Decidable.em (j < k) with hjk | hjk
          · exact hjk
          · exact absurd (String.le_antisymm hjk h1) h2
        · exact hd e he

theorem lookup_entry {α : Type} (i : String) (w : α) (es : List (String × α)) (j : String) :
    ((i, w) :: es).lookup j = if j = i then some w else es.lookup j := by
  rw [List.lookup_cons]
  by_cases h : j = i
  · rw [if_pos h, beq_iff_eq.2 h]
  · rw [if_neg h, beq_eq_false_iff_ne.2 h]

theorem lookup_insertEntry {α : Type} (k : String) (v : α) (es : List (String × α)) (j : String) :
    (insertEntry k v es).lookup j = if j = k then some v else es.lookup j := by
  induction es with
  | nil => exact lookup_entry k v [] j
  | cons e rest ih =>
    obtain ⟨i, w⟩ := e
    unfold insertEntry
    split
    · exact lookup_entry k v _ j
    · split
      · next hk =>
        subst hk
        rw [lookup_entry, lookup_entry]
        by_cases h : j = k
        · rw [if_pos h, if_pos h]
        · rw [if_neg h, if_neg h, if_neg h]
      · next hk =>
        rw [lookup_entry, lookup_entry, ih]
        by_cases h : j = i
        · rw [if_pos h, if_pos h, if_neg fun e => hk (e.symm.trans h)]
        · rw [if_neg h, if_neg h]

/-- A finite map from texts. -/
structure SortedMap (α : Type) where
  entries : List (String × α)
  sorted : entries.Pairwise (·.1 < ·.1)

namespace SortedMap

variable {α : Type}

/-- The map without bindings. -/
def empty : SortedMap α := ⟨[], .nil⟩

instance : Inhabited (SortedMap α) := ⟨empty⟩

instance [DecidableEq α] : DecidableEq (SortedMap α) := fun a b =>
  if h : a.entries = b.entries then
    isTrue (by cases a; cases b; cases h; rfl)
  else isFalse fun e => h (by rw [e])

/-- Binds `k` to `v`, in place of what it was bound to. -/
def insert (m : SortedMap α) (k : String) (v : α) : SortedMap α :=
  ⟨insertEntry k v m.entries, pairwise_insertEntry k v m.sorted⟩

/-- The value of a key. -/
def get? (m : SortedMap α) (k : String) : Option α :=
  m.entries.lookup k

/-- Whether the map has no binding. -/
def isEmpty (m : SortedMap α) : Bool := m.entries.isEmpty

/-- The number of bindings. -/
def size (m : SortedMap α) : Nat := m.entries.length

/-- The map of a list of bindings, of which later ones win. -/
def ofList (es : List (String × α)) : SortedMap α :=
  es.foldl (fun m e => m.insert e.1 e.2) empty

/-- `m` with the bindings of `top`, which win. -/
def merge (m top : SortedMap α) : SortedMap α :=
  top.entries.foldl (fun m e => m.insert e.1 e.2) m

/-- The bindings whose key satisfies `p`. -/
def filterKeys (p : String → Bool) (m : SortedMap α) : SortedMap α :=
  ⟨m.entries.filter (fun e => p e.1), m.sorted.filter _⟩

/-- The keys in their order. -/
def keys (m : SortedMap α) : List String := m.entries.map (·.1)

@[simp] theorem get?_empty (k : String) : (empty : SortedMap α).get? k = none := rfl

theorem get?_insert (m : SortedMap α) (k : String) (v : α) (j : String) :
    (m.insert k v).get? j = if j = k then some v else m.get? j :=
  lookup_insertEntry k v m.entries j

@[simp] theorem get?_insert_self (m : SortedMap α) (k : String) (v : α) :
    (m.insert k v).get? k = some v := by
  rw [get?_insert, if_pos rfl]

theorem get?_insert_of_ne (m : SortedMap α) (v : α) {j k : String} (h : j ≠ k) :
    (m.insert k v).get? j = m.get? j := by
  rw [get?_insert, if_neg h]

theorem mem_entries_of_get? {m : SortedMap α} {k : String} {v : α} (h : m.get? k = some v) :
    (k, v) ∈ m.entries := by
  obtain ⟨before, after, hentries, -⟩ := List.lookup_eq_some_iff.1 h
  rw [hentries]
  exact List.mem_append_right _ List.mem_cons_self

theorem merge_empty (m : SortedMap α) : m.merge empty = m := rfl

theorem get?_foldl_insert (m : SortedMap α) {es : List (String × α)}
    (h : es.Pairwise (·.1 < ·.1)) (k : String) :
    (es.foldl (fun m e => m.insert e.1 e.2) m).get? k = (es.lookup k).or (m.get? k) := by
  induction es generalizing m with
  | nil => rfl
  | cons e rest ih =>
    obtain ⟨j, v⟩ := e
    obtain ⟨hj, hrest⟩ := List.pairwise_cons.1 h
    rw [List.foldl_cons, ih _ hrest, get?_insert, lookup_entry]
    by_cases hk : k = j
    · subst hk
      -- a later binding of the same key would not be later in order
      have hnone : rest.lookup k = none := by
        rw [List.lookup_eq_none_iff]
        intro e he
        exact bne_iff_ne.2 (String.ne_of_lt (hj e he))
      rw [if_pos rfl, if_pos rfl, hnone]
      rfl
    · rw [if_neg hk, if_neg hk]

/-- The bindings of the top win. -/
theorem get?_merge (m top : SortedMap α) (k : String) :
    (m.merge top).get? k = (top.get? k).or (m.get? k) :=
  get?_foldl_insert m top.sorted k

end SortedMap

end ContextCompiler
