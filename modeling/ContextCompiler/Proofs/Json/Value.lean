import Mathlib.Data.List.Forall2
import ContextCompiler.Decode.Reader
import ContextCompiler.Proofs.Except
import ContextCompiler.Proofs.Registry.Absorb

/-!
Data values up to the order of their fields.

A value that was read has the fields of its objects in the order of their keys and no number that
is not finite. Such a value is read as itself, in whatever order its fields come.
-/

namespace ContextCompiler

/-! ## Maps from lists of bindings -/

section Lookup

variable {α : Type} {k : String} {v : α} {es fs : List (String × α)}

theorem lookup_eq_some_iff_mem (h : (es.map Prod.fst).Nodup) :
    es.lookup k = some v ↔ (k, v) ∈ es := by
  induction es with
  | nil => simp
  | cons e es ih =>
    obtain ⟨j, w⟩ := e
    rw [List.map_cons, List.nodup_cons] at h
    rw [lookup_entry, List.mem_cons, Prod.mk.injEq]
    split
    · next hk =>
      subst hk
      have hmem : (k, v) ∉ es := fun hmem => h.1 (List.mem_map.2 ⟨(k, v), hmem, rfl⟩)
      simp [hmem, eq_comm]
    · next hk => simp [hk, ih h.2]

theorem lookup_perm (h : (es.map Prod.fst).Nodup) (hperm : es.Perm fs) (k : String) :
    es.lookup k = fs.lookup k := by
  have hfs : (fs.map Prod.fst).Nodup := (hperm.map Prod.fst).nodup_iff.1 h
  refine Option.ext fun v => ?_
  rw [lookup_eq_some_iff_mem h, lookup_eq_some_iff_mem hfs, hperm.mem_iff]

theorem lookup_eq_none_iff_not_mem : es.lookup k = none ↔ k ∉ es.map Prod.fst := by
  rw [List.lookup_eq_none_iff, List.mem_map]
  refine ⟨fun h ⟨e, he, hk⟩ => ?_, fun h e he => bne_iff_ne.2 fun hk => h ⟨e, he, hk.symm⟩⟩
  exact bne_iff_ne.1 (h e he) hk.symm

namespace SortedMap

variable {m : SortedMap α}

theorem nodup_keys (m : SortedMap α) : (m.entries.map Prod.fst).Nodup :=
  List.pairwise_map.2 (m.sorted.imp String.ne_of_lt)

theorem get?_foldl_insert_of_nodup (m : SortedMap α) (h : (es.map Prod.fst).Nodup) (k : String) :
    (es.foldl (fun m e => m.insert e.1 e.2) m).get? k = (es.lookup k).or (m.get? k) := by
  induction es generalizing m with
  | nil => rfl
  | cons e es ih =>
    obtain ⟨j, v⟩ := e
    rw [List.map_cons, List.nodup_cons] at h
    rw [List.foldl_cons, ih _ h.2, get?_insert, lookup_entry]
    split
    · next hk => rw [hk, lookup_eq_none_iff_not_mem.2 h.1, Option.none_or, Option.some_or]
    · rfl

theorem get?_ofList (h : (es.map Prod.fst).Nodup) (k : String) :
    (ofList es).get? k = es.lookup k := by
  rw [ofList, get?_foldl_insert_of_nodup empty h, get?_empty, Option.or_none]

/-- A map is the map of its bindings, in whatever order. -/
theorem ofList_of_perm (h : m.entries.Perm es) : ofList es = m := by
  refine ext_get? fun k => ?_
  rw [get?_ofList ((h.map Prod.fst).nodup_iff.1 m.nodup_keys), ← lookup_perm m.nodup_keys h]
  rfl

theorem mem_of_get?_foldl_insert (m : SortedMap α)
    (h : (es.foldl (fun m e => m.insert e.1 e.2) m).get? k = some v) :
    (k, v) ∈ es ∨ m.get? k = some v := by
  induction es generalizing m with
  | nil => exact .inr h
  | cons e es ih =>
    rcases ih _ h with hmem | hget
    · exact .inl (List.mem_cons_of_mem e hmem)
    · rw [get?_insert] at hget
      split at hget
      · next hk => exact .inl (List.mem_cons.2 (.inl (Prod.ext hk (Option.some.inj hget).symm)))
      · exact .inr hget

/-- The bindings of a map are among those it was made of. -/
theorem mem_of_mem_entries_ofList {e : String × α} (h : e ∈ (ofList es).entries) : e ∈ es :=
  (mem_of_get?_foldl_insert empty (mem_entries_iff.1 h)).resolve_right (by simp)

end SortedMap

end Lookup

/-! ## Values -/

theorem forall₂_imp_of_mem {α β : Type} {R S : α → β → Prop} {xs : List α} {ys : List β}
    (h : List.Forall₂ R xs ys) (himp : ∀ x ∈ xs, ∀ y, R x y → S x y) : List.Forall₂ S xs ys := by
  obtain ⟨hlength, hzip⟩ := List.forall₂_iff_zip.1 h
  exact List.forall₂_iff_zip.2
    ⟨hlength, fun hp => himp _ (List.of_mem_zip hp).1 _ (hzip hp)⟩

section Rel

variable {α β : Type} {R : α → β → Prop} {a : α} {o : Option β}

theorem eq_none_of_rel (h : Option.Rel R none o) : o = none := by
  cases h
  rfl

theorem exists_of_rel (h : Option.Rel R (some a) o) : ∃ b, o = some b ∧ R a b := by
  cases h with
  | some hab => exact ⟨_, rfl, hab⟩

end Rel

namespace Json

/-- The values that data in its text form can hold: every number is finite. -/
inductive IsFinite : Json → Prop
  | null : IsFinite .null
  | bool {b : Bool} : IsFinite (.bool b)
  | int {n : Int} : IsFinite (.int n)
  | float {d : Double} : d.isFinite = true → IsFinite (.float d)
  | str {s : String} : IsFinite (.str s)
  | arr {items : List Json} : (∀ v ∈ items, IsFinite v) → IsFinite (.arr items)
  | obj {fields : List (String × Json)} : (∀ f ∈ fields, IsFinite f.2) → IsFinite (.obj fields)

/-- The values that come of reading: every number is finite, and the fields of each object are in
the order of their keys. -/
inductive IsNormal : Json → Prop
  | null : IsNormal .null
  | bool {b : Bool} : IsNormal (.bool b)
  | int {n : Int} : IsNormal (.int n)
  | float {d : Double} : d.isFinite = true → IsNormal (.float d)
  | str {s : String} : IsNormal (.str s)
  | arr {items : List Json} : (∀ v ∈ items, IsNormal v) → IsNormal (.arr items)
  | obj {fields : List (String × Json)} : fields.Pairwise (·.1 < ·.1) →
      (∀ f ∈ fields, IsNormal f.2) → IsNormal (.obj fields)

/-- The same value, perhaps with the fields of its objects in another order. -/
inductive IsReordered : Json → Json → Prop
  | refl (v : Json) : IsReordered v v
  | arr {items items' : List Json} : items.length = items'.length →
      (∀ p ∈ items.zip items', IsReordered p.1 p.2) → IsReordered (.arr items) (.arr items')
  | obj {fields moved fields' : List (String × Json)} : fields.Perm moved →
      moved.length = fields'.length → (∀ p ∈ moved.zip fields', p.1.1 = p.2.1) →
      (∀ p ∈ moved.zip fields', IsReordered p.1.2 p.2.2) →
      IsReordered (.obj fields) (.obj fields')

variable {v w : Json} {items : List Json} {fields : List (String × Json)} {d : Dialect} {n : Node}

theorem IsReordered.exists_arr (h : IsReordered (.arr items) w) :
    ∃ items', w = .arr items' ∧ List.Forall₂ IsReordered items items' := by
  cases h with
  | refl => exact ⟨items, rfl, List.forall₂_same.2 fun v _ => .refl v⟩
  | arr hlength hitems => exact ⟨_, rfl, List.forall₂_iff_zip.2 ⟨hlength, hitems _⟩⟩

theorem IsReordered.exists_obj (h : IsReordered (.obj fields) w) :
    ∃ moved fields', w = .obj fields' ∧ fields.Perm moved ∧
      List.Forall₂ (fun f g => f.1 = g.1 ∧ IsReordered f.2 g.2) moved fields' := by
  cases h with
  | refl => exact ⟨fields, fields, rfl, .refl _, List.forall₂_same.2 fun f _ => ⟨rfl, .refl f.2⟩⟩
  | @obj _ moved fields' hperm hlength hkeys hvalues =>
    exact ⟨moved, fields', rfl, hperm,
      List.forall₂_iff_zip.2 ⟨hlength, fun hp => ⟨hkeys _ hp, hvalues _ hp⟩⟩⟩

theorem IsReordered.of_perm {fields' : List (String × Json)} (h : fields.Perm fields') :
    IsReordered (.obj fields) (.obj fields') := by
  have hsame := List.forall₂_iff_zip.1 (List.forall₂_same.2 fun f (_ : f ∈ fields') => Eq.refl f)
  exact .obj h rfl (fun p hp => by rw [hsame.2 hp]) fun p hp => by rw [hsame.2 hp]; exact .refl _

theorem map_fst_of_forall₂ {moved : List (String × Json)}
    (h : List.Forall₂ (fun f g => f.1 = g.1 ∧ IsReordered f.2 g.2) moved fields) :
    moved.map Prod.fst = fields.map Prod.fst := by
  induction h with
  | nil => rfl
  | cons hf _ ih => rw [List.map_cons, List.map_cons, hf.1, ih]

/-- Each key of a reordered object has the same value, reordered. -/
theorem IsReordered.exists_lookup (h : IsReordered (.obj fields) w)
    (hkeys : (fields.map Prod.fst).Nodup) :
    ∃ fields', w = .obj fields' ∧ (fields'.map Prod.fst).Nodup ∧
      ∀ k, Option.Rel IsReordered (fields.lookup k) (fields'.lookup k) := by
  obtain ⟨moved, fields', rfl, hperm, hfields⟩ := h.exists_obj
  refine ⟨fields', rfl, ?_, fun k => ?_⟩
  · rw [← map_fst_of_forall₂ hfields]
    exact (hperm.map Prod.fst).nodup_iff.1 hkeys
  · rw [lookup_perm hkeys hperm]
    clear h hkeys hperm
    induction hfields with
    | nil => exact .none
    | @cons f g _ _ hf _ ih =>
      obtain ⟨j, v⟩ := f
      obtain ⟨i, v'⟩ := g
      obtain ⟨rfl, hv⟩ := hf
      rw [lookup_entry, lookup_entry]
      split
      · exact .some hv
      · exact ih

/-! ## Reading values -/

theorem stringAs_str (d : Dialect) (expected s : String) :
    d.stringAs expected (.str s) = .ok s := by
  cases d <;> rfl

mutual

/-- What is read is in normal form. -/
theorem isNormal_of_json (d : Dialect) : (n : Node) → ∀ {v}, d.json n = .ok v → IsNormal v
  | .null, _, h => by cases h; exact .null
  | .bool _, _, h => by cases h; exact .bool
  | .int _, _, h => by cases h; exact .int
  | .str _, _, h => by cases h; exact .str
  | .float x, v, h => by
    cases h
    split
    · next hx => exact .float hx
    · exact .null
  | .scalar _ _ n, _, h => isNormal_of_json d n (by rwa [Dialect.json] at h)
  | .seq items stop, _, h => by
    rw [Dialect.json, except_bind_eq_ok] at h
    obtain ⟨vs, hvs, h⟩ := h
    cases stop with
    | none => cases h; exact .arr (isNormal_of_jsonItems d items hvs)
    | some b => cases h
  | .map entries stop, _, h => by
    rw [Dialect.json, except_bind_eq_ok] at h
    obtain ⟨fs, hfs, h⟩ := h
    cases stop with
    | none =>
      cases h
      exact .obj (SortedMap.sorted _) fun f hf =>
        isNormal_of_jsonFields d entries hfs f (SortedMap.mem_of_mem_entries_ofList hf)
    | some b => cases h
  | .tagged _ _, _, h => by cases h
  | .broken _, _, h => by cases h
  | .unreadable _, _, h => by cases h
  | .deep _, _, h => by cases h

theorem isNormal_of_jsonItems (d : Dialect) :
    (ns : List Node) → ∀ {vs}, d.jsonItems ns = .ok vs → ∀ v ∈ vs, IsNormal v
  | [], _, h => by cases h; exact List.forall_mem_nil _
  | n :: ns, _, h => by
    rw [Dialect.jsonItems, except_bind_eq_ok] at h
    obtain ⟨v, hv, h⟩ := h
    obtain ⟨vs, hvs, h⟩ := except_bind_eq_ok.1 h
    cases h
    exact List.forall_mem_cons.2 ⟨isNormal_of_json d n hv, isNormal_of_jsonItems d ns hvs⟩

theorem isNormal_of_jsonFields (d : Dialect) :
    (ns : List (Node × Node)) → ∀ {fs}, d.jsonFields ns = .ok fs → ∀ f ∈ fs, IsNormal f.2
  | [], _, h => by cases h; exact List.forall_mem_nil _
  | (k, n) :: ns, _, h => by
    rw [Dialect.jsonFields, except_bind_eq_ok] at h
    obtain ⟨key, -, h⟩ := h
    obtain ⟨v, hv, h⟩ := except_bind_eq_ok.1 h
    obtain ⟨fs, hfs, h⟩ := except_bind_eq_ok.1 h
    cases h
    exact List.forall_mem_cons.2 ⟨isNormal_of_json d n hv, isNormal_of_jsonFields d ns hfs⟩

end

/-- The keys of what is read are those of its entries. -/
theorem forall_key_of_jsonFields {P : String → Prop} {ns : List (Node × Node)}
    (hns : ∀ e ∈ ns, ∃ k, e.1 = .str k ∧ P k) (h : d.jsonFields ns = .ok fields) :
    ∀ f ∈ fields, P f.1 := by
  induction ns generalizing fields with
  | nil =>
    cases h
    exact List.forall_mem_nil _
  | cons e ns ih =>
    obtain ⟨⟨k, hk, hP⟩, hrest⟩ := List.forall_mem_cons.1 hns
    obtain ⟨key, n⟩ := e
    obtain rfl : key = .str k := hk
    rw [Dialect.jsonFields, except_bind_eq_ok] at h
    obtain ⟨key, hkey, h⟩ := h
    obtain ⟨v, -, h⟩ := except_bind_eq_ok.1 h
    obtain ⟨fs, hfs, h⟩ := except_bind_eq_ok.1 h
    cases hkey.symm.trans (stringAs_str d _ k)
    cases h
    exact List.forall_mem_cons.2 ⟨hP, ih hrest hfs⟩

theorem jsonItems_ofItems {vs ws : List Json}
    (h : List.Forall₂ (fun v w => d.json (.ofJson w) = .ok v) vs ws) :
    d.jsonItems (Node.ofItems ws) = .ok vs := by
  induction h with
  | nil => rfl
  | cons hv _ ih =>
    rw [Node.ofItems, Dialect.jsonItems, hv, ih]
    rfl

theorem jsonFields_ofFields {fs gs : List (String × Json)}
    (h : List.Forall₂ (fun f g => f.1 = g.1 ∧ d.json (.ofJson g.2) = .ok f.2) fs gs) :
    d.jsonFields (Node.ofFields gs) = .ok fs := by
  induction h with
  | nil => rfl
  | @cons f g fs gs hf _ ih =>
    obtain ⟨k, v⟩ := f
    obtain ⟨j, w⟩ := g
    obtain ⟨rfl, hv⟩ := hf
    rw [Node.ofFields, Dialect.jsonFields, stringAs_str, hv, ih]
    rfl

/-- A value in normal form is read as itself, in whatever order its fields come. -/
theorem IsNormal.json_ofJson (h : IsNormal v) (d : Dialect) {w : Json} (hw : IsReordered v w) :
    d.json (.ofJson w) = .ok v := by
  induction h generalizing w with
  | null => cases hw; rfl
  | bool => cases hw; rfl
  | int => cases hw; rfl
  | str => cases hw; rfl
  | float hx => cases hw; rw [Node.ofJson, Dialect.json, if_pos hx]; rfl
  | arr _ ih =>
    obtain ⟨items', rfl, hitems⟩ := hw.exists_arr
    rw [Node.ofJson, Dialect.json,
      jsonItems_ofItems (forall₂_imp_of_mem hitems fun v hv w => ih v hv)]
    rfl
  | @obj fields hsorted _ ih =>
    obtain ⟨moved, fields', rfl, hperm, hfields⟩ := hw.exists_obj
    have hm := SortedMap.ofList_of_perm (m := ⟨fields, hsorted⟩) hperm
    have hread := forall₂_imp_of_mem hfields fun f hf g hg =>
      And.intro hg.1 (ih f (hperm.mem_iff.2 hf) hg.2)
    rw [Node.ofJson, Dialect.json, jsonFields_ofFields hread]
    show Except.ok (Json.ofFields moved) = .ok (.obj fields)
    rw [Json.ofFields, hm]

/-- Of finite values only null is read as null. -/
theorem IsFinite.ne_null_of_json (h : IsFinite v) (hv : v ≠ .null)
    (hw : d.json (.ofJson v) = .ok w) : w ≠ .null := by
  cases h with
  | null => exact absurd rfl hv
  | bool => cases hw; exact Json.noConfusion
  | int => cases hw; exact Json.noConfusion
  | str => cases hw; exact Json.noConfusion
  | float hx =>
    rw [Node.ofJson, Dialect.json, if_pos hx] at hw
    cases hw
    exact Json.noConfusion
  | arr =>
    obtain ⟨vs, -, h⟩ := except_bind_eq_ok.1 hw
    cases h
    exact Json.noConfusion
  | obj =>
    obtain ⟨fs, -, h⟩ := except_bind_eq_ok.1 hw
    cases h
    exact Json.noConfusion

theorem optional_ofJson {α : Type} {read : Node → Decoded α} (hv : v ≠ .null) :
    Dialect.value.optional read (.ofJson v) = some <$> read (.ofJson v) := by
  cases v with
  | null => exact absurd rfl hv
  | _ => rfl

/-- What is read where null stands for nothing is in normal form, and not null. -/
theorem IsFinite.isNormal_of_optional (h : IsFinite v)
    (hw : Dialect.value.optional d.json (.ofJson v) = .ok (some w)) : w.IsNormal ∧ w ≠ .null := by
  have hv : v ≠ .null := by
    rintro rfl
    cases hw
  rw [optional_ofJson hv] at hw
  obtain ⟨w', hread, hsome⟩ := except_map_eq_ok.1 hw
  cases hsome
  exact ⟨isNormal_of_json d _ hread, h.ne_null_of_json hv hread⟩

end Json

end ContextCompiler
