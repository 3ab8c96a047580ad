import Mathlib.Data.List.Nodup
import ContextCompiler.Registry.Basic

/-!
The documents of a registry, by their keys.

A key is where a document was declared, with its output path. Which keys the operations of
registries yield depends on keys only, and no operation that adds documents gives a key twice.
-/

namespace ContextCompiler

/-! ## Adding items one after the other -/

/-- Items that are added one after the other were there or are new. -/
theorem mem_of_mem_foldl {α : Type} {add : List α → α → List α} {items new : List α} {x : α}
    (hadd : ∀ items item, x ∈ add items item → x ∈ items ∨ x = item)
    (h : x ∈ new.foldl add items) : x ∈ items ∨ x ∈ new := by
  induction new generalizing items with
  | nil => exact .inl h
  | cons item rest ih =>
    rw [List.foldl_cons] at h
    rcases ih h with h | h
    · rcases hadd items item h with h | rfl
      · exact .inl h
      · exact .inr List.mem_cons_self
    · exact .inr (List.mem_cons_of_mem _ h)

theorem mem_of_mem_addAllNew {α κ : Type} [BEq κ] {key : α → κ} {items new : List α} {x : α}
    (h : x ∈ addAllNew key items new) : x ∈ items ∨ x ∈ new := by
  refine mem_of_mem_foldl (fun items item h => ?_) h
  unfold addNew at h
  split at h
  · exact .inl h
  · exact (List.mem_append.1 h).imp_right List.mem_singleton.1

theorem mem_of_mem_upsertAll {α : Type} {id : α → String} {items new : List α} {x : α}
    (h : x ∈ upsertAll id items new) : x ∈ items ∨ x ∈ new :=
  mem_of_mem_foldl (fun _ _ h => (List.mem_append.1 h).imp (fun h => (List.mem_filter.1 h).1)
    List.mem_singleton.1) h

section Keys

variable {α κ : Type} [BEq κ] [LawfulBEq κ] {key : α → κ} {items : List α}

theorem addNew_of_mem {item : α} (h : key item ∈ items.map key) :
    addNew key items item = items := by
  obtain ⟨x, hx, hkey⟩ := List.mem_map.1 h
  have hany : items.any (key · == key item) = true :=
    List.any_eq_true.2 ⟨x, hx, beq_iff_eq.2 hkey⟩
  rw [addNew, if_pos hany]

theorem addNew_of_not_mem {item : α} (h : key item ∉ items.map key) :
    addNew key items item = items ++ [item] := by
  refine if_neg fun hany => h ?_
  obtain ⟨x, hx, hkey⟩ := List.any_eq_true.1 hany
  exact beq_iff_eq.1 hkey ▸ List.mem_map_of_mem hx

theorem mem_keys_addNew {item : α} {k : κ} :
    k ∈ (addNew key items item).map key ↔ k ∈ items.map key ∨ k = key item := by
  by_cases h : key item ∈ items.map key
  · rw [addNew_of_mem h]
    exact ⟨.inl, fun hk => hk.elim id fun e => e ▸ h⟩
  · rw [addNew_of_not_mem h, List.map_append, List.mem_append, List.map_singleton,
      List.mem_singleton]

theorem nodup_keys_addNew (item : α) (h : (items.map key).Nodup) :
    ((addNew key items item).map key).Nodup := by
  by_cases hitem : key item ∈ items.map key
  · rwa [addNew_of_mem hitem]
  · rw [addNew_of_not_mem hitem, List.map_append, List.map_singleton]
    refine List.nodup_append.2 ⟨h, List.nodup_singleton _, fun k hk k' hk' e => ?_⟩
    rw [List.mem_singleton.1 hk'] at e
    exact hitem (e ▸ hk)

theorem mem_keys_addAllNew {new : List α} {k : κ} :
    k ∈ (addAllNew key items new).map key ↔ k ∈ items.map key ∨ k ∈ new.map key := by
  unfold addAllNew
  induction new generalizing items with
  | nil => simp
  | cons item rest ih =>
    rw [List.foldl_cons, ih, mem_keys_addNew, List.map_cons, List.mem_cons, or_assoc]

theorem nodup_keys_addAllNew (new : List α) (h : (items.map key).Nodup) :
    ((addAllNew key items new).map key).Nodup := by
  unfold addAllNew
  induction new generalizing items with
  | nil => exact h
  | cons item rest ih => exact ih (nodup_keys_addNew item h)

end Keys

/-! ## What a directive does to documents -/

namespace ImportDirective

variable {d : ImportDirective}

/-- The output path under the prefix of a directive. -/
def output (d : ImportDirective) (path : String) : String :=
  match d.pathPrefix with
  | none => path
  | some p => prefixOutputPath p path

/-- The list of a directive, if there is one, has an output path. -/
def Admits (d : ImportDirective) (path : String) : Prop :=
  ∀ allowed, d.docs = some allowed →
    ∃ a ∈ allowed, normalizeOutputPath a = normalizeOutputPath path

end ImportDirective

namespace PlacedDocument

theorem key_moved (d : ImportDirective) (p : PlacedDocument) :
    (p.moved d.pathPrefix).key = (p.key.1, d.output p.key.2) := by
  unfold ImportDirective.output
  cases d.pathPrefix with
  | none => rfl
  | some _ => simp only [key, moved]

theorem isListed_iff (d : ImportDirective) (p : PlacedDocument) :
    p.isListed d.docs = true ↔ d.Admits p.key.2 := by
  unfold isListed ImportDirective.Admits
  split
  · next h =>
    rw [h]
    exact ⟨fun _ => nofun, fun _ => rfl⟩
  · next allowed h =>
    simp only [h, List.any_eq_true, beq_iff_eq, Option.some.injEq, forall_eq']
    rfl

end PlacedDocument

/-! ## The operations of registries -/

namespace Registry

variable {r other : Registry} {d : ImportDirective} {o : DocumentOrigin} {path out : String}
  {raw : Declarations} {configId baseDir : String}

/-- The keys of the documents. -/
def documentKeys (r : Registry) : List (DocumentOrigin × String) :=
  r.documents.map PlacedDocument.key

@[simp] theorem documentKeys_empty : empty.documentKeys = [] := rfl

theorem mem_documentKeys_absorb {k : DocumentOrigin × String} :
    k ∈ (r.absorb other).documentKeys ↔ k ∈ r.documentKeys ∨ k ∈ other.documentKeys :=
  mem_keys_addAllNew

theorem mem_of_mem_absorb {p : PlacedDocument} (h : p ∈ (r.absorb other).documents) :
    p ∈ r.documents ∨ p ∈ other.documents :=
  mem_of_mem_addAllNew h

theorem nodup_documentKeys_absorb (other : Registry) (h : r.documentKeys.Nodup) :
    (r.absorb other).documentKeys.Nodup :=
  nodup_keys_addAllNew _ h

/-- A directive takes a document along under its prefix, if its list admits that. -/
theorem mem_documentKeys_select :
    (o, out) ∈ (r.select d).documentKeys ↔
      ∃ path, (o, path) ∈ r.documentKeys ∧ d.output path = out ∧ d.Admits out := by
  simp only [documentKeys, select, List.mem_map, List.mem_filter]
  constructor
  · rintro ⟨_, ⟨⟨p, hp, rfl⟩, hl⟩, hk⟩
    rw [PlacedDocument.isListed_iff] at hl
    rw [PlacedDocument.key_moved] at hl hk
    cases hk
    exact ⟨p.key.2, ⟨p, hp, rfl⟩, rfl, hl⟩
  · rintro ⟨path, ⟨p, hp, hk⟩, rfl, ha⟩
    have hkey := PlacedDocument.key_moved d p
    rw [hk] at hkey
    refine ⟨p.moved d.pathPrefix, ⟨⟨p, hp, rfl⟩, ?_⟩, hkey⟩
    rw [PlacedDocument.isListed_iff, hkey]
    exact ha

/-- A configuration declares the documents of its list, each at its index. -/
theorem mem_documentKeys_ofDeclarations :
    (o, path) ∈ (ofDeclarations raw configId baseDir).documentKeys ↔
      configId = o.configId ∧
        ∃ doc, raw.documents[o.index]? = some doc ∧ doc.outputPath = path := by
  obtain ⟨config, index⟩ := o
  simp only [documentKeys, ofDeclarations, List.mem_map, List.mem_zipIdx_iff_getElem?]
  constructor
  · rintro ⟨_, ⟨⟨doc, i⟩, hdoc, rfl⟩, hk⟩
    cases hk
    exact ⟨rfl, doc, hdoc, rfl⟩
  · rintro ⟨rfl, doc, hdoc, rfl⟩
    exact ⟨_, ⟨(doc, index), hdoc, rfl⟩, rfl⟩

end Registry

end ContextCompiler
