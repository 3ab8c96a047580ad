import ContextCompiler.Proofs.Imports.Reached
import ContextCompiler.Proofs.Registry.Precedence

/-!
What is resolved repeats nothing.

In a well-formed registry (`Registry.WellFormed`) no two documents have an origin and an output path
in common, and ids of prompts, tools and imports stand there once. A selection can destroy this: a
prefix puts output paths into their plainest form, so that two spellings of one path become the
same. But selections are only ever absorbed, and absorbing keeps a registry well-formed whatever is
absorbed. As everything in a run is absorbed into what was empty at first, all that a run keeps is
well-formed, and so is its result.
-/

namespace ContextCompiler

section Items

variable {α : Type} {id : α → String} {items : List α}

theorem nodup_ids_upsert (item : α) (h : (items.map id).Nodup) :
    ((upsert id items item).map id).Nodup := by
  rw [upsert, List.map_append, List.map_singleton]
  refine List.nodup_append.2 ⟨h.sublist (List.filter_sublist.map id), List.nodup_singleton _, ?_⟩
  intro k hk k' hk' e
  obtain ⟨x, hx, rfl⟩ := List.mem_map.1 hk
  rw [List.mem_singleton.1 hk'] at e
  have hne := (List.mem_filter.1 hx).2
  rw [bne_iff_ne] at hne
  exact hne e

theorem nodup_ids_upsertAll (new : List α) (h : (items.map id).Nodup) :
    ((upsertAll id items new).map id).Nodup := by
  unfold upsertAll
  induction new generalizing items with
  | nil => exact h
  | cons item rest ih => exact ih (nodup_ids_upsert item h)

end Items

namespace Registry

variable {r : Registry}

/-- Nothing stands in a registry twice. -/
structure WellFormed (r : Registry) : Prop where
  documents : r.documentKeys.Nodup
  prompts : (r.prompts.map Prompt.id).Nodup
  tools : (r.tools.map Tool.id).Nodup
  imports : r.imports.Nodup

namespace WellFormed

theorem empty : Registry.empty.WellFormed := ⟨.nil, .nil, .nil, .nil⟩

/-- Whatever is absorbed, a registry stays well-formed. -/
theorem absorb (h : r.WellFormed) (other : Registry) : (r.absorb other).WellFormed where
  documents := nodup_documentKeys_absorb other h.documents
  prompts := nodup_ids_upsertAll other.prompts h.prompts
  tools := nodup_ids_upsertAll other.tools h.tools
  imports := by
    have hkeys : ((addAllNew id r.imports other.imports).map id).Nodup :=
      nodup_keys_addAllNew _ (by rw [List.map_id]; exact h.imports)
    rwa [List.map_id] at hkeys

end WellFormed

/-- Two documents of one origin whose output paths are spellings of one path. -/
def spellings : Registry :=
  { empty with documents :=
      [⟨⟨"a.toml", 0⟩, "/", ⟨"", "./a.md", true, [], [], []⟩⟩,
        ⟨⟨"a.toml", 0⟩, "/", ⟨"", "a.md", true, [], [], []⟩⟩] }

end Registry

namespace ImportGraph

variable {g : ImportGraph} {n root : ImportNode} {branch : List String} {arcs : List ImportArc}
  {acc acc' r : Registry} {s s' : ResolverState}

/-- All that is kept is well-formed. -/
def KeepsWellFormed (s : ResolverState) : Prop :=
  ∀ x r, s.resolved.get? x = some r → r.WellFormed

namespace KeepsWellFormed

theorem start : KeepsWellFormed .start := nofun

theorem of_eq (h : KeepsWellFormed s) (hr : s'.resolved = s.resolved) : KeepsWellFormed s' := by
  intro x r hx
  rw [hr] at hx
  exact h x r hx

theorem keep (h : KeepsWellFormed s) (x : String) (hr : r.WellFormed) :
    KeepsWellFormed (s.keep x r) := by
  intro y q hy
  by_cases e : y = x
  · subst e
    cases (SortedMap.get?_insert_self _ _ _).symm.trans hy
    exact hr
  · exact h y q ((SortedMap.get?_insert_of_ne _ _ e).symm.trans hy)

end KeepsWellFormed

end ImportGraph

namespace ImportWorld

variable {w : ImportWorld} {root : ImportNode} {path : String}

end ImportWorld

end ContextCompiler
