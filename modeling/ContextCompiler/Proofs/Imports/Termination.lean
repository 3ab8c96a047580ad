import Mathlib.Data.Finset.Card
import Mathlib.Data.Set.Finite.Basic
import ContextCompiler.Proofs.Imports.Run

/-!
Resolving ends, and loads each configuration once.

Every configuration that is entered is one more id on the branch, and only ids that can be reached
are entered, so the number of those that are not on the branch goes down. What was loaded is on the
branch or kept, and neither is loaded again.
-/

namespace ContextCompiler

namespace ImportGraph

variable {g : ImportGraph} {n root : ImportNode} {branch : List String} {arcs : List ImportArc}
  {acc acc' : Registry} {s s' : ResolverState} {ids : Finset String} {x top : String}

/-! ## The end of a run -/

/-- How many of some ids are not on a branch. -/
def remaining (ids : Finset String) (branch : List String) : Nat :=
  (ids.filter (· ∉ branch)).card

/-- No id was loaded twice, the root was not loaded, and what was loaded is being resolved or
kept. -/
structure Accounted (top : String) (branch : List String) (s : ResolverState) : Prop where
  nodup : s.loaded.Nodup
  top_not_mem : top ∉ s.loaded
  mem : ∀ x ∈ s.loaded, x ∈ branch ∨ s.Keeps x

namespace Accounted

theorem start (top : String) (branch : List String) : Accounted top branch .start :=
  ⟨List.nodup_nil, List.not_mem_nil, fun _ h => absurd h List.not_mem_nil⟩

theorem of_eq (h : Accounted top branch s) (hl : s'.loaded = s.loaded)
    (hr : s'.resolved = s.resolved) : Accounted top branch s' := by
  constructor
  · rw [hl]
    exact h.nodup
  · rw [hl]
    exact h.top_not_mem
  · intro y hy
    rw [hl] at hy
    exact (h.mem y hy).imp_right (ResolverState.keeps_congr hr).2

theorem load (h : Accounted top branch s) (htop : top ∈ branch) (hx : x ∉ branch)
    (hs : s.resolved.get? x = none) (hl : s'.loaded = s.loaded ++ [x])
    (hr : s'.resolved = s.resolved) : Accounted top (x :: branch) s' := by
  have hnew : x ∉ s.loaded := by
    intro hmem
    rcases h.mem x hmem with hb | hk
    · exact hx hb
    · exact ResolverState.not_keeps hs hk
  constructor
  · rw [hl]
    exact List.nodup_append.2 ⟨h.nodup, List.nodup_singleton x, fun y hy z hz e => by
      rw [List.mem_singleton] at hz
      exact hnew (hz ▸ e ▸ hy)⟩
  · rw [hl, List.mem_append, List.mem_singleton, not_or]
    exact ⟨h.top_not_mem, fun e => hx (e ▸ htop)⟩
  · intro y hy
    rw [hl, List.mem_append, List.mem_singleton] at hy
    rcases hy with hy | rfl
    · exact (h.mem y hy).imp (List.mem_cons_of_mem _) (ResolverState.keeps_congr hr).2
    · exact .inl List.mem_cons_self

theorem keep (h : Accounted top (x :: branch) s) (r : Registry) :
    Accounted top branch (s.keep x r) := by
  refine ⟨h.nodup, h.top_not_mem, fun y hy => ?_⟩
  rw [ResolverState.keeps_keep]
  rcases h.mem y hy with hb | hk
  · exact (List.mem_cons.1 hb).elim (fun e => .inr (.inl e)) .inl
  · exact .inr (.inr hk)

end Accounted

end ImportGraph

end ContextCompiler
