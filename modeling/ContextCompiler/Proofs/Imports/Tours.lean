import ContextCompiler.Proofs.Imports.Afresh

/-!
Tours: ways on from a configuration that come to no id twice.

What can be reached off a branch can be reached by a tour, for a part of a way that comes back to
where it was can be left out. So where the tours of a configuration are the same off every way that
leads to it, the graph is coherent.
-/

namespace ContextCompiler

namespace ImportGraph

variable {g : ImportGraph} {n m k k' root : ImportNode} {branch : List String}
  {ids ids' : List String} {x : String}

/-- A tour off a branch, by the ids of the configurations that it comes to. -/
inductive Tour (g : ImportGraph) : List String → ImportNode → List String → ImportNode → Prop
  | here (branch : List String) (n : ImportNode) : Tour g branch n [n.id] n
  | through {branch : List String} {n m k : ImportNode} {ids : List String} :
      g.Imports n m → m.id ∉ branch → Tour g (m.id :: branch) m ids k →
      Tour g branch n (n.id :: ids) k

namespace Tour

theorem reach (h : g.Tour branch n ids k) : g.Reach n k := by
  induction h with
  | here => exact .refl
  | through hi _ _ ih => exact (Reach.refl.step hi).trans ih

/-- A tour starts with the configuration that it starts from. -/
theorem eq_cons (h : g.Tour branch n ids k) : ∃ rest, ids = n.id :: rest := by
  cases h with
  | here => exact ⟨[], rfl⟩
  | through _ _ _ => exact ⟨_, rfl⟩

/-- A tour goes on to what is neither on it nor on the branch. -/
theorem extend (h : g.Tour branch n ids k) (hi : g.Imports k m) (hb : m.id ∉ branch)
    (hids : m.id ∉ ids) : ∃ ids', g.Tour branch n ids' m := by
  induction h with
  | here branch n => exact ⟨_, .through hi hb (.here _ m)⟩
  | @through branch n l k ids hl hlb h ih =>
    have hne : m.id ≠ l.id := by
      obtain ⟨rest, rfl⟩ := h.eq_cons
      exact fun e => hids (e ▸ List.mem_cons_of_mem _ List.mem_cons_self)
    obtain ⟨ids', h'⟩ := ih hi (List.not_mem_cons_of_ne_of_not_mem hne hb)
      fun e => hids (List.mem_cons_of_mem _ e)
    exact ⟨_, .through hl hlb h'⟩

end Tour

end ImportGraph

end ContextCompiler
