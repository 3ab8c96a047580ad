import Mathlib.Logic.Relation
import Mathlib.Data.Set.Finite.Basic
import ContextCompiler.Imports.Resolve

/-!
The graph of the configurations that can be reached from a root.

A configuration imports another when one of its directives leads to the place of the other, and the
other loads. What can be reached from a root along such imports does not depend on how the graph is
gone through. Proofs about a run ask of the graph that what is answered does not depend on the
requests made before, and that an id stands for one place and one content (`Sound`); that the run
ends needs that only finitely many ids can be reached (`Bounded`).
-/

namespace ContextCompiler

namespace Fetching

/-- The result of work can be changed afterwards. -/
theorem run_map {α β : Type} (work : Fetching α) (f : α → β) (traffic : Traffic) :
    ((work >>= fun a => pure (f a)).run traffic).1 = (work.run traffic).1.map f := by
  simp only [bind, ExceptT.bind, ExceptT.run, ExceptT.mk, ExceptT.bindCont, StateT.bind]
  rcases work traffic with ⟨_ | a, traffic'⟩ <;> rfl

end Fetching

namespace ImportGraph

variable {g : ImportGraph} {root n m : ImportNode} {d d' : ImportDirective}
  {t t' : ConfigPlace} {raw : Declarations} {branch : List String}

/-! ## Definitions -/

/-- What is answered when the configuration at a place is asked for first. -/
def answer (g : ImportGraph) (target : ConfigPlace) (directive : ImportDirective) :
    Except Halt Declarations :=
  ((g.load target directive).run .none).1

/-- `n` imports `m`: a directive of `n` leads to the place of `m`, and `m` loads. -/
def Imports (g : ImportGraph) (n m : ImportNode) : Prop :=
  ∃ d, .ok (d, m.place) ∈ g.arcs n ∧ g.answer m.place d = .ok m.raw

/-- `n` can be reached from `root` through configurations that load. -/
def Reach (g : ImportGraph) (root n : ImportNode) : Prop :=
  Relation.ReflTransGen g.Imports root n

/-- A directive of a configuration that can be reached leads to `t`. -/
def Leads (g : ImportGraph) (root : ImportNode) (d : ImportDirective) (t : ConfigPlace) : Prop :=
  ∃ n, g.Reach root n ∧ .ok (d, t) ∈ g.arcs n

/-- Every file and every URL yields the same whatever headers are sent: of two directives that
lead to a place, both load it with the same content or none does. -/
def Static (g : ImportGraph) (root : ImportNode) : Prop :=
  ∀ d d' t raw, g.Leads root d t → g.Leads root d' t →
    g.answer t d = .ok raw → g.answer t d' = .ok raw

/-- The answers of a graph do not depend on the requests made before. -/
def Steady (g : ImportGraph) : Prop :=
  ∀ t d traffic, ((g.load t d).run traffic).1 = g.answer t d

/-- The ids of only finitely many configurations can be reached. -/
def Bounded (g : ImportGraph) (root : ImportNode) : Prop :=
  {x | ∃ n, g.Reach root n ∧ n.id = x}.Finite

/-- What proofs about the runs from a root ask of a graph. -/
structure Sound (g : ImportGraph) (root : ImportNode) : Prop where
  steady : g.Steady
  static : g.Static root
  /-- Of the places that directives lead to, each has an id of its own. -/
  place_eq : ∀ d d' t t', g.Leads root d t → g.Leads root d' t' → t.id = t'.id → t = t'
  /-- A directive that leads to the id of the root loads the root. -/
  root_eq : ∀ d t, g.Leads root d t → t.id = root.id →
    t = root.place ∧ g.answer t d = .ok root.raw

/-! ## Imports of one configuration -/

theorem mem_arcs {a : ImportArc} :
    a ∈ g.arcs n ↔ ∃ d ∈ n.raw.imports,
      (∃ w, g.targets n.place d = .error w ∧ a = .error w) ∨
        ∃ ts, g.targets n.place d = .ok ts ∧ ∃ t ∈ ts, a = .ok (d, t) := by
  unfold arcs
  rw [List.mem_flatMap]
  refine exists_congr fun d => and_congr_right fun _ => ?_
  cases g.targets n.place d with
  | error w => simp
  | ok ts => simp [eq_comm]

theorem mem_arcs_ok : .ok (d, t) ∈ g.arcs n ↔
    d ∈ n.raw.imports ∧ ∃ ts, g.targets n.place d = .ok ts ∧ t ∈ ts := by
  rw [mem_arcs]
  constructor
  · rintro ⟨d', hd, ⟨w, -, e⟩ | ⟨ts, hts, t', ht, e⟩⟩
    · cases e
    · cases e
      exact ⟨hd, ts, hts, ht⟩
  · rintro ⟨hd, ts, hts, ht⟩
    exact ⟨d, hd, .inr ⟨ts, hts, t, ht, rfl⟩⟩

namespace Reach

theorem refl : g.Reach root root := Relation.ReflTransGen.refl

theorem step (h : g.Reach root n) (hm : g.Imports n m) : g.Reach root m :=
  Relation.ReflTransGen.tail h hm

theorem trans (h : g.Reach root n) (hm : g.Reach n m) : g.Reach root m :=
  Relation.ReflTransGen.trans h hm

/-- What can be reached is the root, or loads by a directive that leads to it. -/
theorem eq_or_leads (h : g.Reach root n) :
    n = root ∨ ∃ d, g.Leads root d n.place ∧ g.answer n.place d = .ok n.raw := by
  rcases Relation.ReflTransGen.cases_tail h with h | ⟨m, hm, d, hd, ha⟩
  · exact .inl h
  · exact .inr ⟨d, ⟨m, hm, hd⟩, ha⟩

theorem leads (h : g.Reach root n) (hd : .ok (d, t) ∈ g.arcs n) : g.Leads root d t := ⟨n, h, hd⟩

end Reach

/-! ## Sound graphs -/

namespace Sound

/-- A target with the id of a configuration that can be reached is that configuration. -/
theorem target_eq (h : g.Sound root) (hd : g.Leads root d t) (hn : g.Reach root n)
    (hid : t.id = n.id) : t = n.place ∧ g.answer t d = .ok n.raw := by
  rcases hn.eq_or_leads with rfl | ⟨d', hd', ha⟩
  · exact h.root_eq d t hd hid
  · have ht : t = n.place := h.place_eq d d' t n.place hd hd' hid
    subst ht
    exact ⟨rfl, h.static d' d n.place n.raw hd' hd ha⟩

/-- Configurations that can be reached are told apart by their ids. -/
theorem node_eq (h : g.Sound root) (hn : g.Reach root n) (hm : g.Reach root m)
    (hid : n.id = m.id) : n = m := by
  rcases hn.eq_or_leads with rfl | ⟨d, hd, ha⟩
  · rcases hm.eq_or_leads with rfl | ⟨d, hd, ha⟩
    · rfl
    · obtain ⟨hp, hr⟩ := h.root_eq d m.place hd hid.symm
      rw [ha] at hr
      cases m
      cases hp
      cases hr
      rfl
  · obtain ⟨hp, hr⟩ := h.target_eq hd hm hid
    rw [ha] at hr
    cases n
    cases hp
    cases hr
    rfl

end Sound

/-! ## Branches -/

/-- The ids of a branch belong to configurations from which `n` can be reached. -/
def LeadsTo (g : ImportGraph) (root : ImportNode) (branch : List String) (n : ImportNode) : Prop :=
  ∀ x ∈ branch, ∃ m, g.Reach root m ∧ m.id = x ∧ g.Reach m n

namespace LeadsTo

theorem start : g.LeadsTo root [root.id] root := fun _ hx =>
  ⟨root, .refl, (List.mem_singleton.1 hx).symm, .refl⟩

theorem trans (h : g.LeadsTo root branch n) (hm : g.Reach n m) : g.LeadsTo root branch m := by
  intro x hx
  obtain ⟨k, hk, hid, hkn⟩ := h x hx
  exact ⟨k, hk, hid, hkn.trans hm⟩

theorem cons (h : g.LeadsTo root branch n) (hn : g.Reach root n) (hi : g.Imports n m) :
    g.LeadsTo root (m.id :: branch) m := by
  intro x hx
  rcases List.mem_cons.1 hx with rfl | hx
  · exact ⟨m, hn.step hi, rfl, .refl⟩
  · exact h.trans (.step .refl hi) x hx

end LeadsTo

end ImportGraph

end ContextCompiler
