import Mathlib.Data.Countable.Basic
import Mathlib.Logic.Equiv.List
import ContextCompiler.Proofs.Except
import ContextCompiler.Proofs.Imports.Marks

/-!
Graphs of other declarations with the same imports.

What configurations declare is changed, but for the targets and the headers of their directives.
Then the same configurations are reached along the same ways. Over all such changes, that keeping
results changes nothing and that the graph is coherent come to the same: where the graph is not
coherent, marks tell a result that was kept from one that is worked out afresh.
-/

namespace ContextCompiler

/-- A change to what the configurations of each id declare. The targets and the headers of their
directives stay as they are. -/
structure Redeclaration where
  change : String → Declarations → Declarations
  imports : ∀ x raw, (change x raw).imports.map (fun d => (d.target, d.headers)) =
    raw.imports.map fun d => (d.target, d.headers)

namespace Redeclaration

/-- Configurations have one document each, under their marks. -/
def marks (number : String → Nat) : Redeclaration where
  change x raw :=
    { raw with
      imports := raw.imports.map fun d =>
        { d with pathPrefix := some (trail number [x]), docs := none }
      documents := [⟨"", trail number [x], true, [], [], []⟩] }
  imports x raw := by
    rw [List.map_map]
    rfl

end Redeclaration

namespace ImportNode

/-- The same configuration with other declarations. -/
def redeclare (n : ImportNode) (δ : Redeclaration) : ImportNode := ⟨n.place, δ.change n.id n.raw⟩

end ImportNode

namespace ImportGraph

variable {g : ImportGraph} {n m root : ImportNode} {δ : Redeclaration} {branch : List String}
  {d d' : ImportDirective} {t : ConfigPlace} {raw : Declarations}

/-- The same graph with other declarations. -/
def redeclare (g : ImportGraph) (δ : Redeclaration) : ImportGraph where
  targets := g.targets
  load t d := do pure (δ.change t.id (← g.load t d))
  baseDir := g.baseDir

/-- Where a directive leads is up to its target, and what is loaded for it to its headers. -/
structure Plain (g : ImportGraph) : Prop where
  targets : ∀ p d d', d.target = d'.target → g.targets p d = g.targets p d'
  load : ∀ t d d', d.headers = d'.headers → g.load t d = g.load t d'

theorem run_load_redeclare {traffic : Traffic} : (((g.redeclare δ).load t d).run traffic).1 =
    ((g.load t d).run traffic).1.map (δ.change t.id) :=
  Fetching.run_map _ _ _

theorem answer_redeclare :
    (g.redeclare δ).answer t d = (g.answer t d).map (δ.change t.id) :=
  run_load_redeclare

namespace Plain

theorem answer_eq (hp : g.Plain) (h : d.headers = d'.headers) : g.answer t d = g.answer t d' := by
  rw [answer, answer, hp.load t d d' h]

/-- Directives of the changed configuration are those of the old one, as far as imports go. -/
theorem exists_arc (hp : g.Plain) (h : .ok (d, t) ∈ (g.redeclare δ).arcs (n.redeclare δ)) :
    ∃ d', .ok (d', t) ∈ g.arcs n ∧ d'.headers = d.headers := by
  obtain ⟨hd, ts, hts, ht⟩ := mem_arcs_ok.1 h
  have hmem := List.mem_map_of_mem (f := fun d => (d.target, d.headers)) hd
  rw [ImportNode.redeclare, δ.imports] at hmem
  obtain ⟨d', hd', e⟩ := List.mem_map.1 hmem
  rw [Prod.mk.injEq] at e
  exact ⟨d', mem_arcs_ok.2 ⟨hd', ts, (hp.targets _ _ _ e.1).trans hts, ht⟩, e.2⟩

theorem exists_imports (hp : g.Plain) {m' : ImportNode}
    (h : (g.redeclare δ).Imports (n.redeclare δ) m') : ∃ m, g.Imports n m ∧ m' = m.redeclare δ := by
  obtain ⟨place, raw'⟩ := m'
  obtain ⟨d, hd, ha⟩ := h
  obtain ⟨d', hd', hheaders⟩ := hp.exists_arc hd
  rw [answer_redeclare, ← hp.answer_eq hheaders] at ha
  obtain ⟨raw, ha, hraw⟩ := except_map_eq_ok.1 ha
  exact ⟨⟨place, raw⟩, ⟨d', hd', ha⟩, congrArg (ImportNode.mk place) hraw.symm⟩

theorem exists_reach (hp : g.Plain) {m' : ImportNode}
    (h : (g.redeclare δ).Reach (n.redeclare δ) m') : ∃ m, g.Reach n m ∧ m' = m.redeclare δ := by
  induction h with
  | refl => exact ⟨n, .refl, rfl⟩
  | tail _ hi ih =>
    obtain ⟨m, hm, rfl⟩ := ih
    obtain ⟨k, hk, rfl⟩ := hp.exists_imports hi
    exact ⟨k, hm.step hk, rfl⟩

theorem exists_leads (hp : g.Plain) (h : (g.redeclare δ).Leads (root.redeclare δ) d t) :
    ∃ d', g.Leads root d' t ∧ d'.headers = d.headers := by
  obtain ⟨n', hn', hd⟩ := h
  obtain ⟨n, hn, rfl⟩ := hp.exists_reach hn'
  obtain ⟨d', hd', hheaders⟩ := hp.exists_arc hd
  exact ⟨d', ⟨n, hn, hd'⟩, hheaders⟩

end Plain

/-! ## The same graph for proofs -/

theorem Sound.redeclare (hg : g.Sound root) (hp : g.Plain) :
    (g.redeclare δ).Sound (root.redeclare δ) := by
  refine ⟨fun t d traffic => ?_, fun d d' t raw' hd hd' ha => ?_, fun d d' t t' hd hd' hid => ?_,
    fun d t hd hid => ?_⟩
  · rw [run_load_redeclare, hg.steady t d traffic, answer_redeclare]
  · obtain ⟨e, he, hheaders⟩ := hp.exists_leads hd
    obtain ⟨e', he', hheaders'⟩ := hp.exists_leads hd'
    rw [answer_redeclare, ← hp.answer_eq hheaders] at ha
    rw [answer_redeclare, ← hp.answer_eq hheaders']
    obtain ⟨raw, hraw, rfl⟩ := except_map_eq_ok.1 ha
    exact except_map_eq_ok.2 ⟨raw, hg.static e e' t raw he he' hraw, rfl⟩
  · obtain ⟨e, he, -⟩ := hp.exists_leads hd
    obtain ⟨e', he', -⟩ := hp.exists_leads hd'
    exact hg.place_eq e e' t t' he he' hid
  · obtain ⟨e, he, hheaders⟩ := hp.exists_leads hd
    obtain ⟨rfl, ha⟩ := hg.root_eq e t he hid
    rw [answer_redeclare, ← hp.answer_eq hheaders]
    exact ⟨rfl, except_map_eq_ok.2 ⟨root.raw, ha, rfl⟩⟩

theorem Bounded.redeclare (hb : g.Bounded root) (hp : g.Plain) :
    (g.redeclare δ).Bounded (root.redeclare δ) := by
  refine Set.Finite.subset hb ?_
  rintro _ ⟨n', hn', rfl⟩
  obtain ⟨n, hn, rfl⟩ := hp.exists_reach hn'
  exact ⟨n, hn, rfl⟩

end ImportGraph

end ContextCompiler
