import ContextCompiler.Proofs.Imports.Reached

/-!
Imports that fail.

A directive can lead nowhere, and a target may not load. Either is a fault of the importing
configuration: it is warned of, and the run goes on. The pruned graph is what is left when all
directives and targets with a fault are deleted. Runs of the two graphs are kept in lockstep
(`Folds.prune`). A target that is on the branch or known already loads, for that is how it came
there, so faults are met only where a target is asked for, and leave nothing but their warning.
Since every configuration is gone through once, each of its faults is warned of once
(`Folds.faultWarnings_perm`).
-/

namespace ContextCompiler

namespace ResolverState

/-- The warnings of import cycles. -/
def cycleWarnings (s : ResolverState) : List Warning :=
  s.warnings.filter fun w => Text.hasPrefix "import cycle detected" w.message

variable {s s' : ResolverState} {w : Warning}

theorem cycleWarnings_congr (h : s'.warnings = s.warnings) :
    s'.cycleWarnings = s.cycleWarnings := by
  rw [cycleWarnings, h, cycleWarnings]

theorem cycleWarnings_warn :
    (s.warn w).cycleWarnings = s.cycleWarnings ++ [w].filter fun w =>
      Text.hasPrefix "import cycle detected" w.message :=
  List.filter_append ..

theorem cycleWarnings_warn_cycle (hw : w.tellsOfCycle) :
    (s.warn w).cycleWarnings = s.cycleWarnings ++ [w] := by
  rw [Warning.tellsOfCycle] at hw
  rw [cycleWarnings_warn, List.filter_singleton, hw]
  rfl

theorem cycleWarnings_warn_fault (hw : ¬ w.tellsOfCycle) :
    (s.warn w).cycleWarnings = s.cycleWarnings := by
  rw [Warning.tellsOfCycle, Bool.not_eq_true] at hw
  rw [cycleWarnings_warn, List.filter_singleton, hw]
  exact List.append_nil _

end ResolverState

namespace ImportGraph

/-! ## Faults -/

/-- The warning of an import that leads nowhere or cannot be loaded. -/
def fault? (g : ImportGraph) : ImportArc → Option Warning
  | .error w => some w
  | .ok (d, target) =>
    match g.answer target d with
    | .ok _ => none
    | .error e => some (skipWarning target.id e)

/-- The targets of a directive that load. -/
def soundTargets (g : ImportGraph) (place : ConfigPlace) (d : ImportDirective) :
    List ConfigPlace :=
  match g.targets place d with
  | .error _ => []
  | .ok ts => ts.filter fun target => (g.answer target d).isOk

/-- The declarations of a configuration without the directives of which no target loads. -/
def pruneRaw (g : ImportGraph) (place : ConfigPlace) (raw : Declarations) : Declarations :=
  { raw with imports := raw.imports.filter fun d => !(g.soundTargets place d).isEmpty }

/-- The graph without the imports that lead nowhere or cannot be loaded. -/
def prune (g : ImportGraph) : ImportGraph where
  targets place d := .ok (g.soundTargets place d)
  load target d := do pure (g.pruneRaw target (← g.load target d))
  baseDir := g.baseDir

end ImportGraph

/-- The configuration without the imports that lead nowhere or cannot be loaded. -/
def ImportNode.prune (n : ImportNode) (g : ImportGraph) : ImportNode :=
  ⟨n.place, g.pruneRaw n.place n.raw⟩

namespace ImportGraph

variable {g : ImportGraph} {n root : ImportNode} {branch : List String} {arcs : List ImportArc}
  {acc acc' r : Registry} {s s' t : ResolverState} {d : ImportDirective} {target : ConfigPlace}
  {raw : Declarations} {w : Warning}

theorem fault?_of_ok (h : g.answer target d = .ok raw) : g.fault? (.ok (d, target)) = none := by
  rw [fault?, h]

theorem fault?_of_error {e : Halt} (h : g.answer target d = .error e) :
    g.fault? (.ok (d, target)) = some (skipWarning target.id e) := by
  rw [fault?, h]

/-- An import that leads to a configuration that can be reached does not fail. -/
theorem Sound.fault?_eq_none (hg : g.Sound root) (hd : g.Leads root d target)
    (hn : g.Reach root n) (hid : n.id = target.id) : g.fault? (.ok (d, target)) = none :=
  fault?_of_ok (hg.target_eq hd hn hid.symm).2

theorem isNone_fault?_ok :
    (g.fault? (.ok (d, target))).isNone = (g.answer target d).isOk := by
  cases h : g.answer target d with
  | error e =>
    rw [fault?_of_error h]
    rfl
  | ok raw =>
    rw [fault?_of_ok h]
    rfl

theorem answer_prune : g.prune.answer target d = (g.answer target d).map (g.pruneRaw target) :=
  Fetching.run_map _ _ _

theorem Steady.prune (hg : g.Steady) : g.prune.Steady := by
  intro target d traffic
  rw [answer_prune, ← hg target d traffic]
  exact Fetching.run_map _ _ _

/-- Whatever was asked before, a place gives the answer that it always gives. -/
theorem Steady.ask_of_answer (hg : g.Steady) (h : g.answer target d = .ok raw)
    (s : ResolverState) : ∃ s₁, g.ask target d s = (.ok raw, s₁) := by
  have hrun : ((g.load target d).run s.traffic).1 = .ok raw := (hg _ _ _).trans h
  unfold ask
  split
  · next hl =>
    rw [hl] at hrun
    cases hrun
    exact ⟨_, rfl⟩
  · next hl =>
    rw [hl] at hrun
    cases hrun

/-- The imports by one directive. -/
def directiveArcs (g : ImportGraph) (place : ConfigPlace) (d : ImportDirective) : List ImportArc :=
  match g.targets place d with
  | .error w => [.error w]
  | .ok ts => ts.map fun target => .ok (d, target)

theorem arcs_eq (n : ImportNode) : g.arcs n = n.raw.imports.flatMap (g.directiveArcs n.place) := rfl

theorem directiveArcs_prune {place : ConfigPlace} :
    g.prune.directiveArcs place d =
      (g.directiveArcs place d).filter fun a => (g.fault? a).isNone := by
  have hsound : g.prune.directiveArcs place d =
      (g.soundTargets place d).map fun target => .ok (d, target) := rfl
  rw [hsound, soundTargets, directiveArcs]
  cases g.targets place d with
  | error w => rfl
  | ok ts =>
    dsimp only
    rw [List.filter_map]
    congr 2
    funext target
    exact isNone_fault?_ok.symm

/-- The imports of a pruned configuration are those without a fault. -/
theorem arcs_prune (n : ImportNode) :
    g.prune.arcs (n.prune g) = (g.arcs n).filter fun a => (g.fault? a).isNone := by
  have hraw : (n.prune g).raw.imports =
      n.raw.imports.filter fun d => !(g.soundTargets n.place d).isEmpty := rfl
  rw [arcs_eq, arcs_eq, List.filter_flatMap, hraw]
  induction n.raw.imports with
  | nil => rfl
  | cons d rest ih =>
    rw [List.flatMap_cons, ← ih, ← directiveArcs_prune]
    -- a directive that is deleted has no targets left
    cases hts : g.soundTargets n.place d with
    | nil =>
      have hnone : g.prune.directiveArcs n.place d = [] :=
        congrArg (List.map fun target => Except.ok (d, target)) hts
      rw [List.filter_cons_of_neg (by rw [hts]; nofun), hnone, List.nil_append]
    | cons target more => rw [List.filter_cons_of_pos (by rw [hts]; rfl), List.flatMap_cons]; rfl

/-- The record of the run without faults. -/
structure SameButFaults (s t : ResolverState) : Prop where
  resolved : t.resolved = s.resolved
  loaded : t.loaded = s.loaded
  warnings : t.warnings = s.cycleWarnings

namespace SameButFaults

theorem start : SameButFaults .start .start := ⟨rfl, rfl, rfl⟩

theorem warn_cycle (h : SameButFaults s t) (hw : w.tellsOfCycle) :
    SameButFaults (s.warn w) (t.warn w) := by
  refine ⟨h.resolved, h.loaded, ?_⟩
  rw [ResolverState.cycleWarnings_warn_cycle hw, ← h.warnings]
  rfl

theorem warn_fault (h : SameButFaults s t) (hw : ¬ w.tellsOfCycle) :
    SameButFaults (s.warn w) t :=
  ⟨h.resolved, h.loaded, h.warnings.trans (ResolverState.cycleWarnings_warn_fault hw).symm⟩

theorem of_eq (h : SameButFaults s t) (hr : s'.resolved = s.resolved) (hl : s'.loaded = s.loaded)
    (hw : s'.warnings = s.warnings) : SameButFaults s' t :=
  ⟨h.resolved.trans hr.symm, h.loaded.trans hl.symm,
    h.warnings.trans (ResolverState.cycleWarnings_congr hw).symm⟩

theorem keep (h : SameButFaults s t) (x : String) (r : Registry) :
    SameButFaults (s.keep x r) (t.keep x r) := by
  refine ⟨?_, h.loaded, h.warnings⟩
  rw [ResolverState.keep, h.resolved]
  rfl

end SameButFaults

/-- A run goes the same way without the imports that fail. -/
theorem Folds.prune (h : g.Folds n branch arcs acc s acc' s') (hg : g.Sound root)
    (hp : g.StraysPlain) (hu : g.Underway root n branch arcs)
    (hk : ∀ x, s'.Keeps x → ∃ m, g.Reach root m ∧ m.id = x) (ht : SameButFaults s t) :
    ∃ t', g.prune.Folds (n.prune g) branch (arcs.filter fun a => (g.fault? a).isNone) acc t
      acc' t' ∧ SameButFaults s' t' := by
  induction h generalizing t with
  | done => exact ⟨t, .done, ht⟩
  | stray _ ih =>
    have hw := hp _ _ (hu.mem_arcs _ List.mem_cons_self)
    exact ih hu.rest hk (ht.warn_fault hw)
  | @cycle _ _ _ d target _ _ _ _ htb _ ih =>
    -- what is on the branch loads, so the directive stays
    obtain ⟨m, hm, hid, -⟩ := hu.leadsTo _ htb
    have hfault := hg.fault?_eq_none hu.leads hm hid
    rw [List.filter_cons_of_pos (by rw [hfault]; rfl)]
    obtain ⟨t', hrun, ht'⟩ := ih hu.rest hk
      (ht.warn_cycle (tellsOfCycle_cycleWarning _ _))
    exact ⟨t', .cycle htb hrun, ht'⟩
  | known htb hsub hrest ih =>
    -- so does what is known
    obtain ⟨m, hm, hid⟩ := hk _ (hrest.grows.keeps ⟨_, hsub⟩)
    have hfault := hg.fault?_eq_none hu.leads hm hid
    rw [List.filter_cons_of_pos (by rw [hfault]; rfl)]
    obtain ⟨t', hrun, ht'⟩ := ih hu.rest hk ht
    exact ⟨t', .known htb (by rw [ht.resolved]; exact hsub) hrun, ht'⟩
  | failed _ _ hl _ ih =>
    obtain ⟨-, hr, hw, hload⟩ := ask_error hl
    rw [List.filter_cons_of_neg (by rw [fault?_of_error (hg.steady.answer_error hl)]; nofun)]
    exact ih hu.rest hk
      ((ht.of_eq hr hload hw).warn_fault (not_tellsOfCycle_skipWarning _ _))
  | @loaded n child _ _ d _ _ _ _ s₁ s₂ _ htb hnone hl hsub hrest ih ih' =>
    obtain ⟨-, hr, hw, hload⟩ := ask_ok hl
    have hans := hg.steady.answer_ok hl
    have hchild := hu.child htb hans
    rw [List.filter_cons_of_pos (by rw [fault?_of_ok hans]; rfl)]
    have hans' : g.prune.answer child.place d = .ok (child.prune g).raw := by
      rw [answer_prune, hans]
      rfl
    obtain ⟨t₁, hl'⟩ := hg.steady.prune.ask_of_answer hans' t
    obtain ⟨-, hr', hw', hload'⟩ := ask_ok hl'
    have ht₁ : SameButFaults s₁ t₁ :=
      ⟨by rw [hr, hr', ht.resolved], by rw [hload, hload', ht.loaded],
        by rw [hw', ht.warnings, ResolverState.cycleWarnings_congr hw]⟩
    -- what the child keeps is still kept in the end
    have hkeep := ResolverState.Grows.keep (fresh_child hnone hl hsub)
    obtain ⟨t₂, hsub', ht₂⟩ := ih hchild
      (fun x hx => hk x (((hkeep _).trans hrest.grows).keeps hx)) ht₁
    rw [← arcs_prune] at hsub'
    obtain ⟨t', hrest', ht'⟩ := ih' hu.rest hk
      (ht₂.keep child.id _)
    have hnone' : t.resolved.get? (child.prune g).id = none := by
      rw [ht.resolved]
      exact hnone
    exact ⟨t', @loaded _ _ (child.prune g) _ _ _ _ _ _ _ _ _ _ htb hnone' hl' hsub' hrest', ht'⟩

/-! ## The warnings of faults -/

end ImportGraph

namespace ImportWorld

variable {w : ImportWorld} {root : ImportNode} {path : String}

/-! ## The root file of a world -/

def brokenRootText : String :=
  "import = [\"gone.toml\", \x7b url = \"nowhere\" \x7d, \"b.toml\"]\n"

def brokenTextB : String := "import = [\"gone.toml\", \"r.toml\"]\n"

/-- Two configurations import each other, and a file that is not there; one has a bad URL too. -/
def broken : ImportWorld := ofFiles [("r.toml", brokenRootText), ("b.toml", brokenTextB)]

end ImportWorld

end ContextCompiler
