import ContextCompiler.Proofs.Imports.Graph

/-!
Runs of the resolver as derivations.

`Folds` has one rule for each thing that can happen to an import: it leads nowhere, it closes a
cycle, its target is known already, cannot be loaded, or is loaded and resolved. A result of the
resolver has such a derivation (`folds_of_resolveArcs`, `resolveArcs_of_folds`), and what holds of a
whole run is proved by induction on it. The first such facts are that the record of a run only
grows.
-/

namespace ContextCompiler

namespace ResolverState

/-- What the configuration of an id amounts to is kept. -/
def Keeps (s : ResolverState) (x : String) : Prop := ∃ r, s.resolved.get? x = some r

theorem keeps_keep {s : ResolverState} {x y : String} {r : Registry} :
    (s.keep x r).Keeps y ↔ y = x ∨ s.Keeps y := by
  unfold Keeps keep
  by_cases h : y = x
  · subst h
    exact ⟨fun _ => .inl rfl, fun _ => ⟨r, SortedMap.get?_insert_self _ _ _⟩⟩
  · rw [SortedMap.get?_insert_of_ne _ _ h]
    exact ⟨.inr, fun e => e.resolve_left h⟩

theorem keeps_congr {s s' : ResolverState} {x : String} (h : s'.resolved = s.resolved) :
    s'.Keeps x ↔ s.Keeps x := by
  unfold Keeps
  rw [h]

theorem not_keeps {s : ResolverState} {x : String} (h : s.resolved.get? x = none) :
    ¬ s.Keeps x := by
  rintro ⟨r, hr⟩
  rw [h] at hr
  cases hr

/-- What is known after a step of a run, seen from before it. -/
structure Grows (s s' : ResolverState) : Prop where
  warnings : s.warnings <+: s'.warnings
  resolved : ∀ x r, s.resolved.get? x = some r → s'.resolved.get? x = some r

namespace Grows

theorem keeps {s s' : ResolverState} {x : String} (h : s.Grows s') (hx : s.Keeps x) :
    s'.Keeps x := by
  obtain ⟨r, hr⟩ := hx
  exact ⟨r, h.resolved x r hr⟩

theorem refl (s : ResolverState) : s.Grows s := ⟨List.prefix_rfl, fun _ _ h => h⟩

theorem trans {s₁ s₂ s₃ : ResolverState} (h : s₁.Grows s₂) (h' : s₂.Grows s₃) : s₁.Grows s₃ :=
  ⟨h.warnings.trans h'.warnings, fun x r hx => h'.resolved x r (h.resolved x r hx)⟩

theorem warn (s : ResolverState) (w : Warning) : s.Grows (s.warn w) :=
  ⟨List.prefix_append _ _, fun _ _ h => h⟩

theorem keep {s : ResolverState} {x : String} (h : s.resolved.get? x = none) (r : Registry) :
    s.Grows (s.keep x r) := by
  refine ⟨List.prefix_rfl, fun y q hy => ?_⟩
  have hne : y ≠ x := fun e => by rw [e, h] at hy; cases hy
  exact (SortedMap.get?_insert_of_ne _ _ hne).trans hy

theorem of_eq {s s' : ResolverState} (hr : s'.resolved = s.resolved)
    (hw : s'.warnings = s.warnings) : s.Grows s' :=
  ⟨by rw [hw], fun x r h => by rw [hr]; exact h⟩

end Grows

end ResolverState

namespace ImportGraph

/-- Going through the imports `arcs` of `n` takes the registry `acc` and the record `s` to
`acc'` and `s'`, while the configurations of `branch` are being resolved. -/
inductive Folds (g : ImportGraph) : ImportNode → List String → List ImportArc →
    Registry → ResolverState → Registry → ResolverState → Prop
  | done {n : ImportNode} {branch : List String} {acc : Registry} {s : ResolverState} :
      Folds g n branch [] acc s acc s
  | stray {n : ImportNode} {branch : List String} {rest : List ImportArc} {w : Warning}
      {acc acc' : Registry} {s s' : ResolverState} :
      Folds g n branch rest acc (s.warn w) acc' s' →
      Folds g n branch (.error w :: rest) acc s acc' s'
  | cycle {n : ImportNode} {branch : List String} {rest : List ImportArc} {d : ImportDirective}
      {t : ConfigPlace} {acc acc' : Registry} {s s' : ResolverState} :
      t.id ∈ branch →
      Folds g n branch rest acc (s.warn (cycleWarning n.id t.id)) acc' s' →
      Folds g n branch (.ok (d, t) :: rest) acc s acc' s'
  | known {n : ImportNode} {branch : List String} {rest : List ImportArc} {d : ImportDirective}
      {t : ConfigPlace} {sub acc acc' : Registry} {s s' : ResolverState} :
      t.id ∉ branch → s.resolved.get? t.id = some sub →
      Folds g n branch rest (foldTarget acc sub t d) s acc' s' →
      Folds g n branch (.ok (d, t) :: rest) acc s acc' s'
  | failed {n : ImportNode} {branch : List String} {rest : List ImportArc} {d : ImportDirective}
      {t : ConfigPlace} {e : Halt} {acc acc' : Registry} {s s₁ s' : ResolverState} :
      t.id ∉ branch → s.resolved.get? t.id = none → g.ask t d s = (.error e, s₁) →
      Folds g n branch rest acc (s₁.warn (skipWarning t.id e)) acc' s' →
      Folds g n branch (.ok (d, t) :: rest) acc s acc' s'
  | loaded {n child : ImportNode} {branch : List String} {rest : List ImportArc}
      {d : ImportDirective} {acc imported acc' : Registry} {s s₁ s₂ s' : ResolverState} :
      child.id ∉ branch → s.resolved.get? child.id = none →
      g.ask child.place d s = (.ok child.raw, s₁) →
      Folds g child (child.id :: branch) (g.arcs child) .empty s₁ imported s₂ →
      Folds g n branch rest (foldTarget acc (imported.absorb (g.own child)) child.place d)
        (s₂.keep child.id (imported.absorb (g.own child))) acc' s' →
      Folds g n branch (.ok (d, child.place) :: rest) acc s acc' s'

variable {g : ImportGraph} {n root : ImportNode} {branch : List String} {arcs : List ImportArc}
  {acc acc' : Registry} {s s' s₁ : ResolverState} {d : ImportDirective} {t : ConfigPlace}
  {raw : Declarations} {e : Halt}

/-- What the resolver returns is the end of a derivation. -/
theorem folds_of_resolveArcs (h : g.resolveArcs n branch arcs acc s = some (acc', s')) :
    g.Folds n branch arcs acc s acc' s' := by
  refine resolveArcs.partial_correctness g
    (fun n branch arcs acc s r => g.Folds n branch arcs acc s r.1 r.2) ?_
    n branch arcs acc s (acc', s') h
  intro resolve ih n branch arcs acc s r hr
  split at hr
  · cases hr
    exact .done
  · exact .stray (ih _ _ _ _ _ _ hr)
  · next d t rest =>
    split at hr
    · next hb => exact .cycle hb (ih _ _ _ _ _ _ hr)
    · next hb =>
      split at hr
      · next hs => exact .known hb hs (ih _ _ _ _ _ _ hr)
      · next hs =>
        split at hr
        · next hl => exact .failed hb hs hl (ih _ _ _ _ _ _ hr)
        · next raw s₁ hl =>
          obtain ⟨⟨imported, s₂⟩, hsub, hrest⟩ := Option.bind_eq_some_iff.1 hr
          have hb : (ImportNode.mk t raw).id ∉ branch := hb
          exact .loaded hb hs hl (ih _ _ _ _ _ _ hsub) (ih _ _ _ _ _ _ hrest)

/-- A derivation ends with what the resolver returns. -/
theorem resolveArcs_of_folds (h : g.Folds n branch arcs acc s acc' s') :
    g.resolveArcs n branch arcs acc s = some (acc', s') := by
  induction h with
  | done => exact resolveArcs.eq_1 _ _ _ _ _
  | stray _ ih =>
    rw [resolveArcs.eq_2]
    exact ih
  | cycle hb _ ih =>
    rw [resolveArcs.eq_3, if_pos hb]
    exact ih
  | known hb hs _ ih =>
    rw [resolveArcs.eq_3, if_neg hb, hs]
    exact ih
  | failed hb hs hl _ ih =>
    rw [resolveArcs.eq_3, if_neg hb, hs, hl]
    exact ih
  | loaded hb hs hl _ _ ih ih' =>
    rw [ImportNode.id] at hb hs
    rw [resolveArcs.eq_3, if_neg hb, hs, hl]
    exact Option.bind_eq_some_iff.2 ⟨_, ih, ih'⟩

/-- What a root amounts to comes from a derivation over its imports. -/
theorem folds_of_resolveRoot {r : Registry} (h : g.resolveRoot root = some (r, s')) :
    ∃ imported, g.Folds root [root.id] (g.arcs root) .empty .start imported s' ∧
      r = imported.absorb (g.own root) := by
  obtain ⟨⟨imported, s⟩, hi, hr⟩ := Option.bind_eq_some_iff.1 h
  cases hr
  exact ⟨imported, folds_of_resolveArcs hi, rfl⟩

theorem resolveRoot_of_folds {imported : Registry}
    (h : g.Folds root [root.id] (g.arcs root) .empty .start imported s') :
    g.resolveRoot root = some (imported.absorb (g.own root), s') :=
  Option.bind_eq_some_iff.2 ⟨_, resolveArcs_of_folds h, rfl⟩

/-! ## Asking -/

theorem ask_ok (h : g.ask t d s = (.ok raw, s₁)) :
    ((g.load t d).run s.traffic).1 = .ok raw ∧ s₁.resolved = s.resolved ∧
      s₁.warnings = s.warnings ∧ s₁.loaded = s.loaded ++ [t.id] := by
  unfold ask at h
  split at h
  · next hl =>
    cases h
    exact ⟨by rw [hl], rfl, rfl, rfl⟩
  · cases h

theorem ask_error (h : g.ask t d s = (.error e, s₁)) :
    ((g.load t d).run s.traffic).1 = .error e ∧ s₁.resolved = s.resolved ∧
      s₁.warnings = s.warnings ∧ s₁.loaded = s.loaded := by
  unfold ask at h
  split at h
  · cases h
  · next hl =>
    cases h
    exact ⟨by rw [hl], rfl, rfl, rfl⟩

namespace Steady

theorem answer_ok (hg : g.Steady) (h : g.ask t d s = (.ok raw, s₁)) : g.answer t d = .ok raw := by
  rw [← hg t d s.traffic]
  exact (ask_ok h).1

theorem answer_error (hg : g.Steady) (h : g.ask t d s = (.error e, s₁)) :
    g.answer t d = .error e := by
  rw [← hg t d s.traffic]
  exact (ask_error h).1

end Steady

/-! ## The record only grows -/

namespace Folds

/-- What is being resolved is not kept before its own imports are through. -/
theorem fresh {x : String} (h : g.Folds n branch arcs acc s acc' s') (hx : x ∈ branch)
    (hs : s.resolved.get? x = none) : s'.resolved.get? x = none := by
  induction h with
  | done => exact hs
  | stray _ ih => exact ih hx hs
  | cycle _ _ ih => exact ih hx hs
  | known _ _ _ ih => exact ih hx hs
  | failed _ _ hl _ ih => exact ih hx (by rw [ResolverState.warn, (ask_error hl).2.1]; exact hs)
  | @loaded _ child _ _ _ _ _ _ _ _ _ _ hb _ hl _ _ ih ih' =>
    have hsub := ih (List.mem_cons_of_mem _ hx) (by rw [(ask_ok hl).2.1]; exact hs)
    refine ih' hx ?_
    have hne : x ≠ child.id := fun e => hb (e ▸ hx)
    exact (SortedMap.get?_insert_of_ne _ _ hne).trans hsub

theorem fresh_child {child : ImportNode} {imported : Registry} {s₂ : ResolverState}
    (hs : s.resolved.get? child.id = none) (hl : g.ask child.place d s = (.ok raw, s₁))
    (h : g.Folds child (child.id :: branch) arcs acc s₁ imported s₂) :
    s₂.resolved.get? child.id = none :=
  h.fresh List.mem_cons_self (by rw [(ask_ok hl).2.1]; exact hs)

theorem grows (h : g.Folds n branch arcs acc s acc' s') : s.Grows s' := by
  induction h with
  | done => exact .refl _
  | stray _ ih => exact (ResolverState.Grows.warn _ _).trans ih
  | cycle _ _ ih => exact (ResolverState.Grows.warn _ _).trans ih
  | known _ _ _ ih => exact ih
  | failed _ _ hl _ ih =>
    obtain ⟨-, hr, hw, -⟩ := ask_error hl
    exact (ResolverState.Grows.of_eq hr hw).trans ((ResolverState.Grows.warn _ _).trans ih)
  | loaded _ hs hl hsub _ ih ih' =>
    obtain ⟨-, hr, hw, -⟩ := ask_ok hl
    have hfresh := fresh_child hs hl hsub
    have hkeep := ResolverState.Grows.keep hfresh
    exact (ResolverState.Grows.of_eq hr hw).trans (ih.trans ((hkeep _).trans ih'))

end Folds

end ImportGraph

end ContextCompiler
