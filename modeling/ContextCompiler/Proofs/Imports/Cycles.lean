import ContextCompiler.Proofs.Imports.Run

/-!
Warnings of import cycles.

A run warns of a cycle exactly when the graph has one. A target on the branch closes a cycle, for
the branch is a way to the importer. The other way round, as long as no warning of a cycle was
given, what is kept imports only what is kept, so a cycle could not enter it; and in the end all
that can be reached is kept.
-/

namespace ContextCompiler

/-- Whether a warning tells of an import cycle. -/
def Warning.tellsOfCycle (w : Warning) : Prop :=
  Text.hasPrefix "import cycle detected" w.message = true

namespace ImportGraph

variable {g : ImportGraph} {n m root : ImportNode} {branch : List String} {arcs : List ImportArc}
  {acc acc' : Registry} {s s' : ResolverState}

/-! ## The wording of warnings -/

theorem tellsOfCycle_cycleWarning (importer target : String) :
    (cycleWarning importer target).tellsOfCycle := by
  simp [Warning.tellsOfCycle, cycleWarning, ImportWorld.warning, Text.hasPrefix,
    String.toList_append]

theorem not_tellsOfCycle_skipWarning (target : String) (e : Halt) :
    ¬ (skipWarning target e).tellsOfCycle := by
  simp [Warning.tellsOfCycle, skipWarning, ImportWorld.warning, Text.hasPrefix,
    String.toList_append]

/-- Directives that lead nowhere are not told of as cycles. -/
def StraysPlain (g : ImportGraph) : Prop :=
  ∀ n w, .error w ∈ g.arcs n → ¬ w.tellsOfCycle

/-- A record with a warning of a cycle. -/
def WarnsOfCycle (s : ResolverState) : Prop := ∃ w ∈ s.warnings, w.tellsOfCycle

theorem warnsOfCycle_warn {w : Warning} :
    WarnsOfCycle (s.warn w) ↔ WarnsOfCycle s ∨ w.tellsOfCycle := by
  unfold WarnsOfCycle ResolverState.warn
  simp only [List.mem_append, List.mem_singleton]
  constructor
  · rintro ⟨v, hv | rfl, hc⟩
    · exact .inl ⟨v, hv, hc⟩
    · exact .inr hc
  · rintro (⟨v, hv, hc⟩ | hc)
    · exact ⟨v, .inl hv, hc⟩
    · exact ⟨w, .inr rfl, hc⟩

/-- What is kept imports only what is kept, and is on no cycle. -/
structure Settled (g : ImportGraph) (root : ImportNode) (s : ResolverState) : Prop where
  closed : ∀ n m, g.Reach root n → s.Keeps n.id → g.Imports n m → s.Keeps m.id
  acyclic : ∀ n, g.Reach root n → s.Keeps n.id → ¬ Relation.TransGen g.Imports n n

namespace Settled

theorem start : g.Settled root .start :=
  ⟨fun _ _ _ h => absurd h (ResolverState.not_keeps rfl),
    fun _ _ h => absurd h (ResolverState.not_keeps rfl)⟩

theorem of_eq (h : g.Settled root s) (hr : s'.resolved = s.resolved) : g.Settled root s' := by
  constructor
  · intro n m hn hx hi
    rw [ResolverState.keeps_congr hr] at hx ⊢
    exact h.closed n m hn hx hi
  · intro n hn hx
    rw [ResolverState.keeps_congr hr] at hx
    exact h.acyclic n hn hx

/-- All that can be reached from what is kept is kept. -/
theorem keeps_of_reach (h : g.Settled root s) (hn : g.Reach root n) (hk : s.Keeps n.id)
    (hm : g.Reach n m) : s.Keeps m.id := by
  induction hm with
  | refl => exact hk
  | tail hnm hi ih => exact h.closed _ _ (hn.trans hnm) ih hi

/-- A configuration that is not kept, and imports only what is kept, is on no cycle. -/
theorem not_cycle (h : g.Settled root s) (hn : g.Reach root n) (hk : ¬ s.Keeps n.id)
    (hi : ∀ m, g.Imports n m → s.Keeps m.id) : ¬ Relation.TransGen g.Imports n n := by
  intro hc
  obtain ⟨m, hnm, hmn⟩ := Relation.TransGen.head'_iff.1 hc
  exact hk (h.keeps_of_reach (hn.step hnm) (hi m hnm) hmn)

/-- When the imports of a configuration are through, it can be kept. -/
theorem keep (h : g.Settled root s) (hg : g.Sound root) (hn : g.Reach root n)
    (hk : ¬ s.Keeps n.id) (hi : ∀ m, g.Imports n m → s.Keeps m.id) (r : Registry) :
    g.Settled root (s.keep n.id r) := by
  constructor
  · intro k m hkr hx him
    rw [ResolverState.keeps_keep] at hx ⊢
    rcases hx with hid | hx
    · cases hg.node_eq hkr hn hid
      exact .inr (hi m him)
    · exact .inr (h.closed k m hkr hx him)
  · intro k hkr hx
    rw [ResolverState.keeps_keep] at hx
    rcases hx with hid | hx
    · cases hg.node_eq hkr hn hid
      exact h.not_cycle hn hk hi
    · exact h.acyclic k hkr hx

end Settled

/-- A run without a warning of a cycle keeps all that the imports lead to. -/
theorem Folds.settled (h : g.Folds n branch arcs acc s acc' s') (hg : g.Sound root)
    (hn : g.Reach root n) (harcs : ∀ a ∈ arcs, a ∈ g.arcs n) (hw : ¬ WarnsOfCycle s')
    (hs : g.Settled root s) :
    g.Settled root s' ∧
      ∀ d t raw, .ok (d, t) ∈ arcs → g.answer t d = .ok raw → s'.Keeps t.id := by
  induction h with
  | done => exact ⟨hs, fun _ _ _ h => absurd h List.not_mem_nil⟩
  | stray _ ih =>
    obtain ⟨hs', hk⟩ := ih hn (fun a h => harcs a (List.mem_cons_of_mem _ h)) hw (hs.of_eq rfl)
    refine ⟨hs', fun d t raw hd ha => hk d t raw ?_ ha⟩
    exact (List.mem_cons.1 hd).resolve_left nofun
  | cycle _ hrest _ =>
    -- warnings stay, so the one of this cycle is still there in the end
    refine absurd ?_ hw
    obtain ⟨w, hmem, hc⟩ := warnsOfCycle_warn.2 (.inr (tellsOfCycle_cycleWarning _ _))
    exact ⟨w, hrest.grows.warnings.subset hmem, hc⟩
  | known _ hsub hrest ih =>
    obtain ⟨hs', hk⟩ := ih hn (fun a h => harcs a (List.mem_cons_of_mem _ h)) hw hs
    refine ⟨hs', fun d t raw hd ha => ?_⟩
    rcases List.mem_cons.1 hd with e | hd
    · cases e
      exact hrest.grows.keeps ⟨_, hsub⟩
    · exact hk d t raw hd ha
  | failed _ _ hl _ ih =>
    obtain ⟨-, hr, -, -⟩ := ask_error hl
    obtain ⟨hs', hk⟩ := ih hn (fun a h => harcs a (List.mem_cons_of_mem _ h)) hw (hs.of_eq hr)
    refine ⟨hs', fun d t raw hd ha => ?_⟩
    rcases List.mem_cons.1 hd with e | hd
    · cases e
      rw [hg.steady.answer_error hl] at ha
      cases ha
    · exact hk d t raw hd ha
  | @loaded n child _ _ _ _ _ _ _ s₁ s₂ s' _ hnone hl hsub hrest ih ih' =>
    have hi : g.Imports n child := ⟨_, harcs _ List.mem_cons_self, hg.steady.answer_ok hl⟩
    have hchild := hn.step hi
    have hw₂ : ¬ WarnsOfCycle s₂ := fun ⟨w, hmem, hc⟩ =>
      hw ⟨w, hrest.grows.warnings.subset hmem, hc⟩
    obtain ⟨hs₂, hk₂⟩ := ih hchild (fun _ h => h) hw₂ (hs.of_eq (ask_ok hl).2.1)
    -- the child is not kept before its own imports are, so it is on no cycle
    have hfresh := ResolverState.not_keeps (fresh_child hnone hl hsub)
    have himp : ∀ m, g.Imports child m → s₂.Keeps m.id := fun m ⟨d, hd, ha⟩ => hk₂ d _ _ hd ha
    obtain ⟨hs', hk⟩ := ih' hn (fun a h => harcs a (List.mem_cons_of_mem _ h)) hw
      (hs₂.keep hg hchild hfresh himp _)
    refine ⟨hs', fun d t raw hd ha => ?_⟩
    rcases List.mem_cons.1 hd with e | hd
    · cases e
      exact hrest.grows.keeps (ResolverState.keeps_keep.2 (.inl rfl))
    · exact hk d t raw hd ha

end ImportGraph

end ContextCompiler
