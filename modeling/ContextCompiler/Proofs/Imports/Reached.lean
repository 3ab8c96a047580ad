import ContextCompiler.Proofs.Imports.Documents
import ContextCompiler.Proofs.Imports.ResolveFile

/-!
What a run comes to is what can be reached.

A target that is on the branch is skipped, and what is kept of a configuration may lack what was
being resolved by then. Nothing is lost by this in the end. What is kept leads only to what is kept
or on the branch (`Closed`), so that after a run everything that can be reached is kept. Each
configuration was loaded by an importer that was on the branch, and what an importer is given
comes along to the root (`Carried`). The other way round, registries hold nothing of configurations
that are not kept (`Holds`).
-/

namespace ContextCompiler

namespace ImportGraph

variable {g : ImportGraph} {n m root : ImportNode} {branch : List String} {arcs : List ImportArc}
  {acc acc' r sub : Registry} {s s' : ResolverState} {d : ImportDirective} {t : ConfigPlace}
  {x : String}

/-! ## Imports under way -/

/-- A way leads from the root to `n`, on which the ids of `branch` are met, and `arcs` are imports
of `n`. -/
structure Underway (g : ImportGraph) (root n : ImportNode) (branch : List String)
    (arcs : List ImportArc) : Prop where
  way : g.Way root branch n
  mem_arcs : ∀ a ∈ arcs, a ∈ g.arcs n

namespace Underway

variable {a : ImportArc} {more : List ImportArc}

theorem start : g.Underway root root [root.id] (g.arcs root) := ⟨.root, fun _ h => h⟩

theorem reach (h : g.Underway root n branch arcs) : g.Reach root n := h.way.reach

theorem leadsTo (h : g.Underway root n branch arcs) : g.LeadsTo root branch n := h.way.leadsTo

theorem rest (h : g.Underway root n branch (a :: more)) : g.Underway root n branch more :=
  ⟨h.way, fun b hb => h.mem_arcs b (List.mem_cons_of_mem a hb)⟩

theorem leads (h : g.Underway root n branch (.ok (d, t) :: more)) : g.Leads root d t :=
  h.reach.leads (h.mem_arcs _ List.mem_cons_self)

/-- A target that is not on the way and loads is the next one on it. -/
theorem child (h : g.Underway root n branch (.ok (d, m.place) :: more)) (hb : m.id ∉ branch)
    (ha : g.answer m.place d = .ok m.raw) :
    g.Underway root m (m.id :: branch) (g.arcs m) :=
  ⟨h.way.step ⟨d, h.mem_arcs _ List.mem_cons_self, ha⟩ hb, fun _ h => h⟩

end Underway

/-! ## Everything that can be reached is kept -/

/-- What is kept leads only to what is kept or being resolved. -/
def Closed (g : ImportGraph) (root : ImportNode) (branch : List String) (s : ResolverState) :
    Prop :=
  ∀ n m, g.Reach root n → s.Keeps n.id → g.Imports n m → s.Keeps m.id ∨ m.id ∈ branch

namespace Closed

theorem start : g.Closed root branch .start :=
  fun _ _ _ h => absurd h (ResolverState.not_keeps rfl)

theorem of_eq (h : g.Closed root branch s) (hr : s'.resolved = s.resolved) :
    g.Closed root branch s' := by
  intro n m hn hk hi
  rw [ResolverState.keeps_congr hr] at hk ⊢
  exact h n m hn hk hi

theorem cons (h : g.Closed root branch s) (x : String) : g.Closed root (x :: branch) s :=
  fun n m hn hk hi => (h n m hn hk hi).imp_right (List.mem_cons_of_mem x)

/-- A configuration is taken off the branch when its imports are through. -/
theorem keep (h : g.Closed root (n.id :: branch) s) (hg : g.Sound root) (hn : g.Reach root n)
    (hi : ∀ m, g.Imports n m → s.Keeps m.id ∨ m.id ∈ n.id :: branch) (r : Registry) :
    g.Closed root branch (s.keep n.id r) := by
  intro k m hkr hk hkm
  have hor : s.Keeps m.id ∨ m.id ∈ n.id :: branch := by
    rcases ResolverState.keeps_keep.1 hk with hid | hk
    · cases hg.node_eq hkr hn hid
      exact hi m hkm
    · exact h k m hkr hk hkm
  rw [ResolverState.keeps_keep]
  rcases hor with hm | hm
  · exact .inl (.inr hm)
  · exact (List.mem_cons.1 hm).imp_left .inl

end Closed

/-- When imports are through, their targets are kept or being resolved. -/
theorem Folds.closed (h : g.Folds n branch arcs acc s acc' s') (hg : g.Sound root)
    (hu : g.Underway root n branch arcs) (hs : g.Closed root branch s) :
    g.Closed root branch s' ∧ ∀ d t raw, .ok (d, t) ∈ arcs → g.answer t d = .ok raw →
      s'.Keeps t.id ∨ t.id ∈ branch := by
  induction h with
  | done => exact ⟨hs, fun _ _ _ h => absurd h List.not_mem_nil⟩
  | stray _ ih =>
    obtain ⟨hs', hk⟩ := ih hu.rest (hs.of_eq rfl)
    refine ⟨hs', fun d t raw hd ha => hk d t raw ?_ ha⟩
    exact (List.mem_cons.1 hd).resolve_left nofun
  | cycle hb _ ih =>
    obtain ⟨hs', hk⟩ := ih hu.rest (hs.of_eq rfl)
    refine ⟨hs', fun d t raw hd ha => ?_⟩
    rcases List.mem_cons.1 hd with e | hd
    · cases e
      exact .inr hb
    · exact hk d t raw hd ha
  | known _ hsub hrest ih =>
    obtain ⟨hs', hk⟩ := ih hu.rest hs
    refine ⟨hs', fun d t raw hd ha => ?_⟩
    rcases List.mem_cons.1 hd with e | hd
    · cases e
      exact .inl (hrest.grows.keeps ⟨_, hsub⟩)
    · exact hk d t raw hd ha
  | failed _ _ hl _ ih =>
    obtain ⟨hs', hk⟩ := ih hu.rest (hs.of_eq (ask_error hl).2.1)
    refine ⟨hs', fun d t raw hd ha => ?_⟩
    rcases List.mem_cons.1 hd with e | hd
    · cases e
      rw [hg.steady.answer_error hl] at ha
      cases ha
    · exact hk d t raw hd ha
  | @loaded n child branch _ _ _ _ _ _ _ s₂ _ hb _ hl _ hrest ih ih' =>
    have hchild := hu.child hb (hg.steady.answer_ok hl)
    obtain ⟨hs₂, hk₂⟩ := ih hchild ((hs.of_eq (ask_ok hl).2.1).cons child.id)
    have himp : ∀ m, g.Imports child m → s₂.Keeps m.id ∨ m.id ∈ child.id :: branch :=
      fun m ⟨d, hd, ha⟩ => hk₂ d _ _ hd ha
    obtain ⟨hs', hk⟩ := ih' hu.rest (hs₂.keep hg hchild.reach himp _)
    refine ⟨hs', fun d t raw hd ha => ?_⟩
    rcases List.mem_cons.1 hd with e | hd
    · cases e
      exact .inl (hrest.grows.keeps (ResolverState.keeps_keep.2 (.inl rfl)))
    · exact hk d t raw hd ha

/-! ## What comes along to the importer -/

theorem mem_imports_foldTarget :
    x ∈ (foldTarget acc sub t d).imports ↔ x ∈ acc.imports ∨ x = t.id ∨ x ∈ sub.imports := by
  have hnew : x ∈ (addNew id acc.imports t.id).map id ↔ x ∈ acc.imports.map id ∨ x = t.id :=
    mem_keys_addNew
  have hall : x ∈ (foldTarget acc sub t d).imports.map id ↔
      x ∈ (addNew id acc.imports t.id).map id ∨ x ∈ sub.imports.map id := mem_keys_addAllNew
  rw [hnew, or_assoc] at hall
  simpa only [List.map_id] using hall

/-- A document is one that `n` declares, but for its output path. -/
def Declares (g : ImportGraph) (n : ImportNode) (p : PlacedDocument) : Prop :=
  p.origin.configId = n.id ∧ p.baseDir = g.baseDir n.place ∧
    ∃ doc, n.raw.documents[p.origin.index]? = some doc ∧
      { p.document with outputPath := doc.outputPath } = doc

/-- A registry holds ids and documents of kept configurations only. -/
structure Holds (g : ImportGraph) (root : ImportNode) (s : ResolverState) (r : Registry) :
    Prop where
  imports : ∀ x ∈ r.imports, s.Keeps x
  documents : ∀ p ∈ r.documents, ∃ n, g.Reach root n ∧ s.Keeps n.id ∧ g.Declares n p

/-- What is kept can be reached, and holds what belongs to kept configurations only. -/
def HoldsAll (g : ImportGraph) (root : ImportNode) (s : ResolverState) : Prop :=
  ∀ x r, s.resolved.get? x = some r → (∃ n, g.Reach root n ∧ n.id = x) ∧ g.Holds root s r

theorem Declares.moved {p : PlacedDocument} (h : g.Declares n p) (pathPrefix : Option String) :
    g.Declares n (p.moved pathPrefix) := by
  obtain ⟨hid, hdir, doc, hdoc, hp⟩ := h
  cases pathPrefix with
  | none => exact ⟨hid, hdir, doc, hdoc, hp⟩
  | some _ =>
    simp only [Declares, PlacedDocument.moved]
    exact ⟨hid, hdir, doc, hdoc, hp⟩

theorem declares_of_mem_own {p : PlacedDocument} (h : p ∈ (g.own n).documents) :
    g.Declares n p := by
  obtain ⟨⟨doc, index⟩, hdoc, rfl⟩ := List.mem_map.1 h
  exact ⟨rfl, rfl, doc, List.mem_zipIdx_iff_getElem?.1 hdoc, rfl⟩

namespace Holds

theorem empty : g.Holds root s .empty :=
  ⟨fun _ h => absurd h List.not_mem_nil, fun _ h => absurd h List.not_mem_nil⟩

theorem mono (h : g.Holds root s r) (hs : ∀ x, s.Keeps x → s'.Keeps x) : g.Holds root s' r := by
  refine ⟨fun x hx => hs x (h.imports x hx), fun p hp => ?_⟩
  obtain ⟨n, hn, hk, hd⟩ := h.documents p hp
  exact ⟨n, hn, hs _ hk, hd⟩

theorem fold (hacc : g.Holds root s acc) (hsub : g.Holds root s sub) (ht : s.Keeps t.id)
    (d : ImportDirective) : g.Holds root s (foldTarget acc sub t d) := by
  constructor
  · intro x hx
    rcases mem_imports_foldTarget.1 hx with hx | rfl | hx
    · exact hacc.imports x hx
    · exact ht
    · exact hsub.imports x hx
  · intro p hp
    rcases Registry.mem_of_mem_absorb hp with hp | hp
    · exact hacc.documents p hp
    · obtain ⟨q, hq, rfl⟩ := List.mem_map.1 (List.mem_filter.1 hp).1
      obtain ⟨n, hn, hk, hdecl⟩ := hsub.documents q hq
      exact ⟨n, hn, hk, hdecl.moved d.pathPrefix⟩

/-- What a configuration amounts to can be kept with it. -/
theorem keep (h : g.Holds root s r) (hn : g.Reach root n) (q : Registry) :
    g.Holds root (s.keep n.id q) (r.absorb (g.own n)) := by
  constructor
  · exact fun x hx => ResolverState.keeps_keep.2 (.inr (h.imports x hx))
  · intro p hp
    rcases Registry.mem_of_mem_absorb hp with hp | hp
    · obtain ⟨m, hm, hk, hd⟩ := h.documents p hp
      exact ⟨m, hm, ResolverState.keeps_keep.2 (.inr hk), hd⟩
    · exact ⟨n, hn, ResolverState.keeps_keep.2 (.inl rfl), declares_of_mem_own hp⟩

end Holds

namespace HoldsAll

theorem start : g.HoldsAll root .start := nofun

theorem of_eq (h : g.HoldsAll root s) (hr : s'.resolved = s.resolved) : g.HoldsAll root s' := by
  intro x r hx
  rw [hr] at hx
  exact (h x r hx).imp_right fun hold => hold.mono fun _ => (ResolverState.keeps_congr hr).2

theorem keep (h : g.HoldsAll root s) (hn : g.Reach root n)
    (hr : g.Holds root (s.keep n.id r) r) : g.HoldsAll root (s.keep n.id r) := by
  intro y q hy
  by_cases e : y = n.id
  · subst e
    cases (SortedMap.get?_insert_self _ _ _).symm.trans hy
    exact ⟨⟨n, hn, rfl⟩, hr⟩
  · have hs : s.resolved.get? y = some q := (SortedMap.get?_insert_of_ne _ _ e).symm.trans hy
    exact (h y q hs).imp_right fun hold =>
      hold.mono fun _ hk => ResolverState.keeps_keep.2 (.inr hk)

end HoldsAll

/-- A run puts together only what is kept. -/
theorem Folds.holds (h : g.Folds n branch arcs acc s acc' s') (hg : g.Steady)
    (hu : g.Underway root n branch arcs) (hacc : g.Holds root s acc) (hs : g.HoldsAll root s) :
    g.Holds root s' acc' ∧ g.HoldsAll root s' := by
  induction h with
  | done => exact ⟨hacc, hs⟩
  | stray _ ih => exact ih hu.rest (hacc.mono fun _ h => h) (hs.of_eq rfl)
  | cycle _ _ ih => exact ih hu.rest (hacc.mono fun _ h => h) (hs.of_eq rfl)
  | known _ hk _ ih => exact ih hu.rest (hacc.fold (hs _ _ hk).2 ⟨_, hk⟩ _) hs
  | failed _ _ hl _ ih =>
    have hr := (ask_error hl).2.1
    exact ih hu.rest (hacc.mono fun _ => (ResolverState.keeps_congr hr).2) (hs.of_eq hr)
  | @loaded n child _ _ _ _ imported _ s _ s₂ _ hb _ hl hsub _ ih ih' =>
    have hr := (ask_ok hl).2.1
    have hchild := hu.child hb (hg.answer_ok hl)
    obtain ⟨himported, hs₂⟩ := ih hchild .empty (hs.of_eq hr)
    have hkept := himported.keep hchild.reach (imported.absorb (g.own child))
    have hgrows : ∀ x, s.Keeps x → (s₂.keep child.id (imported.absorb (g.own child))).Keeps x :=
      fun x hx => ResolverState.keeps_keep.2 (.inr (hsub.grows.keeps
        ((ResolverState.keeps_congr hr).2 hx)))
    exact ih' hu.rest ((hacc.mono hgrows).fold hkept (ResolverState.keeps_keep.2 (.inl rfl)) _)
      (hs₂.keep hchild.reach hkept)

end ImportGraph

namespace ImportWorld

variable {w : ImportWorld} {root : ImportNode} {path : String}

/-! ## The root file of a world -/

end ImportWorld

end ContextCompiler
