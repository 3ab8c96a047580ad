import ContextCompiler.Proofs.Imports.Termination

/-!
Resolving without keeping anything.

`afreshArcs` goes through imports as the resolver does, but loads and resolves every target anew
from the branch of its importer. What a configuration amounts to then depends on the branch, for
targets on it are skipped: it depends on what can be reached without coming to the branch
(`afreshArcs_congr`). Where this is the same for every way to a configuration (`Coherent`), keeping
results changes nothing; a graph without cycles is of this kind.
-/

namespace ContextCompiler

namespace ImportGraph

variable {g : ImportGraph} {n m root : ImportNode} {branch branch' : List String}
  {arcs : List ImportArc} {acc acc' : Registry} {s s' : ResolverState}

/-! ## Definitions -/

/-- Takes imports into `acc` one after the other, with every target that is not being resolved
loaded and resolved from here. -/
def afreshArcs (g : ImportGraph) (branch : List String) (arcs : List ImportArc) (acc : Registry) :
    Option Registry :=
  match arcs with
  | [] => some acc
  | .error _ :: rest => g |>.afreshArcs branch rest acc
  | .ok (directive, target) :: rest =>
    if target.id ∈ branch then g |>.afreshArcs branch rest acc
    else
      match g.answer target directive with
      | .error _ => g |>.afreshArcs branch rest acc
      | .ok raw => do
        let child : ImportNode := ⟨target, raw⟩
        let imported ← g |>.afreshArcs (child.id :: branch) (g.arcs child) .empty
        let sub := imported.absorb (g.own child)
        g |>.afreshArcs branch rest (foldTarget acc sub target directive)
partial_fixpoint

/-- What a configuration amounts to when nothing is kept. -/
def afresh (g : ImportGraph) (branch : List String) (n : ImportNode) : Option Registry := do
  pure ((← g.afreshArcs branch (g.arcs n) .empty).absorb (g.own n))

/-- A way from `root` to `n` that comes to no id twice; `branch` holds the ids, that of `n`
first. -/
inductive Way (g : ImportGraph) (root : ImportNode) : List String → ImportNode → Prop
  | root : Way g root [root.id] root
  | step {branch : List String} {n m : ImportNode} :
      Way g root branch n → g.Imports n m → m.id ∉ branch → Way g root (m.id :: branch) m

/-- `m` can be reached from `n` without coming to `branch`. -/
def ReachOff (g : ImportGraph) (branch : List String) (n m : ImportNode) : Prop :=
  Relation.ReflTransGen (fun a b => g.Imports a b ∧ b.id ∉ branch) n m

/-- Whichever way a configuration is reached, the same configurations can be reached from it
without coming back to the way. -/
def Coherent (g : ImportGraph) (root : ImportNode) : Prop :=
  ∀ n branch branch', g.Way root branch n → g.Way root branch' n →
    ∀ m, g.ReachOff branch n m ↔ g.ReachOff branch' n m

theorem afreshArcs_of_mem {rest : List ImportArc} {d : ImportDirective} {t : ConfigPlace}
    (hb : t.id ∈ branch) :
    g.afreshArcs branch (.ok (d, t) :: rest) acc = g.afreshArcs branch rest acc := by
  rw [afreshArcs.eq_3, if_pos hb]

theorem afreshArcs_of_answer {rest : List ImportArc} {d : ImportDirective} {child : ImportNode}
    {imported r : Registry} (hb : child.id ∉ branch)
    (ha : g.answer child.place d = .ok child.raw)
    (h : g.afreshArcs (child.id :: branch) (g.arcs child) .empty = some imported)
    (hrest : g.afreshArcs branch rest
      (foldTarget acc (imported.absorb (g.own child)) child.place d) = some r) :
    g.afreshArcs branch (.ok (d, child.place) :: rest) acc = some r := by
  rw [ImportNode.id] at hb
  rw [afreshArcs.eq_3, if_neg hb, ha]
  exact Option.bind_eq_some_iff.2 ⟨imported, h, hrest⟩

namespace Way

theorem reach (h : g.Way root branch n) : g.Reach root n := by
  induction h with
  | root => exact .refl
  | step _ hi _ ih => exact ih.step hi

theorem id_mem (h : g.Way root branch n) : n.id ∈ branch := by
  cases h with
  | root => exact List.mem_cons_self
  | step _ _ _ => exact List.mem_cons_self

theorem leadsTo (h : g.Way root branch n) : g.LeadsTo root branch n := by
  induction h with
  | root => exact .start
  | step hw hi _ ih => exact ih.cons hw.reach hi

end Way

namespace ReachOff

theorem reach (h : g.ReachOff branch n m) : g.Reach n m :=
  Relation.ReflTransGen.mono (fun _ _ h => h.1) _ _ h

theorem eq_or_not_mem (h : g.ReachOff branch n m) : m = n ∨ m.id ∉ branch := by
  rcases Relation.ReflTransGen.cases_tail h with h | ⟨_, _, h⟩
  · exact .inl h
  · exact .inr h.2

theorem head {k : ImportNode} (hi : g.Imports n m) (hm : m.id ∉ branch)
    (h : g.ReachOff branch m k) : g.ReachOff branch n k :=
  Relation.ReflTransGen.head ⟨hi, hm⟩ h

theorem of_cons {x : String} (h : g.ReachOff (x :: branch) n m) : g.ReachOff branch n m :=
  Relation.ReflTransGen.mono (fun _ _ h => ⟨h.1, fun e => h.2 (List.mem_cons_of_mem _ e)⟩) _ _ h

end ReachOff

/-! ## What a result depends on -/

/-- Where the same can be reached off two branches, an import is off both or on both. -/
theorem not_mem_of_reachOff (hn : n.id ∈ branch)
    (h : ∀ k, g.ReachOff branch n k → g.ReachOff branch' n k) (hi : g.Imports n m)
    (hm : m.id ∉ branch) : m.id ∉ branch' := by
  rcases (h m (.head hi hm Relation.ReflTransGen.refl)).eq_or_not_mem with rfl | hm'
  · exact absurd hn hm
  · exact hm'

/-- What can be reached off the longer branch of an import, when the same can be reached off two
branches from the importer. -/
theorem reachOff_cons {k : ImportNode} (hn : n.id ∈ branch)
    (h : ∀ k, g.ReachOff branch n k → g.ReachOff branch' n k) (hi : g.Imports n m)
    (hm : m.id ∉ branch) (hk : g.ReachOff (m.id :: branch) m k) :
    g.ReachOff (m.id :: branch') m k := by
  induction hk with
  | refl => exact Relation.ReflTransGen.refl
  | @tail b c hb hc ih =>
    have hoff : g.ReachOff branch n c := .head hi hm (ReachOff.of_cons (hb.tail hc))
    have hnot : c.id ∉ branch := fun e => hc.2 (List.mem_cons_of_mem _ e)
    refine ih.tail ⟨hc.1, fun e => ?_⟩
    rcases List.mem_cons.1 e with e | e
    · exact hc.2 (e ▸ List.mem_cons_self)
    · rcases (h c hoff).eq_or_not_mem with rfl | hc'
      · exact hnot hn
      · exact hc' e

/-- What imports of a configuration amount to depends on the branch by what can be reached off
it. The induction is on the work itself. -/
theorem afreshArcs_congr {r : Registry} (h : g.afreshArcs branch arcs acc = some r)
    (hn : n.id ∈ branch) (hn' : n.id ∈ branch') (harcs : ∀ a ∈ arcs, a ∈ g.arcs n)
    (hoff : ∀ k, g.ReachOff branch n k ↔ g.ReachOff branch' n k) :
    g.afreshArcs branch' arcs acc = some r := by
  refine afreshArcs.partial_correctness g
    (fun branch arcs acc r => ∀ n branch', n.id ∈ branch → n.id ∈ branch' →
      (∀ a ∈ arcs, a ∈ g.arcs n) → (∀ k, g.ReachOff branch n k ↔ g.ReachOff branch' n k) →
      g.afreshArcs branch' arcs acc = some r) ?_ branch arcs acc r h n branch' hn hn' harcs hoff
  intro work ih branch arcs acc r hr n branch' hn hn' harcs hoff
  have hrest : ∀ a rest acc r, arcs = a :: rest → work branch rest acc = some r →
      g.afreshArcs branch' rest acc = some r := fun a rest acc r e h =>
    ih _ _ _ _ h n branch' hn hn' (fun b hb => harcs b (e ▸ List.mem_cons_of_mem _ hb)) hoff
  split at hr
  · cases hr
    exact afreshArcs.eq_1 g branch' acc
  · rw [afreshArcs.eq_2]
    exact hrest _ _ _ _ rfl hr
  · next d t rest =>
    rw [afreshArcs.eq_3]
    cases ha : g.answer t d with
    | error e =>
      simp only [ha, ite_self] at hr ⊢
      exact hrest _ _ _ _ rfl hr
    | ok raw =>
      have hi : g.Imports n ⟨t, raw⟩ := ⟨d, harcs _ List.mem_cons_self, ha⟩
      -- the two branches cut the same imports of `n`
      have hmem : t.id ∈ branch ↔ t.id ∈ branch' := by
        rw [← not_iff_not]
        exact ⟨not_mem_of_reachOff hn (fun k => (hoff k).1) hi,
          not_mem_of_reachOff hn' (fun k => (hoff k).2) hi⟩
      by_cases hb : t.id ∈ branch
      · rw [if_pos hb] at hr
        rw [if_pos (hmem.1 hb)]
        exact hrest _ _ _ _ rfl hr
      · have hb' := fun e => hb (hmem.2 e)
        rw [if_neg hb] at hr
        rw [if_neg hb']
        simp only [ha] at hr ⊢
        obtain ⟨imported, hsub, hr⟩ := Option.bind_eq_some_iff.1 hr
        refine Option.bind_eq_some_iff.2 ⟨imported, ?_, hrest _ _ _ _ rfl hr⟩
        refine ih _ _ _ _ hsub ⟨t, raw⟩ _ List.mem_cons_self List.mem_cons_self (fun _ h => h)
          fun k => ⟨?_, ?_⟩
        · exact reachOff_cons hn (fun k => (hoff k).1) hi hb
        · exact reachOff_cons hn' (fun k => (hoff k).2) hi hb'

/-- Over coherent graphs a configuration amounts to the same whichever way it is reached. -/
theorem Coherent.afresh_eq {r : Registry} (hc : g.Coherent root) (hw : g.Way root branch n)
    (hw' : g.Way root branch' n) (h : g.afresh branch n = some r) :
    g.afresh branch' n = some r := by
  obtain ⟨imported, hi, hr⟩ := Option.bind_eq_some_iff.1 h
  exact Option.bind_eq_some_iff.2 ⟨imported, afreshArcs_congr hi hw.id_mem hw'.id_mem
    (fun _ h => h) (hc n branch branch' hw hw'), hr⟩

/-! ## Keeping results changes nothing -/

/-- What is kept is what it would be afresh, whichever way it is reached. -/
def KeepsAfresh (g : ImportGraph) (root : ImportNode) (s : ResolverState) : Prop :=
  ∀ x r, s.resolved.get? x = some r →
    ∃ n, g.Reach root n ∧ n.id = x ∧ ∀ branch, g.Way root branch n → g.afresh branch n = some r

namespace KeepsAfresh

theorem start : g.KeepsAfresh root .start := nofun

theorem of_eq (h : g.KeepsAfresh root s) (hr : s'.resolved = s.resolved) :
    g.KeepsAfresh root s' := by
  unfold KeepsAfresh
  rw [hr]
  exact h

theorem keep {r : Registry} (h : g.KeepsAfresh root s) (hc : g.Coherent root)
    (hw : g.Way root branch n) (hr : g.afresh branch n = some r) :
    g.KeepsAfresh root (s.keep n.id r) := by
  intro x q hx
  by_cases e : x = n.id
  · subst e
    cases (SortedMap.get?_insert_self _ _ _).symm.trans hx
    exact ⟨n, hw.reach, rfl, fun branch' hw' => hc.afresh_eq hw hw' hr⟩
  · exact h x q ((SortedMap.get?_insert_of_ne _ _ e).symm.trans hx)

end KeepsAfresh

/-- Over coherent graphs a run gives what it would give without keeping anything. -/
theorem Folds.afresh (h : g.Folds n branch arcs acc s acc' s') (hg : g.Sound root)
    (hc : g.Coherent root) (hw : g.Way root branch n) (harcs : ∀ a ∈ arcs, a ∈ g.arcs n)
    (hs : g.KeepsAfresh root s) :
    g.afreshArcs branch arcs acc = some acc' ∧ g.KeepsAfresh root s' := by
  induction h with
  | done => exact ⟨afreshArcs.eq_1 _ _ _, hs⟩
  | stray _ ih =>
    rw [afreshArcs.eq_2]
    exact ih hw (fun a h => harcs a (List.mem_cons_of_mem _ h)) (hs.of_eq rfl)
  | cycle ht _ ih =>
    rw [afreshArcs_of_mem ht]
    exact ih hw (fun a h => harcs a (List.mem_cons_of_mem _ h)) (hs.of_eq rfl)
  | @known n _ _ d t _ _ _ _ _ ht hk _ ih =>
    -- what is kept was worked out on another way to the target, and this way gives the same
    obtain ⟨m, hm, hid, hafresh⟩ := hs _ _ hk
    have hd := harcs _ List.mem_cons_self
    obtain ⟨rfl, hans⟩ := hg.target_eq (hw.reach.leads hd) hm hid.symm
    have hsub := hafresh _ (hw.step ⟨d, hd, hans⟩ ht)
    obtain ⟨imported, hi, hr⟩ := Option.bind_eq_some_iff.1 hsub
    cases hr
    obtain ⟨hrest, hs'⟩ := ih hw (fun a h => harcs a (List.mem_cons_of_mem _ h)) hs
    exact ⟨afreshArcs_of_answer ht hans hi hrest, hs'⟩
  | failed ht _ hl _ ih =>
    rw [afreshArcs.eq_3, if_neg ht, hg.steady.answer_error hl]
    exact ih hw (fun a h => harcs a (List.mem_cons_of_mem _ h)) (hs.of_eq (ask_error hl).2.1)
  | @loaded n child _ _ d _ imported _ _ _ _ _ ht _ hl _ _ ih ih' =>
    have hans := hg.steady.answer_ok hl
    have hw' := hw.step ⟨d, harcs _ List.mem_cons_self, hans⟩ ht
    obtain ⟨hsub, hs₂⟩ := ih hw' (fun _ h => h) (hs.of_eq (ask_ok hl).2.1)
    have hkeep := hs₂.keep hc hw' (Option.bind_eq_some_iff.2 ⟨imported, hsub, rfl⟩)
    obtain ⟨hrest, hs'⟩ := ih' hw (fun a h => harcs a (List.mem_cons_of_mem _ h)) hkeep
    exact ⟨afreshArcs_of_answer ht hans hsub hrest, hs'⟩

end ImportGraph

end ContextCompiler
