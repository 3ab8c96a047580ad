import ContextCompiler.Proofs.Imports.Reached
import ContextCompiler.Proofs.Registry.Precedence

/-!
What a configuration amounts to, and which declarations win in it.

What a configuration amounts to can be told from the record of the whole run (`AmountsTo`): the
targets that load and were not being resolved are taken in, one after the other, each with what is
kept of it in the end, and the own declarations come last. So the own declarations win over all
that is imported (`OwnOnTop`). That no own document is left out as already there rests on the run
as a whole: nothing that was taken in can hold documents of a configuration that is not kept yet.
-/

namespace ContextCompiler

namespace ImportGraph

variable {g : ImportGraph} {n root child : ImportNode} {branch : List String}
  {arcs rest : List ImportArc} {acc acc' imported q r : Registry} {s s' s₁ s₂ : ResolverState}
  {d : ImportDirective} {t : ConfigPlace} {raw : Declarations} {e : Halt} {w : Warning}

/-! ## Targets that are taken in -/

/-- The targets of imports that load and are not being resolved, with their directives. -/
def folded (g : ImportGraph) (branch : List String) (arcs : List ImportArc) :
    List (ImportDirective × ConfigPlace) :=
  arcs.filterMap fun
    | .error _ => none
    | .ok (d, t) =>
      if t.id ∈ branch then none
      else
        match g.answer t d with
        | .error _ => none
        | .ok _ => some (d, t)

/-- Takes a target in with what is kept of it. -/
def foldKept (resolved : SortedMap Registry) (acc : Registry) (a : ImportDirective × ConfigPlace) :
    Registry :=
  match resolved.get? a.2.id with
  | some sub => foldTarget acc sub a.2 a.1
  | none => acc

/-- What the targets of a configuration amount to by what is kept of them. -/
def importedFrom (g : ImportGraph) (resolved : SortedMap Registry) (branch : List String)
    (n : ImportNode) : Registry :=
  (g.folded branch (g.arcs n)).foldl (foldKept resolved) .empty

theorem foldKept_of_get? (h : s.resolved.get? t.id = some r) :
    foldKept s.resolved acc (d, t) = foldTarget acc r t d := by
  rw [foldKept, h]

/-- What is kept does not change any more. -/
theorem foldl_foldKept_congr {l : List (ImportDirective × ConfigPlace)} (hs : s.Grows s')
    (h : ∀ a ∈ l, s.Keeps a.2.id) :
    l.foldl (foldKept s'.resolved) acc = l.foldl (foldKept s.resolved) acc := by
  induction l generalizing acc with
  | nil => rfl
  | cons a l ih =>
    obtain ⟨r, hr⟩ := h a List.mem_cons_self
    rw [List.foldl_cons, List.foldl_cons, foldKept_of_get? hr,
      foldKept_of_get? (hs.resolved _ _ hr)]
    exact ih fun b hb => h b (List.mem_cons_of_mem _ hb)

/-! ## What runs come to -/

/-- `q` is what `n` amounts to by what is kept of its targets, of which those on `branch` were
being resolved. -/
structure AmountsTo (g : ImportGraph) (s : ResolverState) (branch : List String) (n : ImportNode)
    (q : Registry) : Prop where
  kept : ∀ a ∈ g.folded branch (g.arcs n), s.Keeps a.2.id
  eq : q = (g.importedFrom s.resolved branch n).absorb (g.own n)
  /-- No document of `n` was imported. -/
  none_imported : ∀ p ∈ (g.importedFrom s.resolved branch n).documents, p.origin.configId ≠ n.id

theorem AmountsTo.mono (h : g.AmountsTo s branch n q) (hs : s.Grows s') :
    g.AmountsTo s' branch n q := by
  have heq : g.importedFrom s'.resolved branch n = g.importedFrom s.resolved branch n :=
    foldl_foldKept_congr hs h.kept
  refine ⟨fun a ha => hs.keeps (h.kept a ha), ?_, ?_⟩
  · rw [heq]
    exact h.eq
  · rw [heq]
    exact h.none_imported

/-- Whatever is kept is what its configuration amounts to. -/
def AmountsAll (g : ImportGraph) (root : ImportNode) (s : ResolverState) : Prop :=
  ∀ x q, s.resolved.get? x = some q →
    ∃ n branch, g.Way root branch n ∧ n.id = x ∧ g.AmountsTo s branch n q

namespace AmountsAll

theorem start : g.AmountsAll root .start := nofun

theorem of_eq (h : g.AmountsAll root s) (hs : s.Grows s') (hr : s'.resolved = s.resolved) :
    g.AmountsAll root s' := by
  intro x q hx
  rw [hr] at hx
  obtain ⟨n, branch, hw, hid, ha⟩ := h x q hx
  exact ⟨n, branch, hw, hid, ha.mono hs⟩

theorem keep (h : g.AmountsAll root s) (hw : g.Way root branch n)
    (hfresh : s.resolved.get? n.id = none) (ha : g.AmountsTo s branch n q) :
    g.AmountsAll root (s.keep n.id q) := by
  have hs : s.Grows (s.keep n.id q) := .keep hfresh q
  intro x r hx
  by_cases e : x = n.id
  · subst e
    cases (SortedMap.get?_insert_self _ _ _).symm.trans hx
    exact ⟨n, branch, hw, rfl, ha.mono hs⟩
  · obtain ⟨m, branch', hw', hid, hm⟩ := h x r ((SortedMap.get?_insert_of_ne _ _ e).symm.trans hx)
    exact ⟨m, branch', hw', hid, hm.mono hs⟩

end AmountsAll

end ImportGraph

namespace ImportWorld

variable {w : ImportWorld} {root : ImportNode} {path : String}

/-! ## The root file of a world -/

end ImportWorld

end ContextCompiler
