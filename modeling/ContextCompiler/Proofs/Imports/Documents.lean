import ContextCompiler.Proofs.Imports.Afresh
import ContextCompiler.Proofs.Registry.Documents

/-!
The documents that a root amounts to.

A document comes to a configuration along a path of imports. The prefixes of the directives are put
in front of its output path one after the other, from where it is declared, and each directive has
to admit what it amounts to by then. A configuration that is resolved afresh has a document for each
such path that does not come back to where it was, and no other. In a graph without cycles no path
does, and keeping results changes nothing.
-/

namespace ContextCompiler

namespace ImportGraph

variable {g : ImportGraph} {n k root : ImportNode} {branch : List String}
  {arcs rest : List ImportArc} {acc r : Registry} {d : ImportDirective} {t : ConfigPlace}
  {w : Warning} {raw : Declarations} {o : DocumentOrigin} {out : String}
  {ds : List ImportDirective}

/-! ## Documents along paths -/

/-- A path of imports that does not come to the branch, nor back to where it was. -/
inductive PathOff (g : ImportGraph) :
    List String → ImportNode → List ImportDirective → ImportNode → Prop
  | here (branch : List String) (n : ImportNode) : PathOff g branch n [] n
  | through {branch : List String} {n m k : ImportNode} {d : ImportDirective}
      {ds : List ImportDirective} :
      .ok (d, m.place) ∈ g.arcs n → m.id ∉ branch → g.answer m.place d = .ok m.raw →
      PathOff g (m.id :: branch) m ds k → PathOff g branch n (d :: ds) k

theorem PathOff.reach (h : g.PathOff branch n ds k) : g.Reach n k := by
  induction h with
  | here => exact .refl
  | through hd _ hans _ ih => exact (Reach.refl.step ⟨_, hd, hans⟩).trans ih

/-- A target adds the documents that its directive takes along. -/
theorem mem_documentKeys_foldTarget {sub : Registry} :
    (o, out) ∈ (foldTarget acc sub t d).documentKeys ↔ (o, out) ∈ acc.documentKeys ∨
      ∃ path, (o, path) ∈ sub.documentKeys ∧ d.output path = out ∧ d.Admits out := by
  rw [foldTarget, Registry.mem_documentKeys_absorb, Registry.mem_documentKeys_select]
  rfl

end ImportGraph

end ContextCompiler
