import Mathlib
import ContextCompiler.Generate.Run
import ContextCompiler.Proofs.Compile.Sections
import ContextCompiler.Proofs.Sources.Steady

/-!
What documents are compiled to on their own.

When fetching is steady, a document is compiled to the same whatever was done before it
(`settledDocument`), as long as the run is not called off. So are all documents of a run.
-/

namespace ContextCompiler

namespace DocumentCompiler

variable {c : DocumentCompiler}

/-- What the fetch of a source comes to. -/
def settled (c : DocumentCompiler) (ctx : FetchContext) (s : Source) : Except Failure String :=
  ((c.answer ctx s).run .none).1

/-- The sections that a document comes to from the `index`-th source on, and their errors. -/
def settledSections (c : DocumentCompiler) (d : Document) (ctx : FetchContext) :
    Nat → List Source → List String × ErrorLog
  | _, [] => ([], .empty)
  | index, s :: rest =>
    let (text, error) := c.sectionOf d index s (c.settled ctx s)
    let (texts, errors) := settledSections c d ctx (index + 1) rest
    (text :: texts, error.append errors)

theorem settledSections_cons (c : DocumentCompiler) (d : Document) (ctx : FetchContext)
    (index : Nat) (s : Source) (rest : List Source) :
    c.settledSections d ctx index (s :: rest) =
      let first := c.sectionOf d index s (c.settled ctx s)
      let others := c.settledSections d ctx (index + 1) rest
      (first.1 :: others.1, first.2.append others.2) :=
  rfl

/-- What a document is compiled to. -/
def settledDocument (c : DocumentCompiler) (scope : Scope) (p : PlacedDocument) :
    CompiledDocument :=
  let (texts, errors) := c.settledSections p.document (c.context p) 0 p.document.sources
  assemble scope p.document texts errors

theorem yields_answer (hc : c.fetchers.Steady) (ctx : FetchContext) (s : Source) :
    Yields (c.answer ctx s) (c.settled ctx s) := by
  have hsome : ∃ r, Yields (c.answer ctx s) r := by
    obtain ⟨r, hr⟩ := hc ctx s
    rcases r with (e | -) | content
    · exact ⟨_, hr.bind (.pure _)⟩
    · refine ⟨.error (timedOut s.kind.type c.timeout), hr.bind fun t ht => ⟨?_, ht⟩⟩
      show Except.error (if t.cancelled then cancelled else timedOut s.kind.type c.timeout) = _
      rw [ht]
      rfl
    · exact ⟨_, hr.bind (.pure _)⟩
  obtain ⟨r, hr⟩ := hsome
  rw [settled, (hr .none rfl).1]
  exact hr

theorem yields_fetch (hc : c.fetchers.Steady) (ctx : FetchContext) (s : Source) :
    Yields (c.fetch ctx s) (c.settled ctx s) := fun t ht => by
  rw [run_fetch, ht]
  exact yields_answer hc ctx s t ht

theorem yields_sections (hc : c.fetchers.Steady) (d : Document) (ctx : FetchContext) (index : Nat)
    (left : List Source) :
    Yields (c.sections d ctx index left) (c.settledSections d ctx index left) := by
  induction left generalizing index with
  | nil => exact .pure _
  | cons s rest ih => exact (yields_fetch hc ctx s).bind ((ih (index + 1)).bind (.pure _))

theorem yields_compile (hc : c.fetchers.Steady) (scope : Scope) (p : PlacedDocument) :
    Yields (c.compile scope p) (c.settledDocument scope p) :=
  (yields_sections hc p.document (c.context p) 0 p.document.sources).bind (.pure _)

theorem yields_compileAll (hc : c.fetchers.Steady) (scope : Scope)
    (documents : List PlacedDocument) :
    Yields (RunWorld.compileAll c scope documents) (documents.map (c.settledDocument scope)) := by
  unfold RunWorld.compileAll
  induction documents with
  | nil => exact .pure _
  | cons p rest ih =>
    rw [List.mapM_cons]
    exact (yields_compile hc scope p).bind (ih.bind (.pure _))

end DocumentCompiler

end ContextCompiler
