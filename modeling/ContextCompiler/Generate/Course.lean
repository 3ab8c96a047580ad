import ContextCompiler.Compile.Cancellation
import ContextCompiler.Generate.Pool

/-!
The course of a run from the first document that is compiled to the last one that is written.

A pool compiles the documents. Once it has collected all of them they are written, one after the
other. Between any two steps the signal may fire, or its handle may be given up.
-/

namespace ContextCompiler

/-- How far writing has come. -/
structure Writing where
  left : List CompiledDocument
  reports : List DocumentReport
  errors : ErrorLog

/-- How far a run has come. -/
structure Course where
  signal : Cancellation
  pool : Pool
  storage : Storage
  /-- There is none as long as documents are compiled. -/
  writing : Option Writing

/-- What happens in the course of a run. -/
inductive Happening where
  | fire
  | dropHandle
  /-- Something happens to the pool. -/
  | compile (e : Event)
  /-- All documents are collected, and writing begins. -/
  | turn
  /-- The next document is looked at, and written if it may be. -/
  | write
  deriving DecidableEq, Repr

namespace Course

/-- A run that is about to compile documents, with a handle to call it off. -/
def start (concurrency : Nat) (documents : List PlacedDocument) (traffic : Traffic)
    (storage : Storage) : Course :=
  ⟨.start, .start concurrency documents { traffic with cancelled := false }, storage, none⟩

/-- A run after something was done to its signal, which the pool sees at once. -/
def heed (r : Course) (signal : Cancellation) : Course :=
  { r with signal := signal, pool.shared.traffic.cancelled := signal.isCancelled }

/-- The reports on the documents that were looked at for writing. -/
def reports (r : Course) : List DocumentReport := (r.writing.map Writing.reports).getD []

/-- Whether all documents were looked at for writing. -/
def IsOver (r : Course) : Prop := ∃ w, r.writing = some w ∧ w.left = []

/-- What can happen to a run that writes below `root`; `before` is the storage from before it. -/
inductive Step (c : DocumentCompiler) (scope : Scope) (root : String) (before : Storage) :
    Course → Happening → Course → Prop
  | fire {r : Course} : Step c scope root before r .fire (r.heed r.signal.cancel)
  | dropHandle {r : Course} :
      Step c scope root before r .dropHandle (r.heed r.signal.dropHandle)
  | compile {r : Course} {e : Event} {pool : Pool} :
      r.writing = none → e ≠ .cancel → r.pool.Step c scope e pool →
      Step c scope root before r (.compile e) { r with pool := pool }
  | turn {r : Course} :
      r.writing = none → r.pool.IsDone →
      Step c scope root before r .turn
        { r with writing := some ⟨r.pool.collected, [], .empty⟩ }
  | write {r : Course} {d : CompiledDocument} {left : List CompiledDocument}
      {reports : List DocumentReport} {errors : ErrorLog} :
      r.writing = some ⟨d :: left, reports, errors⟩ →
      Step c scope root before r .write
        (let after := d.write root before r.signal.isCancelled r.storage
         { r with
           storage := after.1
           writing := some ⟨left, reports ++ [after.2.1], errors.append after.2.2⟩ })

/-- What can happen to a run in a number of steps. -/
inductive Runs (c : DocumentCompiler) (scope : Scope) (root : String) (before : Storage)
    (first : Course) : List Happening → Course → Prop
  | refl : Runs c scope root before first [] first
  | step {happened : List Happening} {h : Happening} {r r' : Course} :
      Runs c scope root before first happened r → Step c scope root before r h r' →
      Runs c scope root before first (happened ++ [h]) r'

end Course

end ContextCompiler
