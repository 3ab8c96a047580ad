import ContextCompiler.Generate.Run

/-!
Compiling the documents of a run at once.

Every document becomes a job. A job is worked on with a permit, of which there are only so many;
which job gets one, and which goes on next, is left open. The documents are collected in their own
order once all jobs are there, whatever order the jobs came to their ends in.
-/

namespace ContextCompiler

/-- The work on one document. -/
inductive Job where
  /-- It has no permit yet. -/
  | waiting (p : PlacedDocument)
  /-- It has a permit. Some sections are there with their errors, and some sources are left;
  `fetching` tells whether the first of them has been asked for. -/
  | running (p : PlacedDocument) (texts : List String) (errors : ErrorLog) (left : List Source)
      (fetching : Bool)
  | done (d : CompiledDocument)

/-- What jobs share. -/
structure Shared where
  permits : Nat
  traffic : Traffic

/-- The ways in which a job goes on. -/
inductive Move where
  /-- It takes a permit. -/
  | start
  /-- It asks for its next source. -/
  | ask
  | answer
  /-- It waits no longer for a source, since the run is called off. -/
  | abandon
  /-- It puts its document together and gives its permit back. -/
  | finish
  deriving DecidableEq, Repr

namespace Job

/-- A job after its next source was fetched. -/
def fetched (c : DocumentCompiler) (p : PlacedDocument) (texts : List String) (errors : ErrorLog)
    (s : Source) (left : List Source) (result : Except Failure String) : Job :=
  let (text, error) := c.sectionOf p.document texts.length s result
  .running p (texts ++ [text]) (errors.append error) left false

/-- A job goes on. -/
inductive Step (c : DocumentCompiler) (scope : Scope) : Job → Shared → Move → Job → Shared → Prop
  | start {p : PlacedDocument} {n : Nat} {traffic : Traffic} :
      Step c scope (.waiting p) ⟨n + 1, traffic⟩ .start
        (.running p [] .empty p.document.sources false) ⟨n, traffic⟩
  | ask {p : PlacedDocument} {texts : List String} {errors : ErrorLog} {s : Source}
      {left : List Source} {shared : Shared} : shared.traffic.cancelled = false →
      Step c scope (.running p texts errors (s :: left) false) shared .ask
        (.running p texts errors (s :: left) true) shared
  | refuse {p : PlacedDocument} {texts : List String} {errors : ErrorLog} {s : Source}
      {left : List Source} {shared : Shared} : shared.traffic.cancelled = true →
      Step c scope (.running p texts errors (s :: left) false) shared .ask
        (fetched c p texts errors s left (.error DocumentCompiler.cancelled)) shared
  | answer {p : PlacedDocument} {texts : List String} {errors : ErrorLog} {s : Source}
      {left : List Source} {permits : Nat} {traffic : Traffic} :
      Step c scope (.running p texts errors (s :: left) true) ⟨permits, traffic⟩ .answer
        (fetched c p texts errors s left ((c.answer (c.context p) s).run traffic).1)
        ⟨permits, ((c.answer (c.context p) s).run traffic).2⟩
  | abandon {p : PlacedDocument} {texts : List String} {errors : ErrorLog} {s : Source}
      {left : List Source} {shared : Shared} : shared.traffic.cancelled = true →
      Step c scope (.running p texts errors (s :: left) true) shared .abandon
        (fetched c p texts errors s left (.error DocumentCompiler.cancelled)) shared
  | finish {p : PlacedDocument} {texts : List String} {errors : ErrorLog} {permits : Nat}
      {traffic : Traffic} :
      Step c scope (.running p texts errors [] false) ⟨permits, traffic⟩ .finish
        (.done (DocumentCompiler.assemble scope p.document texts errors)) ⟨permits + 1, traffic⟩

/-- Whether a job has a permit. -/
def isRunning : Job → Bool
  | running .. => true
  | _ => false

end Job

/-- The jobs of a run, with the documents that have none yet and those that were collected. -/
structure Pool where
  unspawned : List PlacedDocument
  jobs : List Job
  shared : Shared
  collected : List CompiledDocument
  told : List Progress

/-- What happens to a pool. -/
inductive Event where
  /-- The next document becomes a job. -/
  | spawn
  /-- The `i`-th job goes on. -/
  | move (i : Nat) (m : Move)
  /-- The next document is collected. -/
  | collect
  /-- The run is called off. -/
  | cancel
  deriving DecidableEq, Repr

namespace Pool

/-- A pool for documents that works on at most `concurrency` of them at once, and on one if that is
nought. -/
def start (concurrency : Nat) (documents : List PlacedDocument) (traffic : Traffic) : Pool :=
  ⟨documents, [], ⟨max concurrency 1, traffic⟩, [], []⟩

/-- What can happen to a pool. -/
inductive Step (c : DocumentCompiler) (scope : Scope) : Pool → Event → Pool → Prop
  | spawn {pool : Pool} {p : PlacedDocument} {rest : List PlacedDocument} :
      pool.unspawned = p :: rest →
      Step c scope pool .spawn { pool with unspawned := rest, jobs := pool.jobs ++ [.waiting p] }
  | move {pool : Pool} {i : Nat} {job job' : Job} {m : Move} {shared : Shared} :
      pool.jobs[i]? = some job → job.Step c scope pool.shared m job' shared →
      Step c scope pool (.move i m) { pool with jobs := pool.jobs.set i job', shared := shared }
  | collect {pool : Pool} {d : CompiledDocument} :
      pool.unspawned = [] → pool.jobs[pool.collected.length]? = some (.done d) →
      Step c scope pool .collect
        { pool with
          collected := pool.collected ++ [d]
          told := pool.told ++
            [.compiled d.outputPath (pool.collected.length + 1) pool.jobs.length] }
  | cancel {pool : Pool} :
      Step c scope pool .cancel
        { pool with shared.traffic.cancelled := true }

/-- What can happen to a pool in a number of steps. -/
inductive Runs (c : DocumentCompiler) (scope : Scope) (first : Pool) : List Event → Pool → Prop
  | refl : Runs c scope first [] first
  | step {events : List Event} {e : Event} {pool pool' : Pool} :
      Runs c scope first events pool → Step c scope pool e pool' →
      Runs c scope first (events ++ [e]) pool'

/-- Whether all documents are collected. -/
def IsDone (pool : Pool) : Prop :=
  pool.unspawned = [] ∧ pool.collected.length = pool.jobs.length

/-- The documents are compiled by a pool for at most `concurrency` at once that is not called off:
`batch` is what has been collected when all of them are. -/
def Compiles (c : DocumentCompiler) (scope : Scope) (concurrency : Nat)
    (documents : List PlacedDocument) (traffic : Traffic) (batch : RunWorld.Batch) : Prop :=
  ∃ events pool, Runs c scope (start concurrency documents traffic) events pool ∧
    .cancel ∉ events ∧ pool.IsDone ∧
    batch = ⟨pool.collected, pool.told, pool.shared.traffic⟩

end Pool

end ContextCompiler
