import ContextCompiler.Compile.Document
import ContextCompiler.Generate.Load
import ContextCompiler.Output.OutputPath
import ContextCompiler.Prompts.Flatten
import ContextCompiler.Report.Basic

/-!
Whole runs: from the root configuration to written documents and a report.

The compiled documents are written one after the other. A document that must not overwrite keeps
away from a file that was there before the run. What the run itself wrote is no such file, so that
of several documents for one path the last one stays.
-/

namespace ContextCompiler

/-! ## Writing the documents -/

namespace CompiledDocument

/-- The end of a document whose errors are complete. -/
def report (d : CompiledDocument) (contextPath : String) (errors : ErrorLog) (skipped : Bool) :
    DocumentReport × ErrorLog :=
  let status : DocumentStatus :=
    if errors.hasErrors then .error else if skipped then .skipped else .success
  (⟨contextPath, d.outputPath, status, errors.messages⟩, errors)

/-- Writes one document below `root`; `before` is the storage from before the run. -/
def write (d : CompiledDocument) (root : String) (before : Storage) (cancelled : Bool)
    (s : Storage) : Storage × DocumentReport × ErrorLog :=
  match Output.resolve root d.outputPath with
  | .error e => (s, d.report root (d.errors.add d.outputPath e.message) false)
  | .ok target =>
    if cancelled then
      (s, d.report root (d.errors.add d.outputPath "run cancelled before write") false)
    else if !d.overwrite && before.isThere target then (s, d.report root d.errors true)
    else
      match Output.write s target d.content with
      | (s, .ok ()) => (s, d.report root d.errors false)
      | (s, .error e) => (s, d.report root (d.errors.add d.outputPath e.message) false)

/-- Writes documents in order. `left` is the number of documents that are looked at before the run
is called off, if it ever is. -/
def writeAll (root : String) (before : Storage) :
    Option Nat → Storage → List CompiledDocument → Storage × List DocumentReport × ErrorLog
  | _, s, [] => (s, [], .empty)
  | left, s, d :: rest =>
    let (s, report, errors) := d.write root before (left == some 0) s
    let (s, reports, more) := writeAll root before (left.map (· - 1)) s rest
    (s, report :: reports, errors.append more)

end CompiledDocument

/-! ## Runs -/

/-- What a run tells while it goes on. -/
inductive Progress where
  | phase (name : String)
  /-- A document is compiled, the `index`-th of `total`. -/
  | compiled (outputPath : String) (index total : Nat)
  | done (message : String)
  deriving DecidableEq, Repr

/-- What a run leaves behind. -/
structure RunOutcome where
  storage : Storage
  progress : List Progress
  report : Except Failure RunReport

namespace Progress

/-- What is told of compiled documents. -/
def ofCompiled (documents : List CompiledDocument) : List Progress :=
  documents.zipIdx.map fun (d, i) => .compiled d.outputPath (i + 1) documents.length

end Progress

namespace RunWorld

/-- What the documents of a run are compiled with. -/
def compiler (w : RunWorld) (o : RunOptions) : DocumentCompiler where
  fetchers := .standard w.toWorld
  modifiers := .standard
  timeout := o.timeout
  credentials := ⟨o.workDir, o.githubToken, o.gitlabToken, o.gitlabServer⟩

/-- The variables of the documents of a run. Those of a configuration go before those of the
machine; those of the environment do not come in. -/
def documentScope (w : RunWorld) (o : RunOptions) (r : Registry) : Scope :=
  (w.machine.vars w.env o.workDir).merge r.vars

/-- Compiles documents in order. -/
def compileAll (c : DocumentCompiler) (scope : Scope) (documents : List PlacedDocument) :
    StateM Traffic (List CompiledDocument) :=
  documents.mapM (c.compile scope)

/-- What compiling the documents of a run comes to. -/
structure Batch where
  documents : List CompiledDocument
  told : List Progress
  traffic : Traffic

/-- Compiles documents in order, and tells of each. -/
def compileBatch (c : DocumentCompiler) (scope : Scope) (documents : List PlacedDocument)
    (traffic : Traffic) : Batch :=
  let (compiled, traffic) := (compileAll c scope documents).run traffic
  ⟨compiled, Progress.ofCompiled compiled, traffic⟩

/-- Runs, where the documents of a registry are compiled by `compile`. `cancelled` tells whether the
run was called off before. -/
def generateBy (w : RunWorld) (o : RunOptions) (cancelled : Bool)
    (compile : Registry → Traffic → Batch) : RunOutcome :=
  let start := [Progress.phase "Resolving imports"]
  match w.load o with
  | .error e => ⟨w.storage, start, .error e⟩
  | .ok loaded =>
    let r := loaded.registry
    let (prompts, promptWarnings) := Prompt.flatten r.prompts
    let ids := prompts.map Prompt.id
    let warnings := loaded.warnings ++ promptWarnings
    let start := start ++ [.phase "Flattening prompts"]
    if r.documents.isEmpty then
      let report := RunReport.ofDocuments r.imports ids [] warnings .empty
      ⟨w.storage, start ++ [.done report.message], .ok report⟩
    else
      let batch := compile r { loaded.traffic with cancelled := cancelled }
      let (storage, reports, errors) := CompiledDocument.writeAll o.outputRoot w.storage
        (if batch.traffic.cancelled then some 0 else none) w.storage batch.documents
      let report := RunReport.ofDocuments r.imports ids reports warnings errors
      ⟨storage,
        start ++ [.phase "Compiling documents"] ++ batch.told
          ++ [.phase "Writing documents", .done report.message],
        .ok report⟩

/-- Runs, with the documents compiled in order. -/
def generate (w : RunWorld) (o : RunOptions) (cancelled : Bool) : RunOutcome :=
  w.generateBy o cancelled fun r =>
    compileBatch (w.compiler o) (w.documentScope o r) r.documents

end RunWorld

end ContextCompiler
