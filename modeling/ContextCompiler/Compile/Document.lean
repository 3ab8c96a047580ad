import ContextCompiler.Config.Variables
import ContextCompiler.Modifiers.Chain
import ContextCompiler.Number.Text
import ContextCompiler.Registry.Basic
import ContextCompiler.Report.Basic
import ContextCompiler.Sources.Fetcher

/-!
Compiling documents.

A document is its title and one section for each source, in order. The content of a source goes
through the modifiers of the source, and then through those of the document. A source that fails
does not end the work: its section says why, and so does the log of the document. References to
variables are filled in last, over the whole text. A source may take a length of time and no more.
-/

namespace ContextCompiler

/-! ## Lengths of time -/

/-- A length of time in milliseconds. -/
structure Duration where
  millis : Nat
  deriving DecidableEq, Repr

namespace Duration

/-- A number of seconds. -/
def ofSeconds (n : Nat) : Duration := ⟨n * 1000⟩

/-- The seconds of a length of time as text. The fraction is rounded to a floating-point number
before the whole seconds are added. -/
def seconds (d : Duration) : String :=
  let (num, den) := (Double.ofRatio false (d.millis % 1000) 1000).ratio
  (Double.ofRatio false (d.millis / 1000 * den + num) den).plain

end Duration

/-! ## Documents -/

/-- A compiled document. -/
structure CompiledDocument where
  outputPath : String
  overwrite : Bool
  content : String
  errors : ErrorLog
  deriving DecidableEq, Repr

/-- What documents are compiled with. -/
structure DocumentCompiler where
  fetchers : FetcherRegistry
  modifiers : ModifierChain
  /-- How long a source may take. -/
  timeout : Duration
  /-- The tokens and the server for sources that name none themselves. -/
  credentials : FetchContext

namespace DocumentCompiler

/-- The failure of what comes after a run was called off. -/
def cancelled : Failure := .fetch "run cancelled"

/-- The failure of a source that does not answer in time. -/
def timedOut (type : SourceType) (timeout : Duration) : Failure :=
  .fetch (type.name ++ " source timed out after " ++ timeout.seconds ++ "s")

/-- What the fetch of a source comes to. A source that never answers is waited for until the run is
called off or the time is up. -/
def answer (c : DocumentCompiler) (ctx : FetchContext) (s : Source) :
    StateM Traffic (Except Failure String) := do
  match ← (c.fetchers.fetch ctx s).run with
  | .ok content => return .ok content
  | .error (.failure e) => return .error e
  | .error .silence =>
    return .error (if (← get).cancelled then cancelled else timedOut s.kind.type c.timeout)

/-- The content of a source. Nothing is fetched once the run is called off. -/
def fetch (c : DocumentCompiler) (ctx : FetchContext) (s : Source) :
    StateM Traffic (Except Failure String) := do
  if (← get).cancelled then return .error cancelled
  c.answer ctx s

/-- The section of a source: its heading, and its content between its tags. -/
def sectionText (s : Source) (body : String) : String :=
  let body := String.ofList (Text.dropEndWhile (· == '\n') body.toList)
  let description := Text.trim s.description
  let heading := if description == "" then "" else "## " ++ description ++ "\n\n"
  match s.effectiveTag with
  | some tag => heading ++ "<" ++ tag ++ ">\n" ++ body ++ "\n</" ++ tag ++ ">"
  | none => heading ++ body

/-- The title of a document, if it has one. -/
def title (d : Document) : List String :=
  let title := Text.trim d.description
  if title == "" then [] else ["# " ++ title]

/-- The section of the `index`-th source by what its fetch came to, after all modifiers, with the
error if there is one. -/
def sectionOf (c : DocumentCompiler) (d : Document) (index : Nat) (s : Source)
    (fetched : Except Failure String) : String × ErrorLog :=
  match fetched.bind fun content => c.modifiers.apply content (s.modifiers ++ d.modifiers) with
  | .ok body => (sectionText s body, .empty)
  | .error e =>
    (sectionText s ("Error: " ++ e.message),
      ErrorLog.empty.add (d.outputPath ++ "#source[" ++ toString index ++ "]") e.message)

/-- The sections of the sources from the `index`-th on, and their errors. -/
def sections (c : DocumentCompiler) (d : Document) (ctx : FetchContext) :
    Nat → List Source → StateM Traffic (List String × ErrorLog)
  | _, [] => pure ([], .empty)
  | index, s :: rest => do
    let (text, error) := c.sectionOf d index s (← c.fetch ctx s)
    let (texts, errors) ← sections c d ctx (index + 1) rest
    return (text :: texts, error.append errors)

/-- What the sources of a document are fetched with. -/
def context (c : DocumentCompiler) (p : PlacedDocument) : FetchContext :=
  { c.credentials with baseDir := p.baseDir }

/-- The document that its sections make up. -/
def assemble (scope : Scope) (d : Document) (texts : List String) (errors : ErrorLog) :
    CompiledDocument where
  outputPath := d.outputPath
  overwrite := d.overwrite
  content := scope.substitute (Text.join "\n\n" (title d ++ texts) ++ "\n")
  errors := errors

/-- Compiles a document. -/
def compile (c : DocumentCompiler) (scope : Scope) (p : PlacedDocument) :
    StateM Traffic CompiledDocument := do
  let (texts, errors) ← c.sections p.document (c.context p) 0 p.document.sources
  return assemble scope p.document texts errors

end DocumentCompiler

end ContextCompiler
