import ContextCompiler.Cli.Command
import ContextCompiler.Generate.Run
import ContextCompiler.Prompts.Render

/-!
What the commands of the program do and print.
-/

namespace ContextCompiler.Cli

/-- What a command leaves behind: the storage, what it printed, and why it failed if it did. -/
structure Outcome where
  storage : Storage
  output : String
  failure : Option String

namespace Outcome

/-- Lines as they are printed. -/
def printed (lines : List String) : String := String.join (lines.map (· ++ "\n"))

/-- A command that printed lines. -/
def ofLines (s : Storage) (lines : List String) : Outcome := ⟨s, printed lines, none⟩

/-- A command that failed before it printed anything. -/
def ofFailure (s : Storage) (reason : String) : Outcome := ⟨s, "", some reason⟩

end Outcome

/-- The lines on one document of a report. -/
def documentLines (d : DocumentReport) : List String :=
  match d.status with
  | .success => ["  ✓ " ++ d.outputPath]
  | .skipped => ["  - " ++ d.outputPath ++ " (kept existing file)"]
  | .error => ("  ✗ " ++ d.outputPath) :: d.errors.map ("      " ++ ·)

/-- A report in lines. -/
def summaryLines (r : RunReport) : List String :=
  [""] ++ r.documents.flatMap documentLines
    ++ r.warnings.map (fun w => "  ! [" ++ w.scope ++ "] " ++ w.message)
    ++ (r.documents.head?.map fun d => "  Output: " ++ d.contextPath).toList
    ++ ["  " ++ r.message, ""]

/-- A run that came to no report, as data. -/
def failureJson (e : Failure) : Json :=
  .obj [("message", .str e.message), ("result", .arr []), ("status", .str "error")]

/-- The line on an item of a list, and one for its description if it has one. -/
def itemLines (head description : String) : List String :=
  head :: if description == "" then [] else ["    " ++ description]

/-- The lines on a prompt. -/
def promptLines (p : Prompt) : List String :=
  let args := p.requiredArguments
  let shown := if args.isEmpty then "" else " (args: " ++ Text.join ", " args ++ ")"
  itemLines (p.id ++ shown) p.description

/-- The lines on a tool. -/
def toolLines (t : Tool) : List String := itemLines (t.id ++ " [" ++ t.kind ++ "]") t.description

/-- The lines of a list: as data, or item by item, with a word on an empty list. -/
def listLines {α : Type} (json : Bool) (items : List α) (toJson : α → Json)
    (lines : α → List String) (none : String) : List String :=
  if json then [(Json.arr (items.map toJson)).pretty]
  else if items.isEmpty then [none]
  else items.flatMap lines

/-- What a command asks a run for. -/
def runOptions (w : RunWorld) (c : ConfigChoice) : Except String RunOptions := do
  let settings ← (Settings.load (.usual w.machine.processors) w.storage w.env).mapError
    Failure.message
  let workDir := c.workDir.getD w.storage.workDir.path
  if !w.storage.isDirectory workDir then
    throw ("work dir '" ++ workDir ++ "' is not a directory")
  pure { RunOptions.ofSettings settings w.env workDir with
    configFile := c.configFile
    inlineConfig := c.inlineConfig
    envFile := c.envFile }

/-- The root configuration that a command is about. -/
def loaded (w : RunWorld) (c : ConfigChoice) : Except String LoadedConfig := do
  (w.load (← runOptions w c)).mapError Failure.message

/-- Compiles all documents. As data a report counts as a success also when documents failed. -/
def runGenerate (w : RunWorld) (c : ConfigChoice) (json : Bool) (outputDir : Option String)
    (concurrency : Option Nat) : Outcome :=
  match runOptions w c with
  | .error reason => .ofFailure w.storage reason
  | .ok o =>
    let o : RunOptions := { o with
      outputDir := outputDir.getD o.outputDir
      concurrency := (concurrency.map fun n => Nat.max n 1).getD o.concurrency }
    let run := w.generate o false
    match run.report with
    | .error e =>
      ⟨run.storage, if json then Outcome.printed [(failureJson e).pretty] else "", some e.message⟩
    | .ok report =>
      if json then .ofLines run.storage [report.text]
      else
        ⟨run.storage, Outcome.printed (summaryLines report),
          if report.hasErrors then some report.message else none⟩

/-- The lines on a prompt that is filled with arguments. -/
def filledPrompt (w : RunWorld) (id : String) (arguments : Scope) (c : ConfigChoice)
    (json : Bool) : Except String (List String) := do
  let config ← loaded w c
  match (Prompt.flatten config.registry.prompts).1.find? (·.id == id) with
  | none => throw ("no prompt with id '" ++ id ++ "'")
  | some p =>
    let messages ← (p.render arguments).mapError Failure.message
    pure (if json then [(Json.arr (messages.map Message.toJson)).pretty]
      else messages.flatMap fun m => ["[" ++ m.role ++ "]", m.content, ""])

/-- Does what a command says. -/
def run (w : RunWorld) : Command → Outcome
  | .generate c json outputDir concurrency => runGenerate w c json outputDir concurrency
  | .prompts c json =>
    report do
      let config ← loaded w c
      pure (listLines json (Prompt.flatten config.registry.prompts).1 Prompt.toJson promptLines
        "No prompts found in configuration.")
  | .prompt id arguments c json => report (filledPrompt w id arguments c json)
  | .tools c json =>
    report do
      let config ← loaded w c
      pure (listLines json config.registry.tools Tool.toJson toolLines
        "No tools found in configuration.")
  | .initSettings =>
    match Settings.init (.usual w.machine.processors) w.storage w.env with
    | (s, .ok path) => .ofLines s ["Config initialized at: " ++ path]
    | (s, .error e) => .ofFailure s e.message
  | .showSettings =>
    report do
      let settings ← (Settings.load (.usual w.machine.processors) w.storage w.env).mapError
        Failure.message
      pure [settings.text]
where
  /-- The lines, or the failure, of a command that leaves the storage as it is. -/
  report (r : Except String (List String)) : Outcome :=
    match r with
    | .ok lines => .ofLines w.storage lines
    | .error reason => .ofFailure w.storage reason

end ContextCompiler.Cli
