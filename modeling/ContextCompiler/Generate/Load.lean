import ContextCompiler.Compile.Document
import ContextCompiler.Config.EnvFile
import ContextCompiler.Config.Machine
import ContextCompiler.Config.Settings
import ContextCompiler.Imports.Resolve
import ContextCompiler.Sources.Context

/-!
What a run is asked for, and loading its root configuration with all of its imports.

A root configuration that is not there, or cannot be read, ends the run. A fault of an imported
one comes back as a warning.
-/

namespace ContextCompiler

/-! ## Options -/

/-- What a run is asked for. Paths are relative to its directory. -/
structure RunOptions where
  workDir : String
  /-- The root configuration, if it is not one of the usual files. -/
  configFile : Option String
  /-- A text in place of every root configuration. -/
  inlineConfig : Option String
  /-- A file of variables over those of the environment. -/
  envFile : Option String
  outputDir : String
  /-- How many documents are compiled at once. -/
  concurrency : Nat
  timeout : Duration
  githubToken : Option String
  gitlabToken : Option String
  gitlabServer : Option String
  deriving Repr

namespace RunOptions

/-- A run by the settings of the user, with the tokens of the environment. -/
def ofSettings (s : Settings) (env : Scope) (workDir : String) : RunOptions where
  workDir := workDir
  configFile := none
  inlineConfig := none
  envFile := none
  outputDir := s.outputDir
  concurrency := Nat.max s.concurrency 1
  timeout := .ofSeconds (Nat.max s.fetchTimeoutSecs 1)
  githubToken := Settings.token? env s.githubTokenEnv
  gitlabToken := Settings.token? env s.gitlabTokenEnv
  gitlabServer := if s.gitlabServer == "" then none else some s.gitlabServer

/-- A run by the usual settings, without tokens. -/
def usual (processors : Nat) (workDir : String) : RunOptions :=
  ofSettings (.usual processors) .empty workDir

/-- A path under the directory of the run. -/
def path (o : RunOptions) (p : String) : String := Path.join o.workDir p

/-- The output directory. -/
def outputRoot (o : RunOptions) : String := o.path o.outputDir

end RunOptions

/-! ## Loading -/

/-- The world that runs take place in. -/
structure RunWorld extends World where
  /-- The variables of the environment. -/
  env : Scope
  machine : Machine

/-- A root configuration with its imports, and what became of loading it. -/
structure LoadedConfig where
  registry : Registry
  warnings : List Warning
  traffic : Traffic

/-- The files that may hold a root configuration, first choices first. -/
def rootConfigNames : List String := ["context.yaml", "context.yml", "context.json", "context.toml"]

/-- The root configuration of a directory. -/
def rootConfig? (s : Storage) (workDir : String) : Option String :=
  (rootConfigNames.map (Path.join workDir)).find? s.isFile

namespace RunWorld

/-- The path of the root configuration of a run. -/
def rootPath (w : RunWorld) (o : RunOptions) : Except Failure String :=
  match o.configFile with
  | some p => .ok (o.path p)
  | none =>
    match rootConfig? w.storage o.workDir with
    | some p => .ok p
    | none => .error (.config ("no context config found in " ++ o.workDir))

/-- Loads the root configuration of a run. -/
def load (w : RunWorld) (o : RunOptions) : Except Failure LoadedConfig := do
  let env ← Scope.ofEnvironment w.storage w.env (o.envFile.map o.path)
  let imports : ImportWorld := ⟨w.storage, w.web, env, o.workDir⟩
  let (registry, state) ←
    match o.inlineConfig with
    | some text => do
      let raw ← Declarations.ofText text none "inline config"
      pure (imports.resolveInline raw o.workDir)
    | none => do imports.resolveFile (← w.rootPath o)
  pure ⟨registry, state.warnings, state.traffic⟩

end RunWorld

end ContextCompiler
