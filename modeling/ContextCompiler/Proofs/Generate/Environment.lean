import Mathlib
import ContextCompiler.Generate.Run
import ContextCompiler.Proofs.Imports.Environment

/-!
What whole runs take from the environment.

The environment comes in through the directives of imports, and through the variables of the
machine. What is filled in the text of a document is declared by a configuration or a variable of
the machine; a token of any other key stays, whatever the environment says of the key.
-/

namespace ContextCompiler

namespace DocumentCompiler

end DocumentCompiler

namespace RunWorld

variable {w : RunWorld} {o : RunOptions} {e e' env : Scope} {file : Option String}
  {root : ImportNode} {loaded : LoadedConfig}

/-- The same world with another environment. -/
def withEnv (w : RunWorld) (env : Scope) : RunWorld := { w with env := env }

/-- The world that the imports of a run are resolved in. -/
def importWorld (w : RunWorld) (o : RunOptions) (env : Scope) : ImportWorld :=
  ⟨w.storage, w.web, env, o.workDir⟩

/-- The root configuration of a run. -/
def rootNode (w : RunWorld) (o : RunOptions) (env : Scope) : Except Failure ImportNode :=
  match o.inlineConfig with
  | some text => do pure ⟨.inline o.workDir, ← Declarations.ofText text none "inline config"⟩
  | none => do (w.importWorld o env).rootFile (← w.rootPath o)

/-- What a root configuration is loaded as. -/
def loadRoot (w : RunWorld) (o : RunOptions) (env : Scope) (root : ImportNode) : LoadedConfig :=
  let (registry, state) := (w.importWorld o env).resolve root
  ⟨registry, state.warnings, state.traffic⟩

theorem load_eq (h : Scope.ofEnvironment w.storage w.env (o.envFile.map o.path) = .ok e) :
    w.load o = (w.rootNode o e).map (w.loadRoot o e) := by
  rw [load, h, rootNode]
  -- a root that fails ends both sides, before any import
  cases o.inlineConfig with
  | some text =>
    dsimp only [bind, Except.bind]
    cases Declarations.ofText text none "inline config" <;> rfl
  | none =>
    dsimp only [bind, Except.bind, ImportWorld.resolveFile]
    cases w.rootPath o with
    | error f => rfl
    | ok path =>
      dsimp only [importWorld]
      cases ImportWorld.rootFile ⟨w.storage, w.web, e, o.workDir⟩ path <;> rfl

theorem importWorld_withEnv :
    (w.withEnv env).importWorld { o with envFile := file } e = w.importWorld o e := rfl

theorem rootFile_importWorld (path : String) :
    (w.importWorld o e').rootFile path = (w.importWorld o e).rootFile path := by
  unfold ImportWorld.rootFile
  rfl

/-- The root configuration of a run does not depend on the environment. -/
theorem rootNode_withEnv :
    (w.withEnv env).rootNode { o with envFile := file } e' = w.rootNode o e := by
  have hpath : (w.withEnv env).rootPath { o with envFile := file } = w.rootPath o := by
    unfold rootPath
    rfl
  unfold rootNode
  rw [hpath, importWorld_withEnv]
  dsimp only
  split
  · rfl
  · exact congrArg _ (funext fun path => rootFile_importWorld path)

theorem loadRoot_withEnv (env : Scope) (file : Option String)
    (h : (w.importWorld o e).EnvAgrees e' root) :
    (w.withEnv env).loadRoot { o with envFile := file } e' root = w.loadRoot o e root := by
  have hresolve : (w.importWorld o e').resolve root = (w.importWorld o e).resolve root :=
    h.resolve_eq
  rw [loadRoot, importWorld_withEnv, hresolve, loadRoot]

/-- Environments that agree on the keys in the directives that can be reached load the same. -/
theorem load_withEnv (he : Scope.ofEnvironment w.storage w.env (o.envFile.map o.path) = .ok e)
    (he' : Scope.ofEnvironment w.storage env (file.map o.path) = .ok e')
    (h : ∀ root, w.rootNode o e = .ok root → (w.importWorld o e).EnvAgrees e' root) :
    (w.withEnv env).load { o with envFile := file } = w.load o := by
  have hload : (w.withEnv env).load { o with envFile := file } =
      ((w.withEnv env).rootNode { o with envFile := file } e').map
        ((w.withEnv env).loadRoot { o with envFile := file } e') := load_eq he'
  rw [hload, load_eq he, rootNode_withEnv (e := e)]
  cases hroot : w.rootNode o e with
  -- `rfl` alone would first try to show that all roots amount to the same
  | error f => exact Eq.refl (Except.error f)
  | ok root =>
    have hsame := loadRoot_withEnv env file (h root hroot)
    show Except.ok _ = Except.ok _
    rw [hsame]

def rootText : String := "import = [\"${PART}.toml\"]\n"

def partText : String := "[variables]\nNAME = \"part\"\n"

/-- The environment says which configuration the root imports. -/
def named : RunWorld where
  storage := ⟨[(["context.toml"], .file (Text.utf8 rootText.toList)),
    (["part.toml"], .file (Text.utf8 partText.toList))], []⟩
  web := ⟨.empty, true⟩
  git := none
  githubApi := usualGithubApi
  env := .ofList [("PART", "part"), ("SECRET", "one")]
  machine := ⟨⟨0, 0⟩, "linux", "x86_64", 1, none⟩

end RunWorld

end ContextCompiler
