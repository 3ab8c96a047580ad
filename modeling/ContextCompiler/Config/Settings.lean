import ContextCompiler.Config.Machine
import ContextCompiler.Storage.Basic
import ContextCompiler.Toml.Printer
import ContextCompiler.Toml.Reader
import ContextCompiler.Decode.Reader

/-!
Settings of the user.

They live in a file under the home directory. What the file leaves out has a usual value; only the
number of workers depends on the machine.
-/

namespace ContextCompiler

/-- The settings of the user. -/
structure Settings where
  outputDir : String
  concurrency : Nat
  fetchTimeoutSecs : Nat
  githubTokenEnv : String
  gitlabTokenEnv : String
  gitlabServer : String
  deriving DecidableEq, Repr

namespace Settings

/-- The usual settings, for a machine with the given number of processors. -/
def usual (processors : Nat) : Settings :=
  ⟨".context", Nat.min processors 8, 30, "GITHUB_TOKEN", "GITLAB_TOKEN", "https://gitlab.com"⟩

/-- Reads settings over the usual ones. -/
def read (usual : Settings) (n : Node) : Decoded Settings :=
  let d := Dialect.toml
  let part (label : String) (rules : List (FieldRule Settings)) (n : Node) :
      Decoded Settings :=
    FieldRule.record d label rules usual true n
  let defaults := part "struct DefaultsConfig"
    [.mayHave "output_dir" d.string fun v s => { s with outputDir := v },
     .mayHave "concurrency" d.count fun v s => { s with concurrency := v },
     .mayHave "fetch_timeout_secs" d.count fun v s => { s with fetchTimeoutSecs := v }]
  let github := part "struct GithubConfig"
    [.mayHave "token_env" d.string fun v s => { s with githubTokenEnv := v }]
  let gitlab := part "struct GitlabConfig"
    [.mayHave "token_env" d.string fun v s => { s with gitlabTokenEnv := v },
     .mayHave "server" d.string fun v s => { s with gitlabServer := v }]
  FieldRule.record d "struct AppConfig"
    [.mayHave "defaults" defaults fun v s => { s with
       outputDir := v.outputDir, concurrency := v.concurrency,
       fetchTimeoutSecs := v.fetchTimeoutSecs },
     .mayHave "github" github fun v s => { s with githubTokenEnv := v.githubTokenEnv },
     .mayHave "gitlab" gitlab fun v s => { s with
       gitlabTokenEnv := v.gitlabTokenEnv, gitlabServer := v.gitlabServer }]
    usual true n

/-- The settings of a file. -/
def ofFile (usual : Settings) (storage : Storage) (path : String) : Except Failure Settings :=
  match storage.readText path with
  | .error fault => .error (.storage path fault)
  | .ok text =>
    match Toml.read? text with
    | none => .error (.config ("failed to parse " ++ path ++ ": malformed"))
    | some n => (read usual n).mapError fun e =>
        .config ("failed to parse " ++ path ++ ": " ++ e.message)

/-- The directory of the settings. -/
def directory (home : String) : String := Path.join home ".ctxgen"

/-- The file of the settings. -/
def file (home : String) : String := Path.join (directory home) "ctxgen.toml"

/-- The home of a user, who must have one. -/
def homeFor (env : Scope) : Except Failure String :=
  match homeOf env with
  | some home => .ok home
  | none => .error (.config "could not determine home directory")

/-- The settings of the user of an environment; the usual ones where there is no file. -/
def load (usual : Settings) (storage : Storage) (env : Scope) : Except Failure Settings := do
  let home ← homeFor env
  if storage.isThere (file home) then ofFile usual storage (file home) else .ok usual

/-- The settings as the text of a file. -/
def text (s : Settings) : String :=
  "[defaults]\noutput_dir = " ++ Toml.quote s.outputDir
    ++ "\nconcurrency = " ++ toString s.concurrency
    ++ "\nfetch_timeout_secs = " ++ toString s.fetchTimeoutSecs
    ++ "\n\n[github]\ntoken_env = " ++ Toml.quote s.githubTokenEnv
    ++ "\n\n[gitlab]\ntoken_env = " ++ Toml.quote s.gitlabTokenEnv
    ++ "\nserver = " ++ Toml.quote s.gitlabServer ++ "\n"

/-- Writes the usual settings to the file of the user, and gives its path. -/
def init (usual : Settings) (storage : Storage) (env : Scope) : Storage × Except Failure String :=
  match homeFor env with
  | .error e => (storage, .error e)
  | .ok home =>
    match storage.makeAllDirectories (directory home) with
    | (storage, .error fault) => (storage, .error (.storage (directory home) fault))
    | (storage, .ok ()) =>
      match storage.write (file home) (Text.utf8 usual.text.toList) with
      | .error fault => (storage, .error (.storage (file home) fault))
      | .ok storage => (storage, .ok (file home))

/-- The value of a variable of the environment that holds a token; an empty one counts as none. -/
def token? (env : Scope) (name : String) : Option String :=
  match env.get? name with
  | some "" => none
  | v => v

end Settings

end ContextCompiler
