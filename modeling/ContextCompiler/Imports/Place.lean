import ContextCompiler.Config.Format
import ContextCompiler.Config.Variables
import ContextCompiler.Glob.Pattern
import ContextCompiler.Storage.Walk
import ContextCompiler.Failure
import ContextCompiler.Web.Basic

/-!
Where configurations are, and where their imports lead.

The id of a place tells configurations apart. A file goes by its path with all links followed, so
that every way of writing the path gives one id; a configuration from the web goes by the text of
its URL. The target of a directive may be a pattern, which leads to all files of its form but the
importing one.
-/

namespace ContextCompiler

/-- Where a configuration is. -/
inductive ConfigPlace where
  | file (path : String)
  /-- The URL as it is written. -/
  | remote (url : String)
  /-- A text that was handed over, for a directory. -/
  | inline (dir : String)
  deriving DecidableEq, Repr

/-- What imports are resolved in. -/
structure ImportWorld where
  storage : Storage
  web : Web
  /-- The variables of paths, URLs and headers of directives. -/
  env : Scope
  /-- The directory of documents that configurations from the web declare. -/
  workDir : String

namespace ConfigPlace

/-- What tells a configuration from others. -/
def id : ConfigPlace → String
  | file path => path
  | remote url => url
  | inline dir => "inline:" ++ dir

/-- The directory that relative paths of a configuration start from. -/
def baseDir (workDir : String) : ConfigPlace → String
  | file path => (Path.parent? path).getD workDir
  | remote _ => workDir
  | inline dir => dir

end ConfigPlace

namespace ImportWorld

/-- A warning about an import. -/
def warning (scope message : String) : Warning := ⟨"import:" ++ scope, message⟩

/-- The path that a file goes by: with links followed where it is there, else as the parts of the
path say. -/
def filePath (s : Storage) (path : String) : String :=
  match s.canonical path with
  | .ok p => p
  | .error _ => Path.ofParts (Path.walkUp (Path.parts path))

/-- The files below a directory whose paths have the form of a pattern, in order. The directories
that the pattern starts with are entered right away, and no deeper level than the pattern has is
looked at, unless it holds a part for any number of levels. -/
def filesOfPattern (s : Storage) (baseDir pattern : String) : List ConfigPlace :=
  let pieces := Text.split '/' pattern
  let front := pieces.takeWhile (!Glob.hasWildcard ·)
  let rest := pieces.drop front.length
  let start := Text.join "/" front
  let root := if start == "" then baseDir else Path.join baseDir start
  let form := Text.join "/" rest
  let depth := if Text.contains "**" form then none else some rest.length
  let glob := Glob.ofString form
  let found := (s.walk (fun _ => true) depth root).filter fun f =>
    glob.isMatch (Text.join "/" f.names)
  (found.mergeSort fun a b => Place.comesFirst a.names b.names).map fun f =>
    .file (Place.path f.place)

/-- Where a directive of a configuration leads, or the warning that it leads nowhere. -/
def targets (w : ImportWorld) (place : ConfigPlace) (directive : ImportDirective) :
    Except Warning (List ConfigPlace) :=
  match directive.target with
  | .url text =>
    let text := w.env.substituteEnv text
    match Url.read text with
    | .ok url => .ok [.remote url.toString]
    | .error e => .error (warning text ("invalid import URL: " ++ e.message))
  | .file path =>
    let path := w.env.substituteEnv path
    match place with
    | .remote base =>
      if Glob.hasWildcard path then
        .error (warning path "glob imports are not supported inside URL configs")
      else
        match (Url.read base).bind (·.join path) with
        | .ok url => .ok [.remote url.toString]
        | .error e =>
          .error (warning path ("cannot resolve against " ++ base ++ ": " ++ e.message))
    | place =>
      let dir := place.baseDir w.workDir
      if Glob.hasWildcard path then
        match (filesOfPattern w.storage dir path).filter fun t => t.id != place.id with
        | [] => .error (warning path "glob import matched no files")
        | found => .ok found
      else .ok [.file (filePath w.storage (Path.join dir path))]

/-- What a file declares. -/
def readFile (s : Storage) (path : String) : Except Failure Declarations :=
  match s.readText path with
  | .error fault => .error (.storage path fault)
  | .ok text => Declarations.ofText text (ConfigFormat.ofPath? path) path

/-- The headers of a directive with the values of the environment. -/
def headers (w : ImportWorld) (directive : ImportDirective) : List (String × String) :=
  directive.headers.entries.map fun (k, v) => (k, w.env.substituteEnv v)

/-- What the configuration at a place declares, asked for as the directive says. -/
def load (w : ImportWorld) (place : ConfigPlace) (directive : ImportDirective) :
    Fetching Declarations :=
  match place with
  | .file path => Fetching.ofExcept (readFile w.storage path)
  | .remote text =>
    match Url.read text with
    | .error _ => Web.refused text "builder error"
    | .ok url => do
      let answer ← w.web.getUrl url text (w.headers directive)
      Fetching.ofExcept (Declarations.ofText answer.text (ConfigFormat.ofPath? url.pathText) text)
  | .inline _ => Fetching.fail (.imports "inline configs cannot be imported")

end ImportWorld

end ContextCompiler
