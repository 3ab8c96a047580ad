import ContextCompiler.Config.Declarations
import ContextCompiler.Json.Reader
import ContextCompiler.Storage.Path
import ContextCompiler.Text.Blank
import ContextCompiler.Yaml.Reader
import ContextCompiler.Toml.Reader
import ContextCompiler.Failure

/-!
The formats of configuration texts.
-/

namespace ContextCompiler

/-- A format of configuration texts. -/
inductive ConfigFormat where
  | json
  | yaml
  | toml
  deriving DecidableEq, Repr

namespace ConfigFormat

/-- The name of a format. -/
def name : ConfigFormat → String
  | json => "Json"
  | yaml => "Yaml"
  | toml => "Toml"

/-- The format of a file extension. -/
def ofExtension? (ext : String) : Option ConfigFormat :=
  match Text.lowerAscii ext with
  | "json" => some json
  | "yaml" => some yaml
  | "yml" => some yaml
  | "toml" => some toml
  | _ => none

/-- The format of a file by its path. -/
def ofPath? (path : String) : Option ConfigFormat :=
  (Path.extension? path).bind ofExtension?

end ConfigFormat

namespace Declarations

/-- The declarations of a text in JSON. -/
def ofJsonText (content : String) : Decoded Declarations := do
  let (n, after) := Json.read content
  let x ← read .text n
  match after with
  | none => pure x
  | some f => throw (.fault f)

/-- The declarations of a text in YAML. -/
def ofYamlText (content : String) : Decoded Declarations :=
  match Yaml.read? content with
  | some n => read .yaml n
  | none => throw (.invalid "malformed YAML")

/-- The declarations of a text in TOML. -/
def ofTomlText (content : String) : Decoded Declarations :=
  match Toml.read? content with
  | some n => read .toml n
  | none => throw (.invalid "malformed TOML")

/-- The declarations of a text. A blank text declares nothing; a text of no known format is
JSON, or else YAML. -/
def ofText (content : String) (format : Option ConfigFormat) (origin : String) :
    Except Failure Declarations :=
  if Text.isBlankText content then .ok empty
  else
    let refused (e : DecodeError) : Failure := .parse origin e.message
    match format with
    | some .json => (ofJsonText content).mapError refused
    | some .yaml => (ofYamlText content).mapError refused
    | some .toml => (ofTomlText content).mapError refused
    | none =>
      match ofJsonText content with
      | .ok x => .ok x
      | .error json =>
        (ofYamlText content).mapError fun yaml =>
          .parse origin
            ("not valid JSON (" ++ json.message ++ ") or YAML (" ++ yaml.message ++ ")")

end Declarations

end ContextCompiler
