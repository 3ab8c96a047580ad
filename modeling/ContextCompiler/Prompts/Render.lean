import ContextCompiler.Config.Prompt
import ContextCompiler.Config.Variables
import ContextCompiler.Json.Printer
import ContextCompiler.Failure

/-!
Filling the messages of a prompt with arguments.

The schema of a prompt names the arguments that are required and may give default values.
-/

namespace ContextCompiler.Prompt

/-- The names of the required arguments, as the schema lists them. -/
def requiredArguments (p : Prompt) : List String :=
  match (p.schema.bind (·.field? "required")).bind Json.items? with
  | none => []
  | some items => items.filterMap Json.str?

/-- The text of a default value. Null is no default. -/
def defaultText? : Json → Option String
  | .null => none
  | .str s => some s
  | v => some v.compact

/-- The default values of a schema. -/
def schemaDefaults (p : Prompt) : Scope :=
  match (p.schema.bind (·.field? "properties")).bind Json.fields? with
  | none => .empty
  | some fields =>
    SortedMap.ofList (fields.filterMap fun (name, spec) =>
      ((spec.field? "default").bind defaultText?).map fun v => (name, v))

/-- The required arguments that have neither a value nor a default. -/
def missingArguments (p : Prompt) (arguments : Scope) : List String :=
  p.requiredArguments.filter fun name =>
    ((p.schemaDefaults.merge arguments).get? name).isNone

/-- The messages of a prompt with arguments, and else defaults, filled in. -/
def render (p : Prompt) (arguments : Scope) : Except Failure (List Message) :=
  let missing := p.missingArguments arguments
  if missing.isEmpty then
    let scope : Scope := p.schemaDefaults.merge arguments
    .ok (p.messages.map fun m => ⟨m.role, scope.substitute m.content⟩)
  else
    .error (.validation ("prompt '" ++ p.id ++ "' is missing required argument(s): "
      ++ Text.join ", " missing))

end ContextCompiler.Prompt
