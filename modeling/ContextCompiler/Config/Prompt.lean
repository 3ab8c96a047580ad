import ContextCompiler.Config.Scalar

/-!
Prompts and tools as a configuration declares them, and their form as data values.
-/

namespace ContextCompiler

/-- Whether a prompt is given out or only inherited from. -/
inductive PromptKind where
  | prompt
  | template
  deriving DecidableEq, Repr

/-- One message of a conversation. Whether its role makes sense is not decided here. -/
structure Message where
  role : String
  content : String
  deriving DecidableEq, Repr

/-- Inheritance from a template, with values for the variables in its messages. -/
structure PromptExtension where
  id : String
  arguments : SortedMap String
  deriving DecidableEq

/-- A prompt. -/
structure Prompt where
  id : String
  kind : PromptKind
  description : String
  tags : List String
  schema : Option Json
  messages : List Message
  extend : List PromptExtension

/-- A tool. Keys that are not known here are kept as they are. -/
structure Tool where
  id : String
  description : String
  kind : String
  tags : List String
  extra : SortedMap Json

namespace PromptKind

/-- The name of a kind. -/
def name : PromptKind → String
  | prompt => "prompt"
  | template => "template"

/-- The kind of a name. -/
def ofName (s : String) : Decoded PromptKind :=
  match s with
  | "prompt" => pure prompt
  | "template" => pure template
  | s => throw (.unknownVariant s ["prompt", "template"])

/-- Refuses the value beside the only key of a map unless it is null. -/
def checkUnit : Node → Decoded Unit
  | .null => pure ()
  | n => n.refuse "unit"

/-- Reads a kind: its name, or a map from its name to null, or null with its name as the tag. -/
def read (d : Dialect) (n : Node) : Decoded PromptKind :=
  match d, n with
  | _, .str s => ofName s
  | .yaml, .tagged tag (.scalar text style _) =>
    if style = .plain && (text == "" || Yaml.isNullText text) then
      ofName (if tag == "!" then tag else String.ofList (tag.toList.drop 1))
    else (Node.str text).refuse "null"
  | .yaml, n => do ofName (← d.string n)
  | .text, .map ((k, v) :: rest) stop => do
    let kind ← ofName (← d.string k)
    checkUnit v
    match rest, stop with
    | [], none => pure kind
    | [], some ⟨.endInObject, _⟩ => throw (.fault .endInObject)
    | _, _ => throw (.fault .expectedValue)
  | .text, .broken stop =>
    throw (.fault (match stop.read with
      | .expectedWord => .expectedValue
      | .invalidNumber => .expectedValue
      | f => f))
  | .text, .unreadable f =>
    throw (.fault (if f = .numberRange then .expectedValue else f))
  | .text, _ => throw (.fault .expectedValue)
  | _, .map [(k, v)] none => do
    let kind ← ofName (← d.string k)
    checkUnit v
    pure kind
  | .value, .map _ _ => throw (.wrongValue .map "map with a single key")
  | _, n => n.refuse "string or map"

end PromptKind

namespace Message

/-- Reads a message. -/
def read (d : Dialect) (n : Node) : Decoded Message :=
  FieldRule.record d "struct Message"
    [.mayHave "role" d.string fun v m => { m with role := v },
     .mayHave "content" d.string fun v m => { m with content := v }]
    ⟨"", ""⟩ true n

/-- A message as a data value. -/
def toJson (m : Message) : Json :=
  .obj [("role", .str m.role), ("content", .str m.content)]

end Message

namespace PromptExtension

/-- Reads an inheritance. -/
def read (d : Dialect) (n : Node) : Decoded PromptExtension :=
  FieldRule.record d "struct PromptExtension"
    [.mayHave "id" d.string fun v e => { e with id := v },
     .mayHave "arguments" (readScalarMap d) fun v e => { e with arguments := v }]
    ⟨"", .empty⟩ true n

/-- An inheritance as a data value. -/
def toJson (e : PromptExtension) : Json :=
  .obj [("id", .str e.id),
    ("arguments", .obj (e.arguments.entries.map fun (k, v) => (k, .str v)))]

end PromptExtension

namespace Prompt

/-- A prompt of which nothing is said. -/
def blank : Prompt := ⟨"", .prompt, "", [], none, [], []⟩

/-- Reads a prompt. -/
def read (d : Dialect) (n : Node) : Decoded Prompt :=
  FieldRule.record d "struct Prompt"
    [.mayHave "id" d.string fun v p => { p with id := v },
     .mayHave "type" (PromptKind.read d) fun v p => { p with kind := v },
     .mayHave "description" d.string fun v p => { p with description := v },
     .mayHave "tags" (d.list d.string) fun v p => { p with tags := v },
     .mayHave "schema" (d.optional d.json) fun v p => { p with schema := v },
     .mayHave "messages" (d.list (Message.read d)) fun v p => { p with messages := v },
     .mayHave "extend" (d.list (PromptExtension.read d)) fun v p => { p with extend := v }]
    blank true n

/-- A prompt as a data value. What is empty is left out, except for the messages. -/
def toJson (p : Prompt) : Json :=
  .obj ([("id", .str p.id), ("type", .str p.kind.name)]
    ++ (if p.description = "" then [] else [("description", .str p.description)])
    ++ (if p.tags.isEmpty then [] else [("tags", .arr (p.tags.map .str))])
    ++ (match p.schema with
      | none => []
      | some s => [("schema", s)])
    ++ [("messages", .arr (p.messages.map Message.toJson))]
    ++ (if p.extend.isEmpty then [] else [("extend", .arr (p.extend.map PromptExtension.toJson))]))

end Prompt

namespace Tool

/-- Reads a tool. -/
def read (d : Dialect) (n : Node) : Decoded Tool := do
  let (t, rest) ← FieldRule.openRecord d "struct Tool"
    [.mustHave "id" d.string fun v t => { t with id := v },
     .mayHave "description" d.string fun v t => { t with description := v },
     .mayHave "type" d.string fun v t => { t with kind := v },
     .mayHave "tags" (d.list d.string) fun v t => { t with tags := v }]
    (⟨"", "", "run", [], .empty⟩ : Tool) n
  let fields ← Dialect.buffered.jsonFields rest
  pure { t with extra := SortedMap.ofList fields }

/-- A tool as a data value, its further keys after those that are known. -/
def toJson (t : Tool) : Json :=
  .obj ([("id", .str t.id), ("description", .str t.description), ("type", .str t.kind)]
    ++ (if t.tags.isEmpty then [] else [("tags", .arr (t.tags.map .str))])
    ++ t.extra.entries)

end Tool

end ContextCompiler
