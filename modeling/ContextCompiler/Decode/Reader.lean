import ContextCompiler.Decode.Error
import ContextCompiler.Yaml.Scalar

/-!
Reading meanings out of configuration texts.

A reader takes a node to a value or to the first reason against it, in the order of the text.
Readers of composite values are put together from rules, one for each field.
-/

namespace ContextCompiler

/-- Where a node comes from; the forms differ in what they let pass. -/
inductive Dialect where
  /-- A text in data form, read as it comes. -/
  | text
  /-- A data value that is already there. -/
  | value
  /-- A part that was read as a whole before its meaning was asked for. -/
  | buffered
  | yaml
  | toml
  deriving DecidableEq, Repr

namespace Node

/-- What a reader that cannot use the node says it found, or the fault it meets. -/
def found : Node → Decoded Found
  | null => .ok .null
  | bool b => .ok (.bool b)
  | int n => .ok (.int n)
  | float d => .ok (.float d)
  | str s => .ok (.text s)
  | scalar text _ _ => .ok (.text text)
  | tagged _ _ => .ok .map
  | seq _ _ => .ok .list
  | map _ _ => .ok .map
  | broken stop => .error (.fault stop.read)
  | unreadable f => .error (.fault f)
  | deep n =>
    match n with
    | seq _ _ => .ok .list
    | _ => .ok .map

/-- Refuses a node that is not what was expected. -/
def refuse {α : Type} (n : Node) (expected : String) : Decoded α := do
  throw (.wrongType (← n.found) expected)

mutual

/-- Reads a part as a whole: every scalar gets its own meaning, and every fault shows. -/
def buffer : Node → Decoded Node
  | scalar _ _ v => buffer v
  | tagged _ _ => .error (.invalid "untagged and internally tagged enums do not support enum input")
  | seq items stop => do
    let items ← bufferItems items
    match stop with
    | none => pure (seq items none)
    | some b => throw (.fault b.read)
  | map entries stop => do
    let entries ← bufferEntries entries
    match stop with
    | none => pure (map entries none)
    | some b => throw (.fault b.read)
  | broken stop => .error (.fault stop.read)
  | unreadable f => .error (.fault f)
  | deep _ => .error (.fault .tooDeep)
  | null => .ok null
  | bool b => .ok (bool b)
  | int n => .ok (int n)
  | float d => .ok (float d)
  | str s => .ok (str s)

/-- Reads the items of a list as a whole. -/
def bufferItems : List Node → Decoded (List Node)
  | [] => .ok []
  | n :: rest => do
    let n ← buffer n
    let rest ← bufferItems rest
    pure (n :: rest)

/-- Reads the entries of a map as a whole. -/
def bufferEntries : List (Node × Node) → Decoded (List (Node × Node))
  | [] => .ok []
  | (k, v) :: rest => do
    let k ← buffer k
    let v ← buffer v
    let rest ← bufferEntries rest
    pure ((k, v) :: rest)

end

end Node

namespace Dialect

/-- A text, described as given where it is missing. -/
def stringAs (expected : String) (d : Dialect) (n : Node) : Decoded String :=
  match d, n with
  | _, .str s => pure s
  | .yaml, .scalar s _ _ => pure s
  | .yaml, .tagged _ (.scalar s _ _) => pure s
  | _, n => n.refuse expected

/-- A text. -/
def string (d : Dialect) (n : Node) : Decoded String := stringAs "a string" d n

/-- The truth value that a scalar writes: a plain one whatever its tag, and a literal block of the
tag for truth values. -/
def scalarTruth? : Node → Option Bool
  | .scalar s .plain _ => Yaml.boolOf? s
  | .scalar _ .literal (.bool b) => some b
  | .tagged _ (.scalar s .plain _) => Yaml.boolOf? s
  | _ => none

/-- A truth value. -/
def boolean (_ : Dialect) (n : Node) : Decoded Bool :=
  match n with
  | .bool b => pure b
  | n =>
    match scalarTruth? n with
    | some b => pure b
    | none => n.refuse "a boolean"

/-- A count. -/
def count (_ : Dialect) (n : Node) : Decoded Nat :=
  match n with
  | .int i => if 0 ≤ i then pure i.toNat else throw (.wrongValue (.int i) "usize")
  | .scalar _ _ (.int i) => if 0 ≤ i then pure i.toNat else n.refuse "usize"
  | n => n.refuse "usize"

/-- A value that may be left out, or be null where the dialect has null. -/
def optional {α : Type} (d : Dialect) (read : Node → Decoded α) (n : Node) :
    Decoded (Option α) :=
  match d, n with
  | .toml, n => some <$> read n
  | _, .null => pure none
  | _, .scalar _ .plain .null => pure none
  | _, .scalar s .plain (.tagged tag v) =>
    if tag == Yaml.nullTag then v.refuse "null"
    else some <$> read (.scalar s .plain (.tagged tag v))
  | _, n => some <$> read n

/-- The items of a list in order, then what ends the list. -/
def listItems {α : Type} (read : Node → Decoded α) (stop : Option Break) :
    List Node → Decoded (List α)
  | [] =>
    match stop with
    | none => pure []
    | some b => throw (.fault b.read)
  | n :: rest => do
    let v ← read n
    let rest ← listItems read stop rest
    pure (v :: rest)

/-- A list. -/
def list {α : Type} (d : Dialect) (read : Node → Decoded α) (n : Node) :
    Decoded (List α) :=
  match d, n with
  | _, .seq items stop => listItems read stop items
  | .yaml, .tagged _ (.seq items stop) => listItems read stop items
  | .yaml, .scalar "" .plain _ => pure []
  | .yaml, .tagged _ (.scalar "" .plain _) => pure []
  | _, .deep (.seq _ _) => throw (.fault .tooDeep)
  | _, n => n.refuse "a sequence"

/-- The entries of a map in order, later ones in place of earlier ones of the same key. -/
def mapEntries {α : Type} (d : Dialect) (read : Node → Decoded α) (stop : Option Break) :
    SortedMap α → List (Node × Node) → Decoded (SortedMap α)
  | m, [] =>
    match stop with
    | none => pure m
    | some b => throw (.fault b.read)
  | m, (k, v) :: rest => do
    let k ← d.string k
    let v ← read v
    mapEntries d read stop (m.insert k v) rest

/-- A map from texts. -/
def mapOf {α : Type} (d : Dialect) (read : Node → Decoded α) (n : Node) :
    Decoded (SortedMap α) :=
  match d, n with
  | _, .map entries stop => mapEntries d read stop .empty entries
  | .yaml, .tagged _ (.map entries stop) => mapEntries d read stop .empty entries
  | .yaml, .scalar "" .plain _ => pure .empty
  | .yaml, .tagged _ (.scalar "" .plain _) => pure .empty
  | _, .deep (.map _ _) => throw (.fault .tooDeep)
  | _, n => n.refuse "a map"

mutual

/-- A data value. -/
def json (d : Dialect) : Node → Decoded Json
  | .null => pure .null
  | .bool b => pure (.bool b)
  | .int n => pure (.int n)
  | .float x => pure (if x.isFinite then .float x else .null)
  | .str s => pure (.str s)
  | .scalar _ _ v => json d v
  | .tagged _ _ => throw (.wrongType .map "any valid JSON value")
  | .seq items stop => do
    let items ← jsonItems d items
    match stop with
    | none => pure (.arr items)
    | some b => throw (.fault b.read)
  | .map entries stop => do
    let fields ← jsonFields d entries
    match stop with
    | none => pure (.ofFields fields)
    | some b => throw (.fault b.read)
  | .broken stop => throw (.fault stop.read)
  | .unreadable f => throw (.fault f)
  | .deep _ => throw (.fault .tooDeep)

/-- The items of an array. -/
def jsonItems (d : Dialect) : List Node → Decoded (List Json)
  | [] => pure []
  | n :: rest => do
    let v ← json d n
    let rest ← jsonItems d rest
    pure (v :: rest)

/-- The fields of an object. -/
def jsonFields (d : Dialect) : List (Node × Node) → Decoded (List (String × Json))
  | [] => pure []
  | (k, v) :: rest => do
    let k ← stringAs "a string key" d k
    let v ← json d v
    let rest ← jsonFields d rest
    pure ((k, v) :: rest)

end

/-- One of several alternatives: the first reader that succeeds on the part read as a whole. -/
def anyOf {α : Type} (type : String) (readers : List (Node → Decoded α)) (n : Node) :
    Decoded α := do
  let n ← n.buffer
  match readers.findSome? fun read => (read n).toOption with
  | some v => pure v
  | none => throw (.noVariant type)

end Dialect

/-- How one field of a record is read. -/
structure FieldRule (σ : Type) where
  name : String
  aliases : List String
  required : Bool
  read : Node → Decoded (σ → σ)

namespace FieldRule

variable {σ : Type}

/-- A field that may be left out. -/
def mayHave {α : Type} (name : String) (read : Node → Decoded α) (set : α → σ → σ) :
    FieldRule σ :=
  ⟨name, [], false, fun n => set <$> read n⟩

/-- A field that has to be there. -/
def mustHave {α : Type} (name : String) (read : Node → Decoded α) (set : α → σ → σ) :
    FieldRule σ :=
  ⟨name, [], true, fun n => set <$> read n⟩

/-- The same field under one more name. -/
def orNamed (name : String) (rule : FieldRule σ) : FieldRule σ :=
  { rule with aliases := name :: rule.aliases }

/-- Whether the field goes by a name. -/
def isNamed (rule : FieldRule σ) (name : String) : Bool :=
  rule.name == name || rule.aliases.contains name

/-- The rule for a key: a name, or in a part that was read as a whole also the number of a
field. -/
def ruleOf (d : Dialect) (rules : List (FieldRule σ)) (k : Node) :
    Decoded (Option (FieldRule σ)) :=
  match d, k with
  | .buffered, .int (.ofNat i) => pure rules[i]?
  | _, k => do
    let key ← d.string k
    pure (rules.find? (·.isNamed key))

/-- Reads the entries of a record in order. Entries of no rule are given to `other`. -/
def readEntries {ρ : Type} (d : Dialect) (rules : List (FieldRule σ))
    (other : ρ → Node → Node → Decoded ρ) (stop : Option Break) :
    List String → σ → ρ → List (Node × Node) → Decoded (List String × σ × ρ)
  | seen, acc, rest, [] =>
    match stop with
    | none => pure (seen, acc, rest)
    | some b => throw (.fault b.read)
  | seen, acc, rest, (k, v) :: entries => do
    match ← ruleOf d rules k with
    | some rule =>
      if seen.contains rule.name then throw (.duplicateField rule.name)
      let set ← rule.read v
      readEntries d rules other stop (rule.name :: seen) (set acc) rest entries
    | none =>
      let rest ← other rest k v
      readEntries d rules other stop seen acc rest entries

/-- The first required field that is missing. -/
def checkRequired (rules : List (FieldRule σ)) (seen : List String) : Decoded Unit :=
  match rules.find? fun r => r.required && !seen.contains r.name with
  | some r => throw (.missingField r.name)
  | none => pure ()

/-- A plural with its number. -/
def counted (n : Nat) (noun : String) : String :=
  toString n ++ " " ++ noun ++ (if n = 1 then "" else "s")

/-- What a list that should have ended is refused for. -/
def listGoesOn (d : Dialect) (used : Nat) (items : List Node) (stop : Option Break) :
    Decoded Unit :=
  match d, items, stop with
  | _, [], none => pure ()
  | .text, [], some b =>
    throw (.fault (match b.read with
      | .endInList => .endInList
      | .trailingComma => .trailingComma
      | _ => .trailingCharacters))
  | .text, _ :: _, _ => throw (.fault .trailingCharacters)
  | .value, items, _ => throw (.wrongLength (used + items.length) "fewer elements in array")
  | .buffered, items, _ =>
    throw (.wrongLength (used + items.length) (counted used "element" ++ " in sequence"))
  | _, _, _ => pure ()

/-- Reads the items of a list as the fields of a record, in the order of the rules. -/
def readItems (d : Dialect) (label : String) (total : Nat) (stop : Option Break) :
    Nat → List (FieldRule σ) → σ → List Node → Decoded σ
  | used, [], acc, items => do
    listGoesOn d used items stop
    pure acc
  | used, rule :: rules, acc, n :: items => do
    let set ← rule.read n
    readItems d label total stop (used + 1) rules (set acc) items
  | used, rule :: rules, acc, [] => do
    if let some b := stop then throw (.fault b.read)
    if rule.required then
      throw (.wrongLength used (label ++ " with " ++ counted total "element"))
    readItems d label total stop (used + 1) rules acc []

/-- Passes over a field of no rule. -/
def skipField (_ : Unit) (_ v : Node) : Decoded Unit :=
  match v.skipFault with
  | some f => throw (.fault f)
  | none => pure ()

/-- A record of the given fields over default values. Where `fromList` holds, a list of the
fields in order does as well. -/
def record (d : Dialect) (label : String) (rules : List (FieldRule σ)) (start : σ)
    (fromList : Bool) (n : Node) : Decoded σ := do
  let readMap (entries : List (Node × Node)) (stop : Option Break) : Decoded σ := do
    let (seen, acc, _) ← readEntries d rules skipField stop [] start () entries
    checkRequired rules seen
    pure acc
  match d, n with
  | _, .map entries stop => readMap entries stop
  | .yaml, .tagged _ (.map entries stop) => readMap entries stop
  | .yaml, .scalar "" .plain _ => readMap [] none
  | .yaml, .tagged _ (.scalar "" .plain _) => readMap [] none
  | .yaml, n => n.refuse label
  | _, .seq items stop =>
    if fromList then readItems d label rules.length stop 0 rules start items else n.refuse label
  | _, .deep (.map _ _) => throw (.fault .tooDeep)
  | _, .deep (.seq _ _) => if fromList then throw (.fault .tooDeep) else n.refuse label
  | _, n => n.refuse label

/-- Keeps a field of no rule. -/
def keepField (kept : List (Node × Node)) (k v : Node) : Decoded (List (Node × Node)) := do
  let v ← v.buffer
  pure (kept ++ [(k, v)])

/-- A record of the given fields over default values, with the entries of no rule. -/
def openRecord (d : Dialect) (label : String) (rules : List (FieldRule σ)) (start : σ)
    (n : Node) : Decoded (σ × List (Node × Node)) := do
  let readMap (entries : List (Node × Node)) (stop : Option Break) :
      Decoded (σ × List (Node × Node)) := do
    let (seen, acc, kept) ← readEntries d rules keepField stop [] start [] entries
    checkRequired rules seen
    let kept ← kept.mapM fun (k, v) => do pure (Node.str (← d.string k), v)
    pure (acc, kept)
  match d, n with
  | _, .map entries stop => readMap entries stop
  | .yaml, .tagged _ (.map entries stop) => readMap entries stop
  | .yaml, .scalar "" .plain _ => readMap [] none
  | .yaml, .tagged _ (.scalar "" .plain _) => readMap [] none
  | _, .deep (.map _ _) => throw (.fault .tooDeep)
  | _, n => n.refuse label

end FieldRule

end ContextCompiler
