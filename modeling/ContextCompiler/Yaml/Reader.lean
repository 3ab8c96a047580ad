import ContextCompiler.Yaml.Scalar
import ContextCompiler.Yaml.Token

/-!
Reading texts in YAML.

The tokens are read into a node by the grammar of the format. An alias stands for a copy of the
node that its anchor was put on, and a text may make so many copies for its length only. A text
holds one document.
-/

namespace ContextCompiler.Yaml

/-- What an anchor was put on, and how many copies are made where that is read. -/
structure Anchored where
  name : List Char
  node : Node
  copies : Nat

/-- What the reader knows: the tokens that are left, the anchors so far, the tag handles, the number
of scalars, aliases and ends of collections so far, and the number of copies so far with its
limit. -/
structure Reading where
  tokens : List Token
  anchors : List Anchored
  handles : List (List Char × List Char)
  parts : Nat
  copies : Nat
  limit : Nat

namespace Reading

/-- The next token. -/
def peek (r : Reading) : Option Token := r.tokens.head?

/-- The reading after the next token. -/
def next (r : Reading) : Reading := { r with tokens := r.tokens.tail }

/-- Whether the next token is one of those given. -/
def at? (r : Reading) (ts : List Token) : Bool := r.peek.any ts.contains

/-- Whether a node can start at the next token, where those given would end it. -/
def startsNode (r : Reading) (ends : List Token) : Bool := r.peek.any fun t => !ends.contains t

/-- The reading after some parts more. -/
def count (n : Nat) (r : Reading) : Reading := { r with parts := r.parts + n }

/-- A node that cannot be read because it would never end. -/
def endless : Node := .unreadable .tooDeep

/-- Puts an anchor on the node that follows. Inside of itself, the node has no end. -/
def openAnchor (r : Reading) (anchor : Option (List Char)) : Reading :=
  match anchor with
  | some a => { r with anchors := ⟨a, endless, 0⟩ :: r.anchors }
  | none => r

/-- Gives an anchor its node. `before` is the reading at which it was put on the node. -/
def closeAnchor (r before : Reading) (anchor : Option (List Char)) (n : Node) :
    Node × Reading :=
  match anchor with
  | some a =>
    let place := r.anchors.length - 1 - before.anchors.length
    (n, { r with anchors := r.anchors.set place ⟨a, n, r.copies - before.copies⟩ })
  | none => (n, r)

/-- A copy of what an anchor was put on. A text that copies too much cannot be read. -/
def copy? (r : Reading) (anchor : List Char) : Option (Node × Reading) :=
  (r.anchors.find? (·.name == anchor)).map fun a =>
    let copies := r.copies + a.copies + 1
    let r := r.count 1
    if r.limit < copies then (endless, r) else (a.node, { r with copies := copies })

end Reading

/-- A scalar without text. -/
def emptyNode : Node := .scalar "" .plain .null

/-- Deepest nesting of collections. -/
def depthLimit : Nat := 128

/-- The full text of a tag. -/
def fullTag? (handles : List (List Char × List Char)) (handle suffix : List Char) :
    Option String :=
  if handle.isEmpty then some (String.ofList suffix)
  else (handles.lookup handle).map fun p => String.ofList (p ++ suffix)

/-- The anchor and the tag in front of a node, in either order. -/
def properties (r : Reading) : Option (Option (List Char) × Option String × Reading) :=
  match r.peek with
  | some (.anchor a) =>
    match r.next.peek with
    | some (.tag h s) => do
      let t ← fullTag? r.handles h s
      pure (some a, some t, r.next.next)
    | _ => pure (some a, none, r.next)
  | some (.tag h s) => do
    let t ← fullTag? r.handles h s
    match r.next.peek with
    | some (.anchor a) => pure (some a, some t, r.next.next)
    | _ => pure (none, some t, r.next)
  | _ => pure (none, none, r)

/-- A collection with its tag. -/
def collectionNode (tag : Option String) (n : Node) : Node :=
  match tag with
  | some t => if Text.hasPrefix "!" t then .tagged t n else n
  | none => n

mutual

/-- Reads a node. Block collections are possible where `block` holds, and a block sequence
without indentation of its own where `indentless` does. -/
def readNode (block indentless : Bool) : Nat → Reading → Option (Node × Reading)
  | 0, _ => none
  | fuel + 1, r =>
    match r.peek with
    | some (.alias a) => r.next.copy? a
    | _ =>
      match properties r with
      | none => none
      | some (anchor, tag, q) =>
        let finish (inner : Option (Node × Reading)) : Option (Node × Reading) :=
          inner.map fun (n, s) => (s.count 2).closeAnchor q anchor (collectionNode tag n)
        let opened := q.openAnchor anchor
        let empty : Option (Node × Reading) :=
          if anchor.isSome || tag.isSome then
            some ((opened.count 1).closeAnchor q anchor (scalarNode "" .plain tag))
          else none
        match q.peek with
        | some (.scalar text style) =>
          let tag := tag.filter (· != "!")
          some ((opened.next.count 1).closeAnchor q anchor
            (scalarNode (String.ofList text) style tag))
        | some .flowSequenceStart => finish (readFlowSequence true fuel [] opened.next)
        | some .flowMappingStart => finish (readFlowMapping true fuel [] opened.next)
        | some t =>
          if indentless && t == .blockEntry then finish (readIndentless fuel [] opened)
          else if block && t == .blockSequenceStart then
            finish (readBlockSequence fuel [] opened.next)
          else if block && t == .blockMappingStart then
            finish (readBlockMapping fuel [] opened.next)
          else empty
        | none => empty
termination_by structural n => n

/-- Reads a node unless one of the given tokens stands there; then it is an empty scalar. -/
def readOrEmpty (block indentless : Bool) (ends : List Token) :
    Nat → Reading → Option (Node × Reading)
  | 0, _ => none
  | fuel + 1, r =>
    if r.startsNode ends then readNode block indentless fuel r
    else some (emptyNode, r.count 1)
termination_by structural n => n

/-- Reads the entries of a block sequence up to its end. -/
def readBlockSequence : Nat → List Node → Reading → Option (Node × Reading)
  | 0, _, _ => none
  | fuel + 1, out, r =>
    match r.peek with
    | some .blockEntry =>
      match readOrEmpty true false [.blockEntry, .blockEnd] fuel r.next with
      | some (n, r) => readBlockSequence fuel (n :: out) r
      | none => none
    | some .blockEnd => some (.seq out.reverse none, r.next)
    | _ => none
termination_by structural n => n

/-- Reads the entries of a block sequence that is not indented. -/
def readIndentless : Nat → List Node → Reading → Option (Node × Reading)
  | 0, _, _ => none
  | fuel + 1, out, r =>
    match r.peek with
    | some .blockEntry =>
      match readOrEmpty true false [.blockEntry, .key, .value, .blockEnd] fuel r.next with
      | some (n, r) => readIndentless fuel (n :: out) r
      | none => none
    | _ => some (.seq out.reverse none, r)
termination_by structural n => n

/-- Reads the entries of a block mapping up to its end. -/
def readBlockMapping : Nat → List (Node × Node) → Reading → Option (Node × Reading)
  | 0, _, _ => none
  | fuel + 1, out, r =>
    let ends : List Token := [.key, .value, .blockEnd]
    let readValue (k : Node) (r : Reading) : Option ((Node × Node) × Reading) :=
      match r.peek with
      | some .value => (readOrEmpty true true ends fuel r.next).map fun (v, r) => ((k, v), r)
      | _ => some ((k, emptyNode), r.count 1)
    match r.peek with
    | some .key =>
      match readOrEmpty true true ends fuel r.next with
      | some (k, r) =>
        match readValue k r with
        | some (e, r) => readBlockMapping fuel (e :: out) r
        | none => none
      | none => none
    | some .blockEnd => some (.map out.reverse none, r.next)
    | _ => none
termination_by structural n => n

/-- Reads the entries of a flow sequence up to its end. An entry may be a mapping of one key. -/
def readFlowSequence (first : Bool) : Nat → List Node → Reading → Option (Node × Reading)
  | 0, _, _ => none
  | fuel + 1, out, r =>
    if r.at? [.flowSequenceEnd] then some (.seq out.reverse none, r.next)
    else if !first && !r.at? [.flowEntry] then none
    else
      let r := if first then r else r.next
      match r.peek with
      | some .flowSequenceEnd => some (.seq out.reverse none, r.next)
      | some .key =>
        match readPair fuel r.next with
        | some (n, r) => readFlowSequence false fuel (n :: out) (r.count 2)
        | none => none
      | _ =>
        match readNode false false fuel r with
        | some (n, r) => readFlowSequence false fuel (n :: out) r
        | none => none
termination_by structural n => n

/-- Reads the key and the value of a mapping that is an entry of a flow sequence. -/
def readPair : Nat → Reading → Option (Node × Reading)
  | 0, _ => none
  | fuel + 1, r =>
    let key :=
      if r.startsNode [.value, .flowEntry, .flowSequenceEnd] then readNode false false fuel r
      else some (emptyNode, r.next.count 1)
    match key with
    | none => none
    | some (k, r) =>
      match r.peek with
      | some .value =>
        (readOrEmpty false false [.flowEntry, .flowSequenceEnd] fuel r.next).map
          fun (v, r) => (.map [(k, v)] none, r)
      | _ => some (.map [(k, emptyNode)] none, r.count 1)
termination_by structural n => n

/-- Reads the entries of a flow mapping up to its end. -/
def readFlowMapping (first : Bool) : Nat → List (Node × Node) → Reading → Option (Node × Reading)
  | 0, _, _ => none
  | fuel + 1, out, r =>
    if r.at? [.flowMappingEnd] then some (.map out.reverse none, r.next)
    else if !first && !r.at? [.flowEntry] then none
    else
      let r := if first then r else r.next
      match r.peek with
      | some .flowMappingEnd => some (.map out.reverse none, r.next)
      | some .key =>
        match readOrEmpty false false [.value, .flowEntry, .flowMappingEnd] fuel r.next with
        | none => none
        | some (k, r) =>
          let value :=
            if r.at? [.value] then
              readOrEmpty false false [.flowEntry, .flowMappingEnd] fuel r.next
            else some (emptyNode, r.count 1)
          match value with
          | some (v, r) => readFlowMapping false fuel ((k, v) :: out) r
          | none => none
      | _ =>
        match readNode false false fuel r with
        | some (k, r) => readFlowMapping false fuel ((k, emptyNode) :: out) (r.count 1)
        | none => none
termination_by structural n => n

end

/-- The tag handles that need no directive. -/
def defaultHandles : List (List Char × List Char) :=
  [(['!'], ['!']), (['!', '!'], coreTag.toList)]

/-- Reads the directives in front of a document. The version may be given once, and so may each tag
handle. -/
def readDirectives (versionSeen : Bool) : List Token → Reading → Option Reading
  | .version major minor :: rest, r =>
    if !versionSeen && major == 1 && (minor == 1 || minor == 2) then readDirectives true rest r
    else none
  | .tagHandle handle start :: rest, r =>
    if (r.handles.lookup handle).isNone then
      readDirectives versionSeen rest { r with handles := (handle, start) :: r.handles }
    else none
  | tokens, r => some { r with tokens := tokens, handles := r.handles ++ defaultHandles }

/-- Whether a document that was opened ends before anything stands in it. -/
def endsDocument : Token → Bool
  | .documentStart => true
  | .documentEnd => true
  | .version _ _ => true
  | .tagHandle _ _ => true
  | _ => false

/-- Reads the only document of a text. -/
def readDocument (r : Reading) : Option (Node × Reading) := do
  let fuel := 4 * r.tokens.length + 8
  match r.peek with
  | none => some (emptyNode, r)
  | some t =>
    if endsDocument t && t != .documentEnd then
      let r ← readDirectives false r.tokens r
      if r.peek != some .documentStart then none
      if r.next.peek.all endsDocument then some (emptyNode, r.next)
      else readNode true false fuel r.next
    else readNode true false fuel { r with handles := defaultHandles }

/-- The node of the only document of a text; none when the text is malformed. It is read once to
count its parts, and once more with the limit that they give. -/
def read? (text : String) : Option Node := do
  let tokens ← tokens? text
  let (_, r) ← readDocument ⟨tokens, [], [], 0, 0, 0⟩
  let (n, r) ← readDocument ⟨tokens, [], [], 0, 0, 100 * r.parts⟩
  if r.tokens.all (· == .documentEnd) then some (n.limited depthLimit) else none

end ContextCompiler.Yaml
