import ContextCompiler.Html.Dom

/-!
A tree under construction.

Parts are numbered as they are made; the elements that are open form a stack, innermost first, and
elements of the formatting kind are remembered until their end tag, so that badly nested tags
still give a tree.
-/

namespace ContextCompiler.Html

/-- What a numbered part of the tree is. -/
inductive Part where
  | root
  | text (s : List Char)
  | comment (s : List Char)
  | element (space : Space) (name : String) (attrs : List (String × String))

/-- A numbered part: what it is, what holds it, and what it holds, in order. -/
structure Entry where
  part : Part
  parent : Option Nat
  children : List Nat

/-- What the next piece may be. -/
inductive Mode where
  | start
  | beforeHtml
  | beforeHead
  | inHead
  | afterHead
  | inBody
  | inText
  | inTable
  | inTableText
  | inCaption
  | inColumns
  | inRows
  | inRow
  | inCell
  | inSelect
  | inTableSelect
  | inTemplate
  | inFrames
  | afterBody
  | afterFrames
  | afterPage
  | afterFramesPage
  deriving DecidableEq, Repr

/-- A remembered element of the formatting kind, or the mark of a place that such elements do not
reach over. -/
inductive Remembered where
  | mark
  | element (id : Nat) (name : String) (attrs : List (String × String))

/-- A tree under construction. -/
structure Builder where
  entries : Array Entry
  /-- The open elements, innermost first. -/
  stack : List Nat
  /-- The remembered elements, latest first. -/
  remembered : List Remembered
  mode : Mode
  /-- The mode to go back to. -/
  backTo : Mode
  /-- The modes of the open templates, innermost first. -/
  templates : List Mode
  head : Option Nat
  form : Option Nat
  /-- Whether parts that do not belong into a table go in front of it. -/
  fosters : Bool
  /-- The text inside a table so far. -/
  tableText : List Char
  /-- Whether a line feed right here is left out. -/
  skipsFeed : Bool
  /-- Whether the page is of the old style, where a table does not end a paragraph. -/
  isOldStyle : Bool
  /-- Whether frames may still take the place of the body. -/
  allowsFrames : Bool
  reading : Reading

/-- What a mode makes of a piece: the tree with the piece taken in, or a tree whose mode is to
take the piece. -/
inductive Step where
  | done (b : Builder)
  | again (b : Builder)

namespace Builder

/-- An empty page. -/
def empty : Builder :=
  ⟨#[⟨.root, none, []⟩], [], [], .start, .inBody, [], none, none, false, [], false, false, true,
    .markup⟩

/-- Space, name and attributes of an element. -/
def elementAt? (b : Builder) (id : Nat) : Option (Space × String × List (String × String)) :=
  match b.entries[id]? with
  | some ⟨.element space name attrs, _, _⟩ => some (space, name, attrs)
  | _ => none

/-- The name of an element of the page itself; empty for parts of drawings and formulas. -/
def nameOf (b : Builder) (id : Nat) : String :=
  match b.elementAt? id with
  | some (.page, name, _) => name
  | _ => ""

/-- The attributes of an element. -/
def attrsOf (b : Builder) (id : Nat) : List (String × String) :=
  ((b.elementAt? id).map (·.2.2)).getD []

/-- Whether an element is a part of a drawing or a formula. -/
def isForeign (b : Builder) (id : Nat) : Bool :=
  (b.elementAt? id).any fun (space, _, _) => space != .page

/-- The innermost open element. -/
def current (b : Builder) : Nat := b.stack.head?.getD 0

/-- The name of the innermost open element. -/
def currentName (b : Builder) : String := b.nameOf b.current

/-- Whether an element of a name is open. -/
def isOpen (b : Builder) (name : String) : Bool := b.stack.any fun id => b.nameOf id == name

/-! ## Changes of the tree -/

/-- Makes a part that nothing holds yet. -/
def make (b : Builder) (part : Part) : Builder × Nat :=
  ({ b with entries := b.entries.push ⟨part, none, []⟩ }, b.entries.size)

/-- Changes what an element holds. -/
def setChildren (b : Builder) (id : Nat) (f : List Nat → List Nat) : Builder :=
  { b with entries := b.entries.modify id fun e => { e with children := f e.children } }

/-- Takes a part out of what holds it. -/
def detach (b : Builder) (id : Nat) : Builder :=
  match (b.entries[id]?).bind Entry.parent with
  | none => b
  | some p =>
    let b := b.setChildren p fun cs => cs.filter (· != id)
    { b with entries := b.entries.modify id fun e => { e with parent := none } }

/-- Where a part goes: into an element, at its end or before one of its parts. -/
structure Place where
  parent : Nat
  before : Option Nat

/-- Puts a part at a place. -/
def attach (b : Builder) (id : Nat) (place : Place) : Builder :=
  let b := b.setChildren place.parent fun cs =>
    match place.before with
    | none => cs ++ [id]
    | some k => cs.takeWhile (· != k) ++ id :: cs.dropWhile (· != k)
  { b with entries := b.entries.modify id fun e => { e with parent := some place.parent } }

/-- The elements that only tables hold directly. -/
def tableParts : List String := ["table", "tbody", "tfoot", "thead", "tr"]

/-- Where a part goes that does not belong into the innermost table: before that table, or into
the template inside of it. -/
def fosterPlace (b : Builder) : List Nat → Place
  | [] => ⟨b.stack.getLast?.getD 0, none⟩
  | id :: outer =>
    match b.nameOf id with
    | "template" => ⟨id, none⟩
    | "table" =>
      match (b.entries[id]?).bind Entry.parent with
      | some p => ⟨p, some id⟩
      | none => ⟨outer.head?.getD 0, none⟩
    | _ => fosterPlace b outer

/-- Where the next part goes when it is meant for an element. -/
def placeIn (b : Builder) (target : Nat) : Place :=
  if b.fosters && tableParts.contains (b.nameOf target) then b.fosterPlace b.stack
  else ⟨target, none⟩

/-- The part right before a place. -/
def previous (b : Builder) (place : Place) : Option Nat :=
  let cs := ((b.entries[place.parent]?).map Entry.children).getD []
  match place.before with
  | none => cs.getLast?
  | some k => (cs.takeWhile (· != k)).getLast?

/-- Adds text, to the text right before it if there is one. -/
def addText (b : Builder) (s : List Char) : Builder :=
  if s.isEmpty then b
  else
    let place := b.placeIn b.current
    let joined : Option Builder := do
      let id ← b.previous place
      match ← b.entries[id]? with
      | ⟨.text t, parent, cs⟩ =>
        some { b with entries := b.entries.set! id ⟨.text (t ++ s), parent, cs⟩ }
      | _ => none
    match joined with
    | some b => b
    | none =>
      let (b, id) := b.make (.text s)
      b.attach id place

/-- Adds a comment to an element. -/
def addCommentTo (b : Builder) (target : Nat) (s : List Char) : Builder :=
  let (b, id) := b.make (.comment s)
  b.attach id ⟨target, none⟩

/-- Adds a comment. -/
def addComment (b : Builder) (s : List Char) : Builder :=
  let place := b.placeIn b.current
  let (b, id) := b.make (.comment s)
  b.attach id place

/-- Opens an element. -/
def openElement (b : Builder) (space : Space) (name : String) (attrs : List (String × String)) :
    Builder :=
  let place := b.placeIn b.current
  let (b, id) := b.make (.element space name attrs)
  let b := b.attach id place
  { b with stack := id :: b.stack }

/-- Opens an element of the page itself. -/
def opened (b : Builder) (name : String) (attrs : List (String × String)) : Builder :=
  b.openElement .page name attrs

/-- Closes the innermost element. -/
def pop (b : Builder) : Builder := { b with stack := b.stack.drop 1 }

/-- Adds an element that holds nothing. -/
def addVoid (b : Builder) (name : String) (attrs : List (String × String)) : Builder :=
  (b.opened name attrs).pop

/-- Closes elements up to and with the innermost of the names. -/
def popThrough (b : Builder) (names : List String) : Builder :=
  { b with stack := (b.stack.dropWhile fun id => !names.contains (b.nameOf id)).drop 1 }

/-- Closes elements up to the innermost of the names, which stays open. -/
def popTo (b : Builder) (names : List String) : Builder :=
  { b with stack := b.stack.dropWhile fun id => !names.contains (b.nameOf id) }

/-- Gives an element the attributes that it does not have yet. -/
def addAttrs (b : Builder) (id : Nat) (attrs : List (String × String)) : Builder :=
  let add (e : Entry) : Entry :=
    match e.part with
    | .element space name old =>
      let new := attrs.filter fun (k, _) => !old.any (·.1 == k)
      { e with part := .element space name (old ++ new) }
    | _ => e
  { b with entries := b.entries.modify id add }

/-- Takes the attributes of a later start tag of the page. -/
def addPageAttrs (b : Builder) (attrs : List (String × String)) : Builder :=
  if b.isOpen "template" then b
  else
    match b.stack.getLast? with
    | some page => b.addAttrs page attrs
    | none => b

/-- The body, where it is the outermost element in the page. -/
def body? (b : Builder) : Option Nat :=
  match b.stack.reverse with
  | _ :: id :: _ => if b.nameOf id == "body" then some id else none
  | _ => none

/-- Does without frames. -/
def withoutFrames (b : Builder) : Builder := { b with allowsFrames := false }

/-! ## The finished tree -/

/-- The tree from a numbered part down. `fuel` bounds its depth. -/
def toDom (b : Builder) : Nat → Nat → Option Dom
  | 0, _ => none
  | fuel + 1, id =>
    match b.entries[id]? with
    | none => none
    | some e =>
      match e.part with
      | .root => none
      | .text s => some (.text s)
      | .comment s => some (.comment s)
      | .element space name attrs =>
        some (.element space name attrs (e.children.filterMap (b.toDom fuel)))

/-- The parts at the top. -/
def tops (b : Builder) : List Dom :=
  match b.entries[0]? with
  | none => []
  | some e => e.children.filterMap (b.toDom (b.entries.size + 1))

end Builder

end ContextCompiler.Html
