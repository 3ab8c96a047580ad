import ContextCompiler.Json.Basic

/-!
What a configuration text holds, before it is read as a configuration.

A text is read into a node as far as it goes. Where it breaks off, a node says so, and a reader
that gets there fails with the fault of the text; a reader that stops earlier, because what
stands there is not what it needs, never sees it. So the first fault in the order of the text is
the one reported, whether it lies in the form or in the meaning.
-/

namespace ContextCompiler

/-- The ways in which a text in data form is not well formed. -/
inductive JsonFault where
  | endInValue
  | endInList
  | endInObject
  | endInString
  | expectedColon
  | expectedListEnd
  | expectedObjectEnd
  | expectedWord
  | expectedValue
  | invalidEscape
  | invalidNumber
  | numberRange
  | loneSurrogate
  | controlCharacter
  | keyNotString
  | trailingComma
  | trailingCharacters
  | hexEscapeEnd
  | tooDeep
  deriving DecidableEq, Repr

namespace JsonFault

/-- The wording of a fault. -/
def message : JsonFault → String
  | endInValue => "EOF while parsing a value"
  | endInList => "EOF while parsing a list"
  | endInObject => "EOF while parsing an object"
  | endInString => "EOF while parsing a string"
  | expectedColon => "expected \x60:\x60"
  | expectedListEnd => "expected \x60,\x60 or \x60]\x60"
  | expectedObjectEnd => "expected \x60,\x60 or \x60\x7d\x60"
  | expectedWord => "expected ident"
  | expectedValue => "expected value"
  | invalidEscape => "invalid escape"
  | invalidNumber => "invalid number"
  | numberRange => "number out of range"
  | loneSurrogate => "lone leading surrogate in hex escape"
  | controlCharacter => "control character (\\u0000-\\u001F) found while parsing a string"
  | keyNotString => "key must be a string"
  | trailingComma => "trailing comma"
  | trailingCharacters => "trailing characters"
  | hexEscapeEnd => "unexpected end of hex escape"
  | tooDeep => "recursion limit exceeded"

end JsonFault

/-- The place where a text breaks off. A reader that wants the value and one that passes over it
may stumble over different characters. -/
structure Break where
  read : JsonFault
  skip : JsonFault
  deriving DecidableEq, Repr

/-- How a scalar is written. -/
inductive ScalarStyle where
  | plain
  | quoted
  /-- A block that keeps its line breaks. -/
  | literal
  /-- A block whose lines are joined. -/
  | folded
  deriving DecidableEq, Repr

/-- A part of a configuration text. -/
inductive Node where
  | null
  | bool (b : Bool)
  | int (n : Int)
  | float (d : Double)
  | str (s : String)
  /-- A scalar whose text may be meant as it stands; `value` is what it means otherwise. -/
  | scalar (text : String) (style : ScalarStyle) (value : Node)
  /-- A value with a tag of its own, which no reader expects. -/
  | tagged (tag : String) (value : Node)
  | seq (items : List Node) (stop : Option Break)
  | map (entries : List (Node × Node)) (stop : Option Break)
  /-- The text breaks off here. -/
  | broken (stop : Break)
  /-- The text goes on here but cannot be read as a value. -/
  | unreadable (fault : JsonFault)
  /-- A list or map nested too deeply to be read. -/
  | deep (value : Node)
  deriving Repr

namespace Node

instance : Inhabited Node := ⟨null⟩

mutual

/-- The node of a data value. -/
def ofJson : Json → Node
  | .null => null
  | .bool b => bool b
  | .int n => int n
  | .float d => float d
  | .str s => str s
  | .arr items => seq (ofItems items) none
  | .obj fields => map (ofFields fields) none

/-- The nodes of the items of an array. -/
def ofItems : List Json → List Node
  | [] => []
  | v :: rest => ofJson v :: ofItems rest

/-- The nodes of the fields of an object. -/
def ofFields : List (String × Json) → List (Node × Node)
  | [] => []
  | (k, v) :: rest => (str k, ofJson v) :: ofFields rest

end

mutual

/-- A node whose lists and maps are nested at most as deeply as given; those that lie deeper cannot
be read. -/
def limited : Nat → Node → Node
  | 0, seq items stop => deep (seq items stop)
  | depth + 1, seq items stop => seq (limitedItems depth items) stop
  | 0, map entries stop => deep (map entries stop)
  | depth + 1, map entries stop => map (limitedEntries depth entries) stop
  | depth, tagged tag n => tagged tag (limited depth n)
  | _, n => n

/-- The items of a list with limited nesting. -/
def limitedItems (depth : Nat) : List Node → List Node
  | [] => []
  | n :: rest => limited depth n :: limitedItems depth rest

/-- The entries of a map with limited nesting. -/
def limitedEntries (depth : Nat) : List (Node × Node) → List (Node × Node)
  | [] => []
  | (k, v) :: rest => (limited depth k, limited depth v) :: limitedEntries depth rest

end

mutual

/-- The fault met by a reader that passes over a node. -/
def skipFault : Node → Option JsonFault
  | broken stop => some stop.skip
  | deep n => skipFault n
  | tagged _ n => skipFault n
  | seq items stop => (skipItems items).or (stop.map (·.skip))
  | map entries stop => (skipEntries entries).or (stop.map (·.skip))
  | _ => none

/-- The fault met by a reader that passes over the items of a list. -/
def skipItems : List Node → Option JsonFault
  | [] => none
  | n :: rest => (skipFault n).or (skipItems rest)

/-- The fault met by a reader that passes over the entries of a map. -/
def skipEntries : List (Node × Node) → Option JsonFault
  | [] => none
  | (k, v) :: rest => ((skipFault k).or (skipFault v)).or (skipEntries rest)

end

end Node

end ContextCompiler
