import ContextCompiler.Decode.Node
import ContextCompiler.Number.Parse
import ContextCompiler.Text.Search

/-!
What plain scalars mean.

A plain scalar is null, a truth value, an integer or a floating-point number when it is written
as one, and otherwise the text itself.
-/

namespace ContextCompiler.Yaml

/-- Whether a text is a way to write null. -/
def isNullText (s : String) : Bool := ["null", "Null", "NULL", "~"].contains s

/-- The truth value that a text writes. -/
def boolOf? (s : String) : Option Bool :=
  if ["true", "True", "TRUE"].contains s then some true
  else if ["false", "False", "FALSE"].contains s then some false
  else none

/-- Whether a text has digits only, more than one, and a zero in front; such a text is no
number. -/
def isPadded (s : List Char) : Bool :=
  let ds := match s with
    | '-' :: ds => ds
    | '+' :: ds => ds
    | ds => ds
  match ds with
  | '0' :: d :: ds => (d :: ds).all Char.isDigit
  | _ => false

/-- The number after a prefix that names the base. -/
def basedNat? (s : List Char) : Option Nat :=
  match s with
  | '0' :: 'x' :: ds => Number.natOfDigits? 16 ds
  | '0' :: 'o' :: ds => Number.natOfDigits? 8 ds
  | '0' :: 'b' :: ds => Number.natOfDigits? 2 ds
  | _ => none

/-- The integer that a text writes, whatever its size. -/
def anyIntOf? (s : List Char) : Option Int :=
  match s with
  | '-' :: ds =>
    match basedNat? ds with
    | some n => some (-n)
    | none => if isPadded s then none else (Number.natOfDigits? 10 ds).map fun n => -(n : Int)
  | _ =>
    let ds := match s with
      | '+' :: ds => ds
      | ds => ds
    match basedNat? ds with
    | some n => some n
    | none => if isPadded s then none else (Number.natOfDigits? 10 ds).map fun n => (n : Int)

/-- The integer that a text writes, which takes 128 bits at most. -/
def intOf? (s : List Char) : Option Int :=
  (anyIntOf? s).filter fun n => -(Nat.pow 2 127 : Int) ≤ n && n < Nat.pow 2 128

/-- The floating-point number that a text writes. -/
def floatOf? (s : String) : Option Double :=
  let bare := match s.toList with
    | '+' :: cs => cs
    | cs => cs
  if [".inf", ".Inf", ".INF"].contains (String.ofList bare) then some (.infinity false)
  else if ["-.inf", "-.Inf", "-.INF"].contains s then some (.infinity true)
  else if [".nan", ".NaN", ".NAN"].contains s then some .nan
  else
    match s.toList, bare with
    | '+' :: _, '+' :: _ => none
    | '+' :: _, '-' :: _ => none
    | _, cs => (Number.doubleOf? cs).filter (·.isFinite)

/-- An integer as a node. Integers of more than 64 bits cannot be used. -/
def intNode (n : Int) : Node :=
  if -(Nat.pow 2 63 : Int) ≤ n && n < Nat.pow 2 64 then .int n else .unreadable .numberRange

/-- The meaning of a plain scalar. -/
def plainMeaning (s : String) : Node :=
  if s == "" || isNullText s then .null
  else
    match boolOf? s with
    | some b => .bool b
    | none =>
      match intOf? s.toList with
      | some n => intNode n
      | none =>
        if isPadded s.toList then .str s
        else
          match floatOf? s with
          | some d => .float d
          | none => .str s

/-- The name space of the tags that the format itself defines. -/
def coreTag : String := "tag:yaml.org,2002:"

/-- The tag of null. -/
def nullTag : String := coreTag ++ "null"

/-- The node of a scalar with its tag. -/
def scalarNode (text : String) (style : ScalarStyle) (tag : Option String) : Node :=
  let meaning := if style = .plain then plainMeaning text else .str text
  match tag with
  | none => if style = .plain then .scalar text style meaning else .str text
  | some tag =>
    let misfit := Node.tagged tag (.str text)
    if Text.hasPrefix "!" tag then .tagged tag (.scalar text style meaning)
    else if tag == coreTag ++ "bool" then
      .scalar text style (((boolOf? text).map Node.bool).getD misfit)
    else if tag == coreTag ++ "int" then
      .scalar text style (((intOf? text.toList).map intNode).getD misfit)
    else if tag == coreTag ++ "float" then
      .scalar text style (((floatOf? text).map Node.float).getD misfit)
    else if tag == nullTag then .scalar text style (if isNullText text then .null else misfit)
    else .scalar text style (.str text)

end ContextCompiler.Yaml
