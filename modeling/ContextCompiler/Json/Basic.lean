import ContextCompiler.Number.Text
import ContextCompiler.Config.SortedMap

/-!
Data values: what schemas, modifier options and the further keys of tools hold.

The fields of an object are kept in the order of their keys, each key once.
-/

namespace ContextCompiler

/-- A data value. -/
inductive Json where
  | null
  | bool (b : Bool)
  | int (n : Int)
  | float (d : Double)
  | str (s : String)
  | arr (items : List Json)
  | obj (fields : List (String × Json))
  deriving Repr

namespace Json

instance : Inhabited Json := ⟨null⟩

/-- The object of a list of fields, of which later ones win. -/
def ofFields (fields : List (String × Json)) : Json :=
  obj (SortedMap.ofList fields).entries

/-- The value of a field of an object. -/
def field? : Json → String → Option Json
  | obj fields, key => fields.lookup key
  | _, _ => none

/-- The text of a string value. -/
def str? : Json → Option String
  | str s => some s
  | _ => none

/-- The items of an array value. -/
def items? : Json → Option (List Json)
  | arr items => some items
  | _ => none

/-- The fields of an object value. -/
def fields? : Json → Option (List (String × Json))
  | obj fields => some fields
  | _ => none

end Json

end ContextCompiler
