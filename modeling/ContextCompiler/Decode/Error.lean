import ContextCompiler.Decode.Node
import ContextCompiler.Text.Quoted
import ContextCompiler.Text.Search

/-!
Why a part of a configuration text does not have the meaning asked for.
-/

namespace ContextCompiler

/-- What stands at a place of a configuration text, for messages. -/
inductive Found where
  | null
  | bool (b : Bool)
  | int (n : Int)
  | float (d : Double)
  | text (s : String)
  | list
  | map
  deriving DecidableEq, Repr

namespace Found

/-- The description of what was found. -/
def describe : Found → String
  | null => "null"
  | bool b => "boolean \x60" ++ (if b then "true" else "false") ++ "\x60"
  | int n => "integer \x60" ++ toString n ++ "\x60"
  | float d => "floating point \x60" ++ d.data ++ "\x60"
  | text s => "string " ++ Text.quoted s
  | list => "sequence"
  | map => "map"

end Found

/-- A reason for which a configuration text is refused. -/
inductive DecodeError where
  | fault (f : JsonFault)
  | wrongType (found : Found) (expected : String)
  | wrongValue (found : Found) (expected : String)
  | wrongLength (length : Nat) (expected : String)
  | missingField (name : String)
  | duplicateField (name : String)
  | unknownVariant (name : String) (known : List String)
  | noVariant (type : String)
  | invalid (message : String)
  deriving DecidableEq, Repr

namespace DecodeError

/-- The names that were possible instead. -/
def expectedNames : List String → String
  | [] => "there are no variants"
  | [a] => "expected \x60" ++ a ++ "\x60"
  | [a, b] => "expected \x60" ++ a ++ "\x60 or \x60" ++ b ++ "\x60"
  | names => "expected one of " ++ Text.join ", " (names.map fun a => "\x60" ++ a ++ "\x60")

/-- The wording of a reason. -/
def message : DecodeError → String
  | fault f => f.message
  | wrongType found expected => "invalid type: " ++ found.describe ++ ", expected " ++ expected
  | wrongValue found expected => "invalid value: " ++ found.describe ++ ", expected " ++ expected
  | wrongLength n expected => "invalid length " ++ toString n ++ ", expected " ++ expected
  | missingField name => "missing field \x60" ++ name ++ "\x60"
  | duplicateField name => "duplicate field \x60" ++ name ++ "\x60"
  | unknownVariant name known => "unknown variant \x60" ++ name ++ "\x60, " ++ expectedNames known
  | noVariant type => "data did not match any variant of untagged enum " ++ type
  | invalid m => m

end DecodeError

/-- The result of reading a meaning. -/
abbrev Decoded (α : Type) := Except DecodeError α

end ContextCompiler
