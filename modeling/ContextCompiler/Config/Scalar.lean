import ContextCompiler.Decode.Reader

/-!
Fields that accept more than one form: scalars that stand for texts, and texts alone or in lists.
-/

namespace ContextCompiler

/-- The text of an integer that fits into 64 bits with sign. -/
def readInteger : Node → Decoded String
  | .int n =>
    if -(Nat.pow 2 63 : Int) ≤ n && n < Nat.pow 2 63 then pure (toString n)
    else (Node.int n).refuse "i64"
  | n => n.refuse "i64"

/-- The text of a number. -/
def readNumber : Node → Decoded String
  | .int n => pure (Double.ofInt n).plain
  | .float d => pure d.plain
  | n => n.refuse "f64"

/-- The text of a truth value. -/
def readTruth (n : Node) : Decoded String := do
  pure (if ← Dialect.buffered.boolean n then "true" else "false")

/-- A text, or a scalar that stands for its text. -/
def readScalar (n : Node) : Decoded String :=
  Dialect.anyOf "Scalar" [Dialect.buffered.string, readTruth, readInteger, readNumber] n

/-- A map of scalars; null stands for the empty text, and for the empty map. -/
def readScalarMap (d : Dialect) (n : Node) : Decoded (SortedMap String) := do
  let read (v : Node) : Decoded String := do
    pure ((← d.optional readScalar v).getD "")
  pure ((← d.optional (d.mapOf read) n).getD .empty)

/-- One text or a list of texts; null stands for the empty list. -/
def readOneOrMany (d : Dialect) (n : Node) : Decoded (List String) := do
  let one (n : Node) : Decoded (List String) := do pure [← Dialect.buffered.string n]
  let many := Dialect.buffered.list Dialect.buffered.string
  pure ((← d.optional (Dialect.anyOf "OneOrMany" [one, many]) n).getD [])

end ContextCompiler
