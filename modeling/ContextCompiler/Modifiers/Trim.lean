import ContextCompiler.Decode.Reader
import ContextCompiler.Text.Lines
import ContextCompiler.Text.Blank

/-!
Trimming of texts, to a number of lines and of characters.
-/

namespace ContextCompiler

/-- How much of a text is kept. -/
structure TrimOptions where
  maxLines : Option Nat
  maxChars : Option Nat
  deriving DecidableEq, Repr

namespace TrimOptions

/-- All of it. -/
def unlimited : TrimOptions := ⟨none, none⟩

/-- Reads the options. -/
def read (n : Node) : Decoded TrimOptions :=
  let d := Dialect.value
  FieldRule.record d "struct TrimOptions"
    [.mayHave "maxLines" (d.optional d.count) fun v o => { o with maxLines := v },
     .mayHave "maxChars" (d.optional d.count) fun v o => { o with maxChars := v }]
    unlimited true n

/-- The text without blanks at its ends, its first lines and then its first characters. -/
def apply (o : TrimOptions) (s : List Char) : List Char :=
  let s := Text.trimWhile Text.isBlank s
  let s :=
    match o.maxLines with
    | some n => Text.unlines ((Text.lineChars s).take n)
    | none => s
  let s :=
    match o.maxChars with
    | some n => s.take n
    | none => s
  Text.dropEndWhile Text.isBlank s

end TrimOptions

end ContextCompiler
