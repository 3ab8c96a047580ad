import ContextCompiler.Text.Property

/-!
Texts in quotes, for messages.

What would not be seen in a message is written as an escape: control characters, other
characters without a shape of their own, characters that extend the one before, and quotes.
-/

namespace ContextCompiler.Text

/-- Whether a character marks something on the page by itself. -/
def isShown (c : Char) : Bool :=
  c == ' '
    || !(hasCategory 'C' none c || hasCategory 'Z' none c || Trait.graphemeExtend.holds c
      || Trait.defaultIgnorable.holds c)

/-- A character by its code point. -/
def codePointEscape (c : Char) : List Char :=
  ['\\', 'u', '\x7b'] ++ Nat.toDigits 16 c.toNat ++ ['\x7d']

/-- A character of a quoted text; `single` tells whether single quotes are escaped as well. -/
def quotedChar (single : Bool) (c : Char) : List Char :=
  if c == '\x00' then ['\\', '0']
  else if c == '\t' then ['\\', 't']
  else if c == '\r' then ['\\', 'r']
  else if c == '\n' then ['\\', 'n']
  else if c == '\\' then ['\\', '\\']
  else if c == '"' then ['\\', '"']
  else if c == '\'' && single then ['\\', '\'']
  else if isShown c then [c]
  else codePointEscape c

/-- A text in quotes. -/
def quoted (s : String) : String :=
  "\"" ++ String.ofList (s.toList.flatMap (quotedChar false)) ++ "\""

/-- A path in quotes. -/
def quotedPath (s : String) : String :=
  "\"" ++ String.ofList (s.toList.flatMap (quotedChar true)) ++ "\""

end ContextCompiler.Text
