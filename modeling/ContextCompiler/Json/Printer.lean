import ContextCompiler.Json.Basic

/-!
Writing data values.

The compact form has no blanks. The indented form puts every item and field on a line of its
own, two spaces deeper than what holds it; empty arrays and objects stay on one line.
-/

namespace ContextCompiler.Json

/-- The two hexadecimal digits of a number below 256. -/
def hexPair (n : Nat) : List Char := [Nat.digitChar (n / 16), Nat.digitChar (n % 16)]

/-- A character inside quotes: quotes, backslashes and control characters are escaped. -/
def quoteChar (c : Char) : List Char :=
  if c == '"' then ['\\', '"']
  else if c == '\\' then ['\\', '\\']
  else if c == '\n' then ['\\', 'n']
  else if c == '\r' then ['\\', 'r']
  else if c == '\t' then ['\\', 't']
  else if c.toNat == 8 then ['\\', 'b']
  else if c.toNat == 12 then ['\\', 'f']
  else if c.toNat < 32 then ['\\', 'u', '0', '0'] ++ hexPair c.toNat
  else [c]

/-- A text in quotes. -/
def quote (s : String) : String :=
  "\"" ++ String.ofList (s.toList.flatMap quoteChar) ++ "\""

mutual

/-- The compact form. -/
def compact : Json → String
  | null => "null"
  | bool b => if b then "true" else "false"
  | int n => toString n
  | float d => d.data
  | str s => quote s
  | arr items => "[" ++ compactItems items ++ "]"
  | obj fields => "\x7b" ++ compactFields fields ++ "\x7d"

/-- The items of an array between commas. -/
def compactItems : List Json → String
  | [] => ""
  | [v] => compact v
  | v :: rest => compact v ++ "," ++ compactItems rest

/-- The fields of an object between commas. -/
def compactFields : List (String × Json) → String
  | [] => ""
  | [(k, v)] => quote k ++ ":" ++ compact v
  | (k, v) :: rest => quote k ++ ":" ++ compact v ++ "," ++ compactFields rest

end

mutual

/-- The indented form, for a value that starts at the given indentation. -/
def indented (indent : String) : Json → String
  | arr [] => "[]"
  | obj [] => "\x7b\x7d"
  | arr items => "[\n" ++ indentedItems (indent ++ "  ") items ++ "\n" ++ indent ++ "]"
  | obj fields => "\x7b\n" ++ indentedFields (indent ++ "  ") fields ++ "\n" ++ indent ++ "\x7d"
  | null => "null"
  | bool b => if b then "true" else "false"
  | int n => toString n
  | float d => d.data
  | str s => quote s

/-- The items of an array, one a line. -/
def indentedItems (indent : String) : List Json → String
  | [] => ""
  | [v] => indent ++ indented indent v
  | v :: rest => indent ++ indented indent v ++ ",\n" ++ indentedItems indent rest

/-- The fields of an object, one a line. -/
def indentedFields (indent : String) : List (String × Json) → String
  | [] => ""
  | [(k, v)] => indent ++ quote k ++ ": " ++ indented indent v
  | (k, v) :: rest =>
    indent ++ quote k ++ ": " ++ indented indent v ++ ",\n" ++ indentedFields indent rest

end

/-- The indented form. -/
def pretty (v : Json) : String := indented "" v

end ContextCompiler.Json
