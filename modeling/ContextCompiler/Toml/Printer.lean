import ContextCompiler.Text.Search

/-!
Writing TOML strings.

A string is written in the first of these forms in which nothing has to be escaped: in double
quotes, in single quotes, in three double quotes, in three single quotes. Where no form will do it
is written in double quotes with escapes, three of them if the string has more than one line.
-/

namespace ContextCompiler.Toml

/-- The longest row of a character in a text; `here` is the length of the row that comes before. -/
def longestRow (q : Char) (here : Nat) : List Char → Nat
  | [] => here
  | c :: s => if c == q then longestRow q (here + 1) s else Nat.max here (longestRow q 0 s)

/-- Whether a character has to be escaped in every form. -/
def needsEscape (c : Char) : Bool :=
  (c.toNat < 32 && c != '\t' && c != '\n') || c.toNat == 127

/-- An escape by the code of a character below 256. -/
def codeEscape (c : Char) : List Char :=
  let digit (n : Nat) : Char := (Nat.digitChar n).toUpper
  ['\\', 'u', '0', '0', digit (c.toNat / 16), digit (c.toNat % 16)]

/-- A text between double quotes, of which up to `quotes` may stand in a row and `row` come right
before. Line ends stay as they are if `lines` holds. -/
def escaped (quotes : Nat) (lines : Bool) (row : Nat) : List Char → List Char
  | [] => []
  | c :: s =>
    if c == '"' then
      if row < quotes then c :: escaped quotes lines (row + 1) s
      else '\\' :: c :: escaped quotes lines 0 s
    else
      let shown : List Char :=
        if c == '\n' then if lines then [c] else ['\\', 'n']
        else if c == '\t' then ['\\', 't']
        else if c == '\r' then ['\\', 'r']
        else if c.toNat == 8 then ['\\', 'b']
        else if c.toNat == 12 then ['\\', 'f']
        else if c == '\\' then ['\\', '\\']
        else if needsEscape c then codeEscape c
        else [c]
      shown ++ escaped quotes lines 0 s

/-- A string as it is written. -/
def quoteChars (s : List Char) : List Char :=
  let control := s.any needsEscape
  let escape := s.contains '\\'
  let doubles := longestRow '"' 0 s
  let singles := longestRow '\'' 0 s
  let hasLines := s.contains '\n'
  let lineEnd : List Char := if hasLines then ['\n'] else []
  let double : List Char := '"' :: escaped 0 false 0 s ++ ['"']
  let tripleDouble : List Char :=
    ['"', '"', '"'] ++ lineEnd ++ escaped 2 true 0 s ++ ['"', '"', '"']
  if !control && !escape && doubles == 0 && !hasLines then double
  else if !control && singles == 0 && !hasLines then '\'' :: s ++ ['\'']
  else if !control && !escape && doubles ≤ 2 then tripleDouble
  else if !control && singles ≤ 2 then ['\'', '\'', '\''] ++ lineEnd ++ s ++ ['\'', '\'', '\'']
  else if hasLines then tripleDouble
  else double

/-- A string as it is written. -/
def quote (s : String) : String := String.ofList (quoteChars s.toList)

end ContextCompiler.Toml
