import ContextCompiler.Decode.Node
import ContextCompiler.Number.Parse

/-!
Scalars of texts in TOML: keys, strings, numbers, truth values, dates and times.

Every reader returns what it read and the characters that are left, or nothing when the text is
malformed.
-/

namespace ContextCompiler.Toml

/-- Blanks within a line. -/
def isGap (c : Char) : Bool := c == ' ' || c == '\t'

/-- Control characters, which stand nowhere but in line ends and as tabs. -/
def isControl (c : Char) : Bool :=
  (c.toNat < 32 && c != '\t') || c.toNat == 127

/-- Characters of keys without quotes. -/
def isBareKeyChar (c : Char) : Bool := c.isAlphanum || c == '_' || c == '-'

/-- The text after a line break, if it starts with one. -/
def dropNewline? : List Char → Option (List Char)
  | '\n' :: s => some s
  | '\r' :: '\n' :: s => some s
  | _ => none

/-- The number written by hexadecimal digits. -/
def hexNumber? (cs : List Char) : Option Nat := Number.natOfDigits? 16 cs

/-- The character of an escape after its backslash, and the rest. -/
def escape? : List Char → Option (Char × List Char)
  | 'b' :: s => some ('\x08', s)
  | 't' :: s => some ('\t', s)
  | 'n' :: s => some ('\n', s)
  | 'f' :: s => some ('\x0c', s)
  | 'r' :: s => some ('\r', s)
  | '"' :: s => some ('"', s)
  | '\\' :: s => some ('\\', s)
  | 'u' :: s => code 4 s
  | 'U' :: s => code 8 s
  | _ => none
where
  /-- The character of a code point of `k` digits. -/
  code (k : Nat) (s : List Char) : Option (Char × List Char) := do
    let ds := s.take k
    if ds.length != k then none
    let n ← hexNumber? ds
    if (0xD800 ≤ n && n ≤ 0xDFFF) || 0x10FFFF < n then none
    some (Char.ofNat n, s.drop k)

/-- Reads the rest of a string on one line; `out` holds its characters so far, last first. -/
def basicTail : Nat → List Char → List Char → Option (List Char × List Char)
  | 0, _, _ => none
  | n + 1, out, s =>
    match s with
    | [] => none
    | '"' :: s => some (out.reverse, s)
    | '\\' :: s => do
      let (c, s) ← escape? s
      basicTail n (c :: out) s
    | c :: s => if isControl c then none else basicTail n (c :: out) s

/-- Reads the rest of a literal string on one line. -/
def literalTail (s : List Char) : Option (List Char × List Char) :=
  match s.span (fun c => c != '\'' && !isControl c) with
  | (body, '\'' :: rest) => some (body, rest)
  | _ => none

/-- Drops line breaks and blanks. -/
def dropBlankLines : Nat → List Char → List Char
  | 0, s => s
  | n + 1, s =>
    match s.dropWhile isGap with
    | '\n' :: s => dropBlankLines n s
    | '\r' :: '\n' :: s => dropBlankLines n s
    | s => s

/-- Reads the end of a string of several lines at its quotes: three end it, and up to two more
belong to the string. -/
def quotesEnd (q : Char) (s : List Char) : Nat := (s.takeWhile (· == q)).length

/-- Reads the rest of a string of several lines. `raw` strings have no escapes. -/
def multiTail (q : Char) (raw : Bool) : Nat → List Char → List Char →
    Option (List Char × List Char)
  | 0, _, _ => none
  | n + 1, out, s =>
    match s with
    | [] => none
    | c :: rest =>
      if c == q then
        let k := quotesEnd q s
        if 3 ≤ k then
          if 5 < k then none
          else some (out.reverse ++ List.replicate (k - 3) q, s.drop k)
        else multiTail q raw n (List.replicate k q ++ out) (s.drop k)
      else if c == '\\' && !raw then
        match dropNewline? (rest.dropWhile isGap) with
        | some after => multiTail q raw n out (dropBlankLines after.length after)
        | none => do
          let (c, s) ← escape? rest
          multiTail q raw n (c :: out) s
      else
        match dropNewline? s with
        | some after => multiTail q raw n ('\n' :: out) after
        | none => if isControl c then none else multiTail q raw n (c :: out) rest

/-- A line break right after the opening quotes does not count. -/
def dropFirstNewline (s : List Char) : List Char := (dropNewline? s).getD s

/-- Reads a string. -/
def string? (s : List Char) : Option (List Char × List Char) :=
  match s with
  | '"' :: '"' :: '"' :: s => multiTail '"' false (s.length + 1) [] (dropFirstNewline s)
  | '\'' :: '\'' :: '\'' :: s => multiTail '\'' true (s.length + 1) [] (dropFirstNewline s)
  | '"' :: s => basicTail (s.length + 1) [] s
  | '\'' :: s => literalTail s
  | _ => none

/-- Reads one part of a key. -/
def simpleKey? (s : List Char) : Option (String × List Char) :=
  match s with
  | '"' :: s => (basicTail (s.length + 1) [] s).map fun (k, s) => (String.ofList k, s)
  | '\'' :: s => (literalTail s).map fun (k, s) => (String.ofList k, s)
  | s =>
    match s.span isBareKeyChar with
    | ([], _) => none
    | (k, s) => some (String.ofList k, s)

/-- How deeply arrays and inline tables are nested at most, and the number of parts of a key. -/
def maxDepth : Nat := 79

/-- Reads a key of parts between points; their number is limited. -/
def key? : Nat → List Char → Option (List String × List Char)
  | 0, _ => none
  | n + 1, s => do
    let (k, s) ← simpleKey? s
    match s.dropWhile isGap with
    | '.' :: rest => do
      let (ks, s) ← key? n (rest.dropWhile isGap)
      some (k :: ks, s)
    | s => some ([k], s)

/-- The digits of a text in which single underscores stand between digits. -/
def digitsOf? (isDigit : Char → Bool) : List Char → Option (List Char)
  | [] => none
  | [c] => if isDigit c then some [c] else none
  | c :: '_' :: s => if isDigit c then (digitsOf? isDigit s).map (c :: ·) else none
  | c :: s => if isDigit c then (digitsOf? isDigit s).map (c :: ·) else none

/-- An integer that fits into 64 bits with sign. -/
def intNode? (n : Int) : Option Node :=
  if -(Nat.pow 2 63 : Int) ≤ n && n < Nat.pow 2 63 then some (.int n) else none

/-- The number of a digit text in a base, with underscores. -/
def basedNode? (base : Nat) (s : List Char) : Option Node := do
  let isDigit (c : Char) : Bool := (Number.digitValue? c).any (fun d => decide (d < base))
  let ds ← digitsOf? isDigit s
  let n ← Number.natOfDigits? base ds
  intNode? n

/-- The sign of a number, and the rest. -/
def signOf (s : List Char) : Bool × List Char :=
  match s with
  | '-' :: s => (true, s)
  | '+' :: s => (false, s)
  | s => (false, s)

/-- The number that a word writes. -/
def numberNode? (word : List Char) : Option Node :=
  match word with
  | '0' :: 'x' :: s => basedNode? 16 s
  | '0' :: 'o' :: s => basedNode? 8 s
  | '0' :: 'b' :: s => basedNode? 2 s
  | _ =>
    let (neg, body) := signOf word
    if body == "inf".toList then some (.float (.infinity neg))
    else if body == "nan".toList then some (.float (if neg then Double.nan.negate else .nan))
    else
      let (whole, rest) := body.span fun c => c.isDigit || c == '_'
      match digitsOf? Char.isDigit whole with
      | none => none
      | some ds =>
        if 1 < ds.length && ds.head? == some '0' then none
        else
          match rest with
          | [] => (Number.natOfDigits? 10 ds).bind fun n => intNode? (if neg then -(n : Int) else n)
          | _ => do
            let (fraction, rest) ← match rest with
              | '.' :: s =>
                let (f, rest) := s.span fun c => c.isDigit || c == '_'
                (digitsOf? Char.isDigit f).map fun f => ('.' :: f, rest)
              | rest => some ([], rest)
            let exponent ← match rest with
              | [] => some []
              | e :: s =>
                if e == 'e' || e == 'E' then
                  let (expNeg, s) := signOf s
                  (digitsOf? Char.isDigit s).map fun ds =>
                    'e' :: (if expNeg then ['-'] else []) ++ ds
                else none
            let d ← Number.doubleOf? ((if neg then ['-'] else []) ++ ds ++ fraction ++ exponent)
            if d.isFinite then some (.float d) else none

/-- A number of exactly two digits from a text, within bounds. -/
def twoDigits? (lo hi : Nat) (s : List Char) : Option (Nat × List Char) := do
  let n ← Number.natOfDigits? 10 (s.take 2)
  if (s.take 2).length == 2 && lo ≤ n && n ≤ hi then some (n, s.drop 2) else none

/-- The text after a given character. -/
def expect? (p : Char → Bool) : List Char → Option (List Char)
  | c :: s => if p c then some s else none
  | [] => none

/-- The number of days of a month. -/
def daysIn (year month : Nat) : Nat :=
  if month == 2 then
    if (year % 4 == 0 && year % 100 != 0) || year % 400 == 0 then 29 else 28
  else if [4, 6, 9, 11].contains month then 30 else 31

/-- Reads a date. -/
def date? (s : List Char) : Option (List Char × List Char) := do
  let year ← Number.natOfDigits? 10 (s.take 4)
  if (s.take 4).length != 4 then none
  let t ← expect? (· == '-') (s.drop 4)
  let (month, t) ← twoDigits? 1 12 t
  let t ← expect? (· == '-') t
  let (_, t) ← twoDigits? 1 (daysIn year month) t
  some (s.take 10, t)

/-- Reads a time of day. Fractions of a second keep nine digits at most, and no final zeros. -/
def time? (s : List Char) : Option (List Char × List Char) := do
  let (_, t) ← twoDigits? 0 23 s
  let t ← expect? (· == ':') t
  let (_, t) ← twoDigits? 0 59 t
  let t ← expect? (· == ':') t
  let (_, t) ← twoDigits? 0 60 t
  match t with
  | '.' :: t =>
    let (f, t) := t.span Char.isDigit
    if f.isEmpty then none
    else
      let f := ((f.take 9).reverse.dropWhile (· == '0')).reverse
      some (s.take 8 ++ (if f.isEmpty then [] else '.' :: f), t)
  | t => some (s.take 8, t)

/-- Reads the distance from universal time. No distance has the sign for those to the east. -/
def offset? (s : List Char) : Option (List Char × List Char) :=
  match s with
  | c :: t =>
    if c == 'Z' || c == 'z' then some (['Z'], t)
    else if c == '+' || c == '-' then do
      let (_, u) ← twoDigits? 0 23 t
      let u ← expect? (· == ':') u
      let (_, u) ← twoDigits? 0 59 u
      let distance := t.take 5
      some ((if distance == "00:00".toList then '+' else c) :: distance, u)
    else none
  | [] => none

/-- The node of a date or time: a map of one field, as no other value is. -/
def momentNode (text : List Char) : Node :=
  .map [(.str "$__toml_private_datetime", .str (String.ofList text))] none

/-- Reads a date, a time, or both. -/
def moment? (s : List Char) : Option (Node × List Char) :=
  match date? s with
  | some (d, t) =>
    match t with
    | c :: u =>
      if c == 'T' || c == 't' || (c == ' ' && u.head?.any Char.isDigit) then do
        let (clock, u) ← time? u
        match offset? u with
        | some (o, u) => some (momentNode (d ++ 'T' :: clock ++ o), u)
        | none => some (momentNode (d ++ 'T' :: clock), u)
      else some (momentNode d, t)
    | [] => some (momentNode d, t)
  | none => (time? s).map fun (clock, t) => (momentNode clock, t)

/-- Characters of numbers and other words. -/
def isWordChar (c : Char) : Bool := c.isAlphanum || c == '_' || c == '-' || c == '+' || c == '.'

/-- Reads a truth value, a number, a date or a time. -/
def word? (s : List Char) : Option (Node × List Char) :=
  match s.take 5, s.take 3 with
  | [a, b, c, d, e], [_, _, x] =>
    if (a.isDigit && b.isDigit && c.isDigit && d.isDigit && e == '-')
        || (a.isDigit && b.isDigit && x == ':')
    then moment? s else plain
  | _, _ => plain
where
  /-- Reads a truth value or a number. -/
  plain : Option (Node × List Char) :=
    let (w, rest) := s.span isWordChar
    if w == "true".toList then some (.bool true, rest)
    else if w == "false".toList then some (.bool false, rest)
    else (numberNode? w).map fun n => (n, rest)

end ContextCompiler.Toml
