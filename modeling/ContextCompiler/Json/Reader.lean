import ContextCompiler.Decode.Node

/-!
Reading texts in data form.

The reader goes through the characters once and gives a node for every text; a text that is
not well formed has a node that says where it breaks off. Every function returns the characters
that are left.
-/

namespace ContextCompiler.Json

/-- Characters between values. -/
def isGap (c : Char) : Bool := c == ' ' || c == '\n' || c == '\t' || c == '\r'

/-- The text after the characters between values. -/
def dropGap (s : List Char) : List Char := s.dropWhile isGap

/-- The value of a hexadecimal digit. -/
def hexValue? (c : Char) : Option Nat :=
  if '0' ≤ c && c ≤ '9' then some (c.toNat - '0'.toNat)
  else if 'a' ≤ c && c ≤ 'f' then some (c.toNat - 'a'.toNat + 10)
  else if 'A' ≤ c && c ≤ 'F' then some (c.toNat - 'A'.toNat + 10)
  else none

/-- The number of bytes of a text in UTF-8. -/
def byteCount (s : List Char) : Nat := s.foldl (fun n c => n + c.utf8Size) 0

/-- The number written by four hexadecimal digits, and the rest. -/
def hexFour : List Char → Except JsonFault (Nat × List Char)
  | a :: b :: c :: d :: s =>
    match hexValue? a, hexValue? b, hexValue? c, hexValue? d with
    | some a, some b, some c, some d => .ok (((a * 16 + b) * 16 + c) * 16 + d, s)
    | _, _, _, _ => .error .invalidEscape
  | s => .error (if byteCount s < 4 then .endInString else .invalidEscape)

/-- The character of a one-letter escape. -/
def simpleEscape? (c : Char) : Option Char :=
  match c with
  | '"' => some '"'
  | '\\' => some '\\'
  | '/' => some '/'
  | 'b' => some '\x08'
  | 'f' => some '\x0c'
  | 'n' => some '\n'
  | 'r' => some '\r'
  | 't' => some '\t'
  | _ => none

/-- The character of a hexadecimal escape after its `\u`; characters beyond the first plane take
two escapes. -/
def unicodeEscape (s : List Char) : Except JsonFault Char := do
  let (n, s) ← hexFour s
  if 0xDC00 ≤ n && n ≤ 0xDFFF then throw .loneSurrogate
  else if 0xD800 ≤ n && n ≤ 0xDBFF then
    match s with
    | [] => throw .endInString
    | ['\\'] => throw .endInString
    | '\\' :: 'u' :: s =>
      let (m, _) ← hexFour s
      if 0xDC00 ≤ m && m ≤ 0xDFFF then
        pure (Char.ofNat (0x10000 + (n - 0xD800) * 0x400 + (m - 0xDC00)))
      else throw .loneSurrogate
    | _ => throw .hexEscapeEnd
  else pure (Char.ofNat n)

/-- The fault of a reader of the value: an earlier one, or else the one met now. -/
def firstFault (out : Except JsonFault (List Char)) (now : JsonFault) : JsonFault :=
  match out with
  | .ok _ => now
  | .error earlier => earlier

/-- Reads the rest of a quoted text after its opening quote. `out` holds the characters so far,
last first, or the first fault that only a reader of the value meets; the number counts
characters that belong to an escape read before. -/
def quotedTail (out : Except JsonFault (List Char)) : Nat → List Char → Node × Option (List Char)
  | _, [] => (.broken ⟨firstFault out .endInString, .endInString⟩, none)
  | skip + 1, _ :: s => quotedTail out skip s
  | 0, '"' :: s =>
    match out with
    | .ok cs => (.str (String.ofList cs.reverse), some s)
    | .error f => (.unreadable f, some s)
  | 0, ['\\'] => (.broken ⟨firstFault out .endInString, .endInString⟩, none)
  | 0, '\\' :: c :: s =>
    if c == 'u' then
      match hexFour s with
      | .error f => (.broken ⟨firstFault out f, f⟩, none)
      | .ok (n, _) =>
        match out, unicodeEscape s with
        | .error f, _ => quotedTail (.error f) 4 s
        | .ok _, .error f => quotedTail (.error f) 4 s
        | .ok cs, .ok c => quotedTail (.ok (c :: cs)) (if 0xD800 ≤ n && n ≤ 0xDBFF then 10 else 4) s
    else
      match simpleEscape? c with
      | some c => quotedTail (out.map (c :: ·)) 0 s
      | none => (.broken ⟨firstFault out .invalidEscape, .invalidEscape⟩, none)
  | 0, c :: s =>
    if c.toNat < 32 then (.broken ⟨firstFault out .controlCharacter, .controlCharacter⟩, none)
    else quotedTail (out.map (c :: ·)) 0 s

/-- Powers of ten as floating-point numbers. -/
def tenPower (e : Nat) : Double := Double.ofDecimal false 1 e

/-- The number of a significand and an exponent of ten. It takes one or more operations that
round, so that it may differ in its last bit from the nearest number. -/
def scaleSignificand (neg : Bool) (f : Double) (exp : Int) : Nat → Except JsonFault Double
  | 0 => .ok f
  | n + 1 =>
    let finish (f : Double) : Except JsonFault Double := .ok (if neg then f.negate else f)
    if exp.natAbs ≤ 308 then
      if 0 ≤ exp then
        let f := f.mulMagnitude (tenPower exp.natAbs)
        if f.isFinite then finish f else .error .numberRange
      else finish (f.divMagnitude (tenPower exp.natAbs))
    else if f.isZero then finish f
    else if 0 ≤ exp then .error .numberRange
    else scaleSignificand neg (f.divMagnitude (tenPower 308)) (exp + 308) n

/-- The number of decimal digits: as many of them as fit into 64 bits count, the others only
move the point. The result is the significand and the number of digits that do not count. -/
def takeDigits : Nat → List Char → Nat × Nat
  | n, [] => (n, 0)
  | n, c :: s =>
    let m := n * 10 + (c.toNat - '0'.toNat)
    if m < Nat.pow 2 64 then takeDigits m s else (n, s.length + 1)

/-- The longest run of digits at the start, and the rest. -/
def spanDigits (s : List Char) : List Char × List Char := s.span Char.isDigit

/-- The exponent part of a number, if there is one: its sign and digits. -/
def exponentPart (s : List Char) : Except Break (Option (Bool × List Char) × List Char) :=
  match s with
  | e :: s =>
    if e == 'e' || e == 'E' then
      let (neg, s) := match s with
        | '+' :: s => (false, s)
        | '-' :: s => (true, s)
        | s => (false, s)
      match spanDigits s with
      | ([], []) => .error ⟨.endInValue, .invalidNumber⟩
      | ([], _) => .error ⟨.invalidNumber, .invalidNumber⟩
      | (ds, rest) => .ok (some (neg, ds), rest)
    else .ok (none, e :: s)
  | [] => .ok (none, [])

/-- The digits after the point, if there is one. -/
def fractionPart (s : List Char) : Except Break (Option (List Char) × List Char) :=
  match s with
  | '.' :: s =>
    match spanDigits s with
    | ([], []) => .error ⟨.endInValue, .invalidNumber⟩
    | ([], _) => .error ⟨.invalidNumber, .invalidNumber⟩
    | (ds, rest) => .ok (some ds, rest)
  | s => .ok (none, s)

/-- The value of a number from its parts. Numbers without fraction and exponent are integers
when they fit into 64 bits. -/
def numberValue (neg : Bool) (whole : List Char) (fraction : Option (List Char))
    (exponent : Option (Bool × List Char)) : Node :=
  let (sig, dropped) := takeDigits 0 whole
  let (sig, exp) : Nat × Int :=
    match fraction with
    | none => (sig, dropped)
    | some ds =>
      let (sig, rest) := takeDigits sig ds
      (sig, (dropped : Int) - (ds.length - rest : Nat))
  let toNode : Except JsonFault Double → Node
    | .ok d => .float d
    | .error f => .unreadable f
  match fraction, exponent with
  | none, none =>
    if 0 < dropped then toNode (scaleSignificand neg (Double.ofInt sig) dropped 10)
    else if !neg then .int sig
    else if sig = 0 || Nat.pow 2 63 < sig then .float (Double.ofRatio true sig 1)
    else .int (-sig)
  | _, none => toNode (scaleSignificand neg (Double.ofInt sig) exp 10)
  | _, some (expNeg, ds) =>
    let e := ds.foldl (fun n c => n * 10 + (c.toNat - '0'.toNat)) 0
    if Nat.pow 2 31 ≤ e then
      if sig ≠ 0 && !expNeg then .unreadable .numberRange
      else .float (Double.ofFields neg 0)
    else
      let e := exp + (if expNeg then -(e : Int) else e)
      let limit : Int := Nat.pow 2 31
      let e := max (min e (limit - 1)) (-limit)
      toNode (scaleSignificand neg (Double.ofInt sig) e 10)

/-- Reads a number after its sign. -/
def numberTail (neg : Bool) (s : List Char) : Node × Option (List Char) :=
  match spanDigits s with
  | ([], []) => (.broken ⟨.endInValue, .invalidNumber⟩, none)
  | ([], _) => (.broken ⟨.invalidNumber, .invalidNumber⟩, none)
  | ('0' :: _ :: _, _) => (.broken ⟨.invalidNumber, .invalidNumber⟩, none)
  | (whole, rest) =>
    match fractionPart rest with
    | .error stop => (.broken stop, none)
    | .ok (fraction, rest) =>
      match exponentPart rest with
      | .error stop => (.broken stop, none)
      | .ok (exponent, rest) => (numberValue neg whole fraction exponent, some rest)

/-- Reads the rest of one of the three words. -/
def wordTail (value : Node) : List Char → List Char → Node × Option (List Char)
  | [], s => (value, some s)
  | _ :: _, [] => (.broken ⟨.endInValue, .endInValue⟩, none)
  | c :: w, d :: s =>
    if c == d then wordTail value w s else (.broken ⟨.expectedWord, .expectedWord⟩, none)

/-- Depth from which lists and maps are not read. -/
def depthLimit : Nat := 127

/-- Marks a list or map that is nested too deeply. -/
def atDepth (depth : Nat) (n : Node) : Node := if depthLimit ≤ depth then .deep n else n

/-- What stands before the next item of a list: nothing before the first one, a comma before
the others. -/
def itemStart (first : Bool) (c : Char) (s : List Char) : Except Break (List Char) :=
  if first then .ok (c :: s)
  else if c == ',' then
    match dropGap s with
    | [] => .error ⟨.endInValue, .endInValue⟩
    | ']' :: _ => .error ⟨.trailingComma, .expectedValue⟩
    | s => .ok s
  else .error ⟨.expectedListEnd, .expectedListEnd⟩

/-- What stands before the text of the next key of a map, its opening quote included. -/
def keyStart (first : Bool) (c : Char) (s : List Char) : Except Break (List Char) :=
  if first then
    if c == '"' then .ok s else .error ⟨.keyNotString, .keyNotString⟩
  else if c == ',' then
    match dropGap s with
    | [] => .error ⟨.endInValue, .endInObject⟩
    | '"' :: s => .ok s
    | '\x7d' :: _ => .error ⟨.trailingComma, .keyNotString⟩
    | _ => .error ⟨.keyNotString, .keyNotString⟩
  else .error ⟨.expectedObjectEnd, .expectedObjectEnd⟩

mutual

/-- Reads a value. -/
def value (depth : Nat) : Nat → List Char → Node × Option (List Char)
  | 0, _ => (.broken ⟨.endInValue, .endInValue⟩, none)
  | fuel + 1, s =>
    match dropGap s with
    | [] => (.broken ⟨.endInValue, .endInValue⟩, none)
    | 'n' :: s => wordTail .null ['u', 'l', 'l'] s
    | 't' :: s => wordTail (.bool true) ['r', 'u', 'e'] s
    | 'f' :: s => wordTail (.bool false) ['a', 'l', 's', 'e'] s
    | '"' :: s => quotedTail (.ok []) 0 s
    | '-' :: s => numberTail true s
    | '[' :: s =>
      let (items, stop, rest) := items depth true fuel s
      (atDepth depth (.seq items stop), rest)
    | '\x7b' :: s =>
      let (entries, stop, rest) := entries depth true fuel s
      (atDepth depth (.map entries stop), rest)
    | c :: s =>
      if c.isDigit then numberTail false (c :: s)
      else (.broken ⟨.expectedValue, .expectedValue⟩, none)

/-- Reads the items of a list. -/
def items (depth : Nat) (first : Bool) :
    Nat → List Char → List Node × Option Break × Option (List Char)
  | 0, _ => ([], some ⟨.endInList, .endInList⟩, none)
  | fuel + 1, s =>
    match dropGap s with
    | [] => ([], some ⟨.endInList, .endInList⟩, none)
    | ']' :: s => ([], none, some s)
    | c :: s =>
      match itemStart first c s with
      | .error stop => ([], some stop, none)
      | .ok s =>
        match value (depth + 1) fuel s with
        | (n, none) => ([n], none, none)
        | (n, some s) =>
          let (rest, stop, s) := items depth false fuel s
          (n :: rest, stop, s)

/-- Reads the entries of a map. -/
def entries (depth : Nat) (first : Bool) :
    Nat → List Char → List (Node × Node) × Option Break × Option (List Char)
  | 0, _ => ([], some ⟨.endInObject, .endInObject⟩, none)
  | fuel + 1, s =>
    match dropGap s with
    | [] => ([], some ⟨.endInObject, .endInObject⟩, none)
    | '\x7d' :: s => ([], none, some s)
    | c :: s =>
      match keyStart first c s with
      | .error stop => ([], some stop, none)
      | .ok s =>
        match quotedTail (.ok []) 0 s with
        | (k, none) => ([(k, .null)], none, none)
        | (k, some s) =>
          match dropGap s with
          | ':' :: s =>
            match value (depth + 1) fuel s with
            | (v, none) => ([(k, v)], none, none)
            | (v, some s) =>
              let (rest, stop, s) := entries depth false fuel s
              ((k, v) :: rest, stop, s)
          | [] => ([(k, .broken ⟨.endInObject, .endInObject⟩)], none, none)
          | _ => ([(k, .broken ⟨.expectedColon, .expectedColon⟩)], none, none)

end

/-- The node of a text in data form, and the fault of what follows the value. -/
def read (text : String) : Node × Option JsonFault :=
  let cs := text.toList
  match value 0 (2 * cs.length + 2) cs with
  | (n, none) => (n, none)
  | (n, some rest) => (n, if (dropGap rest).isEmpty then none else some .trailingCharacters)

end ContextCompiler.Json
