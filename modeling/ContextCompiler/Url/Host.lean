import ContextCompiler.Text.Search
import ContextCompiler.Text.Utf8
import ContextCompiler.Url.Label

/-!
Hosts of URLs: names, and addresses of the fourth and the sixth version.
-/

namespace ContextCompiler

/-- The ways in which a text is no URL. -/
inductive UrlError where
  | emptyHost
  | badName
  | badPort
  | badAddress4
  | badAddress6
  | badHostCharacter
  | noBase
  | baseOpaque
  deriving DecidableEq, Repr

namespace UrlError

/-- The wording of an error. -/
def message : UrlError → String
  | emptyHost => "empty host"
  | badName => "invalid international domain name"
  | badPort => "invalid port number"
  | badAddress4 => "invalid IPv4 address"
  | badAddress6 => "invalid IPv6 address"
  | badHostCharacter => "invalid domain character"
  | noBase => "relative URL without a base"
  | baseOpaque => "relative URL with a cannot-be-a-base base"

end UrlError

/-- A host. -/
inductive Host where
  | name (text : List Char)
  | address4 (value : Nat)
  | address6 (pieces : List Nat)
  deriving DecidableEq, Repr

namespace Host

/-! ## Addresses -/

/-- A number of an address: decimal, octal after `0`, hexadecimal after `0x`. -/
def number4? (s : List Char) : Option Nat :=
  let (base, digits) :=
    match s with
    | '0' :: x :: rest => if x == 'x' || x == 'X' then (16, rest) else (8, x :: rest)
    | s => (10, s)
  if s.isEmpty then none
  else digits.foldl (fun acc c => do
    let d ← Text.hexDigit? c
    if d < base then pure ((← acc) * base + d) else none) (some 0)

/-- The labels of a name without the empty one after a final point. -/
def labels4 (s : List Char) : List (List Char) :=
  let parts := Text.splitOn '.' s
  if parts.length > 1 && parts.getLast? == some [] then parts.dropLast else parts

/-- Whether the last label of a name is a number, so that the name has to be an address. -/
def endsInNumber (s : List Char) : Bool :=
  match (labels4 s).getLast? with
  | none => false
  | some [] => false
  | some last => last.all Char.isDigit || (last.take 2 == ['0', 'x'] && (number4? last).isSome)

/-- An address of the fourth version: each number but the last is a byte, and the last fills
the bytes that are left. -/
def address4? (s : List Char) : Option Host := do
  let parts := labels4 s
  if parts.length > 4 then none
  let numbers ← parts.mapM number4?
  let last ← numbers.getLast?
  let front := numbers.dropLast
  if front.any (· > 255) then none
  if last ≥ Nat.pow 256 (5 - numbers.length) then none
  let high := front.foldl (fun acc n => acc * 256 + n) 0
  pure (.address4 (high * Nat.pow 256 (4 - front.length) + last))

/-- Four hexadecimal digits at most. -/
def piece6? (s : List Char) : Option Nat :=
  if s.isEmpty || s.length > 4 then none
  else s.foldl (fun acc c => do pure ((← acc) * 16 + (← Text.hexDigit? c))) (some 0)

/-- A decimal byte without leading zeros. -/
def byte? (s : List Char) : Option Nat :=
  if s.isEmpty || s.length > 3 || (s.length > 1 && s.head? == some '0') then none
  else
    match s.foldl (fun acc c => do
      if c.isDigit then pure ((← acc) * 10 + (c.toNat - '0'.toNat)) else none) (some 0) with
    | some n => if n < 256 then some n else none
    | none => none

/-- The pieces between colons; the last may be an address of the fourth version. -/
def pieces6? (mayEndInFour : Bool) : List (List Char) → Option (List Nat)
  | [] => some []
  | [last] =>
    if mayEndInFour && last.contains '.' then
      match (Text.splitOn '.' last).mapM byte? with
      | some [a, b, c, d] => some [a * 256 + b, c * 256 + d]
      | _ => none
    else (piece6? last).map fun n => [n]
  | p :: rest => do pure ((← piece6? p) :: (← pieces6? mayEndInFour rest))

/-- An address of the sixth version. -/
def address6? (s : List Char) : Option Host := do
  let side (t : List Char) (four : Bool) : Option (List Nat) :=
    if t.isEmpty then some [] else pieces6? four (Text.splitOn ':' t)
  match Text.splitFirst [':', ':'] s with
  | none =>
    let pieces ← side s true
    if pieces.length == 8 then some (.address6 pieces) else none
  | some (a, b) =>
    let before ← side a false
    let after ← side b true
    let n := before.length + after.length
    if n ≥ 8 then none else some (.address6 (before ++ List.replicate (8 - n) 0 ++ after))

/-- The longest run of zero pieces: its place and its length, the first of equals. -/
def zeroRun (pieces : List Nat) : Option (Nat × Nat) :=
  let runs := (List.range pieces.length).map fun i =>
    (i, ((pieces.drop i).takeWhile (· == 0)).length)
  let best := runs.foldl (fun acc r => if r.2 > acc.2 then r else acc) (0, 0)
  if best.2 ≥ 2 then some best else none

/-- A number in lower-case hexadecimal digits. -/
def hexNumber (n : Nat) : List Char := (Nat.toDigits 16 n)

/-- The text of a host. -/
def toChars : Host → List Char
  | name s => s
  | address4 n =>
    Text.joinWith ['.'] ([n / 16777216, n / 65536 % 256, n / 256 % 256, n % 256].map fun b =>
      (toString b).toList)
  | address6 pieces =>
    let show_ (ps : List Nat) : List Char := Text.joinWith [':'] (ps.map hexNumber)
    let inner :=
      match zeroRun pieces with
      | some (i, n) => show_ (pieces.take i) ++ [':', ':'] ++ show_ (pieces.drop (i + n))
      | none => show_ pieces
    ['['] ++ inner ++ [']']

/-- An address in brackets. -/
def bracketed? (s : List Char) : Except UrlError Host :=
  match s.getLast? with
  | some ']' =>
    match address6? ((s.drop 1).dropLast) with
    | some h => .ok h
    | none => .error .badAddress6
  | _ => .error .badAddress6

/-- Reads the host of a URL of a well-known scheme. -/
def read (s : List Char) : Except UrlError Host :=
  if s.head? == some '[' then bracketed? s
  else
    match Label.asciiName? (Text.ofUtf8Lossy (Text.percentDecode s)) with
    | none => .error .badName
    | some [] => .error .emptyHost
    | some s =>
      if endsInNumber s then
        match address4? s with
        | some h => .ok h
        | none => .error .badAddress4
      else .ok (.name s)

/-- The characters that no host holds. -/
def isForbidden (c : Char) : Bool :=
  "\x00\t\n\r #/:<>?@[\\]^|".toList.contains c

/-- Reads the host of any other URL: it is kept as it is written. -/
def readPlain (s : List Char) : Except UrlError Host :=
  if s.head? == some '[' then bracketed? s
  else if s.any isForbidden then .error .badHostCharacter
  else .ok (.name (Text.percentEncode (fun c => c.toNat < 0x20 || 0x7F ≤ c.toNat) s))

end Host

end ContextCompiler
