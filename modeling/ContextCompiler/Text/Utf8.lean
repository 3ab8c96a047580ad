/-!
Texts as bytes.

A text is written in UTF-8. Reading goes the other way: bytes that are not UTF-8 either make
the reading fail, or stand for the replacement character, one for each longest part that
starts a character and breaks off.
-/

namespace ContextCompiler.Text

/-- The bytes of a text. -/
def utf8 (s : List Char) : List UInt8 := s.flatMap String.utf8EncodeChar

/-- Whether a byte goes on with a character. -/
def isContinuation (b : UInt8) : Bool := 0x80 ≤ b && b ≤ 0xBF

/-- The bytes that may come second after a leading byte, and the number of bytes in all. -/
def utf8Lead? (b : UInt8) : Option (Nat × UInt8 × UInt8) :=
  if 0xC2 ≤ b && b ≤ 0xDF then some (2, 0x80, 0xBF)
  else if b == 0xE0 then some (3, 0xA0, 0xBF)
  else if b == 0xED then some (3, 0x80, 0x9F)
  else if 0xE1 ≤ b && b ≤ 0xEF then some (3, 0x80, 0xBF)
  else if b == 0xF0 then some (4, 0x90, 0xBF)
  else if 0xF1 ≤ b && b ≤ 0xF3 then some (4, 0x80, 0xBF)
  else if b == 0xF4 then some (4, 0x80, 0x8F)
  else none

/-- The low six bits of a byte that goes on with a character. -/
def sixBits (b : UInt8) : Nat := (b &&& 0x3F).toNat

/-- The first character of some bytes, or `none` where they are not UTF-8, and the number of
bytes that it takes. -/
def decodeChar (b : UInt8) (rest : List UInt8) : Option Char × Nat :=
  if b < 0x80 then (some (Char.ofNat b.toNat), 1)
  else
    match utf8Lead? b with
    | none => (none, 1)
    | some (n, lo, hi) =>
      match rest with
      | [] => (none, 1)
      | c :: rest =>
        if !(lo ≤ c && c ≤ hi) then (none, 1)
        else
          match n with
          | 2 => (some (Char.ofNat ((b &&& 0x1F).toNat * 64 + sixBits c)), 2)
          | 3 =>
            match rest with
            | d :: _ =>
              if isContinuation d then
                (some (Char.ofNat ((b &&& 0x0F).toNat * 4096 + sixBits c * 64 + sixBits d)), 3)
              else (none, 2)
            | [] => (none, 2)
          | _ =>
            match rest with
            | [] => (none, 2)
            | [d] => (none, if isContinuation d then 3 else 2)
            | d :: e :: _ =>
              if !isContinuation d then (none, 2)
              else if !isContinuation e then (none, 3)
              else
                (some (Char.ofNat ((b &&& 0x07).toNat * 262144 + sixBits c * 4096
                  + sixBits d * 64 + sixBits e)), 4)

/-- The characters of some bytes, with `none` for each part that is not UTF-8. -/
def decodeSteps : List UInt8 → List (Option Char)
  | [] => []
  | b :: rest =>
    let (c, n) := decodeChar b rest
    c :: decodeSteps (rest.drop (n - 1))
termination_by bs => bs.length
decreasing_by simp only [List.length_drop, List.length_cons]; omega

/-- The text of some bytes, if they are UTF-8. -/
def ofUtf8? (bytes : List UInt8) : Option (List Char) :=
  (decodeSteps bytes).mapM id

/-- The text of some bytes, with the replacement character for what is not UTF-8. -/
def ofUtf8Lossy (bytes : List UInt8) : List Char :=
  (decodeSteps bytes).map fun c => c.getD '\uFFFD'

/-- The value of a hexadecimal digit. -/
def hexDigit? (c : Char) : Option Nat :=
  if '0' ≤ c && c ≤ '9' then some (c.toNat - '0'.toNat)
  else if 'a' ≤ c && c ≤ 'f' then some (c.toNat - 'a'.toNat + 10)
  else if 'A' ≤ c && c ≤ 'F' then some (c.toNat - 'A'.toNat + 10)
  else none

/-- The hexadecimal digit of a value below 16. -/
def hexDigit (n : Nat) : Char :=
  if n < 10 then Char.ofNat ('0'.toNat + n) else Char.ofNat ('A'.toNat + n - 10)

/-- A byte as a percent sign and two digits. -/
def percentByte (b : UInt8) : List Char := ['%', hexDigit (b.toNat / 16), hexDigit (b.toNat % 16)]

/-- The text with the bytes of every character that satisfies `p` written as percent signs and
digits. -/
def percentEncode (p : Char → Bool) (s : List Char) : List Char :=
  s.flatMap fun c => if p c then (String.utf8EncodeChar c).flatMap percentByte else [c]

/-- The bytes that a text with percent signs stands for. -/
def percentDecode : List Char → List UInt8
  | [] => []
  | '%' :: a :: b :: s =>
    match hexDigit? a, hexDigit? b with
    | some x, some y => UInt8.ofNat (x * 16 + y) :: percentDecode s
    | _, _ => 37 :: percentDecode (a :: b :: s)
  | c :: s => String.utf8EncodeChar c ++ percentDecode s

/-- Whether a character is kept when a text is written into a part of a URL: letters, digits
and `-._~`. -/
def isUnreserved (c : Char) : Bool :=
  c.isAlphanum || c == '-' || c == '.' || c == '_' || c == '~'

/-- A text as one part of a URL. -/
def urlComponent (s : String) : String :=
  String.ofList (percentEncode (fun c => !isUnreserved c) s.toList)

end ContextCompiler.Text
