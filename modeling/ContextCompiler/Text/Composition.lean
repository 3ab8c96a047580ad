import ContextCompiler.Text.CompositionTable
import Std.Data.HashMap

/-!
The composed form of texts: every character that can be joined with the marks after it is.

A text is first taken apart, the marks after each character are put in order, and what can be
joined is joined again. Syllables of the Korean script are computed, all else is looked up.
-/

namespace ContextCompiler.Text

/-- The composed characters, each with its two parts. -/
def readComposed (before : Nat) : List Nat → List (Nat × Nat × Nat)
  | gap :: back :: second :: rest =>
    let whole := before + gap
    let first := if back % 2 == 0 then whole - back / 2 else whole + (back + 1) / 2
    (whole, first, second) :: readComposed whole rest
  | _ => []

/-- All composed characters that are looked up. -/
def composedChars : List (Nat × Nat × Nat) :=
  readComposed 0 (readNumbers 0 CompositionTable.composed.toList)

/-- The two parts of the composed characters. -/
def partsTable : Std.HashMap Nat (Nat × Nat) := .ofList composedChars

/-- The composed characters by their parts. -/
def wholesTable : Std.HashMap (Nat × Nat) Nat :=
  .ofList (composedChars.map fun (whole, parts) => (parts, whole))

/-- The two parts of a character that is composed. A syllable is a shorter syllable with a final
consonant, or a consonant with a vowel. -/
def parts? (c : Char) : Option (Char × Char) :=
  let n := c.toNat
  if 0xAC00 ≤ n && n < 0xAC00 + 11172 then
    let i := n - 0xAC00
    if i % 28 == 0 then
      some (Char.ofNat (0x1100 + i / 588), Char.ofNat (0x1161 + i % 588 / 28))
    else some (Char.ofNat (n - i % 28), Char.ofNat (0x11A7 + i % 28))
  else partsTable[n]?.map fun (a, b) => (Char.ofNat a, Char.ofNat b)

/-- The character that is composed of two. -/
def whole? (a b : Char) : Option Char :=
  let m := a.toNat
  let n := b.toNat
  if 0x1100 ≤ m && m < 0x1113 && 0x1161 ≤ n && n < 0x1176 then
    some (Char.ofNat (0xAC00 + ((m - 0x1100) * 21 + (n - 0x1161)) * 28))
  else if 0xAC00 ≤ m && m < 0xAC00 + 11172 && (m - 0xAC00) % 28 == 0
      && 0x11A7 < n && n < 0x11C3 then
    some (Char.ofNat (m + (n - 0x11A7)))
  else wholesTable[(m, n)]?.map Char.ofNat

/-- A character taken apart. `fuel` bounds the depth of parts of parts. -/
def apart : Nat → Char → List Char
  | 0, c => [c]
  | fuel + 1, c =>
    match parts? c with
    | some (a, b) => apart fuel a ++ apart fuel b
    | none => [c]

/-- The class of a mark, which tells its order among others; zero for all that is no mark. -/
def markOrder (c : Char) : Nat := CompositionTable.orders.value c

/-- Puts a character before a text whose marks are in order. A mark goes behind those of lower
classes. -/
def insertMark (c : Char) : List Char → List Char
  | [] => [c]
  | d :: s =>
    if 0 < markOrder d && markOrder d < markOrder c then d :: insertMark c s else c :: d :: s

/-- A text with its marks in order. -/
def sortMarks (s : List Char) : List Char := s.foldr insertMark []

/-- Joins a text. `start` is the character that marks are joined to, and `kept` are the marks
after it that were not. A mark is cut off from its character by one that is kept, if its class is
not higher. -/
def joinMarks (start : Option Char) (kept : List Char) : List Char → List Char
  | [] => start.toList ++ kept
  | c :: s =>
    match start with
    | none => if markOrder c == 0 then joinMarks (some c) [] s else c :: joinMarks none [] s
    | some a =>
      let cutOff := kept.getLast?.any fun k => markOrder c ≤ markOrder k
      match if cutOff then none else whole? a c with
      | some w => joinMarks (some w) kept s
      | none =>
        if markOrder c == 0 then a :: kept ++ joinMarks (some c) [] s
        else joinMarks (some a) (kept ++ [c]) s

/-- The composed form of a text. -/
def composed (s : List Char) : List Char :=
  if s.all fun c => c.toNat < 0x300 then s else joinMarks none [] (sortMarks (s.flatMap (apart 4)))

end ContextCompiler.Text
