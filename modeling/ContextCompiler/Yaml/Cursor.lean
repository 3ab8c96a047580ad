/-!
A place in a text with its line and column, for formats in which indentation matters.
-/

namespace ContextCompiler.Yaml

/-- A place in a text: what follows it, and how far it is from the start. -/
structure Cursor where
  rest : List Char
  line : Nat
  column : Nat
  index : Nat
  deriving Repr

/-- Characters that end a line. -/
def isBreak (c : Char) : Bool :=
  c == '\n' || c == '\r' || c.toNat == 0x85 || c.toNat == 0x2028 || c.toNat == 0x2029

/-- Characters that separate within a line. -/
def isSpace (c : Char) : Bool := c == ' ' || c == '\t'

namespace Cursor

/-- The start of a text. -/
def start (s : List Char) : Cursor := ⟨s, 0, 0, 0⟩

/-- The character at the place. -/
def peek (c : Cursor) : Option Char := c.rest.head?

/-- The place after one character of the line. -/
def skip (c : Cursor) : Cursor := ⟨c.rest.tail, c.line, c.column + 1, c.index + 1⟩

/-- The place after several characters of the line. -/
def skipMany : Nat → Cursor → Cursor
  | 0, c => c
  | n + 1, c => skipMany n c.skip

/-- The place after a line break, and the break as the text keeps it: all but two kinds of
breaks become a line feed. -/
def skipBreak (c : Cursor) : Cursor × List Char :=
  match c.rest with
  | '\r' :: '\n' :: s => (⟨s, c.line + 1, 0, c.index + 2⟩, ['\n'])
  | b :: s =>
    (⟨s, c.line + 1, 0, c.index + 1⟩,
      if b.toNat == 0x2028 || b.toNat == 0x2029 then [b] else ['\n'])
  | [] => (c, [])

/-- Whether the place is at a line break. -/
def atBreak (c : Cursor) : Bool := c.peek.any isBreak

/-- Whether the place is at the end of the text. -/
def atEnd (c : Cursor) : Bool := c.rest.isEmpty

/-- Whether the rest of the line is empty. -/
def atLineEnd (c : Cursor) : Bool := c.atEnd || c.atBreak

/-- Whether a blank, a line break or the end of the text stands `n` characters further on. -/
def blankAt (n : Nat) (c : Cursor) : Bool :=
  match c.rest[n]? with
  | none => true
  | some d => isSpace d || isBreak d

/-- Whether the place starts a line with a document marker. -/
def atMarker (c : Cursor) : Bool :=
  c.column == 0 && (c.rest.take 3 == ['-', '-', '-'] || c.rest.take 3 == ['.', '.', '.'])
    && c.blankAt 3

/-- Skips characters of the line while they satisfy `p`; the number bounds them. -/
def skipWhile (p : Char → Bool) : Nat → Cursor → Cursor
  | 0, c => c
  | n + 1, c => if c.peek.any p then skipWhile p n c.skip else c

/-- The characters from the place on that satisfy `p`, and the place after them. -/
def takeWhile (p : Char → Bool) (c : Cursor) : List Char × Cursor :=
  let cs := c.rest.takeWhile p
  (cs, c.skipMany cs.length)

end Cursor

end ContextCompiler.Yaml
