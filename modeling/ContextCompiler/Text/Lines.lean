import ContextCompiler.Text.Search

/-!
Lines of a text.

A line feed ends a line and a carriage return right before it belongs to the line end. A
final line needs no line feed, and a final line feed opens no further line.
-/

namespace ContextCompiler.Text

/-- The text cut after every line feed: no piece is empty and the pieces join to the text. -/
def chunks : List Char → List (List Char)
  | [] => []
  | c :: s =>
    if c == '\n' then [c] :: chunks s
    else
      match chunks s with
      | [] => [[c]]
      | piece :: rest => (c :: piece) :: rest

theorem flatten_chunks (s : List Char) : (chunks s).flatten = s := by
  induction s with
  | nil => rfl
  | cons c s ih =>
    unfold chunks
    split
    · simp [ih]
    · split
      · rename_i h; simp [h] at ih; simp [← ih]
      · rename_i h; simp [h] at ih; simp [← ih]

/-- A piece without its line end. -/
def dropLineEnd (piece : List Char) : List Char :=
  match dropSuffix? ['\n'] piece with
  | none => piece
  | some body => (dropSuffix? ['\r'] body).getD body

/-- The lines of a text, without their line ends. -/
def lineChars (s : List Char) : List (List Char) :=
  (chunks s).map dropLineEnd

/-- The lines of a string, without their line ends. -/
def lines (s : String) : List String :=
  (lineChars s.toList).map String.ofList

/-- Lines joined by line feeds. -/
def unlines (ls : List (List Char)) : List Char :=
  joinWith ['\n'] ls

end ContextCompiler.Text
