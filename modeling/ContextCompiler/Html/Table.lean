import ContextCompiler.Html.Dom
import ContextCompiler.Text.Blank

/-!
Tables as Markdown.

Every row with a cell gives one line, and all lines have the same number of columns. The first
line is the header; where the first row has no header cells, the header is empty.
-/

namespace ContextCompiler.Html

/-- The text of a cell in a line of a table. -/
def cellText (cell : Dom) : List Char :=
  Text.replaceAll ['|'] ['\\', '|'] (Text.trimWhile Text.isBlank cell.allText)

/-- The cells of a row that count: the header cells, or the others where there is none. -/
def rowCells (row : Dom) : Bool × List (List Char) :=
  match row.inside "th" with
  | [] => (false, (row.inside "td").map cellText)
  | headers => (true, headers.map cellText)

/-- The rows of a table that have cells. -/
def tableRows (table : Dom) : List (Bool × List (List Char)) :=
  ((table.inside "tr").map rowCells).filter fun (_, cells) => !cells.isEmpty

/-- Whether the last of the rows with header cells is the first row of all. -/
def hasHeader (rows : List (Bool × List (List Char))) : Bool :=
  rows.head?.any (·.1) && (rows.drop 1).all (!·.1)

/-- A row filled up with empty cells. -/
def padded (columns : Nat) (cells : List (List Char)) : List (List Char) :=
  cells ++ List.replicate (columns - cells.length) []

/-- One line of a table. -/
def tableLine (cells : List (List Char)) : List Char :=
  ['|', ' '] ++ Text.joinWith [' ', '|', ' '] cells ++ [' ', '|', '\n']

/-- A table as Markdown; nothing for a table without cells. -/
def tableMarkdown (table : Dom) : List Char :=
  let rows := tableRows table
  let columns := (rows.map (·.2.length)).foldl Nat.max 0
  if columns == 0 then []
  else
    let lines := rows.map fun (_, cells) => tableLine (padded columns cells)
    let divider := tableLine (List.replicate columns ['-', '-', '-'])
    let all :=
      match hasHeader rows, lines with
      | true, header :: body => header :: divider :: body
      | _, lines => tableLine (List.replicate columns []) :: divider :: lines
    Text.dropEndWhile Text.isBlank all.flatten

end ContextCompiler.Html
