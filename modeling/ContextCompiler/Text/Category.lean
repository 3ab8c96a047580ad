import ContextCompiler.Text.CategoryTable
import ContextCompiler.Text.Runs
import ContextCompiler.Text.Search

/-!
General categories of characters.
-/

namespace ContextCompiler.Text

/-- The categories by their numbers. -/
def categories : Array (Char × Char) :=
  ((splitOn ' ' categoryLetters.toList).map fun s =>
    match s with
    | [a, b] => (a, b)
    | _ => ('C', 'n')).toArray

/-- The runs of equal category. -/
def categoryTable : Runs := .read categoryRuns

/-- The two letters of the category of a character. -/
def category (c : Char) : Char × Char := (categories[categoryTable.value c]?).getD ('C', 'n')

/-- Whether a character belongs to a category, whose second letter may be left open. -/
def hasCategory (major : Char) (minor : Option Char) (c : Char) : Bool :=
  let (a, b) := category c
  a == major && minor.all (· == b)

/-- Whether a character is a letter. -/
def isLetter (c : Char) : Bool := hasCategory 'L' none c

/-- Whether a character is a mark. -/
def isMark (c : Char) : Bool := hasCategory 'M' none c

/-- Whether a character is a mark that takes no space of its own. -/
def isThinMark (c : Char) : Bool :=
  hasCategory 'M' (some 'n') c || hasCategory 'M' (some 'e') c

/-- Whether a character belongs to words: letters, marks, decimal digits, connectors, and the
circled and squared letters. -/
def isWordChar (c : Char) : Bool :=
  let n := c.toNat
  if n < 128 then c.isAlphanum || c == '_'
  else
    let (a, b) := category c
    a == 'L' || a == 'M' || (a == 'N' && (b == 'd' || b == 'l')) || (a == 'P' && b == 'c')
      || n == 0x200C || n == 0x200D || (0x24B6 ≤ n && n ≤ 0x24E9) || (0x1F130 ≤ n && n ≤ 0x1F149)
      || (0x1F150 ≤ n && n ≤ 0x1F169) || (0x1F170 ≤ n && n ≤ 0x1F189)

end ContextCompiler.Text
