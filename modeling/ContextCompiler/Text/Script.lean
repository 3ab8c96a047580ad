import ContextCompiler.Text.Runs
import ContextCompiler.Text.ScriptTable
import ContextCompiler.Text.Search

/-!
Scripts of characters: the one to which a character belongs, and all the scripts that use it.
-/

namespace ContextCompiler.Text

/-- A script, by its number. -/
structure Script where
  number : Nat
  deriving DecidableEq, Repr

namespace Script

/-- The names of the scripts by their numbers. -/
def names : List (List (List Char)) :=
  ((splitOn ' ' scriptNames.toList).filter (!·.isEmpty)).map fun entry => splitOn ',' entry

/-- The scripts of characters. -/
def table : Runs := .read scriptRuns

/-- The groups of scripts that share characters, by their numbers. -/
def sharedTable : Runs := .read sharedRuns

/-- Parts a row of numbers into groups with their sizes in front. `fuel` bounds their number. -/
def groups : Nat → List Nat → List (List Nat)
  | 0, _ => []
  | _ + 1, [] => []
  | fuel + 1, n :: rest => rest.take n :: groups fuel (rest.drop n)

/-- The groups of scripts that share characters. -/
def sharedGroups : Array (List Nat) :=
  let row := readNumbers 0 sharedScripts.toList
  (groups row.length row).toArray

/-- The script of a name in lower case and without dividers. -/
def ofName? (name : String) : Option Script :=
  match names.findIdx? (·.contains name.toList) with
  | some (n + 1) => some ⟨n + 1⟩
  | _ => none

/-- Whether a character belongs to a script. -/
def has (s : Script) (c : Char) : Bool := table.value c == s.number

/-- Whether a script uses a character. -/
def uses (s : Script) (c : Char) : Bool :=
  match sharedTable.value c with
  | 0 => s.has c
  | n + 1 => ((sharedGroups[n]?).getD []).contains s.number

end Script

end ContextCompiler.Text
