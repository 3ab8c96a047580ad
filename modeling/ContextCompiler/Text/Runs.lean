/-!
Sets and maps of characters in a short written form.

The form is a row of numbers in base 26. The last digit of a number is a lower-case letter, and the
digits before it are upper-case letters, so nothing stands between the numbers. A set is given by
the lengths of its gaps and runs in turn, and a map by the value and the length of each run.
-/

namespace ContextCompiler.Text

/-- The numbers of a row; `n` is the number read so far. -/
def readNumbers (n : Nat) : List Char → List Nat
  | [] => []
  | c :: s =>
    if c.isUpper then readNumbers (n * 26 + (c.toNat - 'A'.toNat)) s
    else (n * 26 + (c.toNat - 'a'.toNat)) :: readNumbers 0 s

/-- The sums of the first numbers of a row, from one number on; `n` is added to all. -/
def runningSums (n : Nat) : List Nat → List Nat
  | [] => []
  | k :: ks => (n + k) :: runningSums (n + k) ks

/-- How many numbers of an increasing row are at most `n`, if at least `lo` and at most `hi` are.
`fuel` bounds the halvings. -/
def countUpTo (row : Array Nat) (n : Nat) : Nat → Nat → Nat → Nat
  | 0, lo, _ => lo
  | fuel + 1, lo, hi =>
    if hi ≤ lo then lo
    else
      let mid := (lo + hi) / 2
      match row[mid]? with
      | some k =>
        if k ≤ n then countUpTo row n fuel (mid + 1) hi else countUpTo row n fuel lo mid
      | none => lo

/-- A set of characters: the codes at which the set starts and stops in turn. -/
structure Ranges where
  bounds : Array Nat
  deriving Repr

namespace Ranges

/-- Reads a set. -/
def read (s : String) : Ranges := ⟨(runningSums 0 (readNumbers 0 s.toList)).toArray⟩

/-- Membership. -/
def has (r : Ranges) (c : Char) : Bool :=
  countUpTo r.bounds c.toNat 32 0 r.bounds.size % 2 == 1

end Ranges

/-- A map of characters: the codes at which runs of equal value start, and the values. -/
structure Runs where
  starts : Array Nat
  values : Array Nat
  deriving Repr

namespace Runs

/-- The values and the lengths of a row. -/
def pairs : List Nat → List (Nat × Nat)
  | value :: length :: rest => (value, length) :: pairs rest
  | _ => []

/-- Reads a map. What follows the last run has the value zero. -/
def read (s : String) : Runs :=
  let runs := pairs (readNumbers 0 s.toList)
  ⟨(0 :: runningSums 0 (runs.map (·.2))).toArray, (runs.map (·.1)).toArray⟩

/-- The value of a code. -/
def valueAt (t : Runs) (n : Nat) : Nat :=
  (t.values[countUpTo t.starts n 32 0 t.starts.size - 1]?).getD 0

/-- The value of a character. -/
def value (t : Runs) (c : Char) : Nat := t.valueAt c.toNat

end Runs

end ContextCompiler.Text
