import ContextCompiler.Text.Category
import ContextCompiler.Text.Composition
import ContextCompiler.Url.LabelTable
import ContextCompiler.Url.Punycode

/-!
Names of hosts in the characters of all languages, and their form in ASCII.

Each character is taken as it counts in names, and the text is composed. The labels are read, those
that are written in ASCII already too; each has to keep the rules on its first character and on
joiners, and all of them those on directions if one runs from right to left.
-/

namespace ContextCompiler.Label

/-! ## Characters -/

/-- How a character counts in a name. -/
inductive Use where
  | kept
  | dropped
  | refused
  | replaced
  deriving DecidableEq, Repr

/-- The use of a character. -/
def use (c : Char) : Use :=
  match LabelTable.uses.value c with
  | 0 => .kept
  | 1 => .dropped
  | 3 => .replaced
  | _ => .refused

/-- The codes that others stand in for, in order. -/
def replacedCodes : List Nat :=
  let t := LabelTable.uses
  (t.starts.toList.zip (t.starts.toList.drop 1) |>.zip t.values.toList).flatMap
    fun ((start, stop), value) => if value == 3 then List.range' start (stop - start) else []

/-- A code that lies off another, by twice the distance, or by one less where it comes before. -/
def moved (code shift : Nat) : Nat :=
  if shift % 2 == 0 then code + shift / 2 else code - (shift + 1) / 2

/-- Reads what codes stand for. -/
def readTargets : List Nat → List Nat → List (Nat × List Nat)
  | 0 :: n :: row, code :: codes => (code, row.take n) :: readTargets (row.drop n) codes
  | n :: shift :: row, codes =>
    (codes.take n).map (fun code => (code, [moved code shift])) ++ readTargets row (codes.drop n)
  | _, _ => []
termination_by row => row.length
decreasing_by all_goals simp only [List.length_cons, List.length_drop]; omega

/-- What characters stand for. -/
def targets : Std.HashMap Nat (List Char) :=
  .ofList ((readTargets (Text.readNumbers 0 LabelTable.targets.toList) replacedCodes).map
    fun (code, cs) => (code, cs.map Char.ofNat))

/-- A character as it counts in a name. -/
def mapChar? (c : Char) : Option (List Char) :=
  match use c with
  | .kept => some [c]
  | .dropped => some []
  | .replaced => some (targets.getD c.toNat [])
  | .refused => none

/-- A text as it counts in a name. -/
def mapped? (s : List Char) : Option (List Char) :=
  (s.mapM mapChar?).map fun cs => Text.composed cs.flatten

/-! ## Joiners -/

/-- How a character joins with those beside it. -/
inductive Joining where
  | none
  | through
  | both
  | left
  | right
  deriving DecidableEq, Repr

/-- The joining of a character. -/
def joining (c : Char) : Joining :=
  match LabelTable.joinings.value c with
  | 1 => .through
  | 2 => .both
  | 3 => .left
  | 4 => .right
  | _ => .none

/-- Whether the first character that is not passed over joins in one of some ways. -/
def joinsWith (ways : List Joining) : List Char → Bool
  | [] => false
  | c :: s => ways.contains (joining c) || (joining c == .through && joinsWith ways s)

/-- Whether the joiners in a text are in their place, after the characters `before`, the last of
them first: a joiner follows a mark that silences a vowel, and a non-joiner may also part two
characters that would join. -/
def joinersFit (before : List Char) : List Char → Bool
  | [] => true
  | c :: s =>
    let afterSilencer := before.head?.any fun d => Text.markOrder d == 9
    let parts := joinsWith [.left, .both] before && joinsWith [.right, .both] s
    (match c with
      | '\u200C' => afterSilencer || parts
      | '\u200D' => afterSilencer
      | _ => true) && joinersFit (c :: before) s

/-! ## Directions -/

/-- The class of direction of a character. -/
inductive Direction where
  | left
  | right
  | arabicLetter
  | arabicNumber
  | european
  | europeanSeparator
  | commonSeparator
  | terminator
  | neutral
  | boundary
  | mark
  | other
  deriving DecidableEq, Repr

/-- The direction of a character. -/
def direction (c : Char) : Direction :=
  match LabelTable.directions.value c with
  | 0 => .left
  | 1 => .right
  | 2 => .arabicLetter
  | 3 => .arabicNumber
  | 4 => .european
  | 5 => .europeanSeparator
  | 6 => .commonSeparator
  | 7 => .terminator
  | 8 => .neutral
  | 9 => .boundary
  | 10 => .mark
  | _ => .other

/-- Whether a class makes a name one with directions. -/
def Direction.turns (d : Direction) : Bool :=
  d == .right || d == .arabicLetter || d == .arabicNumber

/-- Whether the directions of a label agree with that of its first character. -/
def directionsFit (label : List Char) : Bool :=
  let ds := label.map direction
  let between : List Direction :=
    [.european, .europeanSeparator, .commonSeparator, .terminator, .neutral, .boundary, .mark]
  let last := (ds.reverse.dropWhile (· == .mark)).head?
  match ds.head? with
  | none => true
  | some .left =>
    ds.all (fun d => d == .left || between.contains d)
      && last.all fun d => d == .left || d == .european
  | some first =>
    (first == .right || first == .arabicLetter)
      && ds.all (fun d => d.turns || between.contains d)
      && last.all (fun d => d.turns || d == .european)
      && !(ds.contains .european && ds.contains .arabicNumber)

/-! ## Labels -/

/-- The start of a label that is written in ASCII for others. -/
def mark : List Char := "xn--".toList

/-- Reads a label that is written in ASCII for others: it has to be the form of a label that is
written as it counts. -/
def readEncoded? (s : List Char) : Option (List Char) := do
  let label ← if s.getLast? == some '-' || s.length > 2000 then none else Punycode.decode? s
  if label.all (·.toNat < 128) then none
  if label.any (use · != .kept) || Text.composed label != label then none
  some label

/-- Reads a label. -/
def read? (s : List Char) : Option (List Char) := do
  let label ←
    match Text.dropPrefix? mark s with
    | some s => readEncoded? s
    | none => some s
  if label.head?.any Text.isMark || !joinersFit [] label then none
  some label

/-- A label in ASCII. -/
def toAscii? (label : List Char) : Option (List Char) :=
  if label.all (·.toNat < 128) then some label
  else if label.length > 1000 then none
  else some (mark ++ Punycode.encode label)

/-- The ASCII characters that no name holds. -/
def isForbidden (c : Char) : Bool :=
  c.toNat ≤ 0x20 || c.toNat == 0x7F || "%#/:<>?@[\\]^|".toList.contains c

/-- A name in ASCII. -/
def asciiName? (s : List Char) : Option (List Char) := do
  let s ← mapped? s
  if s.any isForbidden then none
  let labels ← (Text.splitOn '.' s).mapM read?
  let turns := labels.any fun label => label.any fun c => (direction c).turns
  if turns && !labels.all directionsFit then none
  pure (Text.joinWith ['.'] (← labels.mapM toAscii?))

end ContextCompiler.Label
