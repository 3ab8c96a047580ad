import ContextCompiler.Regex.Basic

/-!
How much room regular expressions take once their repetitions are written out.

Room is counted in bytes. A step takes one cell, and a choice also a mark for each of its ways. A
set of ASCII characters is one choice; any other set becomes a net of choices between bytes, which
grows with the number of runs of characters in the set.
-/

namespace ContextCompiler

namespace CharSet

/-- The room of one step. -/
def cell : Nat := 32

/-- Whether a set is seen to hold ASCII characters only. -/
def staysAscii : CharSet → Bool
  | range _ hi => hi.toNat < 128
  | caseOf c => (Text.caseVariants c).all (·.toNat < 128)
  | none => true
  | union a b => a.staysAscii && b.staysAscii
  | inter a b => a.staysAscii || b.staysAscii
  | anyAsciiCase a => a.staysAscii
  | _ => false

/-- The number of runs of characters below a code. -/
def runsBelow (a : CharSet) (code : Nat) : Nat :=
  (code.fold (fun n _ (count, inside) =>
    let now := a.has (Char.ofNat n)
    (if now && !inside then count + 1 else count, now)) (0, false)).1

/-- The room of a set. The runs of a set that is not seen to be ASCII are given by `runs`. -/
def room (runs : CharSet → Nat) (a : CharSet) : Nat :=
  match a with
  | range lo hi => if lo == hi then lo.utf8Size * cell else more a
  | a => more a
where
  /-- The room of a set of several characters. -/
  more (a : CharSet) : Nat :=
    if a.staysAscii then 2 * cell + 8 * a.runsBelow 128 else 200 + 26 * runs a

end CharSet

namespace Regex

/-- Whether an expression matches the empty text only. -/
def isWidthless : Regex → Bool
  | empty => true
  | one _ => false
  | anchor _ => true
  | seq r s => r.isWidthless && s.isWidthless
  | alt r s => r.isWidthless && s.isWidthless
  | rep r _ _ _ => r.isWidthless
  | group _ r => r.isWidthless

/-- The room of an expression, given that of its sets. A part without width is not repeated more
than once. -/
def size (room : CharSet → Nat) : Regex → Nat
  | empty => CharSet.cell
  | one a => room a
  | anchor _ => CharSet.cell
  | seq r s => r.size room + s.size room
  | alt r s => r.size room + s.size room + 72
  | rep r min max _ =>
    let most := max.getD (min + 1)
    let choices := 72 + 40 * (most - min)
    if r.isWidthless then r.size room + choices else r.size room * Nat.max min most + choices
  | group _ r => r.size room + 2 * CharSet.cell

/-- Expressions that take more room are refused. -/
def sizeLimit : Nat := 10485760

/-- Whether an expression takes too much room. The runs of its sets are counted only where it would
take too much if all sets had as many as the set of all letters and digits. -/
def isTooLarge (r : Regex) : Bool :=
  sizeLimit < r.size (CharSet.room fun _ => 800)
    && sizeLimit < r.size (CharSet.room (·.runsBelow 0x110000))

end Regex

end ContextCompiler
