import ContextCompiler.Number.Double

/-!
Reading numbers from texts.
-/

namespace ContextCompiler.Number

/-- The value of a digit in bases up to sixteen. -/
def digitValue? (c : Char) : Option Nat :=
  if '0' ≤ c && c ≤ '9' then some (c.toNat - '0'.toNat)
  else if 'a' ≤ c && c ≤ 'f' then some (c.toNat - 'a'.toNat + 10)
  else if 'A' ≤ c && c ≤ 'F' then some (c.toNat - 'A'.toNat + 10)
  else none

/-- The number written by one or more digits of a base. -/
def natOfDigits? (base : Nat) (cs : List Char) : Option Nat :=
  if cs.isEmpty then none
  else
    cs.foldlM (fun n c => do
      let d ← digitValue? c
      if d < base then some (n * base + d) else none) 0

/-- The number written by digits with an optional point and exponent, at least one digit before
the exponent; its sign, significand and exponent of ten. -/
def decimalOf? (cs : List Char) : Option (Bool × Nat × Int) := do
  let (neg, cs) := match cs with
    | '-' :: s => (true, s)
    | '+' :: s => (false, s)
    | s => (false, s)
  let (whole, cs) := cs.span Char.isDigit
  let (fraction, cs) := match cs with
    | '.' :: s => s.span Char.isDigit
    | s => ([], s)
  let mant ← natOfDigits? 10 (whole ++ fraction)
  let exp : Int ← match cs with
    | [] => some 0
    | e :: s =>
      if e == 'e' || e == 'E' then
        match s with
        | '-' :: ds => (natOfDigits? 10 ds).map fun n => -(n : Int)
        | '+' :: ds => (natOfDigits? 10 ds).map fun n => (n : Int)
        | ds => (natOfDigits? 10 ds).map fun n => (n : Int)
      else none
  some (neg, mant, exp - fraction.length)

/-- The floating-point number nearest to a decimal text. -/
def doubleOf? (cs : List Char) : Option Double := do
  let (neg, mant, exp) ← decimalOf? cs
  some (Double.ofDecimal neg mant exp)

end ContextCompiler.Number
