/-!
Binary floating-point numbers of 64 bits.

A number is kept as its bits. All arithmetic goes through exact quotients of natural numbers,
which are rounded once, to the nearest number and of two equally near ones to the even one.
-/

namespace ContextCompiler.Number

/-- The whole number nearest to `num / den`; of two equally near ones the even one. -/
def roundDiv (num den : Nat) : Nat :=
  let q := num / den
  let twice := 2 * (num % den)
  if twice < den then q
  else if den < twice then q + 1
  else if q % 2 = 0 then q else q + 1

/-- The rounded quotient is at most half a unit away. -/
theorem roundDiv_near {num den : Nat} (h : 0 < den) :
    2 * num ≤ 2 * den * roundDiv num den + den ∧
      2 * den * roundDiv num den ≤ 2 * num + den := by
  have hq := Nat.div_add_mod num den
  have hm := Nat.mod_lt num h
  have hx : 2 * den * (num / den) = 2 * (den * (num / den)) := Nat.mul_assoc ..
  have hy : 2 * den * (num / den + 1) = 2 * (den * (num / den)) + 2 * den := by
    rw [Nat.mul_add, Nat.mul_one, hx]
  unfold roundDiv
  simp only
  split
  · rw [hx]; omega
  · split
    · rw [hy]; omega
    · split
      · rw [hx]; omega
      · rw [hy]; omega

end ContextCompiler.Number

namespace ContextCompiler

/-- A floating-point number of 64 bits. -/
structure Double where
  bits : UInt64
  deriving DecidableEq, Repr

namespace Double

/-- Whether the sign bit is set. -/
def isNegative (d : Double) : Bool := d.bits.toNat / Nat.pow 2 63 % 2 == 1

/-- The eleven bits of the exponent. -/
def exponentField (d : Double) : Nat := d.bits.toNat / Nat.pow 2 52 % Nat.pow 2 11

/-- The fifty-two bits of the fraction. -/
def fractionField (d : Double) : Nat := d.bits.toNat % Nat.pow 2 52

/-- Whether the number is neither infinite nor undefined. -/
def isFinite (d : Double) : Bool := d.exponentField != 2047

/-- Whether the bits stand for no number. -/
def isNaN (d : Double) : Bool := d.exponentField == 2047 && d.fractionField != 0

/-- Whether the number is positive or negative zero. -/
def isZero (d : Double) : Bool := d.exponentField == 0 && d.fractionField == 0

/-- The significand and the exponent of two of the magnitude of a finite number. -/
def magnitude (d : Double) : Nat × Int :=
  if d.exponentField = 0 then (d.fractionField, -1074)
  else (Nat.pow 2 52 + d.fractionField, (d.exponentField : Int) - 1075)

/-- The magnitude of a finite number as a quotient. -/
def ratio (d : Double) : Nat × Nat :=
  let (m, q) := d.magnitude
  if 0 ≤ q then (m * Nat.pow 2 q.toNat, 1) else (m, Nat.pow 2 (-q).toNat)

/-- The number with the given sign and lower bits. -/
def ofFields (neg : Bool) (lower : Nat) : Double :=
  ⟨UInt64.ofNat ((if neg then Nat.pow 2 63 else 0) + lower)⟩

/-- Positive or negative infinity. -/
def infinity (neg : Bool) : Double := ofFields neg (2047 * Nat.pow 2 52)

/-- The bits that stand for no number. -/
def nan : Double := ofFields false (2047 * Nat.pow 2 52 + Nat.pow 2 51)

/-- The number nearest to `± num / den`, infinite when the quotient is too large. -/
def ofRatio (neg : Bool) (num den : Nat) : Double :=
  if num = 0 then ofFields neg 0
  else
    let l : Int := (num.log2 : Int) - den.log2
    let scaled (q : Int) : Nat × Nat :=
      if 0 ≤ q then (num, den * Nat.pow 2 q.toNat) else (num * Nat.pow 2 (-q).toNat, den)
    let (n0, d0) := scaled (l - 52)
    let q := max (if n0 / d0 < Nat.pow 2 52 then l - 53 else l - 52) (-1074)
    let (n, d) := scaled q
    let m := Number.roundDiv n d
    let (m, q) := if m = Nat.pow 2 53 then (Nat.pow 2 52, q + 1) else (m, q)
    if 971 < q then infinity neg
    else if m < Nat.pow 2 52 then ofFields neg m
    else ofFields neg ((q + 1075).toNat * Nat.pow 2 52 + (m - Nat.pow 2 52))

/-- The number nearest to `± mant * 10 ^ exp`. -/
def ofDecimal (neg : Bool) (mant : Nat) (exp : Int) : Double :=
  if mant = 0 then ofFields neg 0
  else if 400 < exp then infinity neg
  else if 0 ≤ exp then ofRatio neg (mant * Nat.pow 10 exp.toNat) 1
  else if exp < -(400 + (mant.log2 : Int)) then ofFields neg 0
  else ofRatio neg mant (Nat.pow 10 (-exp).toNat)

/-- The number nearest to an integer. -/
def ofInt (n : Int) : Double := ofRatio (n < 0) n.natAbs 1

/-- The product of the magnitudes of two finite numbers. -/
def mulMagnitude (a b : Double) : Double :=
  let (n, d) := a.ratio
  let (n', d') := b.ratio
  ofRatio false (n * n') (d * d')

/-- The quotient of the magnitudes of two finite numbers, the second not zero. -/
def divMagnitude (a b : Double) : Double :=
  let (n, d) := a.ratio
  let (n', d') := b.ratio
  ofRatio false (n * d') (d * n')

/-- The number with the other sign. -/
def negate (d : Double) : Double :=
  ofFields (!d.isNegative) (d.bits.toNat % Nat.pow 2 63)

end Double

end ContextCompiler
