import ContextCompiler.Number.Double

/-!
Texts of floating-point numbers.

Both forms write the shortest digits that read back. The plain form is positional at every
size; the data form has a fraction or an exponent, so that it never looks like an integer.

For the shortest digits, the reals that round to the number form an interval. Decimals of one digit,
two digits and so on are tried; the first grid with a point in the interval gives the answer, and of
two such points the nearer one is taken.
-/

/-! ## The shortest decimal -/

namespace ContextCompiler.Number

/-- A positive decimal `digits * 10 ^ exp` whose last digit is not zero. -/
structure Decimal where
  digits : Nat
  exp : Int
  deriving DecidableEq, Repr

namespace Decimal

/-- Moves final zeros of the digits into the exponent. -/
def normalize : Nat → Decimal → Decimal
  | 0, d => d
  | n + 1, d =>
    if d.digits % 10 = 0 && d.digits != 0 then normalize n ⟨d.digits / 10, d.exp + 1⟩ else d

/-- The decimal digits, most significant first. -/
def digitChars (d : Decimal) : List Char := Nat.toDigits 10 d.digits

/-- The exponent of ten of the first digit. -/
def leadingExp (d : Decimal) : Int := d.exp + d.digitChars.length - 1

end Decimal

/-- `num / den` times `10 ^ e`, as a quotient. -/
def scaleTen (num den : Nat) (e : Int) : Nat × Nat :=
  if 0 ≤ e then (num * Nat.pow 10 e.toNat, den) else (num, den * Nat.pow 10 (-e).toNat)

/-- The least `e` with `num / den < 10 ^ e`, found by steps from an estimate below it. -/
def decimalSize (num den : Nat) : Int :=
  let l : Int := (num.log2 : Int) - den.log2
  let start := (l - 1) * 30103 / 100000 - 2
  let rec go : Nat → Int → Int
    | 0, e => e
    | n + 1, e =>
      let (a, b) := scaleTen num den (-e)
      if a < b then e else go n (e + 1)
  go 8 start

/-- Looks for a decimal of `n` digits or more within the interval. -/
def searchGrid (num den lowNum highNum : Nat) (closed : Bool) (size : Int) : Nat → Nat → Decimal
  | 0, _ => ⟨0, 0⟩
  | fuel + 1, n =>
    let e := size - n
    let (a, b) := scaleTen num den (-e)
    let t := a / b
    let inside (c : Nat) : Bool :=
      let (lo, b) := scaleTen lowNum (4 * den) (-e)
      let (hi, _) := scaleTen highNum (4 * den) (-e)
      if closed then lo ≤ c * b && c * b ≤ hi else lo < c * b && c * b < hi
    let below := inside t && t != 0
    let above := inside (t + 1)
    let rest := 2 * (a % b)
    if below && above then
      if rest < b || (rest == b && t % 2 == 0) then ⟨t, e⟩ else ⟨t + 1, e⟩
    else if below then ⟨t, e⟩
    else if above then ⟨t + 1, e⟩
    else searchGrid num den lowNum highNum closed size fuel (n + 1)

/-- The shortest decimal that rounds to the magnitude of a finite number other than zero. -/
def shortest (d : Double) : Decimal :=
  let (m, q) := d.magnitude
  let (num, den) := d.ratio
  let unit := if 0 ≤ q then Nat.pow 2 q.toNat else 1
  let lowGap := if m = Nat.pow 2 52 && q != -1074 then unit else 2 * unit
  let found := searchGrid num den (4 * num - lowGap) (4 * num + 2 * unit) (m % 2 == 0)
    (decimalSize num den) 18 1
  found.normalize 20

end ContextCompiler.Number

/-! ## Texts -/

namespace ContextCompiler.Double

open Number (Decimal shortest roundDiv)

/-- Zeros in a row. -/
def zeros (n : Nat) : List Char := List.replicate n '0'

/-- The sign of a number as text. -/
def signChars (d : Double) : List Char := if d.isNegative then ['-'] else []

/-- Positional digits of a decimal, with a point only where a fraction follows. -/
def positional (d : Decimal) : List Char :=
  let ds := d.digitChars
  if 0 ≤ d.exp then ds ++ zeros d.exp.toNat
  else
    let places := (-d.exp).toNat
    if places < ds.length then
      ds.take (ds.length - places) ++ '.' :: ds.drop (ds.length - places)
    else ['0', '.'] ++ zeros (places - ds.length) ++ ds

/-- The plain form: positional, without exponent, and without a point for whole numbers. -/
def plain (d : Double) : String :=
  if d.isNaN then "NaN"
  else if !d.isFinite then String.ofList (d.signChars ++ "inf".toList)
  else if d.isZero then String.ofList (d.signChars ++ ['0'])
  else String.ofList (d.signChars ++ positional (shortest d))

/-- Digits with a point after the first one, and the exponent of ten with its sign. -/
def scientific (d : Decimal) : List Char :=
  let mant := match d.digitChars with
    | [] => ['0']
    | [c] => [c]
    | c :: cs => c :: '.' :: cs
  let e := d.leadingExp
  mant ++ 'e' :: (if e < 0 then '-' else '+') :: Nat.toDigits 10 e.natAbs

/-- The data form: positional with a fraction from `1e-5` below `1e16`, otherwise with an
exponent. What is not finite is `null`. -/
def data (d : Double) : String :=
  if !d.isFinite then "null"
  else if d.isZero then String.ofList (d.signChars ++ ['0', '.', '0'])
  else
    let s := shortest d
    let e := s.leadingExp
    let body :=
      if -5 ≤ e && e ≤ 15 then
        let p := positional s
        if 0 ≤ s.exp then p ++ ['.', '0'] else p
      else scientific s
    String.ofList (d.signChars ++ body)

end ContextCompiler.Double
