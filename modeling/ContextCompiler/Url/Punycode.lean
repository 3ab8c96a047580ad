import ContextCompiler.Text.Search

/-!
Labels of names in ASCII, as RFC 3492 gives them.

The ASCII characters of a label come first. The others follow as one number each, in the order of
their codes: how many places and codes lie between one and the next. A number is written in digits
with the lowest first, and a threshold for each place tells where it ends.
-/

namespace ContextCompiler.Punycode

/-- The digit with a value below 36. -/
def digit (n : Nat) : Char :=
  if n < 26 then Char.ofNat ('a'.toNat + n) else Char.ofNat ('0'.toNat + n - 26)

/-- The value of a digit. -/
def digitValue? (c : Char) : Option Nat :=
  if c.isLower then some (c.toNat - 'a'.toNat)
  else if c.isUpper then some (c.toNat - 'A'.toNat)
  else if c.isDigit then some (c.toNat - '0'.toNat + 26)
  else none

/-- The threshold of a digit place. -/
def threshold (k bias : Nat) : Nat :=
  if k ≤ bias then 1 else if bias + 26 ≤ k then 26 else k - bias

theorem threshold_pos (k bias : Nat) : 0 < threshold k bias := by
  unfold threshold
  split
  · omega
  · split <;> omega

theorem threshold_le (k bias : Nat) : threshold k bias ≤ 26 := by
  unfold threshold
  split
  · omega
  · split <;> omega

/-- Divides a delta down to the range of the bias. `fuel` bounds the divisions. -/
def adaptSteps : Nat → Nat → Nat → Nat × Nat
  | 0, delta, k => (delta, k)
  | fuel + 1, delta, k => if 455 < delta then adaptSteps fuel (delta / 35) (k + 36) else (delta, k)

/-- The bias after a delta. -/
def adapt (delta count : Nat) (first : Bool) : Nat :=
  let d := if first then delta / 700 else delta / 2
  let (d, k) := adaptSteps 16 (d + d / count) 0
  k + 36 * d / (d + 38)

/-! ## Writing -/

/-- A delta as digits, the lowest first, with the first of them in the place `k`. -/
def deltaDigits (bias k q : Nat) : List Char :=
  let t := threshold k bias
  if q < t then [digit q]
  else digit (t + (q - t) % (36 - t)) :: deltaDigits bias (k + 36) ((q - t) / (36 - t))
termination_by q
decreasing_by
  have hpos := threshold_pos k bias
  have hdiv := Nat.div_le_self (q - threshold k bias) (36 - threshold k bias)
  omega

/-- What is known while a label is written. -/
structure Writing where
  out : List Char
  delta : Nat
  bias : Nat
  done : Nat

/-- Takes one character of the label into account while the code `m` is written. -/
def writeStep (basic m : Nat) (st : Writing) (c : Char) : Writing :=
  if c.toNat < m then { st with delta := st.delta + 1 }
  else if c.toNat == m then
    ⟨st.out ++ deltaDigits st.bias 36 st.delta, 0,
      adapt st.delta (st.done + 1) (st.done == basic), st.done + 1⟩
  else st

/-- Writes the codes of a label that are not ASCII, in increasing order. -/
def writeCodes (label : List Char) (basic : Nat) : List Nat → Nat → Writing → Writing
  | [], _, st => st
  | m :: rest, n, st =>
    let st := { st with delta := st.delta + (m - n) * (st.done + 1) }
    let st := label.foldl (writeStep basic m) st
    writeCodes label basic rest (m + 1) { st with delta := st.delta + 1 }

/-- A label in ASCII. -/
def encode (label : List Char) : List Char :=
  let basic := label.filter (·.toNat < 128)
  let codes := ((label.map Char.toNat).filter (128 ≤ ·)).mergeSort.eraseDups
  let start : List Char := if basic.isEmpty then [] else basic ++ ['-']
  (writeCodes label basic.length codes 128 ⟨start, 0, 72, basic.length⟩).out

/-! ## Reading -/

/-- What is known while a label is read: the text so far, the code and the place of the next
character, and the number that is being read, with the place and the weight of its next digit. -/
structure Reading where
  out : List Char
  code : Nat
  place : Nat
  bias : Nat
  delta : Nat
  digitPlace : Nat
  weight : Nat

/-- Puts in the character that a number stands for. -/
def insert? (r : Reading) (delta : Nat) : Option Reading :=
  let count := r.out.length + 1
  let code := r.code + (r.place + delta) / count
  let place := (r.place + delta) % count
  if code.isValidChar then
    some ⟨r.out.take place ++ Char.ofNat code :: r.out.drop place, code, place + 1,
      adapt delta count (r.place == 0), 0, 36, 1⟩
  else none

/-- Reads one digit. -/
def readStep? (r : Reading) (c : Char) : Option Reading := do
  let d ← digitValue? c
  let t := threshold r.digitPlace r.bias
  let delta := r.delta + d * r.weight
  if d < t then insert? r delta
  else
    some { r with delta := delta, digitPlace := r.digitPlace + 36, weight := r.weight * (36 - t) }

/-- Reads a label in ASCII. The last number has to be whole. -/
def decode? (s : List Char) : Option (List Char) := do
  let (basic, digits) := (Text.splitLast ['-'] s).getD ([], s)
  if basic.isEmpty && digits.length < s.length then none
  if basic.any (128 ≤ ·.toNat) then none
  let r ← digits.foldlM readStep? ⟨basic, 128, 0, 72, 0, 36, 1⟩
  if r.digitPlace == 36 then some r.out else none

end ContextCompiler.Punycode
