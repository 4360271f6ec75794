import OrderTrials.Text.Numeral
/-
# Numbers of double precision

A double is kept as the 64 bits of its IEEE 754 binary form. A finite double is a whole number
times a power of two, and everything here but the two divisions and the product in `scaled` is
exact arithmetic on those two.

The shortest digits of a double are the fewest decimal digits that lie closer to it than to any
other double; of those with the fewest digits the nearest one is taken.

Key definitions: `Double`, `Double.parts`, `Double.shortest`, `Double.ofDecimal`.
-/

namespace OrderTrials

/-- A number of double precision, as its bits. -/
structure Double where
  bits : UInt64
deriving DecidableEq, Inhabited

namespace Double

/-- The double that a machine number is. -/
def ofFloat (x : Float) : Double := ⟨x.toBits⟩

/-- The machine number of a double. -/
def toFloat (d : Double) : Float := Float.ofBits d.bits

/-- Whether the sign bit is set. -/
def isNegative (d : Double) : Bool := decide (d.bits ≥ 0x8000000000000000)

/-- The eleven bits of the exponent. -/
def exponentBits (d : Double) : Nat := (d.bits.toNat / Nat.pow 2 52) % 2048

/-- The fifty-two bits of the fraction. -/
def fractionBits (d : Double) : Nat := d.bits.toNat % Nat.pow 2 52

/-- Whether the double is a number and not infinite. -/
def isFinite (d : Double) : Bool := d.exponentBits != 2047

/-- Whether the double is no number. -/
def isNaN (d : Double) : Bool := d.exponentBits == 2047 && d.fractionBits != 0

/-- The size of a finite double: a whole number and the exponent of the power of two by which it
is multiplied. -/
def parts (d : Double) : Nat × Int :=
  if d.exponentBits = 0 then (d.fractionBits, -1074)
  else (Nat.pow 2 52 + d.fractionBits, (d.exponentBits : Int) - 1075)

/-- Whether the double is a zero of either sign. -/
def isZero (d : Double) : Bool := d.exponentBits == 0 && d.fractionBits == 0

/-! ### Shortest decimal digits -/

/-- A whole number times a power of two times a power of ten, as a fraction. -/
def ratio (m : Nat) (two ten : Int) : Nat × Nat :=
  (m * Nat.pow 2 two.toNat * Nat.pow 10 ten.toNat, Nat.pow 2 (-two).toNat * Nat.pow 10 (-ten).toNat)

/-- The exponent of ten of the leading digit of a positive fraction. -/
def leadingExponent (num den : Nat) : Int :=
  if den ≤ num then (Text.digits (num / den)).length - 1
  else -((Text.digits ((den + num - 1) / num - 1)).length : Int)

/-- Whether `c` times ten to the `k` rounds to the double with the given parts. The numbers that
do lie within half a step of it, and the step below a power of two is half as long. -/
def roundsTo (m : Nat) (q : Int) (c : Nat) (k : Int) : Bool :=
  let (cn, cd) := ratio c 0 k
  let below := if m = Nat.pow 2 52 && q != -1074 then 4 * m - 1 else 4 * m - 2
  let (ln, ld) := ratio below (q - 2) 0
  let (hn, hd) := ratio (4 * m + 2) (q - 2) 0
  if m % 2 = 0 then decide (ln * cd ≤ cn * ld) && decide (cn * hd ≤ hn * cd)
  else decide (ln * cd < cn * ld) && decide (cn * hd < hn * cd)

/-- The digits of the two neighbours of a fraction among the multiples of ten to the `k`, of
which the one that rounds to the double is taken, or the nearer one if both do. -/
def candidate (m : Nat) (q : Int) (k : Int) : Option Nat :=
  let (num, den) := ratio m q (-k)
  let low := num / den
  let takesLow := low != 0 && roundsTo m q low k
  let takesHigh := roundsTo m q (low + 1) k
  let twice := 2 * (num - low * den)
  match takesLow, takesHigh with
  | true, true => some (if twice < den || (twice == den && low % 2 == 0) then low else low + 1)
  | true, false => some low
  | false, true => some (low + 1)
  | false, false => none

/-- The first hit on the grids with `n`, `n + 1`, … digits. -/
def search (m : Nat) (q lead : Int) : Nat → Nat → Nat × Int
  | 0, _ => (m, q)
  | tries + 1, n =>
    let k := lead - (n : Int) + 1
    match candidate m q k with
    | some c => (c, k)
    | none => search m q lead tries (n + 1)

/-- Drops the zeros at the end of a whole number and counts them. -/
def stripZeros : Nat → Nat → Int → Nat × Int
  | 0, c, k => (c, k)
  | tries + 1, c, k => if c % 10 = 0 && c != 0 then stripZeros tries (c / 10) (k + 1) else (c, k)

/-- The shortest digits of a finite double other than zero, as a whole number and the exponent of
its last digit. Seventeen digits always suffice. -/
def shortest (d : Double) : Nat × Int :=
  let (m, q) := d.parts
  let (num, den) := ratio m q 0
  let (c, k) := search m q (leadingExponent num den) 18 1
  stripZeros 20 c k

/-! ### Decimal texts -/

/-- `count` zeros. -/
def zeros (count : Nat) : List Char := List.replicate count '0'

/-- Digits with a point, for a whole number whose last digit has the exponent `k`; without a
fraction the text has `tail` at its end. -/
def positional (c : Nat) (k : Int) (tail : List Char) : List Char :=
  let ds := Text.digits c
  if 0 ≤ k then ds ++ zeros k.toNat ++ tail
  else
    let places := (-k).toNat
    if places < ds.length then
      ds.take (ds.length - places) ++ '.' :: ds.drop (ds.length - places)
    else '0' :: '.' :: zeros (places - ds.length) ++ ds

/-- Digits with an exponent, which always bears a sign. -/
def scientific (c : Nat) (k : Int) : List Char :=
  let ds := Text.digits c
  let lead := k + ds.length - 1
  let mantissa := match ds with
    | [] => []
    | [x] => [x]
    | x :: r => x :: '.' :: r
  let sign := if lead < 0 then '-' else '+'
  mantissa ++ 'e' :: sign :: Text.digits lead.natAbs

/-- The sign of a double as text. -/
def signText (d : Double) : List Char := if d.isNegative then ['-'] else []

/-- A finite double in the form of a data format: positional with a point when the leading digit
has an exponent from -5 to 15, else with an exponent. -/
def dataText (d : Double) : String :=
  String.ofList <| d.signText ++
    if d.isZero then ['0', '.', '0']
    else
      let (c, k) := d.shortest
      let lead := k + (Text.digits c).length - 1
      if -5 ≤ lead ∧ lead ≤ 15 then positional c k ['.', '0'] else scientific c k

/-- A double in running text: never with an exponent, and without a fraction if it is whole. -/
def plainText (d : Double) : String :=
  if d.isNaN then "NaN"
  else String.ofList <| d.signText ++
    if !d.isFinite then ['i', 'n', 'f']
    else if d.isZero then ['0']
    else
      let (c, k) := d.shortest
      positional c k []

/-! ### From decimal digits -/

/-- The double nearest to a whole number times a power of ten. -/
def ofDecimal (negative : Bool) (c : Nat) (k : Int) : Double :=
  let size : Float :=
    if c = 0 then 0
    else
      let lead := k + (Text.digits c).length - 1
      if lead < -400 then 0
      else if 400 < lead then Float.ofBits 0x7FF0000000000000
      else Float.ofScientific c (decide (k < 0)) k.natAbs
  ofFloat (if negative then -size else size)

/-- The power of ten with a given exponent, as a machine number. -/
def powerOfTen (n : Nat) : Float := Float.ofScientific 1 false n

/-- A word times a power of ten, computed with one rounding of the word and one of the product or
quotient, as a quick reader does. Powers below the range of a double are divided off in steps of
308. Nothing is returned if the result is too great. -/
def scaled (negative : Bool) (significand : UInt64) (exponent : Int) : Option Double :=
  let signed (f : Float) : Double := ofFloat (if negative then -f else f)
  let start := significand.toFloat
  if exponent ≥ 0 then
    if exponent ≤ 308 then
      let f := start * powerOfTen exponent.toNat
      if f.isInf then none else some (signed f)
    else if significand = 0 then some (signed start)
    else none
  else some (signed (divide 8 start (-exponent).toNat))
where
  /-- Divides a number by a power of ten, in steps of 308 for `steps` steps at most. -/
  divide : Nat → Float → Nat → Float
    | 0, f, _ => f
    | steps + 1, f, n =>
      if n ≤ 308 then f / powerOfTen n
      else if f == 0 then f
      else divide steps (f / powerOfTen 308) (n - 308)

/-- The greatest whole number below a power of two times a finite double that is not negative. -/
def floorTimesPower (d : Double) (power : Nat) : Nat :=
  let (m, q) := d.parts
  let shift := q + (power : Int)
  if 0 ≤ shift then m * Nat.pow 2 shift.toNat else m / Nat.pow 2 (-shift).toNat

/-- Zero and one. -/
def zero : Double := ⟨0⟩
def one : Double := ⟨0x3FF0000000000000⟩

/-- Whether a double lies between zero and one; no number does not. -/
def isWithinUnit (d : Double) : Bool :=
  decide (0 ≤ d.toFloat) && decide (d.toFloat ≤ 1)

end Double
end OrderTrials
