import OrderTrials.Number.Binary
import OrderTrials.Number.Double
/-
# Laying out values

How a value is shown that a directive of a format asks for: how wide it is at least, how many
digits it has, and where blanks, zeros and signs stand.

Key definitions: `Text.Layout`, `Text.Layout.text`, `Text.Layout.integer`, `Text.Layout.real`.
Key theorems: `Text.Layout.le_length_widened`.
-/

namespace OrderTrials
namespace Text

/-- How one value is shown. -/
structure Layout where
  flags : List Char
  width : Nat
  precision : Option Nat
  /-- The letter of the directive. -/
  kind : Char
deriving DecidableEq, Inhabited

namespace Layout

/-- Whether a flag is set. -/
def has (l : Layout) (flag : Char) : Bool := l.flags.contains flag

/-- A layout with a width that may be negative, which asks for blanks at the end. -/
def withWidth (l : Layout) (n : Int) : Layout :=
  { l with width := n.natAbs, flags := if n < 0 then '-' :: l.flags else l.flags }

/-- The greatest width, and the greatest precision. -/
def sizeLimit : Nat := 2147483647

/-- Whether a value can be shown at all, because the layout does not ask for more than that. -/
def isWithin (l : Layout) : Bool :=
  decide (l.width ≤ sizeLimit) && l.precision.all fun n => decide (n ≤ sizeLimit)

/-- A text widened with blanks. -/
def widened (l : Layout) (s : Octets) : Octets :=
  let blanks := List.replicate (l.width - s.length) ' '
  if l.has '-' then s ++ blanks else blanks ++ s

/-- A widened text is as wide as it must be. -/
theorem le_length_widened (l : Layout) (s : Octets) : l.width ≤ (l.widened s).length := by
  unfold widened
  split <;> simp only [List.length_append, List.length_replicate] <;> omega

/-- A text of which no more is shown than the precision allows. -/
def text (l : Layout) (s : Octets) : Octets :=
  l.widened (match l.precision with
    | some n => s.take n
    | none => s)

/-- The digits of a number in a base. The first argument bounds their number. -/
def digitsIn (base : Nat) (isCapital : Bool) : Nat → Nat → Octets
  | 0, _ => []
  | fuel + 1, n =>
    let c := hexDigit (n % base)
    let c := if isCapital then c.toUpper else c
    if n < base then [c] else digitsIn base isCapital fuel (n / base) ++ [c]

/-- The sign of a number that may be negative. -/
def signOf (l : Layout) (isNegative : Bool) : Octets :=
  if isNegative then ['-'] else if l.has '+' then ['+'] else if l.has ' ' then [' '] else []

/-- Digits after a sign or mark, widened with zeros or blanks. -/
def filled (l : Layout) (hasZeros : Bool) (start digits : Octets) : Octets :=
  let zeros := if hasZeros && l.has '0' && !l.has '-' then
      List.replicate (l.width - start.length - digits.length) '0'
    else []
  l.widened (start ++ zeros ++ digits)

/-- Whether the kind is one of whole numbers with a sign. -/
def isSigned (l : Layout) : Bool := l.kind == 'd' || l.kind == 'i'

/-- A whole number. -/
def integer (l : Layout) (v : Int) : Octets :=
  let n := if l.isSigned then v.natAbs else (v % 18446744073709551616).toNat
  let base := if l.kind = 'o' then 8 else if l.kind.toLower = 'x' then 16 else 10
  let digits := if n = 0 ∧ l.precision = some 0 then [] else digitsIn base (l.kind == 'X') 64 n
  let digits := List.replicate (l.precision.getD 1 - digits.length) '0' ++ digits
  let digits := if l.kind = 'o' ∧ l.has '#' ∧ digits.head? ≠ some '0' then '0' :: digits
    else digits
  let start := if l.isSigned then l.signOf (decide (v < 0))
    else if l.has '#' && n != 0 && base == 16 then ['0', l.kind]
    else []
  l.filled l.precision.isNone start digits

/-! ### Numbers with a point -/

/-- Digits with a point before the last `places` ones, and more zeros after them. -/
def pointed (l : Layout) (places more n : Nat) : Octets :=
  let ds := digits n
  let ds := List.replicate (places + 1 - ds.length) '0' ++ ds
  let whole := ds.take (ds.length - places)
  let part := ds.drop (ds.length - places) ++ List.replicate more '0'
  if part.isEmpty && !l.has '#' then whole else whole ++ '.' :: part

/-- A fraction with so many places. If the lower part is a power of two, the fraction has no more
places than that has bits, and only zeros follow. -/
def fixed (l : Layout) (places num den : Nat) : Octets :=
  let k := min places den.log2
  l.pointed k (places - k) (Binary.roundedQuotient (num * Nat.pow 10 k) den).1

/-- The leading digits of a fraction, one more than `places`, and the exponent of the first one. -/
def leading (places num den : Nat) : Nat × Int :=
  if num = 0 then (0, 0)
  else
    let x := Double.leadingExponent num den
    let shift := (places : Int) - x
    let (n, d) := if 0 ≤ shift then (num * Nat.pow 10 shift.toNat, den)
      else (num, den * Nat.pow 10 (-shift).toNat)
    let m := (Binary.roundedQuotient n d).1
    if m = Nat.pow 10 (places + 1) then (m / 10, x + 1) else (m, x)

/-- An exponent after a letter, with so many digits at least. -/
def exponentText (letter : Char) (least : Nat) (e : Int) : Octets :=
  let ds := digits e.natAbs
  letter :: (if e < 0 then '-' else '+') :: (List.replicate (least - ds.length) '0' ++ ds)

/-- More digits than any binary number has before only zeros follow. -/
def digitLimit : Nat := 25000

/-- A fraction with an exponent. -/
def scientific (l : Layout) (letter : Char) (places num den : Nat) : Octets :=
  let k := min places digitLimit
  let (m, x) := leading k num den
  l.pointed k (places - k) m ++ exponentText letter 2 x

/-- A text without the zeros at the end of its places. -/
def withoutZeros (s : Octets) : Octets :=
  if s.contains '.' then
    let r := s.reverse.dropWhile (· == '0')
    (match r with
      | '.' :: r => r
      | r => r).reverse
  else s

/-- A fraction with or without an exponent, whichever is shorter. -/
def general (l : Layout) (letter : Char) (num den : Nat) : Octets :=
  let p : Nat := match l.precision with
    | some 0 => 1
    | some p => p
    | none => 6
  let trimmed (s : Octets) := if l.has '#' then s else withoutZeros s
  let k := min (p - 1) digitLimit
  let (m, x) := leading k num den
  if -4 ≤ x ∧ x < p then trimmed (l.fixed ((p : Int) - 1 - x).toNat num den)
  else trimmed (l.pointed k (p - 1 - k) m) ++ exponentText letter 2 x

/-- A whole number times a power of two in hexadecimal digits. `lead` is how many bits stand before
the point. A digit before the point that is rounded up beyond the last one becomes one, and the
exponent grows instead. -/
def hexadecimal (l : Layout) (f : Binary.Form) (lead m : Nat) (e : Int) : Octets :=
  let places := (f.bits - lead + 3) / 4
  -- the digits after the point, before they are rounded or trimmed
  let m := m * Nat.pow 2 (4 * places + lead - f.bits)
  let x := if m = 0 then 0 else e + (f.bits - lead : Nat)
  let kept := min (l.precision.getD places) places
  let n := (Binary.roundedQuotient m (Nat.pow 16 (places - kept))).1
  let (n, x) := if n / Nat.pow 16 kept = 16 then (n / 16, x + 4) else (n, x)
  let ds := hexDigits kept (n % Nat.pow 16 kept)
  let ds := match l.precision with
    | none => (ds.reverse.dropWhile (· == '0')).reverse
    | some p => ds ++ List.replicate (p - kept) '0'
  let point := if ds.isEmpty && !l.has '#' then [] else ['.']
  hexNumeral (n / Nat.pow 16 kept) ++ point ++ ds ++ exponentText 'p' 1 x

/-- A binary number of a form. -/
def real (l : Layout) (f : Binary.Form) (v : Binary) : Octets :=
  let isCapital := l.kind.isUpper
  let capital (s : Octets) := if isCapital then s.map Char.toUpper else s
  let start := l.signOf v.isNegative
  match v with
  | .infinite _ => l.widened (start ++ capital ['i', 'n', 'f'])
  | .nan _ => l.widened (start ++ capital ['n', 'a', 'n'])
  | .finite _ m e =>
    let (num, den) := Binary.fraction m e
    let places := l.precision.getD 6
    let kind := l.kind.toLower
    if kind = 'a' then
      let lead := if f = Binary.Form.double then 1 else 4
      l.filled true (start ++ capital ['0', 'x']) (capital (l.hexadecimal f lead m e))
    else
      let digits := if kind = 'f' then l.fixed places num den
        else if kind = 'e' then l.scientific l.kind places num den
        else l.general (if isCapital then 'E' else 'e') num den
      l.filled true start digits

end Layout
end Text
end OrderTrials
