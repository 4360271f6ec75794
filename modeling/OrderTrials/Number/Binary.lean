import OrderTrials.Text.Scan
/-
# Binary numbers

A binary number is a whole number times a power of two, with a sign of its own, or infinite, or no
number at all. A form says how many bits the whole number may have and how far the exponent may
go; a fraction is rounded to the nearest number of a form, and to the even one of two that are
equally near.

Key definitions: `Binary`, `Binary.Form`, `Binary.rounded`, `Binary.scan`.
Key theorems: `Binary.roundedQuotient_of_exact`.
-/

namespace OrderTrials

/-- A binary number. -/
inductive Binary where
  | finite (isNegative : Bool) (significand : Nat) (exponent : Int)
  | infinite (isNegative : Bool)
  | nan (isNegative : Bool)
deriving DecidableEq, Inhabited

namespace Binary

/-- The bits of the whole number, and the least and the greatest exponent. -/
structure Form where
  bits : Nat
  least : Int
  most : Int
deriving DecidableEq, Inhabited

/-- Numbers of double precision. -/
def Form.double : Form := ⟨53, -1074, 971⟩

/-- Numbers of extended precision. -/
def Form.extended : Form := ⟨64, -16445, 16320⟩

/-- Whether a number has a minus sign. -/
def isNegative : Binary → Bool
  | finite b _ _ | infinite b | nan b => b

/-- The whole number nearest to a fraction, and whether it is the fraction. -/
def roundedQuotient (num den : Nat) : Nat × Bool :=
  let q := num / den
  let twice := 2 * (num % den)
  (if twice < den ∨ (twice = den ∧ q % 2 = 0) then q else q + 1, twice == 0)

/-- A fraction that is whole is not changed. -/
theorem roundedQuotient_of_exact (n : Nat) {den : Nat} (h : 0 < den) :
    roundedQuotient (n * den) den = (n, true) := by
  simp [roundedQuotient, Nat.mul_div_cancel n h, h]

/-- A fraction divided by a power of two. -/
def shifted (num den : Nat) (e : Int) : Nat × Nat :=
  if 0 ≤ e then (num, den * Nat.pow 2 e.toNat) else (num * Nat.pow 2 (-e).toNat, den)

/-- The number of a form nearest to a fraction that is not negative, and whether the fraction is
within its range. -/
def rounded (f : Form) (isNegative : Bool) (num den : Nat) : Binary × Bool :=
  if num = 0 then (finite isNegative 0 0, true)
  else
    let start : Int := (num.log2 : Int) - den.log2 - f.bits
    let isShort := let (n, d) := shifted num den start; decide (n < Nat.pow 2 f.bits * d)
    let e := max f.least (if isShort then start else start + 1)
    let (n, d) := shifted num den e
    let (m, isExact) := roundedQuotient n d
    let (m, e) := if m = Nat.pow 2 f.bits then (m / 2, e + 1) else (m, e)
    if f.most < e then (infinite isNegative, false)
    else (finite isNegative m e, isExact || decide (Nat.pow 2 (f.bits - 1) ≤ m))

/-! ### Reading -/

/-- Beyond which exponents of ten a number is surely out of range. -/
def tenLimit : Int := 6000

/-- Beyond which exponents of two a number is surely out of range. -/
def twoLimit : Int := 40000

/-- The exponent after a letter, if there is one, and what follows it. -/
def scanExponent (letter : Char) (s : Octets) : Int × Octets :=
  match s with
  | c :: r =>
    if c.toLower = letter then
      let (isNegative, digits) := Text.Scan.sign r
      match digits with
      | d :: _ =>
        if d.isDigit then
          let (n, rest) := Text.Scan.digits 10 digits
          (if isNegative then -(n : Int) else n, rest)
        else (0, s)
      | [] => (0, s)
    else (0, s)
  | [] => (0, s)

/-- The digits of a base with a point in them, as one number, how many stand after the point, and
what follows; none if there is no digit. -/
def scanPoint (base : Nat) (s : Octets) : Option (Nat × Nat × Octets) :=
  let whole := s.takeWhile (Text.Scan.isDigitOf base)
  let rest := s.drop whole.length
  let (part, rest) := match rest with
    | '.' :: r =>
      let part := r.takeWhile (Text.Scan.isDigitOf base)
      if whole.isEmpty && part.isEmpty then ([], rest) else (part, r.drop part.length)
    | r => ([], r)
  if whole.isEmpty && part.isEmpty then none
  else some (Text.Scan.digitsValue base (whole ++ part), part.length, rest)

/-- The number of a form for a whole number times a power of two or ten. -/
def ofPower (f : Form) (base : Nat) (limit : Int) (isNegative : Bool) (n : Nat) (e : Int) :
    Binary × Bool :=
  let size : Int := if base = 2 then n.log2 else (Text.digits n).length - 1
  if n = 0 then (finite isNegative 0 0, true)
  else if limit < e + size then (infinite isNegative, false)
  else if e + size < -limit then (finite isNegative 0 0, false)
  else if 0 ≤ e then rounded f isNegative (n * Nat.pow base e.toNat) 1
  else rounded f isNegative n (Nat.pow base (-e).toNat)

/-- What follows a word at the start of a text, in capitals or small letters. -/
def afterWord? (word : String) (s : Octets) : Option Octets :=
  let n := word.length
  if (s.take n).map Char.toLower = word.toList then some (s.drop n) else none

/-- What follows the text in brackets after `nan`, if there is one. -/
def afterBrackets (s : Octets) : Octets :=
  match s with
  | '(' :: r =>
    match r.dropWhile fun c => c.isAlphanum || c == '_' with
    | ')' :: rest => rest
    | _ => s
  | _ => s

/-- The number of a form at the start of a text without a sign, what follows it, and whether it was
within the range; none if there is no number. -/
def scanUnsigned (f : Form) (isNegative : Bool) (s : Octets) : Option (Binary × Octets × Bool) :=
  let decimal : Option (Binary × Octets × Bool) :=
    (scanPoint 10 s).map fun (n, places, rest) =>
      let (e, rest) := scanExponent 'e' rest
      let (v, isWithin) := ofPower f 10 tenLimit isNegative n (e - places)
      (v, rest, isWithin)
  let hexadecimal : Option (Binary × Octets × Bool) :=
    match s with
    | '0' :: x :: r =>
      if x = 'x' ∨ x = 'X' then
        (scanPoint 16 r).map fun (n, places, rest) =>
          let (e, rest) := scanExponent 'p' rest
          let (v, isWithin) := ofPower f 2 twoLimit isNegative n (e - 4 * places)
          (v, rest, isWithin)
      else none
    | _ => none
  let named : Option (Binary × Octets × Bool) :=
    match afterWord? "infinity" s, afterWord? "inf" s, afterWord? "nan" s with
    | some rest, _, _ | none, some rest, _ => some (infinite isNegative, rest, true)
    | none, none, some rest => some (nan isNegative, afterBrackets rest, true)
    | none, none, none => none
  (hexadecimal.or decimal).or named

/-- The number of a form at the start of a text, what follows it, and whether it was within the
range. A text without a number yields zero and is left as it is. -/
def scan (f : Form) (s : Octets) : Binary × Octets × Bool :=
  let (isNegative, r) := Text.Scan.sign (s.dropWhile Text.Scan.isSpace)
  (scanUnsigned f isNegative r).getD (finite false 0 0, s, true)

/-! ### Exact values -/

/-- The size of a finite number as a fraction. -/
def fraction (m : Nat) (e : Int) : Nat × Nat :=
  if 0 ≤ e then (m * Nat.pow 2 e.toNat, 1) else (m, Nat.pow 2 (-e).toNat)

end Binary
end OrderTrials
