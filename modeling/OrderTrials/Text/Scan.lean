import OrderTrials.Text.Numeral
import OrderTrials.Text.Octets
/-
# Numbers in the words of a command

Programs read numbers from their words in one way: white space and a sign may come first, and a
zero, `0x` or `0b` before the digits may choose the base. A number that is too great counts as the
greatest one.

Key definitions: `Text.Scan.number`, `Text.Scan.whole?`, `Text.Scan.count?`.
Key theorems: `Text.Scan.limited_eq_self`.
-/

namespace OrderTrials
namespace Text
namespace Scan

/-- The greatest number. -/
def greatest : Int := 9223372036854775807

/-- A number within the limits. -/
def limited (n : Int) : Int := max (-greatest - 1) (min greatest n)

/-- A number within the limits stays as it is. -/
theorem limited_eq_self {n : Int} (h : isSignedWord n = true) : limited n = n := by
  simp only [isSignedWord, Bool.and_eq_true, decide_eq_true_eq] at h
  simp only [limited, greatest, minWord, maxWord] at h ⊢
  omega

/-- The number that digits of a base stand for. -/
def digitsValue (base : Nat) (s : Octets) : Nat :=
  s.foldl (fun n c => n * base + (hexValue c).getD 0) 0

/-- Whether a character is a digit of a base. -/
def isDigitOf (base : Nat) (c : Char) : Bool := (hexValue c).any (· < base)

/-- The number that digits of a base at the start of a text stand for, and what follows them. -/
def digits (base : Nat) (s : Octets) : Nat × Octets :=
  let ds := s.takeWhile (isDigitOf base)
  (digitsValue base ds, s.drop ds.length)

/-- The number at the start of a text without a sign, in base sixteen, two, eight or ten as its first
characters tell, and what follows it. -/
def anyDigits (s : Octets) : Nat × Octets :=
  match s with
  | '0' :: x :: d :: r =>
    if x.toLower = 'x' ∧ isDigitOf 16 d then digits 16 (d :: r)
    else if x.toLower = 'b' ∧ isDigitOf 2 d then digits 2 (d :: r)
    else digits 8 s
  | '0' :: _ => digits 8 s
  | _ => digits 10 s

/-- Whether a character is white space. -/
def isSpace (c : Char) : Bool := c == ' ' || (9 ≤ c.toNat && c.toNat ≤ 13)

/-- Whether a text has a minus sign at its start, and what follows the sign, if there is one. -/
def sign (s : Octets) : Bool × Octets :=
  match s with
  | '-' :: r => (true, r)
  | '+' :: r => (false, r)
  | r => (false, r)

/-- The number at the start of a text, and what follows it. A text without a number yields zero
and is left as it is. -/
def unlimited (base? : Option Nat) (s : Octets) : Int × Octets :=
  let (isNegative, r) := sign (s.dropWhile isSpace)
  let (n, rest) := match base? with
    | some base => digits base r
    | none => anyDigits r
  if rest.length = r.length then (0, s)
  else (if isNegative then -(n : Int) else n, rest)

/-- The number at the start of a text, what follows it, and whether it was within the limits. -/
def number (base? : Option Nat) (s : Octets) : Int × Octets × Bool :=
  let (n, rest) := unlimited base? s
  (limited n, rest, limited n == n)

/-- The number that a whole text is, with white space around it; none if it is no number. An empty
text may count as zero. -/
def whole? (base? : Option Nat) (emptyIsZero : Bool) (s : Octets) : Option Int :=
  let (n, rest, isWithin) := number base? s
  if !isWithin || (!emptyIsZero && rest.length == s.length) then none
  else if (rest.dropWhile isSpace).isEmpty then some n
  else none

/-- The decimal number that a whole text is, if it is not negative and not too great to count
with. -/
def count? (s : Octets) : Option Nat :=
  match whole? (some 10) false s with
  | some n => if 0 ≤ n ∧ n ≤ 2147483647 then some n.toNat else none
  | none => none

/-- The number that a text of digits is. -/
def plain? (s : Octets) : Option Nat :=
  if !s.isEmpty && s.all Char.isDigit then some (digitsValue 10 s) else none

end Scan
end Text
end OrderTrials
