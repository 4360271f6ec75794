import OrderTrials.Number.Double
/-
# Doubles from text

A double may be written with or without a sign, a fraction and an exponent; of the digits before
and after the point either may be missing, but not both. The words `inf`, `infinity` and `nan` are
known in any case.

Key definitions: `Double.read?`.
-/

namespace OrderTrials
namespace Double

/-- Positive infinity, and the number that is none. -/
def infinity : Double := ⟨0x7FF0000000000000⟩
def notANumber : Double := ⟨0x7FF8000000000000⟩

/-- The double with the sign bit set. -/
def negated (d : Double) : Double := ⟨d.bits ||| 0x8000000000000000⟩

/-- An exponent, which must be the rest of a text; without one it is zero. -/
def exponent? (s : List Char) : Option Int :=
  match s with
  | [] => some 0
  | e :: r => if e = 'e' ∨ e = 'E' then Text.readInteger r else none

/-- The size of a double that is written with digits. -/
def readDigits? (negative : Bool) (s : List Char) : Option Double :=
  let whole := s.takeWhile Char.isDigit
  let rest := s.dropWhile Char.isDigit
  let (fraction, tail) := match rest with
    | '.' :: r => (r.takeWhile Char.isDigit, r.dropWhile Char.isDigit)
    | r => ([], r)
  if whole.isEmpty && fraction.isEmpty then none
  else do
    let e ← exponent? tail
    let digits ← Text.digitsValue 0 (whole ++ fraction)
    return ofDecimal negative digits (e - fraction.length)

/-- The size of a double, in digits or as a word. -/
def readSize? (negative : Bool) (s : List Char) : Option Double :=
  let word := String.ofList (s.map Char.toLower)
  let signed (d : Double) : Double := if negative then d.negated else d
  if word = "inf" ∨ word = "infinity" then some (signed infinity)
  else if word = "nan" then some (signed notANumber)
  else readDigits? negative s

/-- The double that a text spells. -/
def read? (s : String) : Option Double :=
  match s.toList with
  | '-' :: r => readSize? true r
  | '+' :: r => readSize? false r
  | r => readSize? false r

end Double
end OrderTrials
