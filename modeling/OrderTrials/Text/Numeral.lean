/-
# Decimal numerals

Whole numbers as text. A numeral may carry a sign and leading zeros when it is read and carries
neither a plus sign nor leading zeros when it is written. Words of 64 bits are numbers with
bounds, so reading one takes the bounds as arguments.

Key definitions: `Text.digits`, `Text.readNatural`, `Text.readInteger`, `Text.showInteger`.
Key theorems: `Text.digits_ne_nil`, `Text.isDigit_of_mem_digits`.
-/

namespace OrderTrials
namespace Text

/-- The character of one decimal digit. -/
def digitChar (d : Nat) : Char :=
  Char.ofNat (48 + d % 10)

/-- The decimal digits of a number, the leading one first; zero is one digit. -/
def digits (n : Nat) : List Char :=
  if n < 10 then [digitChar n] else digits (n / 10) ++ [digitChar n]
termination_by n

theorem digits_ne_nil (n : Nat) : digits n ≠ [] := by
  unfold digits
  split <;> simp

theorem isDigit_digitChar (d : Nat) : (digitChar d).isDigit = true := by
  have h : d % 10 < 10 := Nat.mod_lt _ (by decide)
  unfold digitChar
  revert h
  generalize d % 10 = k
  intro h
  match k, h with
  | 0, _ | 1, _ | 2, _ | 3, _ | 4, _ | 5, _ | 6, _ | 7, _ | 8, _ | 9, _ => decide

/-- A numeral is made of digits only. -/
theorem isDigit_of_mem_digits {c : Char} {n : Nat} (h : c ∈ digits n) : c.isDigit = true := by
  fun_induction digits n with
  | case1 n _ =>
    simp only [List.mem_singleton] at h
    exact h ▸ isDigit_digitChar n
  | case2 n _ ih =>
    rcases List.mem_append.1 h with h | h
    · exact ih h
    · simp only [List.mem_singleton] at h
      exact h ▸ isDigit_digitChar n

/-- The number that a list of digits stands for, read from the left on top of `acc`; nothing if
some character is no digit. -/
def digitsValue (acc : Nat) : List Char → Option Nat
  | [] => some acc
  | c :: r => if c.isDigit then digitsValue (acc * 10 + (c.toNat - 48)) r else none

/-- A non-empty list of digits as a number. -/
def readDigits : List Char → Option Nat
  | [] => none
  | s => digitsValue 0 s

/-- A numeral without a minus sign; a plus sign is allowed. -/
def readNatural (s : List Char) : Option Nat :=
  match s with
  | '+' :: r => readDigits r
  | r => readDigits r

/-- A numeral with an optional sign. -/
def readInteger (s : List Char) : Option Int :=
  match s with
  | '-' :: r => (readDigits r).map fun n => -(n : Int)
  | r => (readNatural r).map fun n => (n : Int)

/-- The least signed word of 64 bits. -/
def minWord : Int := -9223372036854775808

/-- The greatest signed word of 64 bits. -/
def maxWord : Int := 9223372036854775807

/-- Whether a number is a signed word of 64 bits. -/
def isSignedWord (v : Int) : Bool :=
  decide (minWord ≤ v) && decide (v ≤ maxWord)

/-- A numeral whose number is a signed word of 64 bits. -/
def readSigned (s : String) : Option Int :=
  (readInteger s.toList).filter isSignedWord

/-- A numeral whose number is an unsigned word of 64 bits. -/
def readUnsigned (s : String) : Option Nat :=
  (readNatural s.toList).filter (· < 18446744073709551616)

/-- The numeral of a natural number. -/
def showNatural (n : Nat) : String :=
  String.ofList (digits n)

/-- The canonical numeral of a number: a minus sign where it is needed, no leading zero. -/
def showInteger : Int → String
  | .ofNat n => showNatural n
  | .negSucc n => String.ofList ('-' :: digits (n + 1))

/-- A number below sixteen as a lower-case hexadecimal digit. -/
def hexDigit (d : Nat) : Char :=
  if d < 10 then Char.ofNat (48 + d) else Char.ofNat (87 + d % 16)

/-- The value of a hexadecimal digit of either case. -/
def hexValue (c : Char) : Option Nat :=
  if c.isDigit then some (c.toNat - 48)
  else if 'a' ≤ c && c ≤ 'f' then some (c.toNat - 87)
  else if 'A' ≤ c && c ≤ 'F' then some (c.toNat - 55)
  else none

/-- The lowest `width` hexadecimal digits of a number, the leading one first. -/
def hexDigits : Nat → Nat → List Char
  | 0, _ => []
  | width + 1, n => hexDigits width (n / 16) ++ [hexDigit (n % 16)]

/-- A number in hexadecimal digits, without leading zeros. -/
def hexNumeral (n : Nat) : List Char :=
  if n < 16 then [hexDigit n] else hexNumeral (n / 16) ++ [hexDigit (n % 16)]
termination_by n

/-- The bytes that pairs of hexadecimal digits stand for; an odd digit at the end is left out. -/
def bytesOfHex : List Char → List UInt8
  | a :: b :: r =>
    (((hexValue a).getD 0) * 16 + (hexValue b).getD 0).toUInt8 :: bytesOfHex r
  | _ => []

end Text
end OrderTrials
