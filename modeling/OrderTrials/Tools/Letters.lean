import OrderTrials.Tools.Words
/-
# Letters

The classes of characters that have names, and capitals and small letters.

Key definitions: `Tools.Letters.isIn`, `Tools.Letters.upper`, `Tools.Letters.lower`.
Key theorems: `Tools.Letters.upper_of_digit`.
-/

namespace OrderTrials
namespace Tools
namespace Letters

/-- Whether a character is a letter. -/
def isLetter (c : Char) : Bool :=
  if c.toNat < 0x80 then c.isAlpha else isShown (c, true) && !Text.Alphabet.isSign c

/-- Whether a character is white space. -/
def isSpace (c : Char) : Bool :=
  let n := c.toNat
  n == 32 || (decide (9 ≤ n) && decide (n ≤ 13)) || n == 0x1680 ||
    (decide (0x2000 ≤ n) && decide (n ≤ 0x200A) && n != 0x2007) || n == 0x2028 || n == 0x2029 ||
    n == 0x205F || n == 0x3000

/-- The capital of a small letter; any other character stays as it is. -/
def upper (c : Char) : Char :=
  if c.toNat < 0x80 then c.toUpper else Text.Alphabet.capital c

/-- The small letter of a capital; any other character stays as it is. -/
def lower (c : Char) : Char :=
  if c.toNat < 0x80 then c.toLower else Text.Alphabet.small c

/-- A digit has no capital. -/
theorem upper_of_digit {c : Char} (h : c.isDigit = true) (hn : c.toNat < 0x80) :
    upper c = c := by
  have h2 : c.val ≤ 57 := by
    simp [Char.isDigit] at h
    exact h.2
  have : ¬ (97 ≤ c.val) := by
    intro h3
    exact absurd (UInt32.le_trans h3 h2) (by decide)
  rw [upper, if_pos hn]
  exact dif_neg fun h => this h.1

/-- Whether a character is a letter or a digit. -/
def isWordLetter (c : Char) : Bool := c.isDigit || isLetter c

/-- The names of classes. -/
def classNames : List String :=
  ["alnum", "alpha", "blank", "cntrl", "digit", "graph", "lower", "print", "punct", "space",
    "upper", "xdigit"]

/-- Whether a character is in the class with a name. -/
def isIn (name : String) (c : Char) : Bool :=
  let isShown := Tools.isShown (c, true)
  match name with
  | "alnum" => isWordLetter c
  | "alpha" => isLetter c
  | "blank" =>
    c == ' ' || c == '\t' ||
      (decide (0x80 ≤ c.toNat) && isSpace c && c.toNat != 0x2028 && c.toNat != 0x2029)
  | "cntrl" => decide (c.toNat < 32) || (decide (127 ≤ c.toNat) && decide (c.toNat < 160)) ||
    c.toNat == 0x2028 || c.toNat == 0x2029
  | "digit" => c.isDigit
  | "graph" => isShown && !isSpace c
  | "lower" => upper c != c || c == 'ß'
  | "print" => isShown
  | "punct" => isShown && !isSpace c && !isWordLetter c
  | "space" => isSpace c
  | "upper" => lower c != c
  | _ => Text.Scan.isDigitOf 16 c

end Letters
end Tools
end OrderTrials
