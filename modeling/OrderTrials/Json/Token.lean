import OrderTrials.Text.Numeral
/-
# Tokens of JSON texts

The text of a JSON document as a list of tokens (RFC 8259). Numerals and strings are kept as
they are written as far as a later reading may care: a numeral keeps its digits, and a string in
which an escape names half of a surrogate pair has no contents, because only a reader that skips
it lets it pass.

Key definitions: `Json.Numeral`, `Json.Token`, `Json.tokens?`.
-/

namespace OrderTrials
namespace Json

/-- A number as it is written. A fraction is absent exactly if it has no digits. -/
structure Numeral where
  negative : Bool
  whole : List Char
  fraction : List Char
  exponent : Option (Bool × List Char)
deriving DecidableEq, Inhabited

/-- The leaves of a document. A string without contents holds half of a surrogate pair. -/
inductive Scalar where
  | null
  | bool (b : Bool)
  | number (n : Numeral)
  | text (contents : Option String)
deriving DecidableEq, Inhabited

/-- The smallest parts of a document that carry meaning. -/
inductive Token where
  | beginList
  | endList
  | beginObject
  | endObject
  | comma
  | colon
  | leaf (s : Scalar)
deriving DecidableEq, Inhabited

/-! ### Numerals -/

/-- The digits at the start of a text, and the rest. -/
def spanDigits (s : List Char) : List Char × List Char :=
  (s.takeWhile Char.isDigit, s.dropWhile Char.isDigit)

/-- The exponent of a numeral, which must end the text: whether it is negative, and its digits. -/
def exponent? (s : List Char) : Option (Option (Bool × List Char)) :=
  match s with
  | [] => some none
  | e :: r =>
    if e != 'e' && e != 'E' then none
    else
      let (negative, ds) := match r with
        | '-' :: t => (true, t)
        | '+' :: t => (false, t)
        | t => (false, t)
      if !ds.isEmpty && ds.all Char.isDigit then some (some (negative, ds)) else none

/-- The fraction and the exponent of a numeral, which must end the text. -/
def fraction? (s : List Char) : Option (List Char × Option (Bool × List Char)) :=
  match s with
  | '.' :: r =>
    let (ds, rest) := spanDigits r
    if ds.isEmpty then none else (exponent? rest).map (ds, ·)
  | r => (exponent? r).map ([], ·)

/-- The numeral that a whole text spells. The digits before the point have no leading zero. -/
def numeral? (s : List Char) : Option Numeral :=
  let (negative, r) := match s with
    | '-' :: t => (true, t)
    | t => (false, t)
  let (whole, rest) := spanDigits r
  match whole with
  | [] => none
  | '0' :: _ :: _ => none
  | _ => (fraction? rest).map fun p => ⟨negative, whole, p.1, p.2⟩

/-- The characters that a numeral can have. -/
def isNumeralChar (c : Char) : Bool :=
  c.isDigit || c == '-' || c == '+' || c == '.' || c == 'e' || c == 'E'

/-! ### Strings -/

/-- The number that four hexadecimal digits spell. -/
def hex4? (a b c d : Char) : Option Nat := do
  let a ← Text.hexValue a
  let b ← Text.hexValue b
  let c ← Text.hexValue c
  let d ← Text.hexValue d
  return ((a * 16 + b) * 16 + c) * 16 + d

/-- The character that a letter after a backslash stands for. -/
def escaped? (c : Char) : Option Char :=
  if c = '"' then some '"'
  else if c = '\\' then some '\\'
  else if c = '/' then some '/'
  else if c = 'b' then some '\x08'
  else if c = 'f' then some '\x0c'
  else if c = 'n' then some '\n'
  else if c = 'r' then some '\r'
  else if c = 't' then some '\t'
  else none

/-- The code points, halves of pairs included, up to the closing quote, and what follows it. -/
def codes? : List Char → Option (List Nat × List Char)
  | [] => none
  | '"' :: r => some ([], r)
  | '\\' :: 'u' :: a :: b :: c :: d :: r =>
    match hex4? a b c d with
    | none => none
    | some n => (codes? r).map fun p => (n :: p.1, p.2)
  | '\\' :: c :: r =>
    match escaped? c with
    | none => none
    | some e => (codes? r).map fun p => (e.toNat :: p.1, p.2)
  | c :: r => if c.toNat < 0x20 then none else (codes? r).map fun p => (c.toNat :: p.1, p.2)

/-- The characters of a list of code points in which surrogates come in pairs only. -/
def joinPairs : List Nat → Option (List Char)
  | [] => some []
  | h :: r =>
    if 0xD800 ≤ h ∧ h < 0xDC00 then
      match r with
      | [] => none
      | l :: t =>
        if 0xDC00 ≤ l ∧ l < 0xE000 then
          (joinPairs t).map (Char.ofNat (0x10000 + (h - 0xD800) * 0x400 + (l - 0xDC00)) :: ·)
        else none
    else if 0xDC00 ≤ h ∧ h < 0xE000 then none
    else (joinPairs r).map (Char.ofNat h :: ·)

theorem length_codes? {s r : List Char} {cs : List Nat} (h : codes? s = some (cs, r)) :
    r.length < s.length := by
  fun_induction codes? s generalizing cs with
  | case1 => simp at h
  | case2 t =>
    simp only [Option.some.injEq, Prod.mk.injEq] at h
    simp [h.2]
  | case3 => simp at h
  | case4 a b c d t n hn ih =>
    obtain ⟨p, hp, he⟩ := Option.map_eq_some_iff.1 h
    have := @ih p.1 (by rw [hp, ← (Prod.mk.inj he).2])
    simp only [List.length_cons]
    omega
  | case5 => simp at h
  | case6 c t _ e he ih =>
    obtain ⟨p, hp, he⟩ := Option.map_eq_some_iff.1 h
    have := @ih p.1 (by rw [hp, ← (Prod.mk.inj he).2])
    simp only [List.length_cons]
    omega
  | case7 => simp at h
  | case8 c t _ _ _ _ ih =>
    obtain ⟨p, hp, he⟩ := Option.map_eq_some_iff.1 h
    have := @ih p.1 (by rw [hp, ← (Prod.mk.inj he).2])
    simp only [List.length_cons]
    omega

/-! ### Documents as tokens -/

/-- The tokens of one character. -/
def mark? (c : Char) : Option Token :=
  if c = '[' then some .beginList
  else if c = ']' then some .endList
  else if c = '{' then some .beginObject
  else if c = '}' then some .endObject
  else if c = ',' then some .comma
  else if c = ':' then some .colon
  else none

/-- The white space that may stand around tokens. -/
def isSpace (c : Char) : Bool := c == ' ' || c == '\t' || c == '\n' || c == '\r'

/-- The leaf that a run of letters spells. -/
def word? (w : List Char) : Option Scalar :=
  if w = ['n', 'u', 'l', 'l'] then some .null
  else if w = ['t', 'r', 'u', 'e'] then some (.bool true)
  else if w = ['f', 'a', 'l', 's', 'e'] then some (.bool false)
  else none

/-- The tokens of a text, if it consists of tokens and white space. -/
def tokens? (s : List Char) : Option (List Token) :=
  match s with
  | [] => some []
  | c :: r =>
    if isSpace c then tokens? r
    else
      match mark? c with
      | some t => (tokens? r).map (t :: ·)
      | none =>
        if c = '"' then
          match h : codes? r with
          | none => none
          | some (cs, rest) =>
            have := length_codes? h
            (tokens? rest).map (.leaf (.text ((joinPairs cs).map String.ofList)) :: ·)
        else if c = '-' || c.isDigit then
          have : (r.dropWhile isNumeralChar).length ≤ r.length :=
            (List.dropWhile_suffix isNumeralChar).length_le
          match numeral? (c :: r.takeWhile isNumeralChar) with
          | none => none
          | some n => (tokens? (r.dropWhile isNumeralChar)).map (.leaf (.number n) :: ·)
        else
          have : (r.dropWhile Char.isAlpha).length ≤ r.length :=
            (List.dropWhile_suffix Char.isAlpha).length_le
          match word? (c :: r.takeWhile Char.isAlpha) with
          | none => none
          | some w => (tokens? (r.dropWhile Char.isAlpha)).map (.leaf w :: ·)
termination_by s.length
decreasing_by all_goals simp only [List.length_cons]; omega

end Json
end OrderTrials
