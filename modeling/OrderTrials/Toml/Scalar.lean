import OrderTrials.Number.Reading
/-
# Strings, numbers and dates of TOML

The parts of a TOML text (version 1.0) that have no parts of their own: the four kinds of strings,
numbers, truth values, and moments of time. A reader takes characters from the front of a text and
returns what it read with the characters that are left.

Key definitions: `Toml.basicText?`, `Toml.literalText?`, `Toml.moment?`, `Toml.Scalar`,
`Toml.scalar?`.
-/

namespace OrderTrials
namespace Toml

/-- Whether a character may stand in a comment or in a string of one line. -/
def isVisible (c : Char) : Bool :=
  c == '\t' || (0x20 ≤ c.toNat && c.toNat != 0x7F)

/-- The blanks of one line. -/
def isGap (c : Char) : Bool := c == ' ' || c == '\t'

/-- A text without the blanks at its start. -/
def skipGap (s : List Char) : List Char := s.dropWhile isGap

/-- What follows a line end. -/
def newline? : List Char → Option (List Char)
  | '\n' :: r => some r
  | '\r' :: '\n' :: r => some r
  | _ => none

/-! ### Strings -/

/-- The number that hexadecimal digits spell. -/
def hex? (acc : Nat) : List Char → Option Nat
  | [] => some acc
  | c :: r => (Text.hexValue c).bind fun d => hex? (acc * 16 + d) r

/-- The character with a number, if there is one. -/
def character? (n : Nat) : Option Char :=
  if h : n.isValidChar then some (Char.ofNatAux n h) else none

/-- The character that a letter after a backslash stands for. -/
def escaped? (c : Char) : Option Char :=
  if c = 'b' then some '\x08'
  else if c = 't' then some '\t'
  else if c = 'n' then some '\n'
  else if c = 'f' then some '\x0c'
  else if c = 'r' then some '\r'
  else if c = '"' then some '"'
  else if c = '\\' then some '\\'
  else none

/-- The character whose number is spelled by as many digits as `width` says. -/
def coded? (width : Nat) (s : List Char) : Option (Char × List Char) :=
  if s.length < width then none
  else ((hex? 0 (s.take width)).bind character?).map fun e => (e, s.drop width)

/-- The character of an escape, after its backslash. -/
def escape? : List Char → Option (Char × List Char)
  | [] => none
  | c :: r =>
    if c = 'u' then coded? 4 r
    else if c = 'U' then coded? 8 r
    else (escaped? c).map fun e => (e, r)

theorem length_coded? {width : Nat} {s r : List Char} {c : Char}
    (h : coded? width s = some (c, r)) : r.length ≤ s.length := by
  unfold coded? at h
  split at h
  · simp at h
  · obtain ⟨_, _, he⟩ := Option.map_eq_some_iff.1 h
    rw [← (Prod.mk.inj he).2]
    simp

theorem length_escape? {s r : List Char} {c : Char} (h : escape? s = some (c, r)) :
    r.length < s.length := by
  cases s with
  | nil => simp [escape?] at h
  | cons d t =>
    simp only [escape?] at h
    split at h
    · exact Nat.lt_succ_of_le (length_coded? h)
    · split at h
      · exact Nat.lt_succ_of_le (length_coded? h)
      · obtain ⟨_, _, he⟩ := Option.map_eq_some_iff.1 h
        rw [← (Prod.mk.inj he).2]
        simp

/-- A string of one line after its opening double quote. -/
def basicText? (s : List Char) : Option (List Char × List Char) :=
  match s with
  | [] => none
  | c :: r =>
    if c = '"' then some ([], r)
    else if c = '\\' then
      match h : escape? r with
      | none => none
      | some (e, rest) =>
        have := length_escape? h
        (basicText? rest).map fun p => (e :: p.1, p.2)
    else if isVisible c then (basicText? r).map fun p => (c :: p.1, p.2)
    else none
termination_by s.length
decreasing_by all_goals simp only [List.length_cons]; omega

/-- A string of one line after its opening single quote. -/
def literalText? : List Char → Option (List Char × List Char)
  | [] => none
  | c :: r =>
    if c = '\'' then some ([], r)
    else if isVisible c then (literalText? r).map fun p => (c :: p.1, p.2)
    else none

/-- A string of several lines ends with three quotes; up to two more before them belong to it. -/
def closing? (quote : Char) (s : List Char) : Option (List Char × List Char) :=
  let run := (s.takeWhile (· == quote)).length
  if run < 3 then none
  else some (List.replicate (min run 5 - 3) quote, s.drop (min run 5))

/-- A text without the blanks and line ends at its start. -/
def skipBlankLines : Nat → List Char → List Char
  | 0, s => s
  | fuel + 1, s =>
    match newline? (skipGap s) with
    | some r => skipBlankLines fuel r
    | none => skipGap s

/-- What follows a backslash at the end of a line: the next text that is not white space. -/
def continuation? (s : List Char) : Option (List Char) :=
  (newline? (skipGap s)).map fun r => skipBlankLines r.length r

theorem length_newline? {s r : List Char} (h : newline? s = some r) : r.length < s.length := by
  unfold newline? at h
  split at h
  · simp only [Option.some.injEq] at h
    simp [h]
  · simp only [Option.some.injEq] at h
    simp only [h, List.length_cons]
    omega
  · simp at h

theorem length_skipBlankLines (fuel : Nat) (s : List Char) :
    (skipBlankLines fuel s).length ≤ s.length := by
  induction fuel generalizing s with
  | zero => simp [skipBlankLines]
  | succ n ih =>
    have h2 : (skipGap s).length ≤ s.length := (List.dropWhile_suffix isGap).length_le
    simp only [skipBlankLines]
    split
    · next r h =>
      have h1 := length_newline? h
      have h3 := ih r
      omega
    · exact h2

theorem length_continuation? {s r : List Char} (h : continuation? s = some r) :
    r.length < s.length := by
  obtain ⟨t, ht, he⟩ := Option.map_eq_some_iff.1 h
  have h1 := length_newline? ht
  have h2 : (skipGap s).length ≤ s.length := (List.dropWhile_suffix isGap).length_le
  have h3 : r.length ≤ t.length := he ▸ length_skipBlankLines t.length t
  omega

/-- A string of several lines after its opening quotes and the line end right after them. Line
ends are line feeds in it, whatever they are in the text. -/
def blockText? (quote : Char) (escapes : Bool) (s : List Char) : Option (List Char × List Char) :=
  match closing? quote s with
  | some p => some p
  | none =>
    match s with
    | [] => none
    | c :: r =>
      if c = '\\' && escapes then
        match h : continuation? r with
        | some rest =>
          have := length_continuation? h
          blockText? quote escapes rest
        | none =>
          match h : escape? r with
          | none => none
          | some (e, rest) =>
            have := length_escape? h
            (blockText? quote escapes rest).map fun p => (e :: p.1, p.2)
      else
        match h : newline? (c :: r) with
        | some rest =>
          have := length_newline? h
          (blockText? quote escapes rest).map fun p => ('\n' :: p.1, p.2)
        | none =>
          if isVisible c then (blockText? quote escapes r).map fun p => (c :: p.1, p.2) else none
termination_by s.length
decreasing_by all_goals simp only [List.length_cons] at *; omega

/-- A text without the line end at its start. -/
def skipNewline (s : List Char) : List Char := (newline? s).getD s

/-- A string of any kind. -/
def text? (s : List Char) : Option (List Char × List Char) :=
  match s with
  | '"' :: '"' :: '"' :: r => blockText? '"' true (skipNewline r)
  | '\'' :: '\'' :: '\'' :: r => blockText? '\'' false (skipNewline r)
  | '"' :: r => basicText? r
  | '\'' :: r => literalText? r
  | _ => none

/-! ### Numbers, truth values and moments -/

/-- The values that have no parts. -/
inductive Scalar where
  | text (s : String)
  | whole (n : Int)
  | double (d : Double)
  | bool (b : Bool)
  /-- A date, a time, or both, as written. -/
  | moment (s : String)
deriving DecidableEq, Inhabited

/-- The characters of digits without the underscores between them, if `isDigit` allows each. -/
def joinDigits? (isDigit : Char → Bool) : List Char → Option (List Char)
  | [] => none
  | [c] => if isDigit c then some [c] else none
  | c :: '_' :: d :: r =>
    if isDigit c then (joinDigits? isDigit (d :: r)).map (c :: ·) else none
  | c :: d :: r => if isDigit c then (joinDigits? isDigit (d :: r)).map (c :: ·) else none

/-- The number that digits spell in a base. -/
def valueIn (base : Nat) (digits : List Char) : Nat :=
  digits.foldl (fun acc c => acc * base + (Text.hexValue c).getD 0) 0

/-- Digits in a base, after the letter that announces it. -/
def based? (base : Nat) (s : List Char) : Option Int :=
  let isDigit (c : Char) := (Text.hexValue c).any fun d => decide (d < base)
  (joinDigits? isDigit s).map fun ds => (valueIn base ds : Int)

/-- Decimal digits without a leading zero. -/
def decimalDigits? (s : List Char) : Option (List Char) :=
  match joinDigits? Char.isDigit s with
  | some ('0' :: _ :: _) => none
  | r => r

/-- Splits a sign off a text. -/
def splitSign : List Char → Bool × List Char
  | '-' :: r => (true, r)
  | '+' :: r => (false, r)
  | r => (false, r)

/-- A whole number that fits a signed word of 64 bits. -/
def whole? (s : List Char) : Option Int :=
  let value := match s with
    | '0' :: 'x' :: r => based? 16 r
    | '0' :: 'o' :: r => based? 8 r
    | '0' :: 'b' :: r => based? 2 r
    | _ =>
      let (negative, r) := splitSign s
      (decimalDigits? r).map fun ds =>
        if negative then -(valueIn 10 ds : Int) else (valueIn 10 ds : Int)
  value.filter Text.isSignedWord

/-- The digits of an exponent with its sign; the text must end with them. -/
def exponentDigits? (s : List Char) : Option (List Char) :=
  match s with
  | [] => some []
  | e :: r =>
    if e = 'e' ∨ e = 'E' then
      let (negative, ds) := splitSign r
      (joinDigits? Char.isDigit ds).map fun ds => 'e' :: (if negative then '-' else '+') :: ds
    else none

/-- The digits of a number with a fraction or an exponent, without underscores. -/
def plainDouble? (s : List Char) : Option (List Char) :=
  let isWhole (c : Char) := c.isDigit || c == '_'
  let whole := s.takeWhile isWhole
  match s.dropWhile isWhole with
  | [] => none
  | '.' :: r => do
    let whole ← decimalDigits? whole
    let fraction ← joinDigits? Char.isDigit (r.takeWhile isWhole)
    let exponent ← exponentDigits? (r.dropWhile isWhole)
    return whole ++ '.' :: fraction ++ exponent
  | r => do
    let whole ← decimalDigits? whole
    let exponent ← exponentDigits? r
    return whole ++ exponent

/-- A number with a fraction or an exponent, or a special one. A positive number must not be too
great. -/
def double? (s : List Char) : Option Double :=
  let (negative, r) := splitSign s
  let sized (d : Double) : Double := if negative then d.negated else d
  if r = ['i', 'n', 'f'] then some (sized Double.infinity)
  else if r = ['n', 'a', 'n'] then some (sized Double.notANumber)
  else do
    let plain ← plainDouble? r
    let d ← Double.readDigits? negative plain
    if d = Double.infinity then none else return d

/-- The number of a fixed count of digits at the start of a text, if it is in a range. -/
def digitsWithin? (width least most : Nat) (s : List Char) : Option (Nat × List Char) :=
  let ds := s.take width
  let n := valueIn 10 ds
  if ds.length = width ∧ ds.all Char.isDigit ∧ least ≤ n ∧ n ≤ most then some (n, s.drop width)
  else none

/-- What follows a character. -/
def after? (c : Char) : List Char → Option (List Char)
  | [] => none
  | d :: r => if c = d then some r else none

/-- How many days a month has. -/
def daysOf (year month : Nat) : Nat :=
  let isLeap := year % 4 == 0 && (year % 100 != 0 || year % 400 == 0)
  if month = 2 then if isLeap then 29 else 28
  else if [4, 6, 9, 11].contains month then 30
  else 31

/-- What follows a date. -/
def date? (s : List Char) : Option (List Char) := do
  let (year, r) ← digitsWithin? 4 0 9999 s
  let (month, r) ← digitsWithin? 2 1 12 (← after? '-' r)
  let (_, r) ← digitsWithin? 2 1 (daysOf year month) (← after? '-' r)
  return r

/-- What follows the fraction of a second, if there is one. -/
def skipFraction : List Char → List Char
  | '.' :: c :: r => if c.isDigit then r.dropWhile Char.isDigit else '.' :: c :: r
  | r => r

/-- What follows a time. The last minute of a day may have a second more. -/
def time? (s : List Char) : Option (List Char) := do
  let (_, r) ← digitsWithin? 2 0 23 s
  let (_, r) ← digitsWithin? 2 0 59 (← after? ':' r)
  let (_, r) ← digitsWithin? 2 0 60 (← after? ':' r)
  return skipFraction r

/-- What follows the distance of a time from that of the first meridian, if it is given. -/
def offset? : List Char → Option (List Char)
  | [] => some []
  | c :: r =>
    if c = 'Z' ∨ c = 'z' then some r
    else if c = '+' ∨ c = '-' then do
      let (_, r) ← digitsWithin? 2 0 23 r
      let (_, r) ← digitsWithin? 2 0 59 (← after? ':' r)
      return r
    else some (c :: r)

/-- What follows the time after a date. -/
def timeOfDay? : List Char → Option (List Char)
  | [] => none
  | c :: r => if c = 'T' ∨ c = 't' ∨ c = ' ' then (time? r).bind offset? else none

/-- What follows a date, a time, or both. -/
def moment? (s : List Char) : Option (List Char) :=
  match date? s with
  | some r => some ((timeOfDay? r).getD r)
  | none => time? s

/-- The characters that numbers and truth values can have. -/
def isScalarChar (c : Char) : Bool :=
  c.isAlphanum || c == '_' || c == '+' || c == '-' || c == '.' || c == ':'

/-- The value that a run of such characters spells. -/
def bare? (w : List Char) : Option Scalar :=
  if w = ['t', 'r', 'u', 'e'] then some (.bool true)
  else if w = ['f', 'a', 'l', 's', 'e'] then some (.bool false)
  else
    match whole? w with
    | some n => some (.whole n)
    | none => (double? w).map .double

/-- A string, a number, a truth value or a moment. -/
def scalar? (s : List Char) : Option (Scalar × List Char) :=
  match s with
  | [] => none
  | c :: _ =>
    if c = '"' ∨ c = '\'' then (text? s).map fun p => (.text (String.ofList p.1), p.2)
    else
      match moment? s with
      | some r => some (.moment (String.ofList (s.take (s.length - r.length))), r)
      | none => (bare? (s.takeWhile isScalarChar)).map fun v => (v, s.dropWhile isScalarChar)

end Toml
end OrderTrials
