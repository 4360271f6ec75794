import OrderTrials.Text.Layout
import OrderTrials.Tools.Simple
/-
# Printing words in a format

The tool that shows words as a format says, which is used again as long as words are left. A
complaint does not keep it from going on, unless the format itself makes no sense.

Key definitions: `Tools.Print.Printing`, `Tools.Print.used`, `Tools.Print.program`.
Key theorems: `Tools.Print.say_status`.
-/

namespace OrderTrials
namespace Tools
namespace Print

open Machine (Act Program Refusal)
open Text (Layout)

/-- What comes out: a text, or a complaint. -/
inductive Saying where
  | text (s : Octets)
  | complaint (s : Octets)
deriving DecidableEq, Inhabited

/-- How far the tool has come: what has come out, the last part first, the words that are left, and
the status. -/
structure Printing where
  said : List Saying := []
  words : List Octets
  status : Nat := 0
  /-- Whether nothing comes any more. -/
  isOver : Bool := false
  /-- Whether a value has been left out because it could not be shown. -/
  hasGap : Bool := false
deriving DecidableEq, Inhabited

namespace Printing

/-- More text. -/
def say (s : Octets) (p : Printing) : Printing := { p with said := .text s :: p.said }

/-- More text in a layout, or a gap where that cannot be. -/
def sayIn (l : Layout) (text : Layout → Octets) (p : Printing) : Printing :=
  if l.isWithin then p.say (text l) else { p with hasGap := true }

/-- Text does not change the status. -/
theorem say_status (s : Octets) (p : Printing) : (p.say s).status = p.status := rfl

/-- A complaint after which the tool goes on with another status. -/
def warn (s : Octets) (p : Printing) : Printing :=
  { p with said := .complaint s :: p.said, status := 1 }

/-- A complaint without consequences. -/
def remark (s : Octets) (p : Printing) : Printing := { p with said := .complaint s :: p.said }

/-- The end of all, with a complaint. -/
def fail (s : Octets) (p : Printing) : Printing := { p.warn s with isOver := true }

/-- The next word, empty if there is none. -/
def word (p : Printing) : Octets := p.words.head?.getD []

/-- Without the next word. -/
def next (p : Printing) : Printing := { p with words := p.words.tail }

end Printing

/-! ### Escapes -/

/-- What is wrong with an escape that needs digits. -/
def digitsReason : Octets := "missing hexadecimal number in escape".toList

/-- The escape after a backslash, which stands for a text or for the end; what follows it. A zero
may come before the digits of a byte in words. -/
def escape (isWord : Bool) (s : Octets) (p : Printing) : Printing × Octets :=
  match s with
  | [] => (p.say ['\\'], [])
  | c :: r =>
    if c = 'x' then
      let ds := (r.takeWhile (Text.Scan.isDigitOf 16)).take 2
      if ds.isEmpty then (p.fail digitsReason, [])
      else (p.say [byteOf (Text.Scan.digitsValue 16 ds)], r.drop ds.length)
    else if isOctal c then
      let digits := if isWord && c == '0' then r else s
      let ds := (digits.takeWhile isOctal).take 3
      (p.say [byteOf (Text.Scan.digitsValue 8 ds)], digits.drop ds.length)
    else if c = 'c' then ({ p with isOver := true, status := 0 }, [])
    else if c = '"' then (p.say [c], r)
    else if c = 'u' ∨ c = 'U' then
      let count := if c = 'u' then 4 else 8
      let ds := (r.takeWhile (Text.Scan.isDigitOf 16)).take count
      if ds.length < count then (p.fail digitsReason, [])
      else
        let n := Text.Scan.digitsValue 16 ds
        if 0xd800 ≤ n ∧ n ≤ 0xdfff then
          (p.fail ("invalid universal character name \\".toList ++ c :: Text.hexDigits count n), [])
        else if 0x10ffff < n then
          (p.say ('\\' :: 'U' :: (Text.hexDigits 8 n).map Char.toUpper), r.drop count)
        else (p.say (Octets.ofString (String.singleton (Char.ofNat n))), r.drop count)
    else
      match controlOf? c with
      | some d => (p.say [d], r)
      | none => (p.say ['\\', c], r)

/-- Says a word with escapes in it. The first argument bounds its length. -/
def sayEscaped : Nat → Octets → Printing → Printing
  | 0, _, p => p
  | fuel + 1, s, p =>
    if p.isOver then p
    else
      match s with
      | [] => p
      | '\\' :: r =>
        let (p, r) := escape true r p
        sayEscaped fuel r p
      | c :: r => sayEscaped fuel r (p.say [c])

/-! ### Numbers -/

/-- Complains about a number that a word is not, or not wholly, or that is out of range. -/
def checked (word rest : Octets) (isWithin : Bool) (p : Printing) : Printing :=
  if !isWithin then p.warn (quoted word ++ ": Numerical result out of range".toList)
  else if rest.isEmpty then p
  else if rest.length = word.length then
    p.warn (quoted word ++ ": expected a numeric value".toList)
  else p.warn (quoted word ++ ": value not completely converted".toList)

/-- The code of the character after a quote, if a word starts with one, with a remark if there is
more. -/
def afterQuote? (word : Octets) (p : Printing) : Option (Nat × Printing) :=
  match word with
  | q :: c :: r =>
    if q = '"' ∨ q = '\'' then
      let code := match characters (c :: r) with
        | (d, true) :: _ => d.toNat
        | _ => c.toNat
      let rest := match characters (c :: r) with
        | (d, true) :: _ => (c :: r).drop (Octets.ofString (String.singleton d)).length
        | _ => r
      let p := if rest.isEmpty then p
        else p.remark ("warning: ".toList ++ rest ++
          ": character(s) following character constant have been ignored".toList)
      some (code, p)
    else none
  | _ => none

/-- The greatest number without a sign. -/
def greatestPlain : Int := 18446744073709551615

/-- The whole number that a word is. -/
def integerOf (isSigned : Bool) (word : Octets) (p : Printing) : Int × Printing :=
  match afterQuote? word p with
  | some (n, p) => (n, p)
  | none =>
    let (v, rest) := Text.Scan.unlimited none word
    let w := if isSigned then Text.Scan.limited v
      else if greatestPlain < v.natAbs then greatestPlain else v
    (w, checked word rest (w == v) p)

/-- The number of extended precision that a word is. -/
def realOf (word : Octets) (p : Printing) : Binary × Printing :=
  match afterQuote? word p with
  | some (n, p) => ((Binary.rounded .extended false n 1).1, p)
  | none =>
    let (v, rest, isWithin) := Binary.scan .extended word
    (v, checked word rest isWithin p)

/-! ### Directives -/

/-- Which kinds of directives may have a flag. -/
def allowed (flag : Char) : List Char :=
  if flag = '\'' ∨ flag = 'I' then "diufFgG".toList
  else if flag = '#' then "aAeEfFgGoxX".toList
  else if flag = '0' then "aAdeEfFgGiouxX".toList
  else "aAcdeEfFgGiosuxX".toList

/-- Shows the next word. -/
def showNext (l : Layout) (p : Printing) : Printing :=
  let word := p.word
  if l.kind = 's' then (p.sayIn l (·.text word)).next
  else if l.kind = 'c' then (p.sayIn l (·.widened [word.head?.getD '\x00'])).next
  else if "diouxX".toList.contains l.kind then
    let (v, p) := integerOf l.isSigned word p
    (p.sayIn l (·.integer v)).next
  else
    let (v, p) := realOf word p
    (p.sayIn l (·.real .extended v)).next

/-- The size that a star stands for: the next word as a number. -/
def starred (p : Printing) : Int × Printing :=
  match p.words with
  | [] => (0, p)
  | word :: _ => let (n, p) := integerOf true word p; (n, p.next)

/-- The digits at the start of a text, or a star for the next word. A size that is out of range
ends all. -/
def size (what : String) (s : Octets) (p : Printing) : Option Int × Octets × Printing :=
  if p.isOver then (none, s, p)
  else match s with
  | '*' :: r =>
    let (n, q) := starred p
    let isBad := if what = "precision" then decide (Layout.sizeLimit < n)
      else decide (n < -Layout.sizeLimit - 1 ∨ Layout.sizeLimit < n)
    (some n, r, if isBad then
      q.fail ("invalid ".toList ++ what.toList ++ ": ".toList ++ quoted p.word) else q)
  | s =>
    let ds := s.takeWhile Char.isDigit
    (if ds.isEmpty then none else some (Text.Scan.digitsValue 10 ds), s.drop ds.length, p)

/-- The directive after a percent sign, and what follows it. -/
def directive (s : Octets) (p : Printing) : Printing × Octets :=
  let flags := s.takeWhile fun c => "-+ #0'I".toList.contains c
  let (width, r, p) := size "field width" (s.drop flags.length) p
  let (hasPrecision, precision, r, p) := match r with
    | '.' :: r => let (n, r, p) := size "precision" r p; (true, some (n.getD 0), r, p)
    | r => (false, none, r, p)
  let r := r.dropWhile fun c => "lLhjtz".toList.contains c
  if p.isOver then (p, [])
  else
    let kind := r.head?.getD '\x00'
    let kinds := (' ' :: flags).map allowed
    let isFine := kinds.all (·.contains kind) && !(hasPrecision && kind == 'c')
    if !isFine then
      let shown := '%' :: s.take (s.length - r.length + 1)
      (p.fail (shown ++ ": invalid conversion specification".toList), [])
    else
      let precision := match precision with
        | some n => if n < 0 then none else some n.toNat
        | none => none
      let l : Layout := ({ flags, width := 0, precision, kind } : Layout).withWidth (width.getD 0)
      (showNext l p, r.tail)

/-- Uses a format once. The first argument bounds its length. -/
def used : Nat → Octets → Printing → Printing
  | 0, _, p => p
  | fuel + 1, s, p =>
    if p.isOver then p
    else
      match s with
      | [] => p
      | '\\' :: r =>
        let (p, r) := escape false r p
        used fuel r p
      | '%' :: '%' :: r => used fuel r (p.say ['%'])
      | '%' :: 'b' :: r => used fuel r (sayEscaped (p.word.length + 1) p.word p).next
      | '%' :: 'q' :: r =>
        used fuel r (if p.words.isEmpty then p else p.say (fileQuoted p.word)).next
      | '%' :: r =>
        let (p, r) := directive r p
        used fuel r p
      | c :: r => used fuel r (p.say [c])

/-- Uses a format as long as words are left and it takes some. The first argument bounds how
often. -/
def printed (format : Octets) : Nat → Printing → Printing
  | 0, p => p
  | fuel + 1, p =>
    let q := used (format.length + 1) format p
    if q.isOver then q
    else if q.words.length = p.words.length then
      match q.words with
      | [] => q
      | word :: _ => q.remark ("warning: ignoring excess arguments, starting with ".toList ++
          quoted word)
    else if q.words.isEmpty then q
    else printed format fuel q

/-- Brings out what has come out, up to the first complaint at once. -/
def bringOut (tool : Octets) (status : Nat) : List Saying → Octets → Act Nat
  | [], text => finish tool text status
  | .text s :: rest, text => bringOut tool status rest (text ++ s)
  | .complaint s :: rest, text => do
    let status ← finish tool text status
    complain tool s
    bringOut tool status rest []

/-- Texts that follow each other as one. -/
def joined (said : List Saying) : List Saying :=
  said.foldl (fun after s =>
    match s, after with
    | .text a, .text b :: rest => .text (a ++ b) :: rest
    | s, after => s :: after) []

/-- Shows words in a format. -/
def program (words : List Octets) : Act Nat := do
  let tool := words.head?.getD []
  if isTold words.tail then return 0
  let rest := match words.tail with
    | ['-', '-'] :: rest => rest
    | rest => rest
  match rest with
  | [] =>
    complain tool "missing operand".toList
    referToHelp tool
    return 1
  | format :: rest =>
    let p := printed format (rest.length + 1) { words := rest }
    let status ← bringOut tool p.status (joined p.said) []
    if p.hasGap then
      complain tool "write error".toList
      return 1
    return status

end Print
end Tools
end OrderTrials
