import OrderTrials.Shell.Builtin.Words
import OrderTrials.Text.Layout
/-
# Builtins that print

`echo` shows its words; `printf` shows them as a format says, which is used again as long as words
are left. In both a backslash starts an escape, which stands for a byte.

Key definitions: `Shell.Builtin.unescaped`, `Shell.Builtin.echo`, `Shell.Builtin.print`.
-/

namespace OrderTrials
namespace Shell
namespace Builtin

open Action
open Text (Layout)

/-! ### Escapes -/

/-- The character of an escape of one letter. -/
def escapeLetter? (c : Char) : Option Char :=
  match c with
  | '\\' => some '\\'
  | 'a' => some '\x07'
  | 'b' => some '\x08'
  | 'e' => some '\x1b'
  | 'f' => some '\x0c'
  | 'n' => some '\n'
  | 'r' => some '\r'
  | 't' => some '\t'
  | 'v' => some '\x0b'
  | _ => none

/-- Whether a character is an octal digit. -/
def isOctal (c : Char) : Bool := decide ('0' ≤ c) && decide (c ≤ '7')

/-- The character with a number; only the lowest byte counts. -/
def byteOf (n : Nat) : Char := Char.ofNat (n % 256)

/-- The character of the escape at the start of a text, and what follows it. -/
def escape (s : Octets) : Char × Octets :=
  match s with
  | [] => ('\\', [])
  | c :: r =>
    if isOctal c then
      let ds := (s.takeWhile isOctal).take 3
      (byteOf (Text.Scan.digitsValue 8 ds), s.drop ds.length)
    else
      match escapeLetter? c with
      | some d => (d, r)
      | none => ('\\', s)

/-- A text after its escapes have been replaced, and whether one of them ended it. A zero may come
before the digits of an escape. The first argument bounds the length. -/
def unescapedWithin : Nat → Octets → Octets × Bool
  | 0, _ => ([], false)
  | fuel + 1, s =>
    match s with
    | [] => ([], false)
    | '\\' :: 'c' :: _ => ([], true)
    | '\\' :: '0' :: r =>
      let ds := (r.takeWhile isOctal).take 3
      let (rest, isEnded) := unescapedWithin fuel (r.drop ds.length)
      (byteOf (Text.Scan.digitsValue 8 ds) :: rest, isEnded)
    | '\\' :: r =>
      let (c, r) := escape r
      let (rest, isEnded) := unescapedWithin fuel r
      (c :: rest, isEnded)
    | c :: r =>
      let (rest, isEnded) := unescapedWithin fuel r
      (c :: rest, isEnded)

/-- A text after its escapes have been replaced, and whether one of them ended it. -/
def unescaped (s : Octets) : Octets × Bool := unescapedWithin (s.length + 1) s

/-- Shows words with blanks between them, unless an escape ends the text; returns whether one
did. -/
def echoWords : List Octets → Action Bool
  | [] => return false
  | word :: rest => do
    let (text, isEnded) := unescaped word
    emit text
    if isEnded then return true
    if !rest.isEmpty then emit [' ']
    echoWords rest

/-- Shows its words. -/
def echo (words : List Octets) : Action Nat := do
  let (hasEnd, words) := match words with
    | ['-', 'n'] :: rest => (false, rest)
    | words => (true, words)
  let isEnded ← echoWords words
  if hasEnd && !isEnded then emit ['\n']
  return 0

/-! ### Formats -/

/-- What is left to do of a format: the words that are left, the status, and whether it is over. -/
structure Printing where
  words : List Octets
  status : Nat := 0
  isEnded : Bool := false

/-- The next word, if there is one. -/
def Printing.word? (p : Printing) : Option Octets := p.words.head?

/-- Without the next word. -/
def Printing.next (p : Printing) : Printing := { p with words := p.words.tail }

/-- Complains about a number that a word is not, or not wholly, or that is too great. -/
def checked (word rest : Octets) (isWithin : Bool) (p : Printing) : Action Printing := do
  let complaint : Option String :=
    if !rest.isEmpty then
      some (if rest.length = word.length then "expected numeric value"
        else "not completely converted")
    else if !isWithin then some "Numerical result out of range"
    else none
  match complaint with
  | none => return p
  | some reason =>
    complain (word ++ ": ".toList ++ reason.toList)
    return { p with status := 1 }

/-- The character after a quote, if a word starts with one. -/
def afterQuote? (word : Octets) : Option Nat :=
  match word with
  | '\'' :: r | '"' :: r => some ((r.head?.map Char.toNat).getD 0)
  | _ => none

/-- The greatest number without a sign. -/
def greatestPlain : Int := 18446744073709551615

/-- The whole number that the next word is. -/
def nextInteger (isSigned : Bool) (p : Printing) : Action (Int × Printing) := do
  match p.word? with
  | none => return (0, p)
  | some word =>
    match afterQuote? word with
    | some n => return (n, p.next)
    | none =>
      let (v, rest) := Text.Scan.unlimited none word
      let w := if isSigned then Text.Scan.limited v
        else if greatestPlain < v.natAbs then greatestPlain else v
      return (w, ← checked word rest (w == v) p.next)

/-- The number of double precision that the next word is. -/
def nextReal (p : Printing) : Action (Binary × Printing) := do
  match p.word? with
  | none => return (.finite false 0 0, p)
  | some word =>
    match afterQuote? word with
    | some n => return ((Binary.rounded .double false n 1).1, p.next)
    | none =>
      let (v, rest, isWithin) := Binary.scan .double word
      return (v, ← checked word rest isWithin p.next)

/-- A size of a layout, as digits or as a star for the next word, and what follows it. -/
def size (s : Octets) (p : Printing) : Action (Option Int × Octets × Printing) := do
  match s with
  | '*' :: r =>
    let (n, p) ← nextInteger true p
    return (some (Int32.ofInt n).toInt, r, p)
  | s =>
    let ds := s.takeWhile Char.isDigit
    return (if ds.isEmpty then none else some (Text.Scan.digitsValue 10 ds), s.drop ds.length, p)

/-- Shows a value in a layout, and breaks off if that cannot be. -/
def emitIn (l : Layout) (text : Layout → Octets) : Action Unit :=
  if l.isWithin then emit (text l) else fail "xvsnprintf failed".toList

/-- Shows the next word as a directive says. -/
def showNext (l : Layout) (directive : Octets) (p : Printing) : Action Printing := do
  match l.kind with
  | 's' =>
    emitIn l (·.text (p.word?.getD []))
    return p.next
  | 'c' =>
    emitIn l (·.widened [(p.word?.bind List.head?).getD '\x00'])
    return p.next
  | 'b' =>
    let (text, isEnded) := unescaped (p.word?.getD [])
    emitIn l (·.text text)
    return { p.next with isEnded }
  | kind =>
    if "diouxX".toList.contains kind then
      let (v, p) ← nextInteger l.isSigned p
      emitIn l (·.integer v)
      return p
    else if "aAeEfFgG".toList.contains kind then
      let (v, p) ← nextReal p
      emitIn l (·.real .double v)
      return p
    else fail (directive ++ ": invalid directive".toList)

/-- Uses a format once. The first argument bounds its length. -/
def usedWithin : Nat → Octets → Printing → Action Printing
  | 0, _, p => return p
  | fuel + 1, s, p => do
    match s with
    | [] => return p
    | '\\' :: r =>
      let (c, r) := escape r
      emit [c]
      usedWithin fuel r p
    | '%' :: '%' :: r =>
      emit ['%']
      usedWithin fuel r p
    | '%' :: r =>
      let flags := r.takeWhile fun c => "#-+ 0".toList.contains c
      let (width, r, p) ← size (r.drop flags.length) p
      let (precision, r, p) ← match r with
        | '.' :: r => do
          let (n, r, p) ← size r p
          pure ((if (n.getD 0) < 0 then none else some (n.getD 0).toNat), r, p)
        | r => pure (none, r, p)
      match r with
      | [] => fail "missing format character".toList
      | kind :: rest =>
        let l : Layout := ({ flags, width := 0, precision, kind } : Layout).withWidth
          (width.getD 0)
        let p ← showNext l (s.take (s.length - rest.length)) p
        if p.isEnded then return p
        usedWithin fuel rest p
    | c :: r =>
      emit [c]
      usedWithin fuel r p

/-- Uses a format as long as words are left and it takes some. The first argument bounds how
often. -/
def printWithin (format : Octets) : Nat → Printing → Action Nat
  | 0, p => return p.status
  | fuel + 1, p => do
    let q ← usedWithin (format.length + 1) format p
    if q.isEnded || q.words.isEmpty || q.words.length == p.words.length then return q.status
    printWithin format fuel q

/-- Shows words as a format says. -/
def print (words : List Octets) : Action Nat := do
  match ← readNone words with
  | [] => fail "usage: printf format [arg ...]".toList
  | format :: words => printWithin format (words.length + 1) { words }

end Builtin
end Shell
end OrderTrials
