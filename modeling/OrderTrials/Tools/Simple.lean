import OrderTrials.Number.Binary
import OrderTrials.Tools.Words
/-
# Simple tools

Tools that do nothing, that show their words and that let time pass.

Key definitions: `Tools.constant`, `Tools.echo`, `Tools.sleep`.
Key theorems: `Tools.echoEscapes_nil`.
-/

namespace OrderTrials
namespace Tools

open Machine (Act Program Refusal)

/-- The words for which a tool only tells about itself. -/
def tellingWords : List Octets := ["--help".toList, "--version".toList]

/-- Whether a tool is only to tell about itself. -/
def isTold (words : List Octets) : Bool :=
  match words with
  | [word] => tellingWords.contains word
  | _ => false

/-- Ends with a status. -/
def constant (status : Nat) (words : List Octets) : Act Nat :=
  return if isTold words.tail then 0 else status

/-! ### Showing words -/

/-- Whether a character is an octal digit. -/
def isOctal (c : Char) : Bool := decide ('0' ≤ c) && decide (c ≤ '7')

/-- The character of an escape of one letter. -/
def controlOf? (c : Char) : Option Char :=
  if c = 'e' then some '\x1b'
  else if c = '\\' then some '\\'
  else [('\x07', 'a'), ('\x08', 'b'), ('\x0c', 'f'), ('\n', 'n'), ('\r', 'r'), ('\t', 't'),
    ('\x0b', 'v')].findSome? fun (d, letter) => if c = letter then some d else none

/-- The character with a number; only the lowest byte counts. -/
def byteOf (n : Nat) : Char := Char.ofNat (n % 256)

/-- The character of the escape after a backslash, and what follows it. A backslash that starts no
escape stays. -/
def echoEscape (c : Char) (r : Octets) : Octets × Octets :=
  match controlOf? c with
  | some d => ([d], r)
  | none =>
    if c = 'x' then
      let ds := (r.takeWhile (Text.Scan.isDigitOf 16)).take 2
      if ds.isEmpty then (['\\', 'x'], r)
      else ([byteOf (Text.Scan.digitsValue 16 ds)], r.drop ds.length)
    else if isOctal c then
      let ds := if c = '0' then (r.takeWhile isOctal).take 3
        else c :: (r.takeWhile isOctal).take 2
      ([byteOf (Text.Scan.digitsValue 8 ds)],
        r.drop (if c = '0' then ds.length else ds.length - 1))
    else (['\\', c], r)

/-- A text after its escapes have been replaced, and whether one of them ended it. The first
argument bounds the length. -/
def echoEscapes : Nat → Octets → Octets × Bool
  | 0, _ => ([], false)
  | fuel + 1, s =>
    match s with
    | [] => ([], false)
    | '\\' :: 'c' :: _ => ([], true)
    | '\\' :: c :: r =>
      let (text, r) := echoEscape c r
      let (rest, isEnded) := echoEscapes fuel r
      (text ++ rest, isEnded)
    | c :: r =>
      let (rest, isEnded) := echoEscapes fuel r
      (c :: rest, isEnded)

/-- Nothing comes of nothing. -/
theorem echoEscapes_nil (fuel : Nat) : echoEscapes fuel [] = ([], false) := by
  cases fuel <;> rfl

/-- Words with blanks between them after their escapes have been replaced, and whether one of them
ended the text. -/
def echoWords : List Octets → Octets × Bool
  | [] => ([], false)
  | word :: rest =>
    let (text, isEnded) := echoEscapes (word.length + 1) word
    if isEnded || rest.isEmpty then (text, isEnded)
    else
      let (more, isEnded) := echoWords rest
      (text ++ ' ' :: more, isEnded)

/-- Whether escapes count and a line end follows, and the words, after the first words that are
options. -/
def echoOptions (hasEscapes hasEnd : Bool) : List Octets → Bool × Bool × List Octets
  | [] => (hasEscapes, hasEnd, [])
  | word :: rest =>
    match word with
    | '-' :: c :: cs =>
      let letters := c :: cs
      if letters.all fun c => ['e', 'E', 'n'].contains c then
        let hasEscapes := letters.foldl (fun b c =>
          if c = 'e' then true else if c = 'E' then false else b) hasEscapes
        echoOptions hasEscapes (hasEnd && !letters.contains 'n') rest
      else (hasEscapes, hasEnd, word :: rest)
    | _ => (hasEscapes, hasEnd, word :: rest)

/-- Shows words. -/
def echo (words : List Octets) : Act Nat := do
  if isTold words.tail then return 0
  let (hasEscapes, hasEnd, rest) := echoOptions false true words.tail
  let (text, isEnded) := if hasEscapes then echoWords rest else (Octets.join [' '] rest, false)
  finish (words.head?.getD []) (text ++ if hasEnd && !isEnded then ['\n'] else []) 0

/-! ### Letting time pass -/

/-- How many seconds the letter after a number stands for. -/
def secondsOf? : Octets → Option Nat
  | [] | ['s'] => some 1
  | ['m'] => some 60
  | ['h'] => some 3600
  | ['d'] => some 86400
  | _ => none

/-- A time in nanoseconds; none if it has no end. -/
inductive Interval where
  | invalid
  | lasting (nanoseconds : Nat)
  | endless
deriving DecidableEq, Inhabited

/-- Nanoseconds in a second. -/
def second : Nat := 1000000000

/-- The time that a word stands for. -/
def interval (word : Octets) : Interval :=
  let (v, rest, _) := Binary.scan .double word
  if rest.length = word.length then .invalid
  else
    match v, secondsOf? rest with
    | .finite isNegative m e, some unit =>
      if isNegative && m != 0 then .invalid
      else
        let (num, den) := Binary.fraction m e
        .lasting ((num * unit * second + den - 1) / den)
    | .infinite false, some _ => .endless
    | _, _ => .invalid

/-- Complains about each word that is no time, and adds up the others. -/
def intervals (tool : Octets) : List Octets → Act (Bool × Option Nat)
  | [] => return (true, some 0)
  | word :: rest => do
    let t := interval word
    if t = .invalid then complain tool ("invalid time interval ".toList ++ quoted word)
    let (isFine, total) ← intervals tool rest
    return match t with
    | .invalid => (false, total)
    | .lasting n => (isFine, total.map (· + n))
    | .endless => (isFine, none)

/-- Lets time pass without end. -/
def sleepOn : Nat → Act Unit
  | 0 => return
  | fuel + 1 => do
    let _ ← fun k => .sleep (86400 * second) k
    sleepOn fuel

/-- Lets time pass. -/
def sleep (words : List Octets) : Act Nat := do
  let tool := words.head?.getD []
  if isTold words.tail then return 0
  match Options.read ⟨[], [("help", .nothing, 'h'), ("version", .nothing, 'v')]⟩ words.tail with
  | .error reason =>
    complain tool reason
    referToHelp tool
    return 1
  | .ok o =>
    if !o.found.isEmpty then return 0
    if o.words.isEmpty then
      complain tool "missing operand".toList
      referToHelp tool
      return 1
    let (isFine, total) ← intervals tool o.words
    if !isFine then
      referToHelp tool
      return 1
    match total with
    | none => sleepOn Act.endless
    | some n =>
      let _ ← fun k => .sleep n k
    return 0

end Tools
end OrderTrials
