import OrderTrials.Machine.Program
import OrderTrials.Text.Alphabet
import OrderTrials.Text.Scan
/-
# The words of a tool

A tool is started with its own name, options and other words, in any order. Short options are
letters after a minus sign; long ones are names after two, of which a beginning is enough if it
fits one name only. What a tool says about a word shows it in quotes.

Key definitions: `Tools.Options`, `Tools.Options.read`, `Tools.Known`, `Tools.quoted`,
`Tools.fileQuoted`.
Key theorems: `Tools.candidates_of_exact`.
-/

namespace OrderTrials
namespace Tools

open Machine (Act Program Refusal Environment)

/-! ### Quotes -/

/-- Characters of a text: each is a character of several bytes, or a byte that is part of none. -/
abbrev Characters := List (Char × Bool)

/-- The number of bytes of the character that starts with a byte. -/
def lengthFrom (c : Char) : Nat :=
  let n := c.toNat
  if n < 0x80 then 1 else if n < 0xC2 then 0 else if n < 0xE0 then 2 else if n < 0xF0 then 3
  else if n < 0xF5 then 4 else 0

/-- The characters of a text, each with whether it is one. The first argument bounds their
number. -/
def charactersWithin : Nat → Octets → Characters
  | 0, _ => []
  | _ + 1, [] => []
  | fuel + 1, c :: r =>
    let n := lengthFrom c
    match if n ≤ 1 then none else String.fromUTF8? (Octets.toBytes ((c :: r).take n)) with
    | some s =>
      match s.toList with
      | [d] => (d, true) :: charactersWithin fuel (r.drop (n - 1))
      | _ => (c, false) :: charactersWithin fuel r
    | none => (c, n == 1) :: charactersWithin fuel r

/-- The characters of a text. -/
def characters (s : Octets) : Characters := charactersWithin s.length s

/-- The bytes of characters. -/
def octetsOf (cs : Characters) : Octets :=
  cs.flatMap fun (c, isWhole) => if isWhole then Octets.ofString (String.singleton c) else [c]

/-- A byte as a backslash and three octal digits. -/
def octalEscape (c : Char) : Octets :=
  let n := c.toNat
  '\\' :: [n / 64, n / 8 % 8, n % 8].map Text.digitChar

/-- The letter of the escape for a control character. -/
def escapeLetter? (c : Char) : Option Char :=
  [('\x07', 'a'), ('\x08', 'b'), ('\x0c', 'f'), ('\n', 'n'), ('\r', 'r'), ('\t', 't'),
    ('\x0b', 'v')].findSome? fun (d, letter) => if c = d then some letter else none

/-- A character that cannot be shown, with a backslash. -/
def escaped (c : Char × Bool) : Octets :=
  match escapeLetter? c.1 with
  | some letter => ['\\', letter]
  | none => (octetsOf [c]).flatMap octalEscape

/-- Whether a character can be shown. -/
def isShown (c : Char × Bool) : Bool :=
  c.2 && (if c.1.toNat < 0x80 then decide (' ' ≤ c.1 ∧ c.1 ≤ '~')
    else Text.isPrintable c.1 || Text.Alphabet.isFormat c.1)

/-- A word in quotes. -/
def quoted (s : Octets) : Octets :=
  Octets.ofString "‘" ++ (characters s).flatMap (fun c =>
    if !isShown c then escaped c
    else if c.1 = '\\' ∨ c.1 = '’' then '\\' :: octetsOf [c]
    else octetsOf [c]) ++ Octets.ofString "’"

/-- The characters that mean something to a shell. -/
def meaningful : List Char := " !\"$&()*;<=>[^\x60|\\'?:".toList

/-- Whether a character of a name makes quotes necessary, given whether it is the first one and
the only one. -/
def needsQuotes (isFirst isOnly : Bool) (c : Char × Bool) : Bool :=
  !isShown c || meaningful.contains c.1 || (isFirst && (c.1 == '#' || c.1 == '~')) ||
    (isOnly && (c.1 == '\x7b' || c.1 == '\x7d'))

/-- Stretches of characters that can all be shown or cannot. -/
def shownStretches (cs : Characters) : List (Bool × Characters) :=
  cs.foldr (fun c rest =>
    match rest with
    | (b, run) :: more => if b = isShown c then (b, c :: run) :: more else (isShown c, [c]) :: rest
    | [] => [(isShown c, [c])]) []

/-- Stretches of a name as they stand between quotes. What cannot be shown leaves the quotes, which
are opened again for what follows unless that is a quote, which leaves them by itself. -/
def betweenQuotes : List (Bool × Characters) → Octets
  | [] => []
  | (true, run) :: rest =>
    (run.flatMap fun c => if c.1 = '\'' then "'\\''".toList else octetsOf [c]) ++ betweenQuotes rest
  | (false, run) :: rest =>
    let opened := match rest with
      | (_, c :: _) :: _ => if c.1 = '\'' then [] else "''".toList
      | _ => []
    "'$'".toList ++ run.flatMap escaped ++ opened ++ betweenQuotes rest

/-- A name of a file, in quotes if it needs them. -/
def fileQuoted (s : Octets) : Octets :=
  let cs := characters s
  let isOnly := cs.length == 1
  let isFine := match cs with
    | [] => false
    | c :: r => !needsQuotes true isOnly c && r.all fun c => !needsQuotes false isOnly c
  let isPlain (c : Char × Bool) : Bool :=
    if c.1.toNat < 0x80 then c.1.isAlphanum || " '%+,-./:]_".toList.contains c.1 else isShown c
  let arePlain := match cs with
    | [] => true
    | c :: r => (isPlain c || c.1 == '#' || c.1 == '~') && r.all isPlain
  if isFine then s
  else if s.contains '\'' && arePlain then '"' :: s ++ ['"']
  else '\'' :: betweenQuotes (shownStretches cs) ++ ['\'']

/-! ### Options -/

/-- What an option takes along. -/
inductive Takes where
  | nothing
  | text
  /-- A text, but only if it follows at once. -/
  | perhaps
deriving DecidableEq, Inhabited

/-- The options of a tool: the letters, and the names with the letters that they stand for. -/
structure Known where
  letters : List (Char × Takes)
  names : List (String × Takes × Char)

/-- The options and the other words that a tool was started with. -/
structure Options where
  found : List (Char × Option Octets) := []
  words : List Octets := []
deriving Inhabited

/-- Whether an option was found. -/
def Options.has (o : Options) (letter : Char) : Bool := o.found.any (·.1 == letter)

/-- The names that a text is, or else of which it is the beginning. -/
def candidates (k : Known) (name : Octets) : List (String × Takes × Char) :=
  match k.names.find? (·.1.toList == name) with
  | some n => [n]
  | none => k.names.filter fun n => name.isPrefixOf n.1.toList

/-- A text that is a name is the beginning of no other. -/
theorem candidates_of_exact {k : Known} {name : Octets} {n : String × Takes × Char}
    (h : k.names.find? (·.1.toList == name) = some n) : candidates k name = [n] := by
  simp [candidates, h]

/-- The option that a long name is, or what is wrong with it; none if it still needs its text. -/
def long (k : Known) (text : Octets) : Except Octets (Char × Option Octets × Bool) :=
  let name := text.takeWhile (· != '=')
  let value := match text.drop name.length with
    | _ :: v => some v
    | [] => none
  let shown := "option '--".toList ++ text ++ "'".toList
  match candidates k name with
  | [] => .error ("unrecognized ".toList ++ shown)
  | first :: more =>
    if more.any fun n => n.2 != first.2 then
      .error (shown ++ " is ambiguous; possibilities:".toList ++
        (first :: more).flatMap fun n => " '--".toList ++ n.1.toList ++ ['\''])
    else
      let (name, takes, letter) := first
      match takes, value with
      | .nothing, some _ =>
        .error ("option '--".toList ++ name.toList ++ "' doesn't allow an argument".toList)
      | .text, none => .ok (letter, none, true)
      | _, value => .ok (letter, value, false)

/-- The options that letters are, or what is wrong with one. If the last one still needs its text,
it is returned apart. -/
def short (k : Known) : Octets → Except Octets (List (Char × Option Octets) × Option Char)
  | [] => .ok ([], none)
  | c :: r =>
    match (k.letters.find? (·.1 == c)).map (·.2) with
    | none => .error ("invalid option -- '".toList ++ [c, '\''])
    | some .nothing =>
      match short k r with
      | .error reason => .error reason
      | .ok (found, unfinished) => .ok ((c, none) :: found, unfinished)
    | some .text => .ok (if r.isEmpty then ([], some c) else ([(c, some r)], none))
    | some .perhaps => .ok ([(c, if r.isEmpty then none else some r)], none)

/-- More options before the others. -/
def Options.after (found : List (Char × Option Octets)) (o : Options) : Options :=
  { o with found := found ++ o.found }

/-- The options and the other words among some words, or what is wrong with them. -/
def Options.read (k : Known) : List Octets → Except Octets Options
  | [] => .ok {}
  | ['-', '-'] :: rest => .ok { words := rest }
  | ('-' :: '-' :: text) :: rest => do
    match ← long k text with
    | (letter, value, false) => return (← Options.read k rest).after [(letter, value)]
    | (letter, _, true) =>
      match rest with
      | value :: rest => return (← Options.read k rest).after [(letter, some value)]
      | [] =>
        let name := ((candidates k text).head?.map (·.1)).getD ""
        .error ("option '--".toList ++ name.toList ++ "' requires an argument".toList)
  | ('-' :: c :: r) :: rest => do
    match ← short k (c :: r) with
    | (found, none) => return (← Options.read k rest).after found
    | (found, some letter) =>
      match rest with
      | value :: rest => return (← Options.read k rest).after (found ++ [(letter, some value)])
      | [] => .error ("option requires an argument -- '".toList ++ [letter, '\''])
  | word :: rest => do
    let o ← Options.read k rest
    return { o with words := word :: o.words }

/-! ### Messages -/

/-- Writes a line of complaint with the name of the tool. -/
def complain (tool message : Octets) : Act Unit := do
  let _ ← Act.write 2 (tool ++ ": ".toList ++ message ++ ['\n'])

/-- Tells where help is to be had. -/
def referToHelp (tool : Octets) : Act Unit := do
  let _ ← Act.write 2
    ("Try '".toList ++ tool ++ " --help' for more information.\n".toList)

/-- A message with the reason of a refusal. -/
def because (message : Octets) (refusal : Refusal) : Octets :=
  message ++ ": ".toList ++ refusal.text.toList

/-- Writes what a tool has to say and returns a status, which is one if that did not work. -/
def finish (tool : Octets) (text : Octets) (status : Nat) : Act Nat := do
  match ← Act.write 1 text with
  | .ok _ => return status
  | .error refusal =>
    complain tool (because "write error".toList refusal)
    return 1

end Tools
end OrderTrials
