import OrderTrials.Tools.Edit.Escape
/-
# Reading scripts of the line editor

A script comes in pieces: words of the command line and files. What is read from one piece goes on
in the next one: blocks stay open, and a text may be continued. A fault is told with the place
where reading has come to.

Key definitions: `Tools.Edit.Fault`, `Tools.Edit.Reading`, `Tools.Edit.Reading.piece`,
`Tools.Edit.Reading.script`.
Key theorems: `Tools.Edit.Reading.isLater_self`.
-/

namespace OrderTrials
namespace Tools
namespace Edit

/-- Why a text is no script, or a script cannot go on. -/
inductive Fault where
  | regular (fault : Expression.Fault)
  | unknownCommand (c : Char)
  | missingCommand
  | extraCharacters
  | unterminated (c : Char)
  | unterminatedSearch
  | wideMark
  | badControl
  | modifiedNothing
  | nothingSearched
  | badGroup (number : Nat)
  | unknownOption
  | severalOptions (name : String)
  | zeroNumber
  | unevenLetters
  | unexpectedComma
  | unexpectedClosing
  | openBlock
  | lineZero
  | relativeStart
  | severalNegations
  | addressNotWanted (what : String)
  | oneAddress
  | noLabel
  | noText
  | noFile
  | newer
  | forbidden
deriving DecidableEq, Inhabited

/-- A fault in words. -/
def Fault.text : Fault → Octets
  | regular fault => fault.text.toList
  | unknownCommand c => "unknown command: \x60".toList ++ [c, '\'']
  | missingCommand => "missing command".toList
  | extraCharacters => "extra characters after command".toList
  | unterminated c => "unterminated \x60".toList ++ c :: "' command".toList
  | unterminatedSearch => "unterminated address regex".toList
  | wideMark => "delimiter character is not a single-byte character".toList
  | badControl => "recursive escaping after \\c not allowed".toList
  | modifiedNothing => "cannot specify modifiers on empty regexp".toList
  | nothingSearched => "no previous regular expression".toList
  | badGroup number =>
    "invalid reference \\".toList ++ Octets.ofNat number ++ " on \x60s' command's RHS".toList
  | unknownOption => "unknown option to \x60s'".toList
  | severalOptions name => s!"multiple {name} options to \x60s' command".toList
  | zeroNumber => "number option to \x60s' command may not be zero".toList
  | unevenLetters => "strings for \x60y' command are different lengths".toList
  | unexpectedComma => "unexpected \x60,'".toList
  | unexpectedClosing => "unexpected \x60\x7d'".toList
  | openBlock => "unmatched \x60\x7b'".toList
  | lineZero => "invalid usage of line address 0".toList
  | relativeStart => "invalid usage of +N or ~N as first address".toList
  | severalNegations => "multiple \x60!'s".toList
  | addressNotWanted what => what.toList
  | oneAddress => "command only uses one address".toList
  | noLabel => "\":\" lacks a label".toList
  | noText => "expected \\ after \x60a', \x60c' or \x60i'".toList
  | noFile => "missing filename in r/R/w/W commands".toList
  | newer => "expected newer version of sed".toList
  | forbidden => "e/r/w commands disabled in sandbox mode".toList

/-- Where a piece of a script comes from. -/
inductive Origin where
  | word (number : Nat)
  | file (name : Octets)
deriving DecidableEq, Inhabited

/-- How far a script has been read. -/
structure Reading where
  rest : Octets := []
  /-- How many characters of the piece have been taken. -/
  taken : Nat := 0
  line : Nat := 1
  origin : Origin := .word 0
  /-- How many pieces have been begun. -/
  pieces : Nat := 0
  isExtended : Bool := false
  isSandboxed : Bool := false
  /-- Whether the script itself asks for silence. -/
  isQuiet : Bool := false
  steps : Array Step := #[]
  /-- The files that are written, the last one first. -/
  targets : List Octets := []
  labels : List (Octets × Nat) := []
  /-- The indices of the open blocks, each with where it was opened, the last one first. -/
  blocks : List (Nat × Origin × Nat) := []
  /-- The text of the last step as far as it has been read, if it may go on in the next piece. -/
  pending : Option Octets := none
deriving Inhabited

/-- What is read from a script. -/
abbrev Reader := EStateM Fault Reading

namespace Reading

/-- The words for a place. -/
def placeText (origin : Origin) (taken line : Nat) : Octets :=
  match origin with
  | .word number =>
    "-e expression #".toList ++ Octets.ofNat number ++ ", char ".toList ++ Octets.ofNat taken
  | .file name => "file ".toList ++ name ++ " line ".toList ++ Octets.ofNat line

/-- Where reading has come to. -/
def place (r : Reading) : Octets := placeText r.origin r.taken r.line

/-! ### Characters -/

/-- Whether a character is a blank. -/
def isBlank (c : Char) : Bool := c == ' ' || c == '\t'

/-- Takes the next character. -/
def next : Reader (Option Char) := do
  let s ← get
  match s.rest with
  | [] => return none
  | c :: rest =>
    let line := if c = '\n' then s.line + 1 else s.line
    set { s with rest, taken := s.taken + 1, line }
    return some c

/-- Takes the next character without a look at it. -/
def skip : Reader Unit := do let _ ← next

/-- The next character, which stays. -/
def peek : Reader (Option Char) := return (← get).rest.head?

/-- Takes characters of one line that pass a test. -/
def takeWhile (test : Char → Bool) : Reader Octets := do
  let s ← get
  let cs := s.rest.takeWhile fun c => test c && c != '\n'
  set { s with rest := s.rest.drop cs.length, taken := s.taken + cs.length }
  return cs

/-- Takes blanks. -/
def skipBlanks : Reader Unit := do let _ ← takeWhile isBlank

/-- Takes the next character that is no blank. -/
def nextShown : Reader (Option Char) := do
  skipBlanks
  next

/-- Takes a number, which may have no digits. -/
def number : Reader Nat := return Text.Scan.digitsValue 10 (← takeWhile Char.isDigit)

/-- Takes what ends a step. -/
def finishStep : Reader Unit := do
  skipBlanks
  match ← peek with
  | none | some '\x7d' | some '#' => return
  | some c =>
    skip
    if c ≠ '\n' ∧ c ≠ ';' then throw .extraCharacters

/-- Takes the name of a label. -/
def label : Reader Octets := do
  skipBlanks
  takeWhile fun c => !Text.Scan.isSpace c && !(['#', ';', '\x7d'].contains c)

/-- Takes the name of a file: all up to the end of the line. -/
def fileName : Reader Octets := do
  skipBlanks
  let name ← takeWhile fun _ => true
  skip
  if name.isEmpty then throw .noFile
  return name

/-- Takes the name of a file that is written. -/
def target : Reader Octets := do
  let name ← fileName
  modify fun s => { s with targets := name :: s.targets }
  return name

/-! ### Texts between marks -/

/-- Where in a bracket a character stands. -/
inductive Phase where
  | outside
  | opened
  | inside (mark : Char)
  | closing (mark : Char)
deriving DecidableEq, Inhabited

/-- Where the character after another one stands; none if it ended the bracket. -/
def Phase.after (p : Phase) (c : Char) : Option Phase :=
  let back : Phase := match p with
    | .opened => .outside
    | .closing mark => .inside mark
    | p => p
  if c = '.' ∨ c = ':' ∨ c = '=' then
    match p with
    | .opened => some (.inside c)
    | .inside mark => some (if c = mark then .closing mark else p)
    | _ => some back
  else if c = '[' then some (if p = .outside then .opened else p)
  else if c = ']' then
    match p with
    | .outside | .opened => none
    | .closing _ => some .outside
    | .inside _ => some p
  else some back

/-- Takes a bracket up to its end and puts it before what has been taken, the last character
first; none if it has no end. The first argument bounds its length. -/
def bracketWithin : Nat → Phase → Octets → Reader (Option Octets)
  | 0, _, _ => return none
  | fuel + 1, p, done => do
    match ← peek with
    | none | some '\n' => return none
    | some c =>
      skip
      match p.after c with
      | none => return some (c :: done)
      | some p => bracketWithin fuel p (c :: done)

/-- Takes a bracket after its opening. -/
def bracket (fuel : Nat) (done : Octets) : Reader (Option Octets) := do
  let start ← (do
    if (← peek) = some '^' then
      skip
      return ['^']
    return [])
  let first ← (do
    if (← peek) = some ']' then
      skip
      return [']']
    return [])
  bracketWithin fuel .outside (first ++ start ++ done)

/-- Takes a text up to a mark; none if the mark does not come. The first argument bounds its
length, the last one is what has been taken, the last character first. -/
def upToWithin (mark : Char) (isExpression : Bool) : Nat → Octets → Reader (Option Octets)
  | 0, _ => return none
  | fuel + 1, done => do
    match ← peek with
    | none | some '\n' => return none
    | some c =>
      skip
      if c = mark then return some done.reverse
      else if c = '\\' then
        match ← next with
        | none => return none
        | some d =>
          let done :=
            if d = 'n' ∧ isExpression then '\n' :: done
            else if d ≠ '\n' ∧ (d ≠ mark ∨ (!isExpression ∧ d = '&')) then d :: '\\' :: done
            else d :: done
          upToWithin mark isExpression fuel done
      else if c = '[' ∧ isExpression then
        match ← bracket fuel (c :: done) with
        | none => return none
        | some done => upToWithin mark isExpression fuel done
      else upToWithin mark isExpression fuel (c :: done)

/-- Takes a text up to a mark, or throws a fault if the mark does not come. -/
def upTo (mark : Option Char) (isExpression : Bool) (fault : Fault) : Reader Octets := do
  let rest := (← get).rest
  match mark with
  | none => throw fault
  | some mark =>
    if mark.toNat ≥ 128 then throw .wideMark
    match ← upToWithin mark isExpression (rest.length + 1) [] with
    | some text => return text
    | none => throw fault

/-- A text with the characters in it that are hard to write. -/
def unescaped (special : List Char) (s : Octets) : Reader Octets :=
  match Escape.unescape special s with
  | some s => return s
  | none => throw .badControl

/-- The expression that a text is; none for the last one that was looked for. -/
def search (text : Octets) (isFolded hasLines : Bool) : Reader (Option Search) := do
  if text.isEmpty then
    if isFolded || hasLines then throw .modifiedNothing
    return none
  let text ← unescaped [] text
  match Expression.read (← get).isExtended (characters text) with
  | .error fault => throw (.regular fault)
  | .ok e => return some ⟨e, isFolded, hasLines⟩

/-! ### Addresses -/

/-- Takes the letters after an expression. -/
def modifiers : Nat → Bool → Bool → Reader (Bool × Bool)
  | 0, isFolded, hasLines => return (isFolded, hasLines)
  | fuel + 1, isFolded, hasLines => do
    skipBlanks
    match ← peek with
    | some 'I' =>
      skip
      modifiers fuel true hasLines
    | some 'M' =>
      skip
      modifiers fuel isFolded true
    | _ => return (isFolded, hasLines)

/-- Takes an address, if there is one. -/
def address? : Reader (Option Address) := do
  let expression (mark : Option Char) : Reader (Option Address) := do
    let text ← upTo mark true .unterminatedSearch
    let (isFolded, hasLines) ← modifiers ((← get).rest.length + 1) false false
    return some (.holding (← search text isFolded hasLines))
  match ← peek with
  | some '/' =>
    skip
    expression (some '/')
  | some '\\' =>
    skip
    expression (← next)
  | some '$' =>
    skip
    return some .last
  | some '+' =>
    skip
    skipBlanks
    let n ← number
    return some (if n = 0 then .any else .after n)
  | some '~' =>
    skip
    skipBlanks
    let n ← number
    return some (if n = 0 then .any else .multiple n)
  | some c =>
    if !c.isDigit then return none
    let first ← number
    skipBlanks
    if (← peek) ≠ some '~' then return some (.line first)
    skip
    skipBlanks
    let apart ← number
    return some (if apart = 0 then .line first else .every first apart)
  | none => return none

/-- Takes the addresses of a step. -/
def addresses : Reader (Option Address × Option Address) := do
  match ← address? with
  | none => return (none, none)
  | some start =>
    match start with
    | .after _ | .multiple _ => throw .relativeStart
    | _ => pure ()
    skipBlanks
    if (← peek) ≠ some ',' then return (some start, none)
    skip
    skipBlanks
    match ← address? with
    | some finish => return (some start, some finish)
    | none =>
      skip
      throw .unexpectedComma

/-! ### Replacements -/

/-- The letters after a replacement: what they ask for, and whether capitals count and lines. -/
structure Wishes where
  substitution : Substitution
  isFolded : Bool := false
  hasLines : Bool := false
  hasNumber : Bool := false

/-- Takes the letters after a replacement. The first argument bounds their number. -/
def wishes : Nat → Wishes → Reader Wishes
  | 0, w => return w
  | fuel + 1, w => do
    let s := w.substitution
    skipBlanks
    match ← peek with
    | none | some '\x7d' | some '#' => return w
    | some c =>
      if c.isDigit then
        if w.hasNumber then
          skip
          throw (.severalOptions "number")
        let n ← number
        if n = 0 then throw .zeroNumber
        wishes fuel { w with substitution := { s with number := n }, hasNumber := true }
      else
        skip
        match c with
        | '\n' | ';' => return w
        | 'i' | 'I' => wishes fuel { w with isFolded := true }
        | 'm' | 'M' => wishes fuel { w with hasLines := true }
        | 'e' =>
          if (← get).isSandboxed then throw .forbidden
          wishes fuel { w with substitution := { s with executes := true } }
        | 'p' =>
          if s.printsBefore || s.printsAfter then throw (.severalOptions "\x60p'")
          let s := if s.executes then { s with printsAfter := true }
            else { s with printsBefore := true }
          wishes fuel { w with substitution := s }
        | 'g' =>
          if s.isGlobal then throw (.severalOptions "\x60g'")
          wishes fuel { w with substitution := { s with isGlobal := true } }
        | 'w' =>
          if (← get).isSandboxed then throw .forbidden
          let target ← target
          return { w with substitution := { s with target := some target } }
        | '\r' =>
          if (← next) = some '\n' then return w
          throw .unknownOption
        | _ => throw .unknownOption

/-- Takes a replacement. -/
def substitution : Reader Substitution := do
  let mark ← next
  let text ← upTo mark true (.unterminated 's')
  let instead ← upTo mark false (.unterminated 's')
  let parts := Escape.parts (← unescaped ['\\', '&'] instead)
  let w ← wishes ((← get).rest.length + 1) { substitution := { search := none, parts } }
  let search ← search text w.isFolded w.hasLines
  let most := (parts.filterMap (·.group)).max?.getD 0
  if search.any (·.expression.groups < most) then throw (.badGroup most)
  -- A line is printed once, before or after it has been executed.
  let s := w.substitution
  let s := if s.executes then s
    else { s with printsAfter := s.printsBefore, printsBefore := false }
  return { s with search }

/-- Takes characters and what is put in their place. -/
def translation : Reader (List (Glyph × Glyph)) := do
  let mark ← next
  let text ← upTo mark false (.unterminated 'y')
  let instead ← upTo mark false (.unterminated 'y')
  let text ← unescaped ['\\'] text
  let instead ← unescaped ['\\'] instead
  match Escape.letters? (characters text), Escape.letters? (characters instead) with
  | some old, some new =>
    if old.length ≠ new.length then throw .unevenLetters
    finishStep
    return old.zip new
  | _, _ => throw .unevenLetters

/-! ### Texts -/

/-- Takes a text up to the end of its last line, and whether it may go on in the next piece. The
first argument bounds its length, the last one is what has been taken, the last character first. -/
def textWithin : Nat → Octets → Reader (Octets × Bool)
  | 0, done => return (done.reverse, false)
  | fuel + 1, done => do
    match ← next with
    | none | some '\n' => return (('\n' :: done).reverse, false)
    | some '\\' =>
      match ← next with
      | none => return (('\n' :: done).reverse, true)
      | some c => textWithin fuel (c :: '\\' :: done)
    | some c => textWithin fuel (c :: done)

/-- Takes more of a text. -/
def moreText (before : Octets) : Reader Octets := do
  let (text, goesOn) ← textWithin ((← get).rest.length + 1) []
  let text := before ++ text
  modify fun s => { s with pending := if goesOn then some text else none }
  return Escape.bare ((← unescaped ['\\'] text.dropLast) ++ ['\n'])

/-- Takes a text after its letter. -/
def text : Reader Octets := do
  skipBlanks
  match ← peek with
  | none => throw .noText
  | some '\\' =>
    skip
    match ← peek with
    | none =>
      modify fun s => { s with pending := some [] }
      return []
    | some '\n' =>
      skip
      moreText []
    | some c =>
      skip
      moreText [c]
  | some _ => moreText []

/-- An action with another text. -/
def withText (a : Action) (text : Octets) : Action :=
  match a with
  | .append _ => .append text
  | .insert _ => .insert text
  | .change _ => .change text
  | .execute _ => .execute text.dropLast
  | a => a

/-! ### Steps -/

/-- The version whose scripts are read. -/
def version : Octets := "4.9".toList

/-- Whether a version is later than another one. Their numbers are compared as numbers and all else
by characters. The first argument bounds their length. -/
def isLater : Nat → Octets → Octets → Bool
  | 0, _, _ => false
  | _ + 1, [], _ => false
  | _ + 1, _ :: _, [] => true
  | fuel + 1, a :: as, b :: bs =>
    if a.isDigit && b.isDigit then
      let (m, as) := Text.Scan.digits 10 (a :: as)
      let (n, bs) := Text.Scan.digits 10 (b :: bs)
      if m = n then isLater fuel as bs else decide (n < m)
    else if a = b then isLater fuel as bs
    else decide (b < a)

/-- No version is later than itself. -/
theorem isLater_self (fuel : Nat) (s : Octets) : isLater fuel s s = false := by
  induction fuel generalizing s with
  | zero => rfl
  | succ fuel ih =>
    cases s with
    | nil => rfl
    | cons c r =>
      simp only [isLater]
      split
      · simp [ih]
      · simp [ih]

/-- The steps that are a letter alone. -/
def single? (c : Char) : Option Action :=
  [('=', Action.number), ('d', .delete), ('D', .deleteFirst), ('F', .name), ('g', .fetch),
    ('G', .fetchToo), ('h', .keep), ('H', .keepToo), ('n', .next), ('N', .nextToo), ('p', .print),
    ('P', .printFirst), ('z', .clear), ('x', .exchange)].findSome? fun (letter, a) =>
      if c = letter then some a else none

/-- Takes the rest of a step that may have a number. -/
def withNumber (make : Option Nat → Action) : Reader (Option Action) := do
  skipBlanks
  let n ← (do
    match ← peek with
    | some c => if c.isDigit then return some (← number) else return none
    | none => return none)
  finishStep
  return some (make n)

/-- Takes the rest of a step that reads or writes a file. -/
def withFile (name : Reader Octets) (make : Octets → Action) : Reader (Option Action) := do
  if (← get).isSandboxed then throw .forbidden
  return some (make (← name))

/-- Takes a comment. One that begins with an `n` at the very start asks for silence. -/
def comment : Reader (Option Action) := do
  let isVeryStart := (← get).taken = 1 ∧ (← get).pieces = 1
  let text ← takeWhile fun _ => true
  skip
  if isVeryStart ∧ text.head? = some 'n' then modify fun s => { s with isQuiet := true }
  return none

/-- Takes the end of a block. -/
def closing (hasAddress : Bool) : Reader (Option Action) := do
  match (← get).blocks with
  | [] => throw .unexpectedClosing
  | (i, _) :: blocks =>
    if hasAddress then throw (.addressNotWanted "\x60\x7d' doesn't want any addresses")
    finishStep
    modify fun s => { s with
      blocks
      steps := s.steps.modify i fun step => { step with action := .block s.steps.size } }
    return none

/-- Takes the rest of a step after its letter; some letters make no step. -/
def action (c : Char) (start finish : Option Address) : Reader (Option Action) := do
  match c with
  | '#' =>
    if start.isSome then throw (.addressNotWanted "comments don't accept any addresses")
    comment
  | ':' =>
    if start.isSome then throw (.addressNotWanted ": doesn't want any addresses")
    let name ← label
    if name.isEmpty then throw .noLabel
    modify fun s => { s with labels := (name, s.steps.size) :: s.labels }
    return none
  | '\x7b' =>
    modify fun s => { s with blocks := (s.steps.size, s.origin, s.line) :: s.blocks }
    return some (.block 0)
  | '\x7d' => closing start.isSome
  | 'e' =>
    if (← get).isSandboxed then throw .forbidden
    skipBlanks
    match ← peek with
    | none => return some (.execute [])
    | some '\n' =>
      skip
      return some (.execute [])
    | some _ => return some (.execute (← text).dropLast)
  | 'a' => return some (.append (← text))
  | 'i' => return some (.insert (← text))
  | 'c' => return some (.change (← text))
  | 'b' => return some (.jump .always (← label))
  | 't' => return some (.jump .replaced (← label))
  | 'T' => return some (.jump .notReplaced (← label))
  | 'q' | 'Q' =>
    if finish.isSome then throw .oneAddress
    withNumber fun n => if c = 'q' then .quit (n.getD 0) else .quitSilently (n.getD 0)
  | 'l' => withNumber .reveal
  | 'L' => withNumber fun _ => .unknown 'L'
  | 'r' => withFile fileName .readFile
  | 'R' => withFile fileName .readLine
  | 'w' => withFile target .writeTo
  | 'W' => withFile target .writeFirst
  | 's' => return some (.substitute (← substitution))
  | 'y' => return some (.translate (← translation))
  | 'v' =>
    let wanted ← label
    if isLater (wanted.length + 1) wanted version then throw .newer
    return none
  | c =>
    match single? c with
    | some a =>
      finishStep
      return some a
    | none => throw (.unknownCommand c)

/-- Takes one step. -/
def step : Reader Unit := do
  let (start, finish) ← addresses
  let c ← nextShown
  let isSearch := match finish with
    | some (.holding _) => true
    | _ => false
  let isBefore := start == some (.line 0) && finish.isNone && c == some 'r'
  if start = some (.line 0) ∧ !isSearch ∧ !isBefore then throw .lineZero
  let isNegated := c = some '!'
  let c ← if isNegated then nextShown else pure c
  match c with
  | none => throw .missingCommand
  | some c =>
    if isNegated ∧ c = '!' then throw .severalNegations
    match ← action c start finish with
    | none => return
    | some action =>
      let step : Step := match isBefore, action with
        | true, .readFile name => ⟨some (.line 1), none, false, .readBefore name⟩
        | _, action => ⟨start, finish, isNegated, action⟩
      modify fun s => { s with steps := s.steps.push step }

/-- Takes all steps. The first argument bounds their number. -/
def stepsWithin : Nat → Reader Unit
  | 0 => return
  | fuel + 1 => do
    let blanks := (← get).rest.takeWhile fun c => Text.Scan.isSpace c || c == ';'
    modify fun s => { s with
      rest := s.rest.drop blanks.length
      taken := s.taken + blanks.length
      line := s.line + blanks.count '\n' }
    if (← peek).isNone then return
    step
    stepsWithin fuel

/-- A reading whose last step has another text. -/
def withLastText (r : Reading) (text : Octets) : Reading :=
  { r with steps := r.steps.modify (r.steps.size - 1) fun step =>
      { step with action := withText step.action text } }

/-- Takes what continues the text of the last step. -/
def continued (before : Octets) : Reader Unit := do
  let text ← moreText before
  modify (withLastText · text)

/-- A reading that has begun another piece. -/
def begun (r : Reading) (origin : Origin) (text : Octets) : Reading :=
  { r with rest := text, taken := 0, line := 1, pieces := r.pieces + 1, origin }

/-- Takes all of a piece. -/
def all : Reader Unit := do
  if let some before := (← get).pending then continued before
  stepsWithin ((← get).rest.length + 1)

/-- The script after all pieces have been read, or the place and the fault. A text that was to go
on keeps its backslashes. -/
def script (r : Reading) : Except (Octets × Fault) Script :=
  match r.blocks with
  | (_, origin, line) :: _ => .error (placeText origin 0 line, .openBlock)
  | [] =>
    let r := match r.pending with
      | some text => withLastText r text
      | none => r
    .ok ⟨r.steps, r.labels⟩

end Reading

/-- The last label of a jump that is nowhere. -/
def Script.missing? (s : Script) : Option Octets :=
  s.steps.toList.reverse.findSome? fun step =>
    match step.action with
    | .jump _ label => if (s.place? label).isNone then some label else none
    | _ => none

end Edit
end Tools
end OrderTrials
