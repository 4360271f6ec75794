import OrderTrials.Shell.Script
/-
# Reading scripts: characters and words

A script is read character by character. Where an alias stands for a word, its text comes first
and the rest of the script after it. A word is a run of characters up to one that ends it; inside
quotes, braces and sums other characters are special than outside, so a reader keeps a stack of
layers, one for each part that is still open.

Key definitions: `Shell.Reading`, `Shell.Parse`, `Shell.Parse.word`.
-/

namespace OrderTrials
namespace Shell

/-- A part of a script that has its own meaning. -/
inductive Token where
  | finish
  | newline
  | semicolon
  | ampersand
  | and
  | or
  | bar
  | opening
  | closing
  | doubleSemicolon
  | redirection
  | word
  | keyword (name : String)
deriving DecidableEq, Inhabited

/-- The words that structure commands. -/
def keywords : List String :=
  ["!", "case", "do", "done", "elif", "else", "esac", "fi", "for", "if", "in", "then", "until",
    "while", "\x7b", "\x7d"]

/-- A token in a message. -/
def Token.text : Token → String
  | finish => "end of file"
  | newline => "newline"
  | semicolon => "\";\""
  | ampersand => "\"&\""
  | and => "\"&&\""
  | or => "\"||\""
  | bar => "\"|\""
  | opening => "\"(\""
  | closing => "\")\""
  | doubleSemicolon => "\";;\""
  | redirection => "redirection"
  | word => "word"
  | keyword name => "\"" ++ name ++ "\""

/-- What is looked for in the next token. -/
structure Looking where
  keywords : Bool := false
  aliases : Bool := false
  /-- Whether line ends are passed over. -/
  pastLines : Bool := false
  /-- Whether the token is the mark of a document. -/
  mark : Bool := false
deriving DecidableEq, Inhabited

/-- A document that has still to be read: its number, the line that ends it, and how. -/
structure Awaited where
  number : Nat
  mark : Octets
  isStripped : Bool
  isExpanded : Bool

/-- A redirection of which the word is still to be read. -/
inductive Started where
  | file (fd : Nat) (how : FileUse)
  | copy (fd : Nat)
  | document (fd : Nat) (isStripped : Bool)
deriving Inhabited

/-- How far a script has been read. -/
structure Reading where
  /-- What is left: the texts of aliases with their names, and the script last. -/
  frames : List (Octets × Option Octets)
  /-- The aliases whose texts are being read. -/
  inUse : List Octets := []
  /-- The aliases whose texts have just ended. -/
  used : List Octets := []
  line : Nat := 1
  /-- The last token, and whether it is to be read again. -/
  last : Token := .newline
  isAgain : Bool := false
  /-- The last word, and whether anything in it was quoted. -/
  pieces : Word := []
  isQuoted : Bool := false
  looking : Looking := ⟨false, false, false, false⟩
  started : Started := .copy 0
  awaited : List Awaited := []
  documents : Array Word
  aliases : List (Octets × Octets)
deriving Inhabited

/-- Why a script cannot be read, and on which line. -/
structure Misreading where
  line : Nat
  reason : String
deriving DecidableEq, Inhabited

/-- A reader of a part of a script. -/
abbrev Parse := StateT Reading (Except Misreading)

namespace Parse

/-- The script cannot be read. -/
def fail {α : Type} (reason : String) : Parse α := fun r => .error ⟨r.line, reason⟩

/-! ### Characters -/

/-- A new line begins. -/
def countLine : Parse Unit := modify fun r => { r with line := r.line + 1 }

/-- The next character of some frames, the frames after it, and the aliases that end before it,
with whether the last one lets another alias follow. -/
def nextIn : List (Octets × Option Octets) → Option Octets →
    Option Char × List (Octets × Option Octets) × List Octets
  | [], _ => (none, [], [])
  | (c :: s, name) :: rest, _ => (some c, (s, name) :: rest, [])
  | ([], some name) :: rest, _ =>
    let (c, frames, ended) := nextIn rest none
    (c, frames, name :: ended)
  | ([], none) :: rest, _ =>
    match rest with
    | [] => (none, [([], none)], [])
    | rest => nextIn rest none

/-- Whether the text of an alias lets another alias follow it. -/
def endsBlank (aliases : List (Octets × Octets)) (name : Octets) : Bool :=
  match aliases.find? (·.1 == name) with
  | some (_, text) => text.getLast? == some ' ' || text.getLast? == some '\t'
  | none => false

/-- The next character. -/
def char : Parse (Option Char) := fun r =>
  let inUse := r.inUse.filter fun name => !r.used.contains name
  let (c, frames, ended) := nextIn r.frames none
  let looking := if ended.any (endsBlank r.aliases) then { r.looking with aliases := true }
    else r.looking
  .ok (c, { r with frames, inUse, used := ended, looking })

/-- Takes a character back. -/
def back (c : Option Char) : Parse Unit := modify fun r =>
  match c, r.frames with
  | none, _ => r
  | some c, [] => { r with frames := [([c], none)] }
  | some c, (s, name) :: rest => { r with frames := (c :: s, name) :: rest }

/-- The next character that is no line end after a backslash. The first argument bounds the number
of lines that are joined. -/
def joinedWithin : Nat → Parse (Option Char)
  | 0 => char
  | fuel + 1 => do
    let c ← char
    if c != some '\\' then return c
    let d ← char
    if d != some '\n' then
      back d
      return c
    countLine
    joinedWithin fuel

/-- What bounds the length of a script. -/
def longest : Nat := 1000000000

/-- The next character that is no line end after a backslash. -/
def joined : Parse (Option Char) := joinedWithin longest

/-! ### Layers of words -/

/-- What characters mean in a layer. -/
inductive Mode where
  | bare
  | double
  | single
  | sum
deriving DecidableEq, Inhabited

/-- The meaning of a character. -/
inductive Meaning where
  | usual
  | lineEnd
  | backslash
  | singleQuote
  | doubleQuote
  | endOfQuote
  | backquote
  | dollar
  | brace
  /-- It stands for itself, but must not be special later. -/
  | guarded
  /-- It ends a word. -/
  | special
  | opening
  | closing
deriving DecidableEq, Inhabited

/-- The characters that have a meaning in patterns and paths. -/
def patternChars : List Char := "!*?[=~:/-]".toList

/-- The meaning of a character in a layer. -/
def meaning (mode : Mode) (c : Char) : Meaning :=
  if c = '\n' then .lineEnd
  else if 0x81 ≤ c.toNat ∧ c.toNat ≤ 0x88 then .guarded
  else
    match mode with
    | .bare =>
      if c = '\\' then .backslash
      else if c = '\'' then .singleQuote
      else if c = '"' then .doubleQuote
      else if c = '\x60' then .backquote
      else if c = '$' then .dollar
      else if c = '\x7d' then .brace
      else if "<>();&| \t".toList.contains c then .special
      else .usual
    | .double =>
      if c = '\\' then .backslash
      else if c = '"' then .endOfQuote
      else if c = '\x60' then .backquote
      else if c = '$' then .dollar
      else if c = '\x7d' then .brace
      else if patternChars.contains c then .guarded
      else .usual
    | .single =>
      if c = '\'' then .endOfQuote
      else if c = '\\' ∨ patternChars.contains c then .guarded
      else .usual
    | .sum =>
      if c = '\\' then .backslash
      else if c = '\x60' then .backquote
      else if c = '$' then .dollar
      else if c = '\x7d' then .brace
      else if c = '(' then .opening
      else if c = ')' then .closing
      else .usual

/-- A part of a word that is still open. -/
structure Layer where
  mode : Mode
  /-- Whether it is quoted. -/
  isQuoted : Bool := false
  /-- Whether quotes are open inside braces. -/
  isQuotedInside : Bool := false
  /-- Whether braces have begun it. -/
  isBraced : Bool := false
  braces : Nat := 0
  quotedBraces : Nat := 0
  parentheses : Nat := 0
deriving Inhabited

/-- What has been read of a word. -/
structure Partial where
  /-- The pieces, the last one first. -/
  pieces : List Piece
  /-- The innermost layer. -/
  layer : Layer
  /-- The layers around it. -/
  outer : List Layer
  isQuoted : Bool
deriving Inhabited

namespace Partial

/-- With more pieces. -/
def add (p : Partial) (more : List Piece) : Partial := { p with pieces := more.reverse ++ p.pieces }

/-- With a new innermost layer. -/
def push (p : Partial) (l : Layer) : Partial := { p with layer := l, outer := p.layer :: p.outer }

/-- Without the innermost layer. -/
def pop (p : Partial) : Partial :=
  match p.outer with
  | [] => p
  | l :: rest => { p with layer := l, outer := rest }

end Partial

/-- How a document ends: the line that ends it, and whether tabs at the start of lines are left
out. -/
structure Finish where
  mark : Octets
  isStripped : Bool

/-- The character that a line of a document starts with, or nothing if the line ends the document.
Tabs are left out if so wished; the first argument bounds their number. -/
def lineStart (e : Finish) : Nat → Option Char → Parse (Option Char)
  | 0, c => return c
  | fuel + 1, c => do
    if e.isStripped ∧ c = some '\t' then lineStart e fuel (← char)
    else
      let rec fits : Octets → Option Char → Parse (Bool × Octets)
        | [], c => do
          if c = none ∨ c = some '\n' then
            countLine
            return (true, [])
          else
            back c
            return (false, [])
        | m :: ms, c => do
          if c = some m then
            let (isFit, taken) ← fits ms (← char)
            return (isFit, m :: taken)
          else
            back c
            return (false, [])
      let (isFit, taken) ← fits e.mark c
      if isFit then return none
      else
        match taken with
        | [] =>
          -- the character was taken back
          char
        | first :: rest =>
          modify fun r => { r with
            frames := match r.frames with
              | (s, name) :: frames => (rest ++ s, name) :: frames
              | [] => [(rest, none)] }
          return some first

/-! ### Parameters -/

/-- The characters after a first one as long as they pass a test, and the first that does not. -/
def runWithin (test : Char → Bool) : Nat → Char → Parse (Octets × Option Char)
  | 0, c => return ([c], none)
  | fuel + 1, c => do
    match ← joined with
    | some d =>
      if test d then
        let (s, e) ← runWithin test fuel d
        return (c :: s, e)
      else return ([c], some d)
    | none => return ([c], none)

/-- The name of a parameter whose first character is given, the character after it, and whether the
length of its value is meant. Without a name there is no such parameter. -/
def parameterName (isBraced : Bool) (c : Option Char) :
    Parse (Option (Octets × Bool) × Option Char) := do
  match c with
  | none => return (none, none)
  | some c =>
    if startsName c then
      let (name, d) ← runWithin isNameChar longest c
      return (some (name, false), d)
    else if c.isDigit then
      if isBraced then
        let (name, d) ← runWithin Char.isDigit longest c
        return (some (name, false), d)
      else return (some ([c], false), ← joined)
    else if c = '\x7d' then return (none, some c)
    else
      let d ← joined
      if isBraced ∧ c = '#' then
        match d with
        | some e =>
          if startsName e then
            let (name, f) ← runWithin isNameChar longest e
            return (some (name, true), f)
          else if e.isDigit then
            let (name, f) ← runWithin Char.isDigit longest e
            return (some (name, true), f)
          else
            let f ← joined
            if e = '\x7d' ∨ f ≠ some '\x7d' then
              back f
              return (some (['#'], false), some e)
            else if isSpecialName e then return (some ([e], true), f)
            else return (none, f)
        | none => return (some (['#'], false), none)
      else if isSpecialName c then return (some ([c], false), d)
      else return (none, d)

/-- The change that follows a name in braces, whether an empty value counts as missing, and whether
a pattern follows. -/
def changeAfter (c : Option Char) : Parse (Change × Bool × Bool) := do
  let simple (c : Option Char) : Change :=
    if c = some '\x7d' then .keep
    else if c = some '-' then .orElse
    else if c = some '+' then .andThen
    else if c = some '?' then .orFail
    else if c = some '=' then .orAssign
    else .unknown
  if c = some ':' then
    return (simple (← joined), true, false)
  else if c = some '%' ∨ c = some '#' then
    let d ← joined
    if d != c then back d
    return (.cut (c == some '%') (d == c), false, true)
  else
    return (simple c, false, false)

/-- Reads a parameter after its dollar sign, given its first character. -/
def parameter (p : Partial) (c : Char) : Parse Partial := do
  let isBraced := c = '\x7b'
  let first ← if isBraced then joined else pure (some c)
  let (name?, d) ← parameterName isBraced first
  let (name, change, emptyToo, isPattern) ← match name? with
    | none =>
      back d
      pure ([], Change.unknown, false, false)
    | some (name, true) =>
      if d = some '\x7d' then pure (name, Change.count, false, false)
      else
        back d
        pure (name, Change.unknown, false, false)
    | some (name, false) =>
      if isBraced then
        let (change, emptyToo, isPattern) ← changeAfter d
        pure (name, change, emptyToo, isPattern)
      else
        back d
        pure (name, Change.keep, false, false)
  let p := p.add [.parameter name change emptyToo]
  if change = .keep ∧ !emptyToo then return p
  let mode : Mode := if isPattern then .bare
    else if p.layer.mode = .sum then .double
    else p.layer.mode
  let p := if mode ≠ p.layer.mode ∨ p.layer.isQuotedInside then
      p.push { mode, isQuoted := mode != .bare, isBraced := true }
    else p
  let l := p.layer
  let p := { p with layer := { l with
    braces := l.braces + 1
    quotedBraces := if l.isQuoted then l.quotedBraces + 1 else l.quotedBraces } }
  -- the closing brace of a length is still to come
  if change = .count then back (some '\x7d')
  return p

/-! ### Commands in words -/

/-- The script between backquotes. -/
def backquoted (isQuoted : Bool) : Nat → Parse Octets
  | 0 => fail "Syntax error: EOF in backquote substitution"
  | fuel + 1 => do
    match ← joined with
    | none => fail "Syntax error: EOF in backquote substitution"
    | some '\x60' => return []
    | some '\\' =>
      match ← char with
      | none => fail "Syntax error: EOF in backquote substitution"
      | some c =>
        let isSpecial := c = '\\' ∨ c = '\x60' ∨ c = '$' ∨ (isQuoted ∧ c = '"')
        let rest ← backquoted isQuoted fuel
        return if isSpecial then c :: rest else '\\' :: c :: rest
    | some c =>
      if c = '\n' then countLine
      return c :: (← backquoted isQuoted fuel)

/-- A command that is read by `body` from a text of its own. -/
def fromText (body : Parse (Option Command)) (text : Octets) : Parse (Option Command) := fun r =>
  let inner : Reading :=
    { frames := [(text, none)], documents := r.documents, aliases := r.aliases }
  match body inner with
  | .error e => .error e
  | .ok (c, inner) => .ok (c, { r with documents := inner.documents })

/-! ### Words -/

/-- Reads what a dollar sign starts. -/
def dollar (commandTo : Parse (Option Command)) (p : Partial) : Parse Partial := do
  let isMark := (← get).looking.mark
  match ← joined with
  | none => return p.add [.plain '$']
  | some c =>
    if isMark then
      back (some c)
      return p.add [.plain '$']
    else if c = '(' then
      let d ← joined
      if d = some '(' then
        return (p.add [.sum]).push { mode := .sum, isQuoted := true }
      else
        back d
        return p.add [.outputOf (← commandTo)]
    else if c = '\x7b' ∨ startsName c ∨ c.isDigit ∨ isSpecialName c then parameter p c
    else
      back (some c)
      return p.add [.plain '$']

/-- Reads the character after a backslash. -/
def afterBackslash (isDocument : Bool) (p : Partial) : Parse Partial := do
  match ← char with
  | none => return p.add [.escaped '\\']
  | some c =>
    let l := p.layer
    let isKept := l.isQuoted && c != '\\' && c != '\x60' && c != '$' &&
      (c != '"' || (isDocument && l.braces == 0)) && (c != '\x7d' || l.braces == 0)
    let p := if isKept then p.add [.escaped '\\'] else p
    return { p.add [.escaped c] with isQuoted := true }

/-- A quote begins or ends. -/
def toggled (isDouble isDocument : Bool) (p : Partial) : Partial :=
  let l := p.layer
  let p := if isDouble ∧ 0 < l.braces then
      { p with layer := { l with isQuotedInside := !l.isQuotedInside } }
    else p
  if isDocument then p else p.add [.quote]

/-- The closing of a brace. -/
def closedBrace (p : Partial) : Partial :=
  let l := p.layer
  if !l.isQuotedInside ∧ 0 < l.braces then
    let p := if l.braces = 1 ∧ l.isBraced then p.pop
      else { p with layer := { l with braces := l.braces - 1, quotedBraces := l.quotedBraces - 1 } }
    p.add [.closing]
  else p.add [.plain '\x7d']

/-- Reads on from a character, up to one that ends the word. Words inside are read by `commandTo`
(up to a closing parenthesis) and `commandIn` (up to the end). In a document, lines are compared
with its end. The first argument bounds the length. -/
def scan (commandTo commandIn : Parse (Option Command)) (finish : Option Finish) :
    Nat → Partial → Option Char → Parse (Partial × Option Char)
  | 0, p, c => return (p, c)
  | fuel + 1, p, c => do
    let again (p : Partial) : Parse (Partial × Option Char) := do
      let c ← if p.layer.mode = .single then char else joined
      scan commandTo commandIn finish fuel p c
    match c with
    | none => return (p, none)
    | some c =>
      let l := p.layer
      match meaning l.mode c with
      | .usual => again (p.add [.plain c])
      | .guarded =>
        if finish.isNone ∨ l.isQuoted then again (p.add [.escaped c]) else again (p.add [.plain c])
      | .lineEnd =>
        if l.mode = .bare ∧ l.braces = 0 then return (p, some c)
        countLine
        let d ← if l.mode = .single then char else joined
        let d ← match finish with
          | some e => lineStart e longest d
          | none => pure d
        scan commandTo commandIn finish fuel (p.add [.plain c]) d
      | .backslash => again (← afterBackslash finish.isSome p)
      | .singleQuote =>
        again (toggled false finish.isSome { p with layer := { l with mode := .single } })
      | .doubleQuote =>
        again (toggled true finish.isSome
          { p with layer := { l with mode := .double, isQuoted := true } })
      | .endOfQuote =>
        if finish.isSome ∧ l.braces = 0 then again (p.add [.plain c])
        else
          let l := if l.quotedBraces = 0 then { l with mode := .bare, isQuoted := false } else l
          again (toggled (c == '"') finish.isSome { p with layer := l, isQuoted := true })
      | .dollar => again (← dollar commandTo p)
      | .brace => again (closedBrace p)
      | .opening =>
        again ({ p with layer := { l with parentheses := l.parentheses + 1 } }.add [.plain c])
      | .closing =>
        if 0 < l.parentheses then
          again ({ p with layer := { l with parentheses := l.parentheses - 1 } }.add [.plain c])
        else
          let d ← joined
          if d = some ')' then again (p.pop.add [.total])
          else
            back d
            again (p.add [.plain c])
      | .backquote =>
        if (← get).looking.mark then again { p.add [.plain c] with isQuoted := true }
        else
          let text ← backquoted l.isQuoted longest
          again (p.add [.outputOf (← fromText commandIn text)])
      | .special => if l.braces = 0 then return (p, some c) else again (p.add [.plain c])

/-- What is left open in a word that has ended. -/
def checkClosed (isDocument : Bool) (p : Partial) : Parse Unit := do
  if p.layer.mode = .sum then fail "Syntax error: Missing '))'"
  if p.layer.mode ≠ .bare ∧ !isDocument then fail "Syntax error: Unterminated quoted string"
  if p.layer.braces ≠ 0 then fail "Syntax error: Missing '\x7d'"

/-- The start of a redirection after its sign and, if it is given, the number before the sign. -/
def startRedirection (isOutput : Bool) (number : Option Nat) : Parse Started := do
  let fd := number.getD (if isOutput then 1 else 0)
  let c ← joined
  if isOutput then
    if c = some '>' then return .file fd .append
    else if c = some '|' then return .file fd .clobber
    else if c = some '&' then return .copy fd
    else
      back c
      return .file fd .output
  else if c = some '<' then
    let d ← joined
    if d = some '-' then return .document fd true
    back d
    return .document fd false
  else if c = some '&' then return .copy fd
  else if c = some '>' then return .file fd .both
  else
    back c
    return .file fd .input

/-- Reads a word or a redirection, given its first character. -/
def word (commandTo commandIn : Parse (Option Command)) (c : Option Char) : Parse Token := do
  let (p, c) ← scan commandTo commandIn none longest ⟨[], { mode := .bare }, [], false⟩ c
  checkClosed false p
  let pieces := p.pieces.reverse
  let number : Option (Option Nat) := match pieces with
    | [] => some none
    | [.plain d] => if d.isDigit then some (some (d.toNat - 48)) else none
    | _ => none
  match number, c with
  | some number, some '<' | some number, some '>' =>
    let started ← startRedirection (c == some '>') number
    modify fun r => { r with started, last := .redirection }
    return .redirection
  | _, _ =>
    back c
    modify fun r => { r with pieces, isQuoted := p.isQuoted, last := .word }
    return .word

/-- Reads a document. -/
def document (commandTo commandIn : Parse (Option Command)) (a : Awaited) : Parse Unit := do
  let finish : Finish := ⟨a.mark, a.isStripped⟩
  let layer : Layer := if a.isExpanded then { mode := .double, isQuoted := true }
    else { mode := .single }
  let c ← lineStart finish longest (← if a.isExpanded then joined else char)
  let (p, _) ← scan commandTo commandIn (some finish) longest ⟨[], layer, [], false⟩ c
  checkClosed true p
  modify fun r => { r with
    documents := r.documents.setIfInBounds a.number p.pieces.reverse
    isQuoted := p.isQuoted }

/-- The line that ends no document. -/
def noMark : Octets := ['\x00']

/-- Reads a text like one in double quotes. -/
def template (commandTo commandIn : Parse (Option Command)) : Parse Word := do
  let layer : Layer := { mode := .double, isQuoted := true }
  let (p, _) ← scan commandTo commandIn (some ⟨noMark, false⟩) longest ⟨[], layer, [], false⟩
    (← joined)
  checkClosed true p
  return p.pieces.reverse

end Parse
end Shell
end OrderTrials
