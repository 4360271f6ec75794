import OrderTrials.Shell.Reader
/-
# Reading scripts: commands

Commands are made of tokens. A list of commands ends at the end of a line, at the end of the script
or at a token that cannot go on. Lists stand inside compound commands and inside words, so the
reader of lists is handed to the readers of their parts; each use of it has less fuel.

Key definitions: `Shell.Grammar.list`, `Shell.readCommand`.
-/

namespace OrderTrials
namespace Shell
namespace Grammar

open Parse

/-- The extent of a list of commands. -/
inductive Extent where
  /-- One line. -/
  | line
  /-- At least one command, on any number of lines. -/
  | filled
  /-- Any number of commands and lines. -/
  | any
deriving DecidableEq, Inhabited

/-- The reader of lists of commands. -/
abbrev Lists := Extent → Parse (Option Command)

/-! ### Tokens -/

/-- The documents that the line just read needs. -/
def documents (commandTo commandIn : Parse (Option Command)) : Parse Unit := do
  let awaited := (← get).awaited
  modify fun r => { r with awaited := [] }
  awaited.forM (document commandTo commandIn)

/-- Passes over the rest of a line, given how many characters it may have. -/
def skipComment : Nat → Parse Unit
  | 0 => return
  | fuel + 1 => do
    let c ← char
    if c = none ∨ c = some '\n' then back c else skipComment fuel

/-- The next token by its characters. The first argument bounds the blanks before it. -/
def rawTokenWithin (commandTo commandIn : Parse (Option Command)) : Nat → Parse Token
  | 0 => return .finish
  | fuel + 1 => do
    let follow (c : Char) (twice once : Token) : Parse Token := do
      let d ← joined
      if d = some c then return twice
      back d
      return once
    match ← joined with
    | none => return .finish
    | some c =>
      if c = ' ' ∨ c = '\t' then rawTokenWithin commandTo commandIn fuel
      else if c = '#' then
        skipComment longest
        rawTokenWithin commandTo commandIn fuel
      else if c = '\n' then
        countLine
        return .newline
      else if c = '&' then follow '&' .and .ampersand
      else if c = '|' then follow '|' .or .bar
      else if c = ';' then follow ';' .doubleSemicolon .semicolon
      else if c = '(' then return .opening
      else if c = ')' then return .closing
      else word commandTo commandIn (some c)

/-- The next token by its characters, or the last one again. -/
def rawToken (commandTo commandIn : Parse (Option Command)) : Parse Token := do
  if (← get).isAgain then
    modify fun r => { r with isAgain := false }
    return (← get).last
  let t ← rawTokenWithin commandTo commandIn longest
  modify fun r => { r with last := t }
  return t

/-- The next token that is no line end. The first argument bounds the number of lines. -/
def pastLines (commandTo commandIn : Parse (Option Command)) : Nat → Token → Parse Token
  | 0, t => return t
  | fuel + 1, t => do
    if t ≠ .newline then return t
    documents commandTo commandIn
    pastLines commandTo commandIn fuel (← rawToken commandTo commandIn)

/-- The next token: a keyword or the start of an alias where they are looked for. The first
argument bounds the number of aliases that stand for each other. -/
def tokenWithin (commandTo commandIn : Parse (Option Command)) : Nat → Looking → Parse Token
  | 0, _ => return .finish
  | fuel + 1, looking => do
    let t ← rawToken commandTo commandIn
    let t ← if looking.pastLines then pastLines commandTo commandIn longest t else pure t
    let r ← get
    let looking : Looking := { looking with
      keywords := looking.keywords || r.looking.keywords
      aliases := looking.aliases || r.looking.aliases }
    modify fun r => { r with looking := ⟨false, false, false, false⟩ }
    match if t = .word ∧ !r.isQuoted then Word.plain? r.pieces else none with
    | none => return t
    | some text =>
      let name := String.ofList text
      if looking.keywords ∧ keywords.contains name then
        modify fun r => { r with last := .keyword name }
        return .keyword name
      else
        match if looking.aliases ∧ !r.inUse.contains text then
            r.aliases.find? (·.1 == text) else none with
        | none => return t
        | some (_, value) =>
          if !value.isEmpty then
            modify fun r => { r with
              frames := (value, some text) :: r.frames
              inUse := text :: r.inUse }
          tokenWithin commandTo commandIn fuel looking

/-- A command in a word, up to its closing parenthesis. -/
def enclosed (lists : Lists) : Parse (Option Command) := do
  let commandIn := lists .any
  let saved := (← get).awaited
  modify fun r => { r with awaited := [] }
  let c ← lists .any
  let t ← tokenWithin commandIn commandIn longest (← get).looking
  modify fun r => { r with awaited := saved }
  if t = .closing then return c
  fail ("Syntax error: " ++ t.text ++ " unexpected (expecting " ++ Token.text .closing ++ ")")

/-- The next token. -/
def token (lists : Lists) : Parse Token := do
  tokenWithin (enclosed lists) (lists .any) longest (← get).looking

/-- The last token is to be read again. -/
def tokenBack : Parse Unit := modify fun r => { r with isAgain := true }

/-- Says what to look for in the next token. -/
def look (keywords aliases pastLines : Bool) : Parse Unit :=
  modify fun r => { r with looking := { keywords, aliases, pastLines } }

/-- The last token does not belong where it stands. -/
def unexpected {α : Type} : Parse α := do
  fail ("Syntax error: " ++ (← get).last.text ++ " unexpected")

/-- The next token must be a given one. -/
def expect (lists : Lists) (t : Token) : Parse Unit := do
  let u ← token lists
  if u ≠ t then
    fail ("Syntax error: " ++ u.text ++ " unexpected (expecting " ++ t.text ++ ")")

/-- A list with at least one command. There is none only at the end of the script, where the token
that must follow is missing as well. -/
def filled (lists : Lists) : Parse Command := do
  return (← lists .filled).getD (.simple 0 [] [] [])

/-! ### Redirections -/

/-- The redirection that has been started, with its word. -/
def redirection (lists : Lists) : Parse Redirection := do
  let started := (← get).started
  match started with
  | .document .. => modify fun r => { r with looking := { mark := true } }
  | _ => pure ()
  let t ← token lists
  if t ≠ .word then unexpected
  let r ← get
  match started with
  | .file fd how => return .file fd how r.pieces
  | .copy fd => return .copy fd r.pieces
  | .document fd isStripped =>
    let number := r.documents.size
    let awaited : Awaited := ⟨number, Word.text r.pieces, isStripped, !r.isQuoted⟩
    set { r with documents := r.documents.push [], awaited := r.awaited ++ [awaited] }
    return .document fd (!r.isQuoted) number

/-- The redirections up to the next token that is none. -/
def redirections (lists : Lists) : Nat → Parse (List Redirection)
  | 0 => return []
  | fuel + 1 => do
    if (← token lists) = .redirection then
      let first ← redirection lists
      return first :: (← redirections lists fuel)
    tokenBack
    return []

/-! ### Commands -/

/-- The words up to the next token that is none. -/
def words (lists : Lists) : Nat → Parse (List Word)
  | 0 => return []
  | fuel + 1 => do
    if (← token lists) = .word then
      let first := (← get).pieces
      return first :: (← words lists fuel)
    return []

/-- The builtin commands that no function may be named after. -/
def reservedNames : List String :=
  [".", ":", "break", "continue", "eval", "exec", "exit", "export", "readonly", "return", "set",
    "shift", "times", "trap", "unset", "local"]

/-- What a simple command is made of: settings, words and redirections. -/
structure Parts where
  settings : List Word := []
  words : List Word := []
  redirections : List Redirection := []
deriving Inhabited

/-- The parts of a simple command, or the name of a function that is defined instead. -/
def simpleParts (lists : Lists) : Nat → Parts → Parse (Parts ⊕ Octets)
  | 0, p => return .inl p
  | fuel + 1, p => do
    look false p.words.isEmpty false
    let t ← token lists
    if t = .word then
      let w := (← get).pieces
      if p.words.isEmpty ∧ w.isSetting then
        simpleParts lists fuel { p with settings := p.settings ++ [w] }
      else simpleParts lists fuel { p with words := p.words ++ [w] }
    else if t = .redirection then
      let r ← redirection lists
      simpleParts lists fuel { p with redirections := p.redirections ++ [r] }
    else
      match t, p with
      | .opening, ⟨[], [w], []⟩ =>
        expect lists .closing
        match w.plain? with
        | some name =>
          if isName name ∧ !reservedNames.contains (String.ofList name) then return .inr name
          else fail "Syntax error: Bad function name"
        | none => fail "Syntax error: Bad function name"
      | _, _ =>
        tokenBack
        return .inl p

/-- The patterns of a branch up to one that no bar follows. -/
def patterns (lists : Lists) : Nat → Parse (List Word)
  | 0 => return []
  | fuel + 1 => do
    let first := (← get).pieces
    if (← token lists) = .bar then
      let _ ← token lists
      return first :: (← patterns lists fuel)
    return [first]

/-- The branches of a choice of cases, given the token that the first one starts with. -/
def branches (lists : Lists) : Nat → Token → Parse (List (List Word × Option Command))
  | 0, _ => return []
  | fuel + 1, t => do
    if t = .keyword "esac" then return []
    if t = .opening then let _ ← token lists
    let ps ← patterns lists longest
    let u := (← get).last
    if u ≠ .closing then
      fail ("Syntax error: " ++ u.text ++ " unexpected (expecting " ++ Token.text .closing ++ ")")
    let body ← lists .any
    look true false true
    let u ← token lists
    if u = .keyword "esac" then return [(ps, body)]
    if u ≠ .doubleSemicolon then
      fail ("Syntax error: " ++ u.text ++ " unexpected (expecting " ++
        Token.text .doubleSemicolon ++ ")")
    look true false true
    let next ← token lists
    return (ps, body) :: (← branches lists fuel next)

/-- The rest of a choice after its first word. -/
def choice (lists : Lists) : Nat → Parse Command
  | 0 => unexpected
  | fuel + 1 => do
    let test ← filled lists
    expect lists (.keyword "then")
    let first ← filled lists
    let t ← token lists
    if t = .keyword "elif" then
      return .choice test first (some (← choice lists fuel))
    else if t = .keyword "else" then
      let second ← filled lists
      expect lists (.keyword "fi")
      return .choice test first (some second)
    else
      tokenBack
      expect lists (.keyword "fi")
      return .choice test first none

/-- The words of a loop over words. -/
def eachWords (lists : Lists) : Parse (List Word) := do
  look true true true
  if (← token lists) = .keyword "in" then
    let ws ← words lists longest
    let t := (← get).last
    if t ≠ .newline ∧ t ≠ .semicolon then unexpected
    return ws
  else
    if (← get).last ≠ .semicolon then tokenBack
    return [[.quote, .parameter ['@'] .keep false, .quote]]

/-- One command. The number bounds how many functions are defined by one another. -/
def command (lists : Lists) : Nat → Parse Command
  | 0 => unexpected
  | fuel + 1 => do
    let line := (← get).line
    let withRedirections (c : Command) : Parse Command := do
      look true true false
      let rs ← redirections lists longest
      match c, rs with
      | c, [] => return c
      | .inside line body _, rs => return .inside line body rs
      | c, rs => return .redirected line c rs
    let t ← token lists
    match t with
    | .keyword "if" => withRedirections (← choice lists longest)
    | .keyword "while" | .keyword "until" =>
      let test ← filled lists
      expect lists (.keyword "do")
      let body ← filled lists
      expect lists (.keyword "done")
      withRedirections (.loop (t == .keyword "until") test body)
    | .keyword "for" =>
      let u ← token lists
      let r ← get
      let name := if u = .word ∧ !r.isQuoted then (Word.plain? r.pieces).filter isName else none
      match name with
      | none => fail "Syntax error: Bad for loop variable"
      | some name =>
        let ws ← eachWords lists
        look true true true
        expect lists (.keyword "do")
        let body ← filled lists
        expect lists (.keyword "done")
        withRedirections (.each line name ws body)
    | .keyword "case" =>
      expect lists .word
      let subject := (← get).pieces
      look true true true
      expect lists (.keyword "in")
      look true false true
      let first ← token lists
      withRedirections (.cases line subject (← branches lists longest first))
    | .opening =>
      let body ← filled lists
      expect lists .closing
      withRedirections (.inside line body [])
    | .keyword "\x7b" =>
      let body ← filled lists
      expect lists (.keyword "\x7d")
      withRedirections body
    | .word | .redirection =>
      let line := (← get).line
      tokenBack
      match ← simpleParts lists longest {} with
      | .inl p => return .simple line p.settings p.words p.redirections
      | .inr name =>
        look true true true
        let line := (← get).line
        return .function line name (← command lists fuel)
    | _ => unexpected

/-- The commands after the first one of a pipeline. -/
def pipelineRest (lists : Lists) : Nat → Parse (List Command)
  | 0 => return []
  | fuel + 1 => do
    if (← token lists) = .bar then
      look true true true
      let first ← command lists longest
      return first :: (← pipelineRest lists fuel)
    tokenBack
    return []

/-- Commands with bars between them. -/
def pipeline (lists : Lists) : Parse Command := do
  let isNegated := (← token lists) == .keyword "!"
  if isNegated then look true true false else tokenBack
  let first ← command lists longest
  let rest ← pipelineRest lists longest
  let c := if rest.isEmpty then first else .pipeline false (first :: rest)
  return if isNegated then .negated c else c

/-- Pipelines that depend on the success or failure of those before. -/
def chain (lists : Lists) : Nat → Command → Parse Command
  | 0, c => return c
  | fuel + 1, c => do
    match ← token lists with
    | .and =>
      look true true true
      chain lists fuel (.both c (← pipeline lists))
    | .or =>
      look true true true
      chain lists fuel (.either c (← pipeline lists))
    | _ =>
      tokenBack
      return c

/-- A command that nobody waits for. -/
def setApart : Command → Command
  | .pipeline _ parts => .pipeline true parts
  | .redirected line body redirections => .apart line body redirections
  | c => .apart 0 c []

/-- Whether a token may end a list. -/
def endsList (t : Token) : Bool :=
  t == .finish || t == .closing || t == .doubleSemicolon ||
    ["do", "done", "elif", "else", "esac", "fi", "then", "\x7d"].any fun k => t == .keyword k

/-- The commands of a list after those that have been read. -/
def listRest (lists : Lists) (extent : Extent) : Nat → Option Command → Parse (Option Command)
  | 0, before => return before
  | fuel + 1, before => do
    look true true (extent != .line)
    let finished (before : Option Command) : Parse (Option Command) := do
      documents (enclosed lists) (lists .any)
      modify fun r => { r with isAgain := true, last := .finish }
      return before
    match ← token lists with
    | .newline =>
      documents (enclosed lists) (lists .any)
      return before
    | .finish => finished before
    | t =>
      tokenBack
      if (extent = .any ∨ (extent = .filled ∧ before.isSome)) ∧ endsList t then return before
      let c ← chain lists longest (← pipeline lists)
      let t ← token lists
      let c := if t = .ampersand then setApart c else c
      let all := match before with
        | none => c
        | some b => .sequence b c
      match t with
      | .finish => finished (some all)
      | .newline =>
        tokenBack
        listRest lists extent fuel (some all)
      | .ampersand | .semicolon => listRest lists extent fuel (some all)
      | _ =>
        if extent = .line then unexpected
        tokenBack
        return some all

/-- A list of commands. The first argument bounds how deep lists are nested. -/
def list : Nat → Lists
  | 0, _ => fail "Syntax error: too deep"
  | fuel + 1, extent => listRest (list fuel) extent longest none

end Grammar

/-- What is read at once: a command, and whether the script has ended. -/
structure ReadLine where
  command : Option Command
  isLast : Bool

/-- How deep lists may be nested. -/
def nestingLimit : Nat := 100000

/-- Reads the next line of a script, with all lines that belong to it. -/
def readCommand (r : Reading) : Except Misreading (ReadLine × Reading) :=
  let start : Reading := { r with isAgain := false, awaited := [], looking := {} }
  match Grammar.list nestingLimit .line start with
  | .error e => .error e
  | .ok (c, r) => .ok (⟨c, r.isAgain && r.last == .finish⟩, r)

/-- Reads a text like one in double quotes. -/
def readTemplate (r : Reading) : Except Misreading (Word × Reading) :=
  let lists := Grammar.list nestingLimit
  Parse.template (Grammar.enclosed lists) (lists .any) r

end Shell
end OrderTrials
