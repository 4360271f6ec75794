import OrderTrials.Shell.Redirecting
/-
# Evaluating commands

What a shell does to run a command. Commands contain commands, also in their words, so the evaluator
of a command is handed an evaluator of its parts. The last command of a shell need not come back:
a program may take the place of the shell.

Key definitions: `Shell.Builtin`, `Shell.runText`, `Shell.leave`, `Shell.evaluate`.
-/

namespace OrderTrials
namespace Shell

open Action
open Machine (Act Program Refusal)

/-- What is known about the use of a command. -/
structure Mode where
  /-- Whether the shell ends after it. -/
  isLast : Bool := false
  /-- Whether somebody looks at its status. -/
  isTested : Bool := false
deriving DecidableEq, Inhabited

/-- Runs a command and yields its status. -/
abbrev Evaluate := Mode → Option Command → Action Nat

/-- A command that the shell itself carries out. -/
structure Builtin where
  /-- Whether settings before it stay and its errors end the shell. -/
  isSpecial : Bool := false
  /-- Whether its arguments may be settings. -/
  takesSettings : Bool := false
  /-- Carries it out with its arguments. -/
  run : List Octets → Action Nat

/-- The commands that the shell itself carries out, by their names. -/
abbrev Builtins := Evaluate → Mode → Octets → Option Builtin

/-! ### Texts -/

/-- Runs the commands of a script, given how far it has been read and the status so far. The first
argument bounds their number. -/
def runReading (ev : Evaluate) (isLast : Bool) : Nat → Reading → Nat → Action Nat
  | 0, _, status => return status
  | fuel + 1, r, status => do
    let s ← get
    match readCommand { r with aliases := s.aliases, documents := s.documents } with
    | .error e =>
      modify fun s => { s with line := e.line }
      fail e.reason.toList
    | .ok (l, r) =>
      modify fun s => { s with documents := r.documents, readLines := r.line :: s.readLines.tail }
      match l.command, l.isLast with
      | none, true => return status
      | none, false => runReading ev isLast fuel r status
      | some c, _ =>
        let status ← ev { isLast := isLast && l.isLast } (some c)
        if (← get).skip ≠ .nothing then return status
        runReading ev isLast fuel r status

/-- Runs a script. -/
def runScript (ev : Evaluate) (isLast : Bool) (text : Octets) : Action Nat := do
  let s ← get
  runReading ev isLast Act.endless
    { frames := [(text, none)], documents := s.documents, aliases := s.aliases } 0

/-- Runs a text inside a script. -/
def runText (ev : Evaluate) (isLast : Bool) (text : Octets) : Action Nat := do
  let before := (← get).readLines
  modify fun s => { s with readLines := 1 :: before }
  let r ← attempt (runScript ev isLast text)
  modify fun s => { s with readLines := before }
  settle r

/-! ### Actions on signals -/

/-- Acts on the signals that have come, in ascending order. -/
def actOn (ev : Evaluate) (status : Nat) : List Nat → Action Unit
  | [] => return
  | n :: rest => do
    let s ← get
    if s.skip ≠ .nothing then modify fun s => { s with pending := n :: rest }
    else
      match s.traps.find? (·.1 == n) with
      | none => actOn ev status rest
      | some (_, action) =>
        let _ ← runText ev false action
        if (← get).skip ≠ .function then modify fun s => { s with status }
        actOn ev status rest

/-- Acts on signals if any have come. -/
def actOnSignals (ev : Evaluate) : Action Unit := do
  if (← get).traps.any fun t => t.1 != 0 && !t.2.isEmpty then
    Jobs.noticeSignals
    let s ← get
    if !s.pending.isEmpty then
      let status := s.savedStatus.getD s.status
      set { s with pending := [], savedStatus := some status }
      actOn ev status (s.pending.mergeSort fun a b => decide (a ≤ b))
      modify fun t => { t with savedStatus := s.savedStatus }

/-! ### The end of a shell -/

/-- Forgets what a command was about to do, and settles its status. -/
def reset (b : Break) : Action Unit := modify fun s =>
  let status := match s.savedStatus with
    | some n => if b = .left ∨ s.skip = .functionKept then n else s.status
    | none => s.status
  { s with status, savedStatus := none, skip := .nothing, loops := 0 }

/-- Ends a shell: its last action is done. Returns the final status. -/
def leave (ev : Evaluate) (b : Break) : Action Nat := do
  reset b
  modify fun s => { s with savedStatus := some s.status, builtin := none }
  let b ← match (← get).traps.find? (·.1 == 0) with
    | none => pure b
    | some (_, action) =>
      modify fun s => { s with traps := s.traps.filter (·.1 != 0), skip := .nothing }
      match ← attempt (runText ev false action) with
      | .ok _ =>
        modify fun s => { s with skip := .functionKept }
        pure b
      | .error b => pure b
  reset b
  return (← get).status

/-- Starts a process of a job. -/
def startProcess (ev : Evaluate) (job : Nat) (role : Jobs.Role) (task : Action Unit) :
    Action Nat :=
  Jobs.start (leave ev) job role false task

/-! ### Commands in words -/

/-- The name of a simple command. -/
def plainName : Option Command → Option Octets
  | some (.simple _ _ (w :: _) _) => Word.plain? w
  | _ => none

/-- What a command writes. -/
def outputs (ev : Evaluate) : Expansion.Outputs := fun c => do
  match c with
  | none => return []
  | some _ =>
    let (reading, writing) ← lift fun k => .pipe k
    let job ← Jobs.newJob
    let _ ← Jobs.start (leave ev) job .inner (plainName c == some "trap".toList) do
      let _ ← lift fun k => .close reading k
      if writing ≠ 1 then
        let _ ← lift fun k => .copyTo writing 1 k
        let _ ← lift fun k => .close writing k
      let _ ← ev { isLast := true } c
    let _ ← lift fun k => .close writing k
    let text ← lift (Act.readAll reading)
    let _ ← lift fun k => .close reading k
    let status ← Jobs.waitFor job
    modify fun s => { s with innerStatus := status }
    match text with
    | .ok text => return text
    | .error _ => return []

/-! ### Finding commands -/

/-- What a name of a command stands for. -/
inductive Found where
  | function (body : Command)
  | builtin (b : Builtin)
  | program
  | missing (reason : Octets)

/-- The folders in which programs are looked for. -/
def searchPath (path : Octets) : List Octets :=
  (path.splitOn ':').map fun folder => if folder.isEmpty then [] else folder ++ ['/']

/-- The standard folders of programs. -/
def standardPath : Octets := "/usr/local/sbin:/usr/local/bin:/usr/sbin:/usr/bin:/sbin:/bin".toList

/-- Looks for a file in folders; if there is none, tells why. -/
def findFile (name : Octets) : List Octets → Octets → Action (Except Octets Octets)
  | [], reason => return .error reason
  | folder :: rest, reason => do
    match ← lift fun k => .look (folder ++ name) k with
    | .ok (_, .file _) | .ok (_, .program _) => return .ok (folder ++ name)
    | .ok _ => findFile name rest (Refusal.text .denied).toList
    | .error (.file .notFound) | .error (.file .notFolder) => findFile name rest reason
    | .error refusal => findFile name rest refusal.text.toList

/-- What is said about a command that is not there. -/
def notFound : Octets := "not found".toList

/-- Looks for a program in the folders of a path. -/
def findProgram (path name : Octets) : Action (Except Octets Octets) := do
  match (← get).found.find? (·.1 == name) with
  | some (_, file) => return .ok file
  | none =>
    match ← findFile name (searchPath path) notFound with
    | .ok file =>
      modify fun s => { s with found := s.found ++ [(name, file)] }
      return .ok file
    | .error reason => return .error reason

/-- Finds what a name stands for. -/
def findCommand (builtin? : Octets → Option Builtin) (withFunctions : Bool) (path name : Octets) :
    Action Found := do
  if name.contains '/' then return .program
  let s ← get
  match if withFunctions then s.functions.find? (·.1 == name) else none with
  | some (_, body) => return .function body
  | none =>
    match builtin? name with
    | some b => return .builtin b
    | none =>
      match ← findProgram path name with
      | .ok _ => return .program
      | .error reason => return .missing reason

/-! ### Programs -/

/-- Tries to start programs until one starts, and returns why the last one did not. -/
def tryPrograms (arguments : List Octets) (env : Machine.Environment) :
    List Octets → Refusal → Action Refusal
  | [], refusal => return refusal
  | file :: rest, refusal => do
    let r ← lift fun k => .exec file arguments env k
    let isAbsent := r = .file .notFound ∨ r = .file .notFolder
    tryPrograms arguments env rest (if isAbsent then refusal else r)

/-- Puts a program in the place of the shell. -/
def replaceBy (path : Octets) (arguments : List Octets) : Action Unit := do
  let env ← environment
  match arguments with
  | [] => return
  | name :: _ =>
    let r ← if name.contains '/' then lift fun k => .exec name arguments env k
      else tryPrograms arguments env ((searchPath path).map (· ++ name)) (.file .notFound)
    let isAbsent := r = .file .notFound ∨ r = .file .notFolder
    let status := if isAbsent ∨ r = .file .nameTooLong then 127 else 126
    failWith status .finished (name ++ ": ".toList ++
      if isAbsent then notFound else r.text.toList)

/-- Runs a program and yields its status. -/
def runProgram (ev : Evaluate) (mode : Mode) (path : Octets) (arguments : List Octets) :
    Action Nat := do
  let hasTraps := (← get).traps.any fun t => !t.2.isEmpty
  if mode.isLast ∧ !hasTraps then
    replaceBy path arguments
    return 0
  let job ← Jobs.newJob
  let _ ← startProcess ev job .foreground (replaceBy path arguments)
  Jobs.waitFor job

/-! ### Builtins and functions -/

/-- Carries out a builtin. An error in one that is not special ends only the builtin. -/
def runBuiltin (b : Builtin) (isSpecial : Bool) (name : Octets) (arguments : List Octets) :
    Action Nat := do
  let before := (← get).builtin
  modify fun s => { s with builtin := some name }
  let task : Action Nat := do
    let status ← b.run arguments
    let isBroken ← flush
    if isBroken then complain (name ++ ": I/O error".toList)
    return if isBroken then status ||| 1 else status
  let r ← attempt task
  modify fun s => { s with builtin := before, output := [] }
  match r with
  | .ok status => return status
  | .error .error => if isSpecial then stop .error else return (← get).status
  | .error b => stop b

/-- How deep functions may call each other. -/
def depthLimit : Nat := 1000

/-- Calls a function. -/
def callFunction (ev : Evaluate) (mode : Mode) (body : Command) (arguments : List Octets) :
    Action Nat := do
  let s ← get
  if depthLimit ≤ s.depth then
    fail ("Maximum function recursion depth (".toList ++ Octets.ofNat depthLimit ++
      ") reached".toList)
  set { s with arguments, loops := 0, optionIndex := 1, optionOffset := none, depth := s.depth + 1 }
  let r ← attempt (ev { isTested := mode.isTested } (some body))
  modify fun t => { t with
    arguments := s.arguments
    loops := s.loops
    optionIndex := s.optionIndex
    optionOffset := s.optionOffset
    depth := s.depth
    skip := if t.skip = .function ∨ t.skip = .functionKept then .nothing else t.skip }
  settle r

/-! ### Simple commands -/

/-- The fields of the first words that have any, and the words after them. -/
def firstFields (ev : Evaluate) : List Word → Action (List Octets × List Word)
  | [] => return ([], [])
  | w :: ws => do
    match ← Expansion.fields (outputs ev) w with
    | [] => firstFields ev ws
    | fs => return (fs, ws)

/-- A command that has been found, in front of words that are not expanded yet. -/
structure Call where
  /-- All fields so far, and those from the name of the command on. -/
  shown : List Octets
  fields : List Octets
  words : List Word
  found : Found
  /-- Whether the first command was special. -/
  isSpecial : Bool
  takesSettings : Bool
  path : Octets

/-- The builtin that carries out a command that is no function. -/
def commandName : Octets := "command".toList

/-- The fields after the options of `command`, if it is to carry out a command: whether programs
are looked for in the standard folders, the fields up to now, and the words. -/
def afterCommand (ev : Evaluate) : Nat → Bool → List Octets → List Octets → List Word →
    Action (Option (Bool × List Octets × List Octets × List Word))
  | 0, _, _, _, _ => return none
  | fuel + 1, isStandard, shown, fields, words => do
    let (shown, fields, words) ← match fields with
      | [] => do
        let (more, words) ← firstFields ev words
        pure (shown ++ more, more, words)
      | _ => pure (shown, fields, words)
    match fields with
    | [] => return none
    | ('-' :: c :: cs) :: rest =>
      if c = '-' ∧ cs = [] then
        let (shown, rest, words) ← match rest with
          | [] => do
            let (more, words) ← firstFields ev words
            pure (shown ++ more, more, words)
          | _ => pure (shown, rest, words)
        return if rest.isEmpty then none else some (isStandard, shown, rest, words)
      else if (c :: cs).all (· == 'p') then afterCommand ev fuel true shown rest words
      else return none
    | fields => return some (isStandard, shown, fields, words)

/-- Finds the command of a call. -/
def resolve (builtin? : Octets → Option Builtin) (ev : Evaluate) :
    Nat → Bool → Option Bool → Call → Action Call
  | 0, _, _, c => return c
  | fuel + 1, withFunctions, special?, c => do
    match c.fields with
    | [] => return c
    | name :: rest =>
      let found ← findCommand builtin? withFunctions c.path name
      match found with
      | .builtin b =>
        let isSpecial := special?.getD b.isSpecial
        let c := { c with found, isSpecial, takesSettings := b.takesSettings }
        if name ≠ commandName then return c
        match ← afterCommand ev Act.endless false c.shown rest c.words with
        | none => return c
        | some (isStandard, shown, fields, words) =>
          let path := if isStandard then standardPath else c.path
          resolve builtin? ev fuel false (some isSpecial) { c with shown, fields, words, path }
      | found => return { c with found, isSpecial := special?.getD false }

/-- Shows a command before it runs. -/
def trace (ev : Evaluate) (shown : List Octets) : Action Unit := do
  let s ← get
  if s.options.contains 'x' ∧ !s.isTracing then
    set { s with isTracing := true }
    let sign := (s.value? "PS4".toList).getD "+ ".toList
    let start ← match readTemplate
        { frames := [(sign, none)], documents := s.documents, aliases := [] } with
      | .ok (w, r) => do
        modify fun s => { s with documents := r.documents, readLines := r.line :: s.readLines.tail }
        Expansion.document (outputs ev) w
      | .error _ => pure sign
    modify fun s => { s with isTracing := false }
    write (← get).traceOn (start ++ Octets.join [' '] shown ++ ['\n'])

/-- Expands a word that is an argument. -/
def argument (ev : Evaluate) (takesSettings : Bool) (w : Word) : Action (List Octets) := do
  if takesSettings && Word.isSetting w then
    return [← Expansion.single (outputs ev) { isSetting := true } w]
  Expansion.fields (outputs ev) w

/-- Gives a variable a value before a command. -/
def preset (isLocal isExported : Bool) (text : Octets) : Action Unit := do
  let (name, value) := splitSetting text
  if isLocal then makeLocal name
  setVariable name (value.getD [])
  if isExported then changeVariable name fun v => { v with isExported := true }

/-- The builtin that stands for no command at all. -/
def nothing : Builtin where
  run _ := do return (← get).innerStatus

/-- Runs what has been found. -/
def execute (ev : Evaluate) (mode : Mode) (c : Call) (arguments : List Octets) : Action Nat := do
  match c.found, arguments with
  | .missing reason, name :: _ =>
    complain (name ++ ": ".toList ++ reason)
    modify fun s => { s with status := 127 }
    if c.isSpecial then stop .error
    return 127
  | .program, arguments => runProgram ev mode c.path arguments
  | .function body, _ :: rest => callFunction ev mode body rest
  | .builtin b, name :: rest => runBuiltin b c.isSpecial name rest
  | _, _ => nothing.run []

/-- Undoes all frames of local variables but the outermost ones. -/
def unwindLocals (depth : Nat) : Nat → Action Unit
  | 0 => return
  | fuel + 1 => do
    if depth < (← get).locals.length then
      popLocals
      unwindLocals depth fuel

/-- Runs a simple command. -/
def simple (builtins : Builtins) (ev : Evaluate) (mode : Mode) (line : Nat)
    (settings words : List Word) (redirections : List Redirection) : Action Nat := do
  modify fun s => { s with line, innerStatus := 0 }
  let builtin? := builtins ev mode
  let (fields, words) ← firstFields ev words
  let path ← valueOf "PATH"
  let empty : Call := ⟨fields, fields, words, .builtin nothing, false, false, path⟩
  let c ← resolve builtin? ev Act.endless true none empty
  let more := (← c.words.mapM (argument ev c.takesSettings)).flatten
  let arguments := c.fields ++ more
  let isExec := arguments.head? == some "exec".toList &&
    match c.found with
    | .builtin _ => true
    | _ => false
  let s ← get
  let isLocal := !fields.isEmpty && !c.isSpecial
  if isLocal then pushLocals
  let ready ← Redirecting.prepare (outputs ev) redirections
  if !redirections.isEmpty then Redirecting.push
  let refused ← Redirecting.applySafely ready
  let status ←
    if refused ≠ 0 then do
      modify fun s => { s with status := refused }
      if c.isSpecial then stop .error
      pure refused
    else do
      let before := (← get).traceOn
      match (← get).redirected.head?.bind fun f => f.find? (·.1 == 2) with
      | some (_, .at n) => if !redirections.isEmpty then modify fun s => { s with traceOn := n }
      | _ => pure ()
      let texts ← settings.mapM fun w => do
        let text ← Expansion.single (outputs ev) { isSetting := true } w
        preset isLocal (isLocal || (isExec && arguments.length > 1)) text
        return text
      trace ev (texts ++ c.shown ++ more)
      modify fun s => { s with traceOn := before }
      execute ev mode c arguments
  if !redirections.isEmpty then Redirecting.pop isExec
  Redirecting.unwind s.redirected.length Act.endless
  unwindLocals s.locals.length Act.endless
  return status

/-! ### Compound commands -/

/-- What is left to do of a loop after its body or test: whether it is over, and how. -/
def loopSkip : Action Skip := do
  let s ← get
  match s.skip with
  | .loop | .round =>
    let count := s.skipCount - 1
    if count = 0 then
      set { s with skip := .nothing, skipCount := 0 }
      return s.skip
    else
      set { s with skipCount := count }
      return .loop
  | k => return k

/-- Repeats a loop, given the status so far. The first argument bounds the rounds. -/
def rounds (ev : Evaluate) (mode : Mode) (isUntil : Bool) (test body : Command) :
    Nat → Nat → Action Nat
  | 0, status => return status
  | fuel + 1, status => do
    let t ← ev { isTested := true } (some test)
    let k ← loopSkip
    if k ≠ .nothing then
      let status := if k = .function then t else status
      if k = .round then rounds ev mode isUntil test body fuel status else return status
    else if (t == 0) == isUntil then return status
    else
      let status ← ev { isTested := mode.isTested } (some body)
      let k ← loopSkip
      if k = .nothing ∨ k = .round then rounds ev mode isUntil test body fuel status
      else return status

/-- Repeats a command for each of some texts. -/
def forEach (ev : Evaluate) (mode : Mode) (name : Octets) (body : Command) :
    List Octets → Nat → Action Nat
  | [], status => return status
  | text :: rest, _ => do
    setVariable name text
    let status ← ev { isTested := mode.isTested } (some body)
    let k ← loopSkip
    if k = .nothing ∨ k = .round then forEach ev mode name body rest status else return status

/-- Whether one of some patterns fits a text. -/
def fitsAny (ev : Evaluate) (text : Octets) : List Word → Action Bool
  | [] => return false
  | w :: ws => do
    let p ← Expansion.pattern (outputs ev) w
    if p.fits text then return true
    fitsAny ev text ws

/-- Runs the first branch of which a pattern fits a text. -/
def branch (ev : Evaluate) (mode : Mode) (text : Octets) :
    List (List Word × Option Command) → Action Nat
  | [] => return 0
  | (patterns, body) :: rest => do
    if (← get).skip ≠ .nothing then return 0
    if ← fitsAny ev text patterns then
      if (← get).skip = .nothing ∧ body.isSome then ev mode body else return 0
    else branch ev mode text rest

/-- Runs the commands of a pipeline, each reading what the one before writes. -/
def pipeParts (ev : Evaluate) (mode : Mode) (job : Nat) (role : Jobs.Role) :
    List Command → Option Nat → Action Unit
  | [], _ => return
  | c :: rest, before => do
    let pipe ← if rest.isEmpty then pure none else some <$> lift fun k => .pipe k
    let _ ← startProcess ev job role do
      match pipe with
      | some (reading, _) => let _ ← lift fun k => .close reading k
      | none => pure ()
      match before with
      | some fd =>
        if 0 < fd then
          let _ ← lift fun k => .copyTo fd 0 k
          let _ ← lift fun k => .close fd k
      | none => pure ()
      match pipe with
      | some (_, writing) =>
        if 1 < writing then
          let _ ← lift fun k => .copyTo writing 1 k
          let _ ← lift fun k => .close writing k
      | none => pure ()
      let _ ← ev { mode with isLast := true } (some c)
    match before with
    | some fd => let _ ← lift fun k => .close fd k
    | none => pure ()
    match pipe with
    | some (_, writing) => let _ ← lift fun k => .close writing k
    | none => pure ()
    pipeParts ev mode job role rest (pipe.map (·.1))

/-- Runs a command in a child. -/
def inChild (ev : Evaluate) (mode : Mode) (isApart : Bool) (line : Nat) (body : Command)
    (redirections : List Redirection) : Action Nat := do
  modify fun s => { s with line }
  let ready ← Redirecting.prepare (outputs ev) redirections
  let task (mode : Mode) : Action Unit := do
    ready.forM (Redirecting.applyOne false)
    let _ ← ev { mode with isLast := true } (some body)
  let hasTraps := (← get).traps.any fun t => !t.2.isEmpty
  if !isApart ∧ mode.isLast ∧ !hasTraps then
    task mode
    return 0
  let job ← Jobs.newJob
  if isApart then
    let _ ← startProcess ev job .background (task { isTested := false })
    return 0
  let _ ← startProcess ev job .foreground (task mode)
  Jobs.waitFor job

/-- Runs a command, given an evaluator of its parts. -/
def evaluateWith (builtins : Builtins) (ev : Evaluate) (mode : Mode) (command : Option Command) :
    Action Nat := do
  let settled (isChecked : Bool) (status : Nat) : Action Bool := do
    modify fun s => { s with status }
    return isChecked
  let isChecked ← match command with
    | none => pure false
    | some c => do
      rest
      if ← hasOption 'n' then pure false
      else
        actOnSignals ev
        match c with
        | .negated body =>
          let status ← ev { isTested := true } (some body)
          settled false (if status = 0 then 1 else 0)
        | .redirected line body rs =>
          modify fun s => { s with line }
          let ready ← Redirecting.prepare (outputs ev) rs
          Redirecting.push
          let refused ← Redirecting.applySafely ready
          let status ← if refused ≠ 0 then pure refused
            else ev { isTested := mode.isTested } (some body)
          Redirecting.pop false
          settled false status
        | .simple line settings words rs =>
          settled (!mode.isTested) (← simple builtins ev mode line settings words rs)
        | .each line name words body =>
          modify fun s => { s with line }
          let texts := (← words.mapM (Expansion.fields (outputs ev))).flatten
          modify fun s => { s with loops := s.loops + 1 }
          let status ← forEach ev mode name body texts 0
          modify fun s => { s with loops := s.loops - 1 }
          settled false status
        | .loop isUntil test body =>
          modify fun s => { s with loops := s.loops + 1 }
          let status ← rounds ev mode isUntil test body Act.endless 0
          modify fun s => { s with loops := s.loops - 1 }
          settled false status
        | .inside line body rs => settled (!mode.isTested) (← inChild ev mode false line body rs)
        | .apart line body rs => settled (!mode.isTested) (← inChild ev mode true line body rs)
        | .pipeline isApart parts =>
          let job ← Jobs.newJob
          pipeParts ev mode job (if isApart then .background else .foreground) parts none
          settled (!mode.isTested) (← if isApart then pure 0 else Jobs.waitFor job)
        | .cases line subject branches =>
          modify fun s => { s with line }
          let text ← Expansion.single (outputs ev) { hasTilde := true } subject
          settled false (← branch ev mode text branches)
        | .both first second =>
          let status ← ev { isTested := true } (some first)
          if status ≠ 0 ∨ (← get).skip ≠ .nothing then pure false
          else settled false (← ev mode (some second))
        | .either first second =>
          let status ← ev { isTested := true } (some first)
          if status = 0 ∨ (← get).skip ≠ .nothing then pure false
          else settled false (← ev mode (some second))
        | .sequence first second =>
          let _ ← ev { isTested := mode.isTested } (some first)
          if (← get).skip ≠ .nothing then pure false
          else settled false (← ev mode (some second))
        | .choice test first second =>
          let status ← ev { isTested := true } (some test)
          if (← get).skip ≠ .nothing then pure false
          else if status = 0 then settled false (← ev mode (some first))
          else
            match second with
            | some c => settled false (← ev mode (some c))
            | none => settled false 0
        | .function _ name body =>
          modify fun s => { s with functions := putIn s.functions name body }
          settled false 0
  if command.isSome then actOnSignals ev
  if isChecked ∧ (← get).status ≠ 0 ∧ (← hasOption 'e') then stop .finished
  if mode.isLast then stop .finished
  return (← get).status

/-- Runs a command. The first argument bounds how deep commands may be nested. -/
def evaluate (builtins : Builtins) : Nat → Evaluate
  | 0, _, _ => stop .error
  | fuel + 1, mode, c => evaluateWith builtins (evaluate builtins fuel) mode c

end Shell
end OrderTrials
