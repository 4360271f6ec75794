import OrderTrials.Machine.Program
import OrderTrials.Shell.Grammar
import OrderTrials.Text.Scan
/-
# The state of a shell

What a shell knows while it runs a script: its variables, functions and aliases, its options, the
arguments, the jobs that it has started, and what it does on signals. An action of the shell reads
and changes that state, makes requests to the machine, and yields a value or breaks off.

Key definitions: `Shell.State`, `Shell.Break`, `Shell.Action`, `Shell.fail`, `Shell.setVariable`.
Key theorems: `Shell.Action.attempt_pure`.
-/

namespace OrderTrials
namespace Shell

open Machine (Act Program Refusal Environment)

/-- A variable: its value, if it has one, and how it may be used. -/
structure Variable where
  value : Option Octets
  isExported : Bool := false
  isFixed : Bool := false
deriving DecidableEq, Inhabited

/-- What is left out of a script, up to where. -/
inductive Skip where
  | nothing
  /-- All up to the end of a loop. -/
  | loop
  /-- All up to the next round of a loop. -/
  | round
  /-- All up to the end of a function or a script that was called. -/
  | function
  /-- The same, but the status stays as it was before the action that skips. -/
  | functionKept
deriving DecidableEq, Inhabited

/-- Why an action breaks off. -/
inductive Break where
  /-- Something was wrong. -/
  | error
  /-- There is nothing more to do. -/
  | finished
  /-- The script asked for the end. -/
  | left
deriving DecidableEq, Inhabited

/-- Processes that were started together, with their endings, the last process last. -/
structure Job where
  number : Nat
  processes : List (Nat × Option Ending)
  isChanged : Bool := false
  isWaitedFor : Bool := false
deriving Inhabited

/-- What a descriptor was of before a redirection. -/
inductive Saved where
  | closed
  | at (fd : Nat)
deriving DecidableEq, Inhabited

/-- The former state of something that a function has made its own. -/
inductive Former where
  | variable (name : Octets) (before : Option Variable)
  | options (before : List Char)
deriving Inhabited

/-- A limit of the machine: the one that holds, and how far it may be raised. -/
structure Limit where
  soft : Option Nat
  hard : Option Nat
deriving DecidableEq, Inhabited

/-- Whether the limit that holds is not above the one to which it may be raised. -/
def Limit.isOrdered (l : Limit) : Bool :=
  match l.soft, l.hard with
  | _, none => true
  | none, some _ => false
  | some n, some m => decide (n ≤ m)

/-- What a shell knows. -/
structure State where
  bindings : List (Octets × Variable)
  functions : List (Octets × Command) := []
  aliases : List (Octets × Octets) := []
  documents : Array Word := #[]
  /-- The name of the shell in messages, and its arguments. -/
  name : Octets
  arguments : List Octets := []
  /-- The next argument that `getopts` looks at, and how far it has read it. -/
  optionIndex : Nat := 1
  optionOffset : Option Nat := none
  options : List Char := []
  status : Nat := 0
  /-- The status that stands while an action on a signal or on the end runs. -/
  savedStatus : Option Nat := none
  /-- The status of the last command inside a word. -/
  innerStatus : Nat := 0
  skip : Skip := .nothing
  skipCount : Nat := 0
  loops : Nat := 0
  /-- What is done on signals; the end of the shell has the number zero. -/
  traps : List (Nat × Octets) := []
  /-- The signals that have come but have not been acted on. -/
  pending : List Nat := []
  jobs : List Job := []
  lastApart : Option Nat := none
  /-- What the functions that run have made their own, the innermost one first. -/
  locals : List (List Former) := []
  /-- How many functions are running. -/
  depth : Nat := 0
  /-- The redirections that stand, the last one first. -/
  redirected : List (List (Nat × Saved)) := []
  /-- The line of the command that runs, and the builtin that runs. -/
  line : Nat := 0
  builtin : Option Octets := none
  /-- The lines up to which the texts that run have been read, the innermost text first. -/
  readLines : List Nat := [1]
  /-- The descriptor that commands are shown on before they run. -/
  traceOn : Nat := 2
  isTracing : Bool := false
  /-- What the builtin that runs has to write, the last text first. -/
  output : List Octets := []
  /-- Where programs have been found. -/
  found : List (Octets × Octets) := []
  process : Nat := 0
  parent : Nat := 0
  folder : Octets := []
  mask : Nat := 18
  /-- The limits of the machine that have been changed. -/
  limits : List (Char × Limit) := []
deriving Inhabited

/-- What is done with the outcome of an action and the state after it. -/
abbrev After (α : Type) := Except Break α → State → Program

/-- An action of the shell. -/
def Action (α : Type) : Type := State → After α → Program

namespace Action

instance : Monad Action where
  pure a := fun s k => k (.ok a) s
  bind x f := fun s k => x s fun r s =>
    match r with
    | .ok a => f a s k
    | .error b => k (.error b) s

instance : MonadStateOf State Action where
  get := fun s k => k (.ok s) s
  set s := fun _ k => k (.ok ()) s
  modifyGet f := fun s k => let (a, s) := f s; k (.ok a) s

instance {α : Type} : Inhabited (Action α) := ⟨fun s k => k (.error .finished) s⟩

/-- A part of a program as an action. -/
def lift {α : Type} (x : Act α) : Action α := fun s k => x fun a => k (.ok a) s

/-- Breaks off. -/
def stop {α : Type} (b : Break) : Action α := fun s k => k (.error b) s

/-- An action that does not break off, with what became of it. -/
def attempt {α : Type} (x : Action α) : Action (Except Break α) := fun s k =>
  x s fun r s => k (.ok r) s

/-- What has not broken off cannot be attempted. -/
theorem attempt_pure {α : Type} (a : α) : attempt (pure a) = pure (.ok a) := rfl

/-- Goes on with what became of an attempt. -/
def settle {α : Type} : Except Break α → Action α
  | .ok a => pure a
  | .error b => stop b

/-- The program that runs an action and ends with what `k` makes of the state after it. -/
def toProgram {α : Type} (x : Action α) (s : State) (k : After α) : Program := x s k

/-- A moment passes. -/
def rest : Action Unit := lift fun k => .rest k

end Action

open Action

/-! ### Messages -/

/-- Writes a text to a descriptor, whether or not that works. -/
def write (fd : Nat) (text : Octets) : Action Unit := do
  let _ ← lift (Act.write fd text)

/-- Adds a text to what the builtin that runs has to write. -/
def emit (text : Octets) : Action Unit := modify fun s => { s with output := text :: s.output }

/-- Adds a line to what the builtin that runs has to write. -/
def emitLine (text : Octets) : Action Unit := emit (text ++ ['\n'])

/-- Writes a message with the name of the shell and the line. -/
def complain (message : Octets) : Action Unit := do
  let s ← get
  let who := match s.builtin with
    | some name => name ++ ": ".toList
    | none => []
  write 2 (s.name ++ ": ".toList ++ Octets.ofNat s.line ++ ": ".toList ++ who ++ message ++ ['\n'])

/-- Writes what a builtin has to write; returns whether that failed. -/
def flush : Action Bool := do
  let text := (← get).output.reverse.flatten
  modify fun s => { s with output := [] }
  match ← lift (Act.write 1 text) with
  | .ok _ => return false
  | .error _ => return true

/-- Breaks off with a message and a status. What the builtin that runs has to write comes after the
message. -/
def failWith {α : Type} (status : Nat) (b : Break) (message : Octets) : Action α := do
  complain message
  if !(← get).output.isEmpty then
    let _ ← flush
  modify fun s => { s with status }
  stop b

/-- Breaks off with a message. -/
def fail {α : Type} (message : Octets) : Action α := failWith 2 .error message

/-- Breaks off because a text is no number. -/
def failNumber {α : Type} (text : Octets) : Action α := fail ("Illegal number: ".toList ++ text)

/-! ### Options -/

/-- The options of a shell: their letters and names. Where an option has no letter, there is a
character that nobody writes. -/
def optionNames : List (Char × String) :=
  [('e', "errexit"), ('f', "noglob"), ('I', "ignoreeof"), ('i', "interactive"), ('m', "monitor"),
    ('n', "noexec"), ('s', "stdin"), ('x', "xtrace"), ('v', "verbose"), ('V', "vi"), ('E', "emacs"),
    ('C', "noclobber"), ('a', "allexport"), ('b', "notify"), ('u', "nounset"), ('p', "privileged"),
    ('\x00', "nolog"), ('\x01', "debug")]

/-- Whether an option is set. -/
def hasOption (letter : Char) : Action Bool := do return (← get).options.contains letter

/-- Sets or resets an option. -/
def setOption (letter : Char) (value : Bool) : Action Unit := do
  if optionNames.any (·.1 == letter) then
    modify fun s =>
      let others := s.options.filter (· != letter)
      { s with options := if value then letter :: others else others }
  else fail ("Illegal option -".toList ++ [letter])

/-! ### Variables -/

/-- A table with another value under a name; its names are in ascending order. -/
def putIn {α : Type} (table : List (Octets × α)) (name : Octets) (a : α) : List (Octets × α) :=
  let before := table.takeWhile fun e => decide (e.1 < name)
  let rest := table.drop before.length
  let after := match rest with
    | e :: r => if e.1 = name then r else rest
    | [] => []
  before ++ (name, a) :: after

/-- The variable with a name. -/
def State.known? (s : State) (name : Octets) : Option Variable :=
  (s.bindings.find? (·.1 == name)).map (·.2)

/-- The value of a variable. -/
def State.value? (s : State) (name : Octets) : Option Octets :=
  (s.known? name).bind (·.value)

/-- The value of a variable, empty if there is none. -/
def valueOf (name : String) : Action Octets := do
  return ((← get).value? name.toList).getD []

/-- The number that a text is. -/
def numberOf (text : Octets) : Action Nat :=
  match Text.Scan.count? text with
  | some n => pure n
  | none => failNumber text

/-- What follows a change of a variable. -/
def noticeChange (name : Octets) (value : Octets) : Action Unit := do
  if name = "PATH".toList then modify fun s => { s with found := [] }
  if name = "OPTIND".toList then
    let n ← numberOf value
    modify fun s => { s with optionIndex := max n 1, optionOffset := none }

/-- Changes a variable that is not fixed. -/
def changeVariable (name : Octets) (change : Variable → Variable) : Action Unit := do
  let s ← get
  let v := (s.known? name).getD ⟨none, false, false⟩
  let w := change v
  if v.isFixed ∧ w.value ≠ v.value then fail (name ++ ": is read only".toList)
  let isExported := w.isExported || s.options.contains 'a'
  set { s with bindings := putIn s.bindings name { w with isExported } }

/-- Gives a variable a value. -/
def setVariable (name value : Octets) : Action Unit := do
  let v := ((← get).known? name).getD ⟨none, false, false⟩
  if v.isFixed then fail (name ++ ": is read only".toList)
  changeVariable name fun v => { v with value := some value }
  noticeChange name value

/-- The name that a text is, or that stands before a sign of equality; any other text is refused. -/
def nameIn (text : Octets) : Action Octets := do
  let name := text.takeWhile (· != '=')
  if !isName name then fail (name ++ ": bad variable name".toList)
  return name

/-- Gives a variable a value, if it has a name. -/
def setChecked (text value : Octets) : Action Unit := do
  setVariable (← nameIn text) value

/-- Removes a variable. -/
def unsetVariable (name : Octets) : Action Unit := do
  let s ← get
  match s.known? name with
  | none => return
  | some v =>
    if v.isFixed then fail (name ++ ": is read only".toList)
    set { s with bindings := s.bindings.filter (·.1 != name) }
    if name = "OPTIND".toList then
      modify fun s => { s with optionIndex := 1, optionOffset := none }

/-- Makes a variable one of the function that runs. -/
def makeLocal (name : Octets) : Action Unit := do
  let s ← get
  match s.locals with
  | [] => return
  | frame :: frames =>
    let former : Former := if name = ['-'] then .options s.options
      else .variable name (s.known? name)
    set { s with locals := (former :: frame) :: frames }

/-- Gives back what a function had made its own. -/
def giveBack : Former → Action Unit
  | .options before => modify fun s => { s with options := before }
  | .variable name before => do
    match before with
    | none =>
      modify fun s => { s with bindings := s.bindings.filter (·.1 != name) }
      if name = "OPTIND".toList then
        modify fun s => { s with optionIndex := 1, optionOffset := none }
    | some v =>
      modify fun s => { s with bindings := putIn s.bindings name v }
      noticeChange name (v.value.getD [])

/-- Begins a frame of things that a function makes its own. -/
def pushLocals : Action Unit := modify fun s => { s with locals := [] :: s.locals }

/-- Ends the innermost frame. -/
def popLocals : Action Unit := do
  match (← get).locals with
  | [] => return
  | frame :: frames =>
    modify fun s => { s with locals := frames }
    frame.forM giveBack

/-- The variables that programs are started with. -/
def environment : Action Environment := do
  return (← get).bindings.filterMap fun (name, v) =>
    if v.isExported then v.value.map fun value => (name, value) else none

/-- The name and the value in a text with an equals sign. -/
def splitSetting (text : Octets) : Octets × Option Octets :=
  let name := text.takeWhile (· != '=')
  (name, match text.drop name.length with
    | _ :: value => some value
    | [] => none)

/-- A text in single quotes, so that it can be read again. -/
def quotedWithin : Nat → Octets → Octets
  | 0, _ => []
  | fuel + 1, s =>
    let start := s.takeWhile (· != '\'')
    let rest := s.drop start.length
    let quotes := rest.takeWhile (· == '\'')
    let more := rest.drop quotes.length
    ('\'' :: start ++ ['\'']) ++
      (if quotes.isEmpty then [] else '"' :: quotes ++ ['"']) ++
      (if more.isEmpty then [] else quotedWithin fuel more)

/-- A text in quotes, so that it can be read again. -/
def quoted (s : Octets) : Octets := quotedWithin (s.length + 1) s

end Shell
end OrderTrials
