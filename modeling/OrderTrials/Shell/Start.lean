import OrderTrials.Shell.Builtin.Table
/-
# The shell as a program

A shell is started with options, a script and the arguments of the script. The script is a word, a
file or what can be read. When it has run, the shell ends with the status of its last command.

Key definitions: `Shell.initial`, `Shell.begin`, `Shell.program`.
-/

namespace OrderTrials
namespace Shell

open Action
open Machine (Act Program Refusal Environment)

/-- The evaluator of commands. -/
def evaluator : Evaluate := evaluate Builtin.all Act.endless

/-- The variables that a shell has if it is not told otherwise. -/
def usualVariables : List (String × String) :=
  [("PATH", String.ofList standardPath), ("PS1", "# "), ("PS2", "> "), ("PS4", "+ ")]

/-- The state of a shell that is started with some variables. -/
def initial (name : Octets) (environment : Environment) : State :=
  let fresh (text : Octets) : Variable := ⟨some text, false, false⟩
  let usual := usualVariables.foldl (fun table (name, value) =>
    putIn table name.toList (fresh value.toList)) []
  let given := environment.foldl (fun table (name, value) =>
    if isName name then putIn table name ⟨some value, true, false⟩ else table) usual
  let withSeparators := putIn given "IFS".toList (fresh Expansion.usualSeparators)
  { bindings := putIn withSeparators "OPTIND".toList (fresh ['1']), name }

/-- Finds out the numbers of the process and the working folder. A folder that was handed down is
taken if it is the right one. -/
def orient : Action Unit := do
  let (process, parent) ← lift fun k => .identity k
  modify fun s => { s with process, parent }
  setVariable "PPID".toList (Octets.ofNat parent)
  let given := ((← get).value? "PWD".toList).getD []
  let isRight ← if given.head? = some '/' then Builtin.areSame given ['.'] else pure false
  let folder ← if isRight then pure given else lift fun k => .whereabouts k
  modify fun s => { s with folder }
  setVariable "PWD".toList folder
  changeVariable "PWD".toList fun v => { v with isExported := true }

/-- Runs the script in a text that was read, up to its end. -/
def runAll (text : Octets) : Action Unit := do
  let _ ← runScript evaluator false text
  modify fun s => { s with
    skip := if s.skip = .function ∨ s.skip = .functionKept then .nothing else s.skip }

/-- What can be read, as a script. -/
def standardInput : Action Octets := do
  match ← lift (Act.readAll 0) with
  | .ok text => return text.filter (· != '\x00')
  | .error _ => return []

/-- Takes the name of the shell and its arguments from words. -/
def takeArguments : List Octets → Action Unit
  | [] => return
  | name :: arguments => modify fun s => { s with name, arguments }

/-- Runs the shell that some words ask for. -/
def begin (words : List Octets) : Action Unit := do
  orient
  let setup ← Builtin.readSetup true (words.length + 1) words
  match setup.isScript, setup.rest with
  | true, [] => fail "-c requires an argument".toList
  | true, text :: rest =>
    takeArguments rest
    Builtin.noticeOptions
    let readsMore ← hasOption 's'
    let _ ← runText evaluator (!readsMore) text
    if readsMore then runAll (← standardInput)
  | false, rest =>
    if rest.isEmpty || (← hasOption 's') then
      setOption 's' true
      modify fun s => { s with arguments := rest }
      Builtin.noticeOptions
      runAll (← standardInput)
    else
      let text ← Builtin.readScript (rest.head?.getD [])
      takeArguments rest
      Builtin.noticeOptions
      runAll text

/-- The shell. Its first word is its name. -/
def program (words : List Octets) (environment : Environment) : Program :=
  let name := words.head?.getD "sh".toList
  (begin words.tail).toProgram (initial name environment) fun r s =>
    let b := match r with
      | .ok _ => Break.finished
      | .error b => b
    (leave evaluator b).toProgram s fun r s =>
      match r with
      | .ok status => .exit status
      | .error _ => .exit s.status

end Shell
end OrderTrials
