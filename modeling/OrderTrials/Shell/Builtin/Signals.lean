import OrderTrials.Shell.Builtin.Naming
/-
# Builtins about signals and jobs

Signals are sent, ignored or answered by a script; jobs are listed and waited for.

Key definitions: `Shell.Builtin.signalName`, `Shell.Builtin.trap`, `Shell.Builtin.sendSignals`,
`Shell.Builtin.awaitJobs`, `Shell.Builtin.listJobs`.
-/

namespace OrderTrials
namespace Shell
namespace Builtin

open Action
open Machine (Act Program Refusal)

/-- How many signals there are, counting the end of the shell. -/
def signalCount : Nat := 65

/-- The names of the signals that have one of their own; the end of the shell comes first. -/
def signalNames : List String :=
  ["EXIT", "HUP", "INT", "QUIT", "ILL", "TRAP", "ABRT", "BUS", "FPE", "KILL", "USR1", "SEGV",
    "USR2", "PIPE", "ALRM", "TERM", "16", "CHLD", "CONT", "STOP", "TSTP", "TTIN", "TTOU", "URG",
    "XCPU", "XFSZ", "VTALRM", "PROF", "WINCH", "IO", "PWR", "SYS", "32", "33"]

/-- The name of a signal. -/
def signalName (n : Nat) : Octets :=
  match signalNames[n]? with
  | some name => name.toList
  | none =>
    if n = 34 then "RTMIN".toList
    else if n = 64 then "RTMAX".toList
    else if n < 50 then "RTMIN+".toList ++ Octets.ofNat (n - 34)
    else "RTMAX-".toList ++ Octets.ofNat (64 - n)

/-- The signal that a text names, which may be a number. -/
def signalOf? (least : Nat) (text : Octets) : Option Nat :=
  match (Text.Scan.plain? text).filter (· < signalCount) with
  | some n => some n
  | none =>
    (List.range signalCount).find? fun n =>
      decide (least ≤ n) && (signalName n).map Char.toUpper == text.map Char.toUpper

/-! ### Traps -/

/-- Changes what the machine does on a signal. A signal that the shell was started to ignore stays
ignored. -/
def setDisposition (signal : Nat) (isOurs : Bool) (d : Machine.Disposition) : Action Unit := do
  let former ← lift fun k => .handle signal d k
  if former = .ignored ∧ !isOurs then
    let _ ← lift fun k => .handle signal .ignored k

/-- Sets what is done on one signal. -/
def setTrap (action : Option Octets) (signal : Nat) : Action Unit := do
  let isOurs := (← get).traps.any fun t => t.1 == signal && t.2.isEmpty
  modify fun s =>
    let others := s.traps.filter (·.1 != signal)
    { s with traps := match action with
      | some text => others ++ [(signal, text)]
      | none => others }
  if signal ≠ 0 then
    setDisposition signal isOurs <| match action with
      | none => .standard
      | some [] => .ignored
      | some _ => .caught

/-- Sets an action for signals, one after the other, until one does not exist. -/
def setTraps (action : Option Octets) : List Octets → Action Nat
  | [] => return 0
  | name :: rest => do
    match signalOf? 0 name with
    | none =>
      write 2 ("trap: ".toList ++ name ++ ": bad trap\n".toList)
      return 1
    | some signal =>
      setTrap action signal
      setTraps action rest

/-- Lists or sets what is done on signals. -/
def trap (words : List Octets) : Action Nat := do
  match ← readNone words with
  | [] =>
    let traps := (← get).traps
    (List.range signalCount).forM fun n =>
      match traps.find? (·.1 == n) with
      | some (_, text) =>
        emitLine ("trap -- ".toList ++ quoted text ++ ' ' :: signalName n)
      | none => pure ()
    return 0
  | [name] => setTraps none [name]
  | first :: rest =>
    if ((Text.Scan.plain? first).filter (· < signalCount)).isSome then
      setTraps none (first :: rest)
    else setTraps (if first = ['-'] then none else some first) rest

/-! ### Sending signals -/

/-- How signals are sent, in words. -/
def sendUsage : Octets :=
  "Usage: kill [-s sigspec | -signum | -sigspec] [pid | job]... or\nkill -l [exitstatus]".toList

/-- The process that a word means; a minus sign or a job means a group. -/
def target (word : Octets) : Action Int := do
  match word with
  | '%' :: _ =>
    let j ← Jobs.find word
    return -((j.processes.head?.map (·.1)).getD 0)
  | '-' :: digits => return -(← numberOf digits)
  | digits => return ← numberOf digits

/-- Sends a signal to processes, and counts those that it could not be sent to. -/
def sendTo (signal : Nat) : List Octets → Action Nat
  | [] => return 0
  | word :: rest => do
    let process ← target word
    let isRefused ← match ← lift fun k => .signal process signal k with
      | .ok _ => pure false
      | .error refusal =>
        complain (refusal.text.toList ++ ['\n'])
        pure true
    let more ← sendTo signal rest
    return if isRefused then 1 else more

/-- Lists the names of all signals, or of one. -/
def listSignals (words : List Octets) : Action Nat := do
  match words with
  | [] =>
    emitLine ['0']
    (List.range signalCount).forM fun n => if n = 0 then pure () else emitLine (signalName n)
    return 0
  | text :: _ =>
    let n ← numberOf text
    let n := if 128 < n then n - 128 else n
    if 0 < n ∧ n < signalCount then
      emitLine (signalName n)
      return 0
    else fail ("invalid signal number or exit status: ".toList ++ text)

/-- The signal that the options name; none if the signals are to be listed. -/
def chosenSignal : List (Char × Octets) → Bool → Option Nat → Action (Bool × Option Nat)
  | [], isListing, signal => return (isListing, signal)
  | (c, text) :: rest, isListing, signal => do
    if c = 'l' then chosenSignal rest true signal
    else
      match signalOf? 1 text with
      | some n => chosenSignal rest isListing (some n)
      | none => fail ("invalid signal number or name: ".toList ++ text)

/-- Sends a signal to processes. -/
def sendSignals (words : List Octets) : Action Nat := do
  match words with
  | [] => fail sendUsage
  | ('-' :: name) :: rest =>
    match signalOf? 1 name with
    | some signal => if rest.isEmpty then fail sendUsage else sendTo signal rest
    | none =>
      let (options, rest) ← readOptions [('l', false), ('s', true)] words
      let (isListing, signal) ← chosenSignal options false none
      if isListing then
        if signal.isSome then fail sendUsage else listSignals rest
      else if rest.isEmpty then fail sendUsage
      else sendTo (signal.getD 15) rest
  | words => sendTo 15 words

/-! ### Jobs -/

/-- The status of a wait that a signal has ended. -/
def interruptedStatus : Action Nat := do
  return 128 + ((← get).pending.getLast?.getD 0)

/-- Waits for the jobs that some words name; the status is that of the last one. -/
def awaitNamed : List Octets → Nat → Action Nat
  | [], status => return status
  | word :: rest, _ => do
    let job ← match word with
      | '%' :: _ => some <$> Jobs.find word
      | digits =>
        let process ← numberOf digits
        pure ((← get).jobs.find? fun j => j.processes.getLast?.any (·.1 == process))
    match job with
    | none => awaitNamed rest 127
    | some j =>
      if ← Jobs.awaitWithin j.number true Act.endless then interruptedStatus
      else
        Jobs.change j.number fun j => { j with isWaitedFor := true }
        awaitNamed rest (← Jobs.jobStatus j.number)

/-- Waits for jobs. -/
def awaitJobs (words : List Octets) : Action Nat := do
  match ← readNone words with
  | [] =>
    if ← Jobs.waitForAll Act.endless then interruptedStatus
    else
      modify fun s => { s with jobs := s.jobs.map fun j => { j with isWaitedFor := true } }
      return 0
  | words => awaitNamed words 127

/-- How a job stands, in words. -/
def jobState (j : Job) : Octets :=
  match j.processes.getLast? with
  | some (_, some ending) =>
    if !Jobs.isDone j then "Running".toList
    else
      match ending with
      | .signalled n => Jobs.signalText n
      | .exited 0 => "Done".toList
      | .exited n => "Done(".toList ++ Octets.ofNat n ++ [')']
      | .overdue => Jobs.signalText 9
  | _ => "Running".toList

/-- Where the commands of jobs would be shown. -/
def commandColumn : Nat := 33

/-- Shows a job, with the numbers of its processes if they are asked for. -/
def showJob (mark : Char) (withNumbers : Bool) (j : Job) : Octets :=
  let widened (s : Octets) := s ++ List.replicate (max 1 (commandColumn - s.length)) ' '
  let start := '[' :: Octets.ofNat j.number ++ [']', ' ', mark, ' ']
  let first := (j.processes.head?.map (·.1)).getD 0
  let numbers := if withNumbers then Octets.ofNat first ++ [' '] else []
  let line := widened (start ++ numbers ++ jobState j)
  if withNumbers then
    let more := j.processes.tail.map fun (n, _) =>
      let s := " |\n".toList ++ List.replicate start.length ' ' ++ Octets.ofNat n ++ [' ']
      s ++ List.replicate (max 1 (commandColumn + 3 - s.length)) ' '
    line ++ more.flatten ++ ['\n']
  else line ++ (j.processes.tail.map fun _ => " | ".toList).flatten ++ ['\n']

/-- Lists some jobs. Those that have ended are forgotten then. -/
def listSome (mode : Option Char) (chosen : List Job) : Action Unit := do
  let jobs := (← get).jobs
  chosen.forM fun j => do
    let mark := if jobs.head?.any (·.number == j.number) then '+'
      else if jobs[1]?.any (·.number == j.number) then '-' else ' '
    if mode = some 'p' then emitLine (Octets.ofNat ((j.processes.head?.map (·.1)).getD 0))
    else
      emit (showJob mark (mode == some 'l') j)
      if Jobs.isDone j then Jobs.forget j.number

/-- Lists jobs. -/
def listJobs (words : List Octets) : Action Nat := do
  let (options, words) ← readOptions [('l', false), ('p', false)] words
  let mode := options.getLast?.map (·.1)
  Jobs.collect Act.endless
  if words.isEmpty then listSome mode (← get).jobs
  else
    words.forM fun word => do listSome mode [← Jobs.find word]
  return 0

/-- Refuses to move a job, which only a shell with a terminal can do. -/
def moveJob (words : List Octets) : Action Nat := do
  match ← readNone words with
  | [] =>
    if (← get).jobs.isEmpty then fail "No current job".toList
    else fail "job (null) not created under job control".toList
  | word :: _ =>
    let _ ← Jobs.find word
    fail ("job ".toList ++ word ++ " not created under job control".toList)

end Builtin
end Shell
end OrderTrials
