import OrderTrials.Shell.State
/-
# Jobs

Processes that a shell has started and may wait for. A child begins with a copy of the state of its
parent, without the parent's jobs and without its actions on signals.

Key definitions: `Shell.Jobs.start`, `Shell.Jobs.waitFor`, `Shell.Jobs.statusOf`.
-/

namespace OrderTrials
namespace Shell
namespace Jobs

open Action
open Machine (Act Program Refusal Disposition)

/-! ### Signals -/

/-- What a signal does to a process that ends of it, in words. -/
def signalTexts : List (Nat × String) :=
  [(1, "Hangup"), (2, "Interrupt"), (3, "Quit"), (4, "Illegal instruction"),
    (5, "Trace/breakpoint trap"), (6, "Aborted"), (7, "Bus error"),
    (8, "Floating point exception"), (9, "Killed"), (10, "User defined signal 1"),
    (11, "Segmentation fault"), (12, "User defined signal 2"), (13, "Broken pipe"),
    (14, "Alarm clock"), (15, "Terminated"), (16, "Stack fault"), (17, "Child exited"),
    (18, "Continued"), (19, "Stopped (signal)"), (20, "Stopped"), (21, "Stopped (tty input)"),
    (22, "Stopped (tty output)"), (23, "Urgent I/O condition"), (24, "CPU time limit exceeded"),
    (25, "File size limit exceeded"), (26, "Virtual timer expired"),
    (27, "Profiling timer expired"), (28, "Window changed"), (29, "I/O possible"),
    (30, "Power failure"), (31, "Bad system call")]

/-- A signal in words. -/
def signalText (n : Nat) : Octets :=
  match signalTexts.find? (·.1 == n) with
  | some (_, text) => text.toList
  | none =>
    if 34 ≤ n then "Real-time signal ".toList ++ Octets.ofNat (n - 34)
    else "Unknown signal ".toList ++ Octets.ofNat n

/-- The status that stands for an ending. -/
def statusOf : Ending → Nat
  | .exited n => n
  | .signalled n => n + 128
  | .overdue => 137

/-- The signals that nobody is told about. -/
def silentSignals : List Nat := [2, 13]

/-- Takes notice of the signals that have come. -/
def noticeSignals : Action Unit := do
  let more ← lift fun k => .caught k
  modify fun s => { s with pending := s.pending ++ more.filter fun n => !s.pending.contains n }

/-! ### Children -/

/-- How a child stands to its parent. -/
inductive Role where
  /-- The parent waits for it. -/
  | foreground
  /-- The parent goes on beside it. -/
  | background
  /-- The parent reads what it writes. -/
  | inner
deriving DecidableEq, Inhabited

/-- Forgets the actions on signals of the parent. Signals that are ignored stay ignored. -/
def clearTraps (areKept : Bool) : Action Unit := do
  let s ← get
  let real := s.traps.filter fun t => !t.2.isEmpty
  real.forM fun (n, _) => do
    if n ≠ 0 then
      let _ ← lift fun k => .handle n .standard k
  if !areKept then
    set { s with traps := s.traps.filter fun t => t.2.isEmpty }

/-- What a child does before its task. Of the texts that run it knows the outermost only. -/
def enterChild (role : Role) (areTrapsKept isFirst : Bool) : Action Unit := do
  clearTraps areTrapsKept
  modify fun s => { s with
    jobs := []
    pending := []
    readLines := s.readLines.getLast?.toList }
  if role = .background then
    let _ ← lift fun k => .handle 2 .ignored k
    let _ ← lift fun k => .handle 3 .ignored k
    if isFirst then
      let _ ← lift fun k => .close 0 k
      let _ ← lift fun k => .openFile "/dev/null".toList { reads := true } k

/-- Starts a child with a task; it ends with the status that `leave` makes of the outcome. -/
def fork (leave : Break → Action Nat) (task : Action Unit) : Action Nat := fun s k =>
  .fork
    (fun _ => task s fun r s =>
      let b := match r with
        | .ok _ => Break.finished
        | .error b => b
      leave b s fun r s =>
        match r with
        | .ok status => .exit status
        | .error _ => .exit s.status)
    (fun number => k (.ok number) s)

/-- Whether a job has ended. -/
def isDone (j : Job) : Bool := j.processes.all (·.2.isSome)

/-- The number of a new job: the first one that no job has which still counts. -/
def freeNumber (jobs : List Job) : Nat :=
  let isTaken (n : Nat) := jobs.any fun j => j.number == n && !(isDone j && j.isWaitedFor)
  ((List.range (jobs.length + 1)).find? fun n => !isTaken (n + 1)).getD 0 + 1

/-- Enters a new job without processes. -/
def newJob : Action Nat := do
  let s ← get
  let number := freeNumber s.jobs
  set { s with jobs := { number, processes := [] } :: s.jobs.filter (·.number != number) }
  return number

/-- Changes a job. -/
def change (number : Nat) (f : Job → Job) : Action Unit :=
  modify fun s => { s with jobs := s.jobs.map fun j => if j.number = number then f j else j }

/-- Removes a job. -/
def forget (number : Nat) : Action Unit :=
  modify fun s => { s with jobs := s.jobs.filter (·.number != number) }

/-- Starts a process of a job. -/
def start (leave : Break → Action Nat) (job : Nat) (role : Role) (areTrapsKept : Bool)
    (task : Action Unit) : Action Nat := do
  let isFirst := (← get).jobs.any fun j => j.number == job && j.processes.isEmpty
  let process ← fork leave do
    enterChild role areTrapsKept isFirst
    task
  change job fun j => { j with processes := j.processes ++ [(process, none)] }
  if role = .background then modify fun s => { s with lastApart := some process }
  return process

/-! ### Waiting -/

/-- Records the ending of a process, and tells about it if its job is the one that counts. -/
def record (job : Option Nat) (process : Nat) (ending : Ending) : Action Unit := do
  let s ← get
  match s.jobs.find? fun j => j.processes.any fun p => p.1 == process && p.2.isNone with
  | none => return
  | some j =>
    change j.number fun j =>
      let processes := j.processes.map fun p =>
        if p.1 = process then (process, some ending) else p
      { j with processes, isChanged := true }
    match ending with
    | .signalled n =>
      if job = some j.number ∧ !silentSignals.contains n then
        write 2 (signalText n ++ ['\n'])
    | _ => return

/-- Whether a job is still running. -/
def isRunning (number : Nat) : Action Bool := do
  return (← get).jobs.any fun j => j.number == number && !isDone j

/-- Takes notice of all children that have ended. The first argument bounds their number. -/
def collect : Nat → Action Unit
  | 0 => return
  | fuel + 1 => do
    match ← lift fun k => .wait none false k with
    | .ok (some (process, ending)) =>
      record none process ending
      collect fuel
    | _ => return

/-- Waits until a job has ended. If it may be interrupted by a signal, it says whether it was. -/
def awaitWithin (number : Nat) (isInterruptible : Bool) : Nat → Action Bool
  | 0 => return false
  | fuel + 1 => do
    if !(← isRunning number) then return false
    if isInterruptible ∧ !(← get).pending.isEmpty then return true
    match ← lift fun k => .wait none true k with
    | .ok (some (process, ending)) =>
      record (some number) process ending
      awaitWithin number isInterruptible fuel
    | .error .interrupted =>
      noticeSignals
      awaitWithin number isInterruptible fuel
    | _ => return false

/-- The status of a job that has ended: that of its last process. -/
def jobStatus (number : Nat) : Action Nat := do
  match (← get).jobs.find? (·.number == number) with
  | some j =>
    match j.processes.getLast? with
    | some (_, some ending) => return statusOf ending
    | _ => return 0
  | none => return 0

/-- Waits until a job has ended, removes it and returns its status. -/
def waitFor (number : Nat) : Action Nat := do
  let _ ← awaitWithin number false Act.endless
  let status ← jobStatus number
  forget number
  return status

/-- Waits for any job that is still running; returns whether a signal came first. -/
def waitForAll : Nat → Action Bool
  | 0 => return false
  | fuel + 1 => do
    if !((← get).jobs.any fun j => !isDone j) then return false
    if !(← get).pending.isEmpty then return true
    match ← lift fun k => .wait none true k with
    | .ok (some (process, ending)) =>
      record none process ending
      waitForAll fuel
    | .error .interrupted =>
      noticeSignals
      waitForAll fuel
    | _ => return false

/-- Finds the job that a text names, or breaks off. -/
def find (text : Octets) : Action Job := do
  let jobs := (← get).jobs
  let settled (job : Option Job) (reason : String) : Action Job :=
    match job with
    | some j => pure j
    | none => fail reason.toList
  let missing := "No such job: ".toList ++ text
  match text with
  | ['%'] | ['%', '%'] | ['%', '+'] => settled jobs.head? "No current job"
  | ['%', '-'] => settled jobs[1]? "No previous job"
  | '%' :: name =>
    match (Text.Scan.plain? name).bind fun n => jobs.find? (·.number == n) with
    | some j => return j
    | none =>
      -- no command of a job is kept, so that only the empty name fits any
      let isEmpty := name.isEmpty || name == ['?']
      match if isEmpty then jobs else [] with
      | [j] => return j
      | [] => fail missing
      | _ => fail (text ++ ": ambiguous".toList)
  | _ => fail missing

end Jobs
end Shell
end OrderTrials
