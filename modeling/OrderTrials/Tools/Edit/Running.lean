import OrderTrials.Tools.Edit.Replace
import OrderTrials.Tools.Edit.Session
/-
# Running scripts of the line editor

For each line the steps of the script are taken one after the other. At the end the line is
written, unless the editor is quiet; then comes what has been queued, and the next line.

Key definitions: `Tools.Edit.perform`, `Tools.Edit.steps`, `Tools.Edit.cycles`.
Key theorems: `Tools.Edit.Span.ended_holding`.
-/

namespace OrderTrials
namespace Tools
namespace Edit

open Machine (Act Program Refusal Environment)
open Session

/-- How it goes on after a step. -/
inductive Onward where
  | following
  | goTo (index : Nat)
  /-- The line is done with: it is written, unless the editor is quiet. -/
  | done
  /-- The line is not written. -/
  | dropped
  /-- What is left of the line is gone through from the start. -/
  | again
  | leaving (status : Nat)
deriving DecidableEq, Inhabited

/-! ### Addresses -/

/-- The expression that is to be looked for. -/
def searchOf (search : Option Search) : Editing Search := do
  match search.or (← get).search with
  | none => failWith .nothingSearched
  | some search =>
    modify fun s => { s with search := some search }
    return search

/-- Whether an address is that of the line. -/
def isAt : Address → Editing Bool
  | .any => return true
  | .line n => return n == (← get).number
  | .every first apart => do
    let n := (← get).number
    return decide (first ≤ n) && (n - first) % apart == 0
  | .last => isLast
  | .holding search => do
    let search ← searchOf search
    let s ← get
    return search.isIn s.manner.mark s.line.text
  | .after _ => return false
  | .multiple k => return (← get).number % k == 0

/-- Where a range stands after its end. One that begins at a line does not come again. -/
def Span.ended : Address → Span
  | .line _ => .spent
  | _ => .idle

/-- A range between lines that are known by their texts may come again. -/
theorem Span.ended_holding (search : Option Search) : Span.ended (.holding search) = .idle := rfl

/-- Whether the line with a number that begins a range is in it, and where the range stands
then. A line has a number beyond the start if others have been taken with it. -/
def Span.begun (n : Nat) (start : Address) : Address → Bool × Span
  | .line m =>
    let isExact := match start with
      | .line a => n == a
      | _ => true
    (isExact || decide (n ≤ m), if m ≤ n then ended start else .upTo m)
  | .any => (true, ended start)
  | .after k => (true, .until (n + k))
  | _ => (true, .onward)

/-- Whether the line is in the range between two addresses, and where the range stands then. -/
def isWithin (span : Span) (start finish : Address) : Editing (Bool × Span) := do
  let n := (← get).number
  match span with
  | .spent => return (false, .spent)
  | .idle =>
    let isStart ← match start with
      | .line a => pure (decide (a ≤ n))
      | start => isAt start
    if !isStart then return (false, .idle)
    match finish with
    | .every _ _ | .last => return (true, if ← isAt finish then Span.ended start else .onward)
    | _ => return Span.begun n start finish
  | .upTo m => return (decide (n ≤ m), if n < m then span else Span.ended start)
  | .until m => return (true, if n < m then span else Span.ended start)
  | .onward => return (true, if ← isAt finish then Span.ended start else span)

/-- Whether a step is taken for the line. -/
def isTaken (i : Nat) (step : Step) : Editing Bool := do
  let isMeant ← match step.start, step.finish with
    | none, _ => pure true
    | some start, none => isAt start
    | some start, some finish =>
      let (isMeant, span) ← isWithin ((← get).spans[i]?.getD .idle) start finish
      modify fun s => { s with spans := s.spans.setIfInBounds i span }
      pure isMeant
  return isMeant != step.isNegated

/-! ### Commands -/

/-- What a command writes. -/
def commandOutput (environment : Environment) (command : Octets) : Act Octets := do
  let (reading, writing) ← fun k => .pipe k
  let child : Act Nat := do
    let _ ← fun k => .copyTo writing 1 k
    let _ ← fun k => .close reading k
    let _ ← fun k => .close writing k
    let words := ["sh".toList, "-c".toList, "--".toList, command]
    let _ ← fun k => .exec "/bin/sh".toList words environment k
    return 127
  let number ← fun k => .fork (fun _ => child.toProgram) k
  let _ ← fun k => .close writing k
  let text ← Act.readAll reading
  let _ ← fun k => .close reading k
  let _ ← fun k => .wait (some number) true k
  return match text with
  | .ok text => text
  | .error _ => []

/-- Executes the line as a command; what that writes takes its place. -/
def executeLine : Editing Unit := do
  let s ← get
  let text ← ask (commandOutput s.environment s.line.text)
  let text := if text.getLast? = some s.manner.mark then text.dropLast else text
  modify fun s => { s with line := ⟨text, true⟩ }

/-! ### Steps -/

/-- Replaces texts in the line. -/
def substitute (sub : Substitution) : Editing Unit := do
  let search ← searchOf sub.search
  let most := (sub.parts.filterMap (·.group)).max?.getD 0
  if search.expression.groups < most then failWith (.badGroup most)
  let s ← get
  match replaced? search sub s.manner.mark s.line.text with
  | none => return
  | some text =>
    set { s with line := { s.line with text }, hasReplaced := true }
    if sub.printsBefore then writeLine (← get).line
    if sub.executes then executeLine
    if sub.printsAfter then writeLine (← get).line
    if let some target := sub.target then writeTo target (← get).line

/-- The first line of the line. -/
def firstLine (mark : Char) (l : Line) : Line :=
  match l.cut mark with
  | some (text, _) => ⟨text, true⟩
  | none => l

/-- Queues what is written after the line. -/
def enqueue (q : Queued) : Editing Unit := modify fun s => { s with queue := q :: s.queue }

/-- Changes the line. -/
def change (f : Session → Line) : Editing Unit := modify fun s => { s with line := f s }

/-- Keeps another line aside. -/
def keep (f : Session → Line) : Editing Unit := modify fun s => { s with kept := f s }

/-- Puts unread input back, so that others can read it. -/
def putBack : Editing Unit := do
  if let some src := (← get).source then
    if src.fd = 0 ∧ !src.unread.isEmpty then ask fun k => .putBack 0 src.unread.length k

/-- Does what a step says. -/
def perform (i : Nat) (step : Step) : Editing Onward := do
  let s ← get
  let mark := s.manner.mark
  match step.action with
  | .block _ => return .following
  | .jump condition label =>
    let isDue := match condition with
      | .always => true
      | .replaced => s.hasReplaced
      | .notReplaced => !s.hasReplaced
    if condition ≠ .always then modify fun s => { s with hasReplaced := false }
    return if isDue then .goTo ((s.script.place? label).getD s.script.steps.size) else .following
  | .append text =>
    enqueue (.text text)
    return .following
  | .insert text =>
    writeLines text
    return .following
  | .change text =>
    if !((s.spans[i]?).any Span.isOpen) then writeLines text
    return .dropped
  | .delete => return .dropped
  | .deleteFirst =>
    match s.line.cut mark with
    | none => return .dropped
    | some (_, text) =>
      change fun s => { s.line with text }
      return .again
  | .next =>
    if ← isLast then return .done
    if !s.manner.isQuiet then writeLine s.line
    match ← nextLine with
    | none => return .done
    | some line =>
      change fun _ => line
      return .following
  | .nextToo =>
    if ← isLast then return .done
    match ← nextLine with
    | none => return .done
    | some line =>
      change fun s => s.line.joined mark line
      return .following
  | .print =>
    writeLine s.line
    return .following
  | .printFirst =>
    writeLine (firstLine mark s.line)
    return .following
  | .reveal width =>
    writeText (revealed mark (width.getD s.manner.width) s.line.text)
    return .following
  | .number =>
    writeText (Octets.ofNat s.number ++ [mark])
    return .following
  | .name =>
    writeText (s.name ++ [mark])
    return .following
  | .clear =>
    change fun s => { s.line with text := [] }
    return .following
  | .keep =>
    keep fun s => s.line
    return .following
  | .keepToo =>
    keep fun s => s.kept.joined mark s.line
    return .following
  | .fetch =>
    change fun s => s.kept
    return .following
  | .fetchToo =>
    change fun s => s.line.joined mark s.kept
    return .following
  | .exchange =>
    set { s with line := s.kept, kept := s.line }
    return .following
  | .quit status =>
    if !s.manner.isQuiet then writeLine { s.line with isEnded := true }
    writeQueue
    return .leaving status
  | .quitSilently status => return .leaving status
  | .readFile name =>
    enqueue (.file name)
    return .following
  | .readBefore name =>
    if let some text ← textOf name then
      writeText []
      put text
    return .following
  | .readLine name =>
    if let some text ← lineOf name then enqueue (.text text)
    return .following
  | .writeTo name =>
    writeTo name s.line
    return .following
  | .writeFirst name =>
    writeTo name (firstLine mark s.line)
    return .following
  | .substitute sub =>
    substitute sub
    return .following
  | .translate pairs =>
    change fun s => { s.line with text := translated pairs s.line.text }
    return .following
  | .execute command =>
    if command.isEmpty then executeLine
    else
      writeText []
      put (← ask (commandOutput s.environment command))
    return .following
  | .unknown letter => fail ("INTERNAL ERROR: Bad cmd ".toList ++ [letter])

/-- Takes the steps from an index on. The first argument bounds their number. -/
def steps : Nat → Nat → Editing Onward
  | 0, _ => return .done
  | fuel + 1, i => do
    match (← get).script.steps[i]? with
    | none => return .done
    | some step =>
      if ← isTaken i step then
        match ← perform i step with
        | .following => steps fuel (i + 1)
        | .goTo j =>
          ask fun k => .rest k
          steps fuel j
        | onward => return onward
      else
        match step.action with
        | .block finish => steps fuel finish
        | _ => steps fuel (i + 1)

/-- Takes all steps for the line and for each one that follows, and returns the status. The first
argument bounds the number of lines. -/
def cycles : Nat → Editing Nat
  | 0 => return 0
  | fuel + 1 => do
    let goOn : Editing Nat := do
      match ← nextLine with
      | none => return 0
      | some line =>
        change fun _ => line
        ask fun k => .rest k
        cycles fuel
    match ← steps Act.endless 0 with
    | .leaving status =>
      putBack
      return status
    | .again =>
      ask fun k => .rest k
      cycles fuel
    | .done =>
      if !(← get).manner.isQuiet then writeLine (← get).line
      goOn
    | _ => goOn

/-- Edits all files, and ends with the status. -/
def edit : Editing Nat := do
  let status ← (do
    match ← nextLine with
    | none => return 0
    | some line =>
      change fun _ => line
      cycles Act.endless)
  closeSource
  leave (if (← get).hasFailed then 2 else status)

end Edit
end Tools
end OrderTrials
