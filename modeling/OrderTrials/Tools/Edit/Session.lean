import OrderTrials.Tools.Edit.Reading
/-
# Sessions of the line editor

What the line editor has at hand while it goes through its files: the line, the line that is kept
aside, what is still to be read and written. A line that has no end when it is read has none when
it is written, unless something follows it.

Key definitions: `Tools.Edit.Session`, `Tools.Edit.Editing`, `Tools.Edit.Session.nextLine`,
`Tools.Edit.Session.isLast`, `Tools.Edit.Session.writeLine`.
Key theorems: `Tools.Edit.Line.joined_text`, `Tools.Edit.Line.joined_isEnded`.
-/

namespace OrderTrials
namespace Tools
namespace Edit

open Machine (Act Program Refusal Environment)

/-- How files are edited. -/
structure Manner where
  isQuiet : Bool := false
  /-- Whether each file is edited for itself. -/
  isSeparate : Bool := false
  /-- What is added to the names of the files that are edited in place to keep their old text. -/
  inPlace : Option Octets := none
  /-- Whether no more is read than necessary, and nothing held back. -/
  isPrompt : Bool := false
  /-- The character at the end of a line. -/
  mark : Char := '\n'
  /-- How wide rows are. -/
  width : Nat := 70
deriving DecidableEq, Inhabited

/-- A line, and whether its end has been read too. -/
structure Line where
  text : Octets := []
  isEnded : Bool := true
deriving DecidableEq, Inhabited

/-- A line with another one behind it. -/
def Line.joined (mark : Char) (a b : Line) : Line := ⟨a.text ++ mark :: b.text, b.isEnded⟩

theorem Line.joined_text (mark : Char) (a b : Line) :
    (a.joined mark b).text = a.text ++ mark :: b.text := rfl

/-- The second line says how two lines end. -/
theorem Line.joined_isEnded (mark : Char) (a b : Line) :
    (a.joined mark b).isEnded = b.isEnded := rfl

/-- The text up to the first mark, and what follows it; none without a mark. -/
def Line.cut (mark : Char) (l : Line) : Option (Octets × Octets) :=
  let first := l.text.takeWhile (· != mark)
  match l.text.drop first.length with
  | [] => none
  | _ :: rest => some (first, rest)

/-- A file that is read. -/
structure Source where
  name : Octets
  fd : Nat
  unread : Octets := []
  /-- Whether nothing more is to be had. -/
  isDry : Bool := false
deriving Inhabited

/-- The name by which a file that is read is known in complaints. -/
def Source.shownName (src : Source) : Octets := if src.fd = 0 then "stdin".toList else src.name

/-- A file that is written. -/
structure Outlet where
  name : Octets
  fd : Nat
  /-- Whether the end of the last line is missing. -/
  lacksEnd : Bool := false
deriving Inhabited

/-- A file that is read line by line beside the others: all of it, and what is left. -/
structure Supply where
  name : Octets
  whole : Octets
  unread : Octets
deriving Inhabited

/-- What is written after the line. -/
inductive Queued where
  | text (s : Octets)
  | file (name : Octets)
deriving Inhabited

/-- Where a range of lines stands. -/
inductive Span where
  | idle
  /-- Up to a line; lines beyond it do not belong to the range. -/
  | upTo (number : Nat)
  /-- Up to a line or the next one that is looked at. -/
  | until (number : Nat)
  /-- Up to a line that is not known yet. -/
  | onward
  /-- The range does not come again. -/
  | spent
deriving DecidableEq, Inhabited

/-- Whether more lines are to come. -/
def Span.isOpen : Span → Bool
  | idle | spent => false
  | _ => true

/-- All that is at hand. -/
structure Session where
  tool : Octets
  manner : Manner
  script : Script
  environment : Environment
  /-- Where the script ends; faults that come up later are told with it. -/
  place : Octets
  files : List Octets
  source : Option Source := none
  /-- The name of the file that has been opened last. -/
  name : Octets := ['-']
  /-- Whether all starts afresh with the next file. -/
  startsAfresh : Bool := false
  number : Nat := 0
  line : Line := {}
  kept : Line := {}
  /-- Whether something has been replaced since the line was read. -/
  hasReplaced : Bool := false
  /-- What is written after the line, the last first. -/
  queue : List Queued := []
  spans : Array Span
  /-- The last expression that was looked for. -/
  search : Option Search := none
  /-- Whether a file could not be read. -/
  hasFailed : Bool := false
  /-- What is held back, the last first, and how much that is. -/
  heldBack : List Octets := []
  heldSize : Nat := 0
  lacksEnd : Bool := false
  /-- The new text of the file that is edited in place, the last first. -/
  edited : List Octets := []
  outlets : List Outlet := []
  /-- The files that are read line by line. -/
  supplies : List Supply := []

/-- What is done in a session. -/
abbrev Editing := StateT Session Act

namespace Session

/-- Asks the machine. -/
def ask {α : Type} (x : Act α) : Editing α := StateT.lift x

/-! ### Endings -/

/-- The status of an editor that cannot go on. -/
def brokenStatus : Nat := 4

/-- Writes what has been held back, or says what was to be done. -/
def flush (doing : String) : Editing Unit := do
  let s ← get
  set { s with heldBack := [], heldSize := 0 }
  match ← ask (Act.write 1 s.heldBack.reverse.flatten) with
  | .ok _ => return
  | .error refusal =>
    ask (complain s.tool (because doing.toList refusal))
    ask (Act.exit brokenStatus)

/-- Ends with a status. -/
def leave {α : Type} (status : Nat) : Editing α := do
  flush "couldn't flush stdout"
  ask (Act.exit status)

/-- Ends with a complaint. -/
def fail {α : Type} (message : Octets) : Editing α := do
  ask (complain (← get).tool message)
  leave brokenStatus

/-- Ends with a fault of the script. -/
def failWith {α : Type} (fault : Fault) : Editing α := do
  let s ← get
  ask (complain s.tool (s.place ++ ": ".toList ++ fault.text))
  leave 1

/-! ### Writing -/

/-- How much is held back. -/
def holdLimit : Nat := 4096

/-- Writes a text, perhaps later. -/
def out (text : Octets) : Editing Unit := do
  if text.isEmpty then return
  modify fun s => { s with
    heldBack := text :: s.heldBack, heldSize := s.heldSize + text.length }
  let s ← get
  if s.manner.isPrompt || decide (holdLimit ≤ s.heldSize) then
    flush "couldn't write 1 item to stdout"

/-- Writes a text to where lines are written. -/
def put (text : Octets) : Editing Unit := do
  if (← get).manner.inPlace.isSome && (← get).source.isSome then
    modify fun s => { s with edited := text :: s.edited }
  else out text

/-- The end of the last line, if it is missing. -/
def missing (mark : Char) (lacksEnd : Bool) : Octets := if lacksEnd then [mark] else []

/-- Writes a text that has its own line end. -/
def writeText (text : Octets) : Editing Unit := do
  let s ← get
  put (missing s.manner.mark s.lacksEnd ++ text)
  modify fun s => { s with lacksEnd := false }

/-- Writes a text of lines. The last one ends as all lines do. -/
def writeLines (text : Octets) : Editing Unit := do
  let mark := (← get).manner.mark
  writeText (if text.getLast? = some '\n' then text.dropLast ++ [mark] else text)

/-- Writes a line. -/
def writeLine (l : Line) : Editing Unit := do
  let s ← get
  let mark := s.manner.mark
  put (missing mark s.lacksEnd ++ l.text ++ missing mark l.isEnded)
  modify fun s => { s with lacksEnd := !l.isEnded }

/-- Writes a line to a file. -/
def writeTo (name : Octets) (l : Line) : Editing Unit := do
  let s ← get
  let mark := s.manner.mark
  match s.outlets.find? (·.name == name) with
  | none => return
  | some outlet =>
    let text := missing mark outlet.lacksEnd ++ l.text ++ missing mark l.isEnded
    set { s with outlets := s.outlets.map fun (o : Outlet) =>
      if o.name == name then { o with lacksEnd := !l.isEnded } else o }
    if outlet.fd = 1 then out text
    else
      match ← ask (Act.write outlet.fd text) with
      | .ok _ => return
      | .error refusal => fail (because ("couldn't flush ".toList ++ name) refusal)

/-! ### Reading -/

/-- How much is read at once. -/
def blockSize : Nat := 4096

/-- A source after more has been read from it. The first argument bounds the attempts. -/
def refill (size : Nat) : Nat → Source → Editing Source
  | 0, src => return { src with isDry := true }
  | fuel + 1, src => do
    match ← ask fun k => .read src.fd size k with
    | .ok [] => return { src with isDry := true }
    | .ok block => return { src with unread := block }
    | .error .interrupted => refill size fuel src
    | .error refusal =>
      fail (because ("read error on ".toList ++ src.shownName) refusal)

/-- Takes a line from a source, if there is one left. The first number bounds how often is read;
the last argument is what has been taken, the last part first. -/
def takeLine (mark : Char) (size : Nat) : Nat → Source → List Octets →
    Editing (Option Line × Source)
  | 0, src, _ => return (none, src)
  | fuel + 1, src, done => do
    let part := src.unread.takeWhile (· != mark)
    match src.unread.drop part.length with
    | _ :: unread =>
      return (some ⟨(part :: done).reverse.flatten, true⟩, { src with unread })
    | [] =>
      let done := if part.isEmpty then done else part :: done
      if src.isDry then
        let line := if done.isEmpty then none else some ⟨done.reverse.flatten, false⟩
        return (line, { src with unread := [] })
      takeLine mark size fuel (← refill size Act.endless { src with unread := [] }) done

/-- How much is read at once in a session. -/
def readSize : Editing Nat := return if (← get).manner.isPrompt then 1 else blockSize

/-- The ranges of a script before its first line. -/
def freshSpans (s : Script) : Array Span :=
  s.steps.map fun step => if step.start = some (.line 0) then .onward else .idle

/-- Starts afresh, if it is time for it. -/
def refresh : Editing Unit := do
  if !(← get).startsAfresh then return
  modify fun s => { s with
    number := 0, kept := { s.kept with text := [] }, spans := freshSpans s.script
    supplies := s.supplies.map fun (supply : Supply) => { supply with unread := supply.whole }
    startsAfresh := false }

/-- The name of the file in which the old text of another one is kept. -/
def keptName (suffix name : Octets) : Octets :=
  let base := (name.reverse.takeWhile (· != '/')).reverse
  let folder := name.take (name.length - base.length)
  let other :=
    if suffix.contains '*' then suffix.flatMap fun c => if c = '*' then base else [c]
    else base ++ suffix
  if other.contains '/' then other else folder ++ other

/-- Puts a text into a file. -/
def writeFile (name text : Octets) : Act Unit := do
  let how : Machine.Opening := { writes := true, makes := true, empties := true }
  if let .ok fd ← fun k => .openFile name how k then
    let _ ← Act.write fd text
    let _ ← fun k => .close fd k

/-- The text of a file, if it can be opened. -/
def textOf (name : Octets) : Editing (Option Octets) := do
  match ← ask fun k => .openFile name { reads := true } k with
  | .error _ => return none
  | .ok fd =>
    match ← ask (Act.readAll fd) with
    | .error refusal => fail (because ("read error on ".toList ++ name) refusal)
    | .ok text =>
      let _ ← ask fun k => .close fd k
      return some text

/-- Is done with the file that is read. -/
def closeSource : Editing Unit := do
  let s ← get
  match s.source with
  | none => return
  | some src =>
    if src.fd ≠ 0 then let _ ← ask fun k => .close src.fd k
    if let some suffix := s.manner.inPlace then
      if !suffix.isEmpty then
        if let some old ← textOf src.name then
          ask (writeFile (keptName suffix src.name) old)
      ask (writeFile src.name s.edited.reverse.flatten)
      modify fun s => { s with edited := [], lacksEnd := false }
    modify fun s => { s with source := none, startsAfresh := s.manner.isSeparate }

/-- Opens a file. -/
def openSource (name : Octets) : Editing Unit := do
  modify fun s => { s with name }
  let s ← get
  if name = ['-'] ∧ s.manner.inPlace.isNone then set { s with source := some ⟨name, 0, [], false⟩ }
  else
    match ← ask fun k => .openFile name { reads := true } k with
    | .error refusal =>
      ask (complain s.tool (because ("can't read ".toList ++ name) refusal))
      set { s with hasFailed := true }
    | .ok fd =>
      let isFile ← (do
        match ← ask fun k => .lookAt fd k with
        | .ok (some (_, .file _)) => return true
        | _ => return false)
      if s.manner.inPlace.isSome && !isFile then
        fail ("couldn't edit ".toList ++ name ++ ": not a regular file".toList)
      set { s with source := some ⟨name, fd, [], false⟩ }

/-- Opens the next file, if there is one. -/
def openNext : Editing Bool := do
  match (← get).files with
  | [] => return false
  | name :: files =>
    modify fun s => { s with files }
    openSource name
    return true

/-- Takes the next line of all files. The first argument bounds the number of files. -/
def nextLineWithin : Nat → Editing (Option Line)
  | 0 => return none
  | fuel + 1 => do
    let s ← get
    match s.source with
    | some src =>
      let (line, src) ← takeLine s.manner.mark (← readSize) Act.endless src []
      match line with
      | some line =>
        modify fun s => { s with source := some src }
        return some line
      | none =>
        closeSource
        nextLineWithin fuel
    | none =>
      if s.files.isEmpty then return none
      refresh
      let _ ← openNext
      nextLineWithin fuel

/-- Whether no line follows. The first argument bounds the number of files. -/
def isLastWithin : Nat → Editing Bool
  | 0 => return true
  | fuel + 1 => do
    match (← get).source with
    | some src =>
      let src ← if src.unread.isEmpty && !src.isDry then
          refill (← readSize) Act.endless src
        else pure src
      modify fun s => { s with source := some src }
      if !src.unread.isEmpty then return false
      if (← get).manner.isSeparate || (← get).files.isEmpty then return true
      closeSource
      isLastWithin fuel
    | none =>
      if (← get).manner.isSeparate then return true
      if ← openNext then isLastWithin fuel
      else return true

/-- What bounds the number of files that are gone through. -/
def filesBound : Editing Nat := return 2 * (← get).files.length + 3

/-- Whether no line follows. -/
def isLast : Editing Bool := do isLastWithin (← filesBound)

/-- Writes what has been queued. -/
def writeQueue : Editing Unit := do
  let queue := (← get).queue.reverse
  if queue.isEmpty then return
  modify fun s => { s with queue := [] }
  writeText []
  for q in queue do
    match q with
    | .text text => put text
    | .file name => if let some text ← textOf name then put text

/-- Takes the next line of all files, after the queue has been written. -/
def nextLine : Editing (Option Line) := do
  writeQueue
  let line ← nextLineWithin (← filesBound)
  if line.isSome then modify fun s => { s with number := s.number + 1, hasReplaced := false }
  return line

/-- The first line of a text with its end, and what follows it. -/
def split (mark : Char) (text : Octets) : Octets × Octets :=
  let line := text.takeWhile (· != mark)
  match text.drop line.length with
  | c :: rest => (line ++ [c], rest)
  | [] => (line, [])

/-- Takes a line with its end from a file that is read line by line. -/
def lineOf (name : Octets) : Editing (Option Octets) := do
  let s ← get
  let supply ← (do
    match s.supplies.find? (·.name == name) with
    | some supply => return some supply
    | none => return (← textOf name).map fun text => ⟨name, text, text⟩)
  match supply with
  | none => return none
  | some supply =>
    let (line, unread) := split s.manner.mark supply.unread
    modify fun s => { s with
      supplies := { supply with unread } :: s.supplies.filter (·.name != name) }
    return if line.isEmpty then none else some line

end Session
end Edit
end Tools
end OrderTrials
