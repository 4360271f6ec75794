import OrderTrials.Machine.Process
/-
# Running processes

A machine runs one process at a time and grants it one request after the other. A process whose
request cannot be granted yet lets the others go first. The clock moves a little with every
request; when all processes wait, it moves on to the next time at which one of them wakes up.

Key definitions: `Machine.State`, `Machine.Verdict`, `Machine.grant`, `Machine.step`,
`Machine.run`.
Key theorems: `Machine.clock_le_passed`.
-/

namespace OrderTrials
namespace Machine

/-- The programs of a machine by their names; each is made from its words and variables. -/
abbrev Catalogue := String → Option (List Octets → Environment → Program)

/-- All that is in a machine. The process that runs is the first one. -/
structure State where
  files : FileTree
  /-- The time since the start in nanoseconds. -/
  clock : Nat
  processes : List Process
  descriptions : Array Description
  pipes : Array Pipe
  /-- What has left the machine by each way out, the last block first. -/
  output : List Octets
  complaints : List Octets
  /-- Children that nobody has waited for yet: their numbers, their parents and endings. -/
  ended : List (Nat × Nat × Ending)
  /-- How the first process has ended. -/
  ending : Option Ending
  nextNumber : Nat
  /-- How many processes in a row could not go on. -/
  idle : Nat
  /-- How many requests have been granted to the process that runs. -/
  granted : Nat
deriving Inhabited

/-- The number of the first process. -/
def firstNumber : Nat := 4242

/-- The absolute path of the folder above the working folder of a machine. -/
def parentPath : Octets := "/root".toList

/-- The absolute path of the working folder of a machine. -/
def homePath : Octets := parentPath ++ "/work".toList

namespace State

/-! ### Parts -/

/-- The description of a descriptor. -/
def description? (s : State) (p : Process) (fd : Nat) : Option (Nat × Description) :=
  (p.descriptor? fd).bind fun d => (s.descriptions[d.description]?).map fun e => (d.description, e)

/-- Whether a process has a descriptor that passes a test. -/
def holds (s : State) (test : Description → Bool) (p : Process) : Bool :=
  p.descriptors.any fun d => (s.descriptions[d.description]?).any test

/-- Whether any process can write to a source. -/
def hasWriter (s : State) (p : Process) (source : Source) : Bool :=
  (p :: s.processes).any (s.holds fun d => d.source == source && d.how.writes)

/-- Whether any process can read from a source. -/
def hasReader (s : State) (p : Process) (source : Source) : Bool :=
  (p :: s.processes).any (s.holds fun d => d.source == source && d.how.reads)

/-- A new description, under the first free number of a process from one on. -/
def opened (s : State) (p : Process) (least : Nat) (d : Description) : Nat × State × Process :=
  let fd := p.freeNumber least
  (fd, { s with descriptions := s.descriptions.push d },
    p.having ⟨fd, s.descriptions.size, false⟩)

/-- A state with another description. -/
def withDescription (s : State) (n : Nat) (d : Description) : State :=
  { s with descriptions := s.descriptions.setIfInBounds n d }

/-- A state with another pipe. -/
def withPipe (s : State) (n : Nat) (p : Pipe) : State :=
  { s with pipes := s.pipes.setIfInBounds n p }

/-- The bytes of a file. -/
def bytesAt (s : State) (p : Place) : ByteArray :=
  match s.files.get? p with
  | some (.file bytes) => bytes
  | _ => .empty

/-- A state after some bytes were written to a way out. -/
def leaving (s : State) (number : Nat) (data : Octets) : State :=
  if number = 1 then { s with output := data :: s.output }
  else { s with complaints := data :: s.complaints }

/-! ### Paths -/

/-- The path seen from the working folder of the machine, if it starts there or in the folder
above. -/
def relative (path : Octets) : String :=
  let below (start instead : Octets) : Option Octets :=
    if path = start then some instead
    else if (start ++ ['/']).isPrefixOf path then
      some (instead ++ '/' :: path.drop (start.length + 1))
    else none
  Octets.toString (((below homePath ['.']).or (below parentPath ['.', '.'])).getD path)

/-- The place that a path leads to for a process. An absolute path may start at the working folder
of the machine. -/
def locate (s : State) (p : Process) (path : Octets) : Except Refusal Place :=
  let text := relative path
  let base := if text == Octets.toString path then p.folder else []
  match s.files.locate base text with
  | .ok place => .ok place
  | .error fault => .error (.file fault)

/-- The descriptor that a path stands for. -/
def descriptorOf? (path : Octets) : Option Nat :=
  if path = "/dev/stdin".toList then some 0
  else if path = "/dev/stdout".toList then some 1
  else if path = "/dev/stderr".toList then some 2
  else
    let digits := path.drop 8
    if "/dev/fd/".toList.isPrefixOf path ∧ digits ≠ [] ∧ digits.all Char.isDigit then
      Text.readDigits digits
    else none

/-- The entry for a source. -/
def entryOf (s : State) : Source → Entry
  | .file place => (s.files.get? place).getD (.file .empty)
  | .folder _ => .folder
  | _ => .void

/-- What a path leads to for a process. -/
def look (s : State) (p : Process) (path : Octets) : Except Refusal (Place × Entry) :=
  match descriptorOf? path with
  | some fd =>
    match s.description? p fd with
    | some (_, d) => .ok ([Octets.toString path], s.entryOf d.source)
    | none => .error (.file .notFound)
  | none =>
    match s.locate p path with
    | .error refusal => .error refusal
    | .ok place =>
      match s.files.get? place with
      | some entry => .ok (place, entry)
      | none => .error (.file .notFound)

/-- The absolute path of a place. -/
def absolute (place : Place) : Octets :=
  match place with
  | "/" :: r => '/' :: Octets.join ['/'] (r.map Octets.ofString)
  | [] => homePath
  | ".." :: r =>
    if r.all (· == "..") then "/".toList
    else Octets.join ['/'] (parentPath :: r.map Octets.ofString)
  | r => Octets.join ['/'] (homePath :: r.map Octets.ofString)

/-- The names in a folder. -/
def namesIn (s : State) (folder : Place) : List Octets :=
  s.files.entries.filterMap fun (place, _) =>
    match place.getLast? with
    | some name =>
      if place.dropLast = folder ∧ name ≠ "/" then some (Octets.ofString name) else none
    | none => none

end State

/-! ### Requests -/

/-- What becomes of a request: it is granted to a process that goes on with another program, the
process ends, or it has to wait. -/
inductive Verdict where
  | goesOn (s : State) (p : Process)
  | ends (s : State) (p : Process) (ending : Ending)
  | waits
deriving Inhabited

open State

/-- A process goes on with the answer to its request. -/
def answer {α : Type} (s : State) (p : Process) (next : α → Program) (a : α) : Verdict :=
  .goesOn s { p with program := next a }

/-- A process gets a signal. -/
def signalled (s : State) (p : Process) (signal : Nat) (next : Unit → Program) : Verdict :=
  match deliver signal p with
  | some p => answer s p next ()
  | none => .ends s p (.signalled signal)

/-- Bytes with others in the place from an offset on. -/
def overwritten (bytes : ByteArray) (offset : Nat) (data : ByteArray) : ByteArray :=
  let start := bytes.extract 0 offset
  let gap : ByteArray := ⟨Array.replicate (offset - bytes.size) 0⟩
  start ++ gap ++ data ++ bytes.extract (offset + data.size) bytes.size

/-- Writes to a descriptor. -/
def grantWrite (s : State) (p : Process) (fd : Nat) (data : Octets)
    (next : Except Refusal Nat → Program) : Verdict :=
  match s.description? p fd with
  | none => answer s p next (.error .badDescriptor)
  | some (n, d) =>
    if !d.how.writes then answer s p next (.error .badDescriptor)
    else
      match d.source with
      | .void => answer s p next (.ok data.length)
      | .folder _ => answer s p next (.error (.file .isFolder))
      | .outlet number => answer (s.leaving number data) p next (.ok data.length)
      | .file place =>
        let bytes := s.bytesAt place
        let offset := if d.how.appends then bytes.size else d.offset
        let s := { s with
          files := s.files.put place (.file (overwritten bytes offset (Octets.toBytes data))) }
        answer (s.withDescription n { d with offset := offset + data.length }) p next
          (.ok data.length)
      | .pipe number =>
        if !s.hasReader p d.source then
          signalled s p pipeSignal fun _ => next (.error .broken)
        else
          let pipe := s.pipes[number]?.getD .empty
          if pipe.room = 0 ∨ (data.length ≤ Pipe.unit ∧ pipe.room < data.length) then .waits
          else
            let part := data.take pipe.room
            answer (s.withPipe number (pipe.put part)) p next (.ok part.length)

/-- Reads from a descriptor. -/
def grantRead (s : State) (p : Process) (fd count : Nat)
    (next : Except Refusal Octets → Program) : Verdict :=
  match s.description? p fd with
  | none => answer s p next (.error .badDescriptor)
  | some (n, d) =>
    if !d.how.reads then answer s p next (.error .badDescriptor)
    else
      match d.source with
      | .void | .outlet _ => answer s p next (.ok [])
      | .folder _ => answer s p next (.error (.file .isFolder))
      | .file place =>
        let data := Octets.ofBytes ((s.bytesAt place).extract d.offset (d.offset + count))
        answer (s.withDescription n { d with offset := d.offset + data.length }) p next (.ok data)
      | .pipe number =>
        let pipe := s.pipes[number]?.getD .empty
        if 0 < pipe.size then
          let (data, pipe) := pipe.take count
          answer (s.withPipe number pipe) p next (.ok data)
        else if !s.hasWriter p d.source then answer s p next (.ok [])
        else if !p.pending.isEmpty then answer s p next (.error .interrupted)
        else .waits

/-- Puts bytes back that have been read. Only a file takes them. -/
def grantPutBack (s : State) (p : Process) (fd count : Nat) (next : Unit → Program) : Verdict :=
  match s.description? p fd with
  | some (n, ⟨.file place, offset, how⟩) =>
    answer (s.withDescription n ⟨.file place, offset - count, how⟩) p next ()
  | _ => answer s p next ()

/-- What is opened at a place that a path leads to. -/
def openAt (s : State) (place : Place) (how : Opening) : Except Refusal (State × Source) :=
  match s.files.get? place with
  | some .folder =>
    if how.writes then .error (.file .isFolder) else .ok (s, .folder place)
  | some .void => .ok (s, .void)
  | some _ =>
    if how.onlyNew then .error (.file .present)
    else if how.empties then
      .ok ({ s with files := s.files.put place (.file .empty) }, .file place)
    else .ok (s, .file place)
  | none =>
    if how.makes then .ok ({ s with files := s.files.put place (.file .empty) }, .file place)
    else .error (.file .notFound)

/-- Opens a file. -/
def grantOpen (s : State) (p : Process) (path : Octets) (how : Opening)
    (next : Except Refusal Nat → Program) : Verdict :=
  let found : Except Refusal (State × Source) :=
    match descriptorOf? path with
    | some fd =>
      match s.description? p fd with
      | some (_, ⟨.file place, _, _⟩) => openAt s place how
      | some (_, d) => .ok (s, d.source)
      | none => .error (.file .notFound)
    | none =>
      let text := relative path
      if how.makes ∧ Path.endsOpen text ∧ Path.steps text ≠ [] then
        match s.locate p (Octets.ofString (Path.closed text)) with
        | .error refusal => .error refusal
        | .ok _ => .error (.file .isFolder)
      else
        match s.locate p path with
        | .error refusal => .error refusal
        | .ok place => openAt s place how
  match found with
  | .error refusal => answer s p next (.error refusal)
  | .ok (s, source) =>
    let (fd, s, p) := s.opened p 0 ⟨source, 0, how⟩
    answer s p next (.ok fd)

/-- Waits for a child. -/
def grantWait (s : State) (p : Process) (child : Option Nat) (patient : Bool)
    (next : Except Refusal (Option (Nat × Ending)) → Program) : Verdict :=
  let isMeant (number parent : Nat) := parent == p.number && child.all (· == number)
  match s.ended.find? fun e => isMeant e.1 e.2.1 with
  | some (number, _, ending) =>
    answer { s with ended := s.ended.filter (·.1 != number) } p next (.ok (some (number, ending)))
  | none =>
    if !s.processes.any fun q => isMeant q.number q.parent then
      answer s p next (.error .noChild)
    else if !patient then answer s p next (.ok none)
    else if !p.pending.isEmpty then answer s p next (.error .interrupted)
    else .waits

/-- How long a word may be that is handed to a program. -/
def wordLimit : Nat := 131071

/-- Puts another program in the place of the one that runs. -/
def grantExec (c : Catalogue) (s : State) (p : Process) (path : Octets) (arguments : List Octets)
    (environment : Environment) (next : Refusal → Program) : Verdict :=
  match s.look p path with
  | .error refusal => answer s p next refusal
  | .ok (_, .program name) =>
    if arguments.any fun a => decide (wordLimit < a.length) then answer s p next .tooLong
    else
      match c name with
      | none => answer s p next .denied
      | some make =>
        .goesOn s { p with
          program := make arguments environment
          descriptors := p.descriptors.filter (!·.apart)
          dispositions := p.dispositions.filter (·.2 == .ignored)
          pending := [] }
  | .ok _ => answer s p next .denied

/-- Sleeps until the alarm. -/
def grantSleep (s : State) (p : Process) (duration : Nat) (next : Except Refusal Unit → Program) :
    Verdict :=
  match p.alarm with
  | none => .goesOn s { p with alarm := some (s.clock + duration) }
  | some time =>
    if time ≤ s.clock then answer s { p with alarm := none } next (.ok ())
    else if !p.pending.isEmpty then answer s { p with alarm := none } next (.error .interrupted)
    else .waits

/-- A process that has ended: its parent may wait for it, and its children have no parent. -/
def bury (s : State) (p : Process) (ending : Ending) : State :=
  let hasParent := s.processes.any (·.number == p.parent)
  let orphaned := s.ended.filter (·.2.1 != p.number)
  { s with
    processes := s.processes.map fun q =>
      let q := if q.parent = p.number then { q with parent := 1 } else q
      if q.number = p.parent then (deliver childSignal q).getD q else q
    ended := if hasParent then orphaned ++ [(p.number, p.parent, ending)] else orphaned
    ending := if p.number = firstNumber then some ending else s.ending }

/-- Sends a signal. -/
def grantSignal (s : State) (p : Process) (target : Int) (number : Nat)
    (next : Except Refusal Unit → Program) : Verdict :=
  if target = p.number then
    if number = 0 then answer s p next (.ok ())
    else signalled s p number fun _ => next (.ok ())
  else
    match s.processes.find? fun q => (q.number : Int) == target with
    | some q =>
      if number = 0 then answer s p next (.ok ())
      else
        match deliver number q with
        | some q =>
          let s := { s with processes := s.processes.map fun o =>
            if o.number = q.number then q else o }
          answer s p next (.ok ())
        | none =>
          let s := { s with processes := s.processes.filter (·.number != q.number) ++ [p] }
          let s := bury s q (.signalled number)
          let p := (s.processes.find? (·.number == p.number)).getD p
          answer { s with processes := s.processes.filter (·.number != p.number) } p next (.ok ())
    | none =>
      if s.ended.any fun e => (e.1 : Int) == target then answer s p next (.ok ())
      else answer s p next (.error .noProcess)

/-- Grants the request of a process beside the processes of a state, if possible. -/
def grant (c : Catalogue) (s : State) (p : Process) : Verdict :=
  match p.program with
  | .exit status => .ends s p (.exited (status % 256))
  | .rest next => answer s p next ()
  | .write fd data next => grantWrite s p fd data next
  | .read fd count next => grantRead s p fd count next
  | .putBack fd count next => grantPutBack s p fd count next
  | .openFile path how next => grantOpen s p path how next
  | .close fd next =>
    if (p.descriptor? fd).isSome then answer s (p.without fd) next (.ok ())
    else answer s p next (.error .badDescriptor)
  | .copy fd least apart next =>
    match p.descriptor? fd with
    | none => answer s p next (.error .badDescriptor)
    | some d =>
      let number := p.freeNumber least
      answer s (p.having ⟨number, d.description, apart⟩) next (.ok number)
  | .copyTo fd target next =>
    match p.descriptor? fd with
    | none => answer s p next (.error .badDescriptor)
    | some d =>
      let p := if fd = target then p else p.having ⟨target, d.description, false⟩
      answer s p next (.ok ())
  | .pipe next =>
    let source := Source.pipe s.pipes.size
    let s := { s with pipes := s.pipes.push .empty }
    let (reading, s, p) := s.opened p 0 ⟨source, 0, ⟨true, false, false, false, false, false⟩⟩
    let (writing, s, p) := s.opened p 0 ⟨source, 0, ⟨false, true, false, false, false, false⟩⟩
    answer s p next (reading, writing)
  | .fork child next =>
    let number := s.nextNumber
    let q := { p with
      number, parent := p.number, program := child (), alarm := none, pending := [] }
    answer { s with processes := s.processes ++ [q], nextNumber := number + 1 } p next number
  | .wait child patient next => grantWait s p child patient next
  | .exec path arguments environment next => grantExec c s p path arguments environment next
  | .sleep duration next => grantSleep s p duration next
  | .signal target number next => grantSignal s p target number next
  | .handle number disposition next =>
    answer s (p.withDisposition number disposition) next (p.disposition number)
  | .caught next => answer s { p with pending := [] } next p.pending
  | .identity next => answer s p next (p.number, p.parent)
  | .look path next => answer s p next (s.look p path)
  | .lookAt fd next =>
    match s.description? p fd with
    | none => answer s p next (.error .badDescriptor)
    | some (_, d) =>
      answer s p next (.ok (match d.source with
        | .file place | .folder place => some (place, s.entryOf d.source)
        | .void => some ([], .void)
        | .pipe _ | .outlet _ => none))
  | .list path next =>
    match s.look p path with
    | .error refusal => answer s p next (.error refusal)
    | .ok (place, .folder) => answer s p next (.ok (s.namesIn place))
    | .ok _ => answer s p next (.error (.file .notFolder))
  | .enter path next =>
    match s.look p path with
    | .error refusal => answer s p next (.error refusal)
    | .ok (place, .folder) => answer s { p with folder := place } next (.ok ())
    | .ok _ => answer s p next (.error (.file .notFolder))
  | .whereabouts next => answer s p next (absolute p.folder)

/-! ### Steps -/

/-- How many nanoseconds a request takes. -/
def tick : Nat := 1000

/-- How many requests a process is granted before others may go on. -/
def turnLimit : Nat := 20000

/-- The first time at which a process wakes up. -/
def nextAlarm? (processes : List Process) : Option Nat :=
  (processes.filterMap fun p => if p.stopped then none else p.alarm).min?

/-- The clock after everybody has waited for a time. -/
def passed (s : State) (time : Nat) : State := { s with clock := max s.clock time, idle := 0 }

theorem clock_le_passed (s : State) (time : Nat) : s.clock ≤ (passed s time).clock :=
  Nat.le_max_left ..

/-- Lets the first process wait and the others go on. -/
def postponed (s : State) (p : Process) : Option State :=
  let t := { s with processes := s.processes ++ [p], idle := s.idle + 1, granted := 0 }
  if t.idle < t.processes.length then some t
  else (nextAlarm? t.processes).map (passed t)

/-- Grants one request; none if nothing can ever happen again. -/
def step (c : Catalogue) (s : State) : Option State :=
  match s.processes with
  | [] => none
  | p :: others =>
    let s := { s with processes := others }
    if p.stopped then postponed s p
    else
      match grant c s p with
      | .goesOn s p =>
        let s := { s with clock := s.clock + tick, idle := 0, granted := s.granted + 1 }
        if s.granted < turnLimit then some { s with processes := p :: s.processes }
        else some { s with processes := s.processes ++ [p], granted := 0 }
      | .ends s p ending => some { bury s p ending with idle := 0, granted := 0 }
      | .waits => postponed s p

/-- Runs a machine until it is finished, until a time, or for so many requests. -/
def run (c : Catalogue) (isFinished : State → Bool) (time : Option Nat) : Nat → State → State
  | 0, s => s
  | fuel + 1, s =>
    if isFinished s || time.any fun t => decide (t ≤ s.clock) then s
    else
      match step c s with
      | none => s
      | some s => run c isFinished time fuel s

end Machine
end OrderTrials
