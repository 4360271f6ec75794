import OrderTrials.Machine.Program
/-
# Processes

A process is a program that runs, with the descriptors through which it reads and writes, its
working folder, and what it does on signals. Descriptors that are copies of each other share one
description, and with it the place in the file up to which has been read or written.

Key definitions: `Machine.Description`, `Machine.Pipe`, `Machine.Process`, `Machine.deliver`.
Key theorems: `Machine.Pipe.contents_put`, `Machine.deliver_caught`.
-/

namespace OrderTrials
namespace Machine

/-- What can be read or written. -/
inductive Source where
  | file (p : Place)
  | folder (p : Place)
  /-- What takes everything and yields nothing. -/
  | void
  | pipe (number : Nat)
  /-- A way out of the machine. -/
  | outlet (number : Nat)
deriving DecidableEq, Inhabited

/-- What has been opened, how, and how far it has been read or written. -/
structure Description where
  source : Source
  offset : Nat
  how : Opening
deriving DecidableEq, Inhabited

/-- Bytes on their way from one process to another: those that come first, and later blocks with
the last one first. -/
structure Pipe where
  front : Octets
  back : List Octets
  size : Nat
deriving DecidableEq, Inhabited

namespace Pipe

/-- The pipe without bytes in it. -/
def empty : Pipe := ⟨[], [], 0⟩

/-- The bytes in a pipe, in order. -/
def contents (p : Pipe) : Octets := p.front ++ p.back.reverse.flatten

/-- How many bytes a pipe can hold. -/
def capacity : Nat := 65536

/-- How many bytes are written as a whole or not at all. -/
def unit : Nat := 4096

/-- The room that is left in a pipe. -/
def room (p : Pipe) : Nat := capacity - p.size

/-- A pipe after some bytes were put in. -/
def put (p : Pipe) (data : Octets) : Pipe := ⟨p.front, data :: p.back, p.size + data.length⟩

/-- What is put in comes after what is there. -/
theorem contents_put (p : Pipe) (data : Octets) : (p.put data).contents = p.contents ++ data := by
  simp [put, contents]

/-- The first bytes of a pipe, and the pipe without them. -/
def take (p : Pipe) (count : Nat) : Octets × Pipe :=
  let front := if p.front.isEmpty then p.contents else p.front
  let back := if p.front.isEmpty then [] else p.back
  let data := front.take count
  (data, ⟨front.drop count, back, p.size - data.length⟩)

end Pipe

/-- The number of an open description in a process. -/
structure Descriptor where
  number : Nat
  description : Nat
  /-- Whether it is closed when another program is started. -/
  apart : Bool
deriving DecidableEq, Inhabited

/-- A program that runs. -/
structure Process where
  number : Nat
  parent : Nat
  program : Program
  descriptors : List Descriptor
  folder : Place
  /-- When it wakes up, if it sleeps. -/
  alarm : Option Nat
  /-- What it does on signals, where that is not the standard. -/
  dispositions : List (Nat × Disposition)
  /-- The signals that were caught but not yet looked at. -/
  pending : List Nat
  stopped : Bool
deriving Inhabited

namespace Process

/-- The descriptor with a number. -/
def descriptor? (p : Process) (fd : Nat) : Option Descriptor :=
  p.descriptors.find? (·.number == fd)

/-- A process without a descriptor. -/
def without (p : Process) (fd : Nat) : Process :=
  { p with descriptors := p.descriptors.filter (·.number != fd) }

/-- A process with one more descriptor. -/
def having (p : Process) (d : Descriptor) : Process :=
  { p.without d.number with descriptors := d :: (p.without d.number).descriptors }

/-- The first number from one on that no descriptor has. -/
def freeNumber (p : Process) (least : Nat) : Nat :=
  let used := p.descriptors.map (·.number)
  ((List.range (used.length + 1)).find? fun n => !used.contains (least + n)).getD 0 + least

/-- What a process does on a signal. -/
def disposition (p : Process) (signal : Nat) : Disposition :=
  ((p.dispositions.find? (·.1 == signal)).map (·.2)).getD .standard

/-- A process that does something else on a signal. -/
def withDisposition (p : Process) (signal : Nat) (d : Disposition) : Process :=
  let others := p.dispositions.filter (·.1 != signal)
  { p with dispositions := if d = .standard then others else (signal, d) :: others }

end Process

/-! ### Signals -/

/-- The signals that are ignored by default. -/
def quietSignals : List Nat := [17, 18, 23, 28]

/-- The signals that stop a process by default. -/
def stoppingSignals : List Nat := [19, 20, 21, 22]

/-- The signals that cannot be caught or ignored. -/
def strictSignals : List Nat := [9, 19]

/-- The signal to a parent whose child has ended. -/
def childSignal : Nat := 17

/-- The signal to a process that writes where nobody reads. -/
def pipeSignal : Nat := 13

/-- The signal that lets a stopped process go on. -/
def continuingSignal : Nat := 18

/-- What a process does on a signal, where it has a choice. -/
def reaction (signal : Nat) (p : Process) : Disposition :=
  if strictSignals.contains signal then .standard else p.disposition signal

/-- A process after a signal; none if it ends of it. -/
def deliver (signal : Nat) (p : Process) : Option Process :=
  let q := { p with stopped := p.stopped && signal != continuingSignal }
  match reaction signal p with
  | .ignored => some q
  | .caught =>
    some { q with
      pending := if p.pending.contains signal then p.pending else p.pending ++ [signal] }
  | .standard =>
    if quietSignals.contains signal then some q
    else if stoppingSignals.contains signal then some { q with stopped := true }
    else none

/-- A process that catches a signal does not end of it. -/
theorem deliver_caught {signal : Nat} {p : Process} (h : reaction signal p = .caught) :
    (deliver signal p).isSome = true := by
  simp [deliver, h]

end Machine
end OrderTrials
