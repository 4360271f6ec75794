import OrderTrials.Shell.Expansion
import OrderTrials.Shell.Jobs
/-
# Redirections

Redirections open files, copies of descriptors and documents in the place of descriptors. What was
there before is put aside under a high number and put back when the command has ended.

Key definitions: `Shell.Redirecting.prepare`, `Shell.Redirecting.apply`,
`Shell.Redirecting.restore`.
-/

namespace OrderTrials
namespace Shell
namespace Redirecting

open Action
open Machine (Act Program Refusal Opening)

/-- A redirection whose words have been expanded. -/
inductive Ready where
  | file (fd : Nat) (how : FileUse) (path : Octets)
  /-- The descriptor becomes a copy of another one, or is closed. -/
  | copy (fd : Nat) (source : Option Nat)
  | document (fd : Nat) (text : Octets)

/-- The descriptor of a redirection. -/
def Ready.fd : Ready → Nat
  | file fd _ _ | copy fd _ | document fd _ => fd

/-- Breaks off because a text is no descriptor. The message names the line up to which the script has
been read. -/
def failDescriptor {α : Type} : Action α := do
  modify fun s => { s with line := s.readLines.headD 1 }
  fail "Syntax error: Bad fd number".toList

/-- Expands the words of redirections. -/
def prepare (outputs : Expansion.Outputs) (rs : List Redirection) : Action (List Ready) :=
  rs.mapM fun r => do
    match r with
    | .file fd how name =>
      return .file fd how (← Expansion.single outputs { hasTilde := true } name)
    | .copy fd target =>
      match ← Expansion.single outputs { hasTilde := true } target with
      | ['-'] => return .copy fd none
      | [d] =>
        if d.isDigit then return .copy fd (some (d.toNat - 48))
        else failDescriptor
      | _ => failDescriptor
    | .document fd isExpanded number =>
      let pieces := (← get).documents[number]?.getD []
      if isExpanded then return .document fd (← Expansion.document outputs pieces)
      else return .document fd (Word.text pieces)

/-- Why a file cannot be opened or made, in the words of the shell. -/
def reason (isMade : Bool) : Refusal → Octets
  | .file .notFound | .file .notFolder =>
    if isMade then "Directory nonexistent".toList else "No such file".toList
  | refusal => refusal.text.toList

/-- Opens a file for a redirection. -/
def openFile (how : FileUse) (path : Octets) : Action Nat := do
  let isClobbering := how != .output || !(← hasOption 'C')
  let isDevice ← match ← lift fun k => .look path k with
    | .ok (_, .void) => pure true
    | _ => pure false
  let opening : Opening := match how with
    | .input => { reads := true }
    | .both => { reads := true, writes := true, makes := true }
    | .append => { writes := true, makes := true, appends := true }
    | .output | .clobber =>
      if isClobbering || isDevice then { writes := true, makes := true, empties := true }
      else { writes := true, makes := true, onlyNew := true }
  match ← lift fun k => .openFile path opening k with
  | .ok fd => return fd
  | .error refusal =>
    let isMade := how != .input
    let verb := if isMade then "cannot create " else "cannot open "
    fail (verb.toList ++ path ++ ": ".toList ++ reason isMade refusal)

/-- How long a document is that is written before anybody reads it. -/
def documentLimit : Nat := 4096

/-- Opens a document for reading. -/
def openDocument (text : Octets) : Action Nat := do
  let (reading, writing) ← lift fun k => .pipe k
  if text.length ≤ documentLimit then write writing text
  else
    let _ ← Jobs.fork (fun _ => pure 0) do
      let _ ← lift fun k => .close reading k
      write writing text
  let _ ← lift fun k => .close writing k
  return reading

/-- Puts a descriptor aside. -/
def putAside (fd : Nat) : Action Saved := do
  match ← lift fun k => .copy fd 10 true k with
  | .ok n =>
    let _ ← lift fun k => .close fd k
    return .at n
  | .error _ => return .closed

/-- Remembers what a descriptor was of, unless that is remembered already. -/
def remember (fd : Nat) (isSame : Bool) : Action Unit := do
  match (← get).redirected with
  | [] => return
  | frame :: frames =>
    if frame.any (·.1 == fd) then return
    let saved ← if isSame then pure .closed else putAside fd
    modify fun s => { s with redirected := ((fd, saved) :: frame) :: frames }

/-- Carries out one redirection; `isKept` says whether it can be undone. -/
def applyOne (isKept : Bool) (r : Ready) : Action Unit := do
  let fd := r.fd
  match r with
  | .copy _ none =>
    if isKept then remember fd false
    let _ ← lift fun k => .close fd k
  | .copy _ (some source) =>
    if source = fd then return
    if isKept then remember fd false
    match ← lift fun k => .copyTo source fd k with
    | .ok _ => return
    | .error refusal => fail (Octets.ofNat source ++ ": ".toList ++ refusal.text.toList)
  | r =>
    let opened ← match r with
      | .file _ how path => openFile how path
      | .document _ text => openDocument text
      | .copy .. => pure 0
    if isKept then remember fd (opened == fd)
    if opened ≠ fd then
      let _ ← lift fun k => .copyTo opened fd k
      let _ ← lift fun k => .close opened k

/-- Begins a frame of redirections that can be undone. -/
def push : Action Unit := modify fun s => { s with redirected := [] :: s.redirected }

/-- Undoes the innermost frame, or lets its redirections stand. -/
def pop (isDropped : Bool) : Action Unit := do
  match (← get).redirected with
  | [] => return
  | frame :: frames =>
    modify fun s => { s with redirected := frames }
    frame.forM fun (fd, saved) => do
      match saved with
      | .closed =>
        if !isDropped then
          let _ ← lift fun k => .close fd k
      | .at n =>
        if !isDropped then
          let _ ← lift fun k => .copyTo n fd k
        let _ ← lift fun k => .close n k

/-- Undoes all frames but the outermost ones. The first argument bounds their number. -/
def unwind (depth : Nat) : Nat → Action Unit
  | 0 => return
  | fuel + 1 => do
    if depth < (← get).redirected.length then
      pop false
      unwind depth fuel

/-- Carries out redirections, and returns a status: two if one of them failed. -/
def applySafely (rs : List Ready) : Action Nat := do
  match ← attempt (rs.forM (applyOne true)) with
  | .ok _ => return 0
  | .error .error => return 2
  | .error b => stop b

end Redirecting
end Shell
end OrderTrials
