import OrderTrials.Shell.Builtin.Words
/-
# Builtins that control what runs next

The end of loops, functions and the shell, scripts inside scripts, and the arguments of a script.

Key definitions: `Shell.Builtin.leaveLoop`, `Shell.Builtin.source`, `Shell.Builtin.evaluateText`.
-/

namespace OrderTrials
namespace Shell
namespace Builtin

open Action
open Machine (Act Program Refusal)

/-- Does nothing, with a status. -/
def constant (status : Nat) (_ : List Octets) : Action Nat := return status

/-- Skips to the end of loops or to their next round. -/
def leaveLoop (skip : Skip) (words : List Octets) : Action Nat := do
  let n ← match words with
    | [] => pure 1
    | text :: _ => do
      let n ← numberOf text
      if n = 0 then failNumber text
      pure n
  let loops := (← get).loops
  if 0 < loops then modify fun s => { s with skip, skipCount := min n loops }
  return 0

/-- Skips to the end of a function or of a script that was called. -/
def returnFrom (words : List Octets) : Action Nat := do
  match words with
  | [] =>
    modify fun s => { s with skip := .functionKept }
    return (← get).status
  | text :: _ =>
    let status ← numberOf text
    modify fun s => { s with skip := .function }
    return status

/-- Ends the shell. -/
def exit (words : List Octets) : Action Nat := do
  match words with
  | [] => stop .left
  | text :: _ =>
    let status ← numberOf text
    modify fun s => { s with savedStatus := some status }
    stop .left

/-- Runs its words as a script. -/
def evaluateText (ev : Evaluate) (mode : Mode) (words : List Octets) : Action Nat := do
  let inside : Evaluate := fun m c => ev { m with isTested := m.isTested || mode.isTested } c
  match words with
  | [] => return 0
  | words => runText inside false (Octets.join [' '] words)

/-- Puts a program in the place of the shell. -/
def replace (words : List Octets) : Action Nat := do
  match ← readNone words with
  | [] => return 0
  | words =>
    replaceBy (← valueOf "PATH") words
    return 0

/-- Finds the file of a script in the folders of a path. -/
def findScript (name : Octets) : List Octets → Action Octets
  | [] => fail (name ++ ": not found".toList)
  | folder :: rest => do
    match ← lift fun k => .look (folder ++ name) k with
    | .ok (_, .file _) | .ok (_, .program _) => return folder ++ name
    | _ => findScript name rest

/-- The text of a script in a file. -/
def readScript (file : Octets) : Action Octets := do
  match ← lift fun k => .openFile file { reads := true } k with
  | .error refusal =>
    fail ("cannot open ".toList ++ file ++ ": ".toList ++ Redirecting.reason false refusal)
  | .ok fd =>
    let text ← lift (Act.readAll fd)
    let _ ← lift fun k => .close fd k
    match text with
    | .ok text => return text.filter (· != '\x00')
    | .error _ => return []

/-- Runs a script in a file. -/
def source (ev : Evaluate) (words : List Octets) : Action Nat := do
  match ← readNone words with
  | [] => return 0
  | name :: _ =>
    let file ← if name.contains '/' then pure name
      else findScript name (searchPath (← valueOf "PATH"))
    let text ← readScript file
    modify fun s => { s with builtin := some file }
    let status ← runText ev false text
    modify fun s => { s with
      skip := if s.skip = .function ∨ s.skip = .functionKept then .nothing else s.skip }
    return status

/-- Drops the first arguments. -/
def shift (words : List Octets) : Action Nat := do
  let n ← match words with
    | [] => pure 1
    | text :: _ => numberOf text
  let s ← get
  if s.arguments.length < n then fail "can't shift that many".toList
  set { s with arguments := s.arguments.drop n, optionIndex := 1, optionOffset := none }
  return 0

/-- Lists variables as settings. -/
def listVariables (start : Octets) (isListed : Variable → Bool) : Action Unit := do
  (← get).bindings.forM fun (name, v) => do
    if isListed v then
      emitLine (start ++ name ++ match v.value with
        | some value => '=' :: quoted value
        | none => [])

/-- Sets options and arguments, or lists the variables. -/
def setUp (words : List Octets) : Action Nat := do
  if words.isEmpty then
    listVariables [] fun v => v.value.isSome
    return 0
  let setup ← readSetup false (words.length + 1) words
  noticeOptions
  if !setup.rest.isEmpty ∨ setup.isMarked then
    modify fun s => { s with arguments := setup.rest, optionIndex := 1, optionOffset := none }
  return 0

/-- Shows the times that have been used. -/
def times (_ : List Octets) : Action Nat := do
  let line := "0m0.000000s 0m0.000000s".toList
  emitLine line
  emitLine line
  return 0

end Builtin
end Shell
end OrderTrials
