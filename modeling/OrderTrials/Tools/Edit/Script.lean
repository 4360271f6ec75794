import OrderTrials.Tools.Expression
/-
# Scripts of the line editor

A script is a list of steps. Each step says for which lines it is taken and what is done then. A
block is a step too: lines for which it is not taken go on behind its end.

Key definitions: `Tools.Edit.Address`, `Tools.Edit.Action`, `Tools.Edit.Step`, `Tools.Edit.Script`.
Key theorems: `Tools.Edit.Script.place?_empty`.
-/

namespace OrderTrials
namespace Tools
namespace Edit

/-- An expression to look for, and how. -/
structure Search where
  expression : Expression
  isFolded : Bool
  hasLines : Bool
deriving DecidableEq, Inhabited

/-- What a line is known by. -/
inductive Address where
  | any
  | line (number : Nat)
  /-- Lines from the first one on, so many apart. -/
  | every (first apart : Nat)
  | last
  /-- Lines that hold an expression; none stands for the last one that was looked for. -/
  | holding (search : Option Search)
  /-- So many lines after the start of a range. -/
  | after (count : Nat)
  /-- Up to the next multiple of a number. -/
  | multiple (number : Nat)
deriving DecidableEq, Inhabited

/-- In which letters a text is written. -/
inductive Lettering where
  | kept
  | small
  | capital
deriving DecidableEq, Inhabited

/-- A part of what is put in the place of a text: a text of its own, perhaps with the text of a
group after it. -/
structure Part where
  text : Octets
  group : Option Nat
  lettering : Lettering
  /-- How the first letter is written, if it is written differently. -/
  first : Option Lettering
deriving DecidableEq, Inhabited

/-- How texts are replaced. -/
structure Substitution where
  search : Option Search
  parts : List Part
  /-- Whether those after the first one that counts are replaced too. -/
  isGlobal : Bool := false
  /-- The number of the first one that counts. -/
  number : Nat := 1
  /-- Whether the line is executed as a command afterwards. -/
  executes : Bool := false
  printsBefore : Bool := false
  printsAfter : Bool := false
  /-- The file to which the line is written. -/
  target : Option Octets := none
deriving DecidableEq, Inhabited

/-- When a jump is made. -/
inductive Condition where
  | always
  | replaced
  | notReplaced
deriving DecidableEq, Inhabited

/-- What is done with a line. -/
inductive Action where
  /-- What follows up to an index is done. -/
  | block (finish : Nat)
  | jump (condition : Condition) (label : Octets)
  | append (text : Octets)
  | insert (text : Octets)
  | change (text : Octets)
  | delete
  | deleteFirst
  | next
  | nextToo
  | print
  | printFirst
  /-- The line is shown without doubt about any character, in rows of a width. -/
  | reveal (width : Option Nat)
  | number
  | name
  | clear
  | keep
  | keepToo
  | fetch
  | fetchToo
  | exchange
  | quit (status : Nat)
  | quitSilently (status : Nat)
  | readFile (name : Octets)
  /-- A file is read before the line is written. -/
  | readBefore (name : Octets)
  | readLine (name : Octets)
  | writeTo (name : Octets)
  | writeFirst (name : Octets)
  | substitute (s : Substitution)
  | translate (pairs : List (Glyph × Glyph))
  /-- A command is executed; an empty one is the line. -/
  | execute (command : Octets)
  | unknown (letter : Char)
deriving DecidableEq, Inhabited

/-- A step: for which lines it is taken, and what is done. -/
structure Step where
  start : Option Address
  finish : Option Address
  /-- Whether it is taken for all other lines. -/
  isNegated : Bool
  action : Action
deriving DecidableEq, Inhabited

/-- A script: its steps, and the indices that have labels, the last one first. -/
structure Script where
  steps : Array Step
  labels : List (Octets × Nat)
deriving Inhabited

/-- The index to which a jump leads; without a label it is the end. -/
def Script.place? (s : Script) (label : Octets) : Option Nat :=
  if label.isEmpty then some s.steps.size
  else (s.labels.find? (·.1 == label)).map (·.2)

/-- A jump without a label leads to the end. -/
theorem Script.place?_empty (s : Script) : s.place? [] = some s.steps.size := rfl

end Edit
end Tools
end OrderTrials
