import OrderTrials.Digest
import OrderTrials.Space.Basic
import OrderTrials.Text.Blank
/-
# Configurations

A configuration gives a level to each option of a space. It may name one option as the one under
investigation, the one in which it was made to differ from a seed. A configuration is read from a
command line of options and values, and is written in two ways: in full, and as the arguments
that leave out every option at its default.

Key definitions: `Configuration`, `Configuration.complete`, `Configuration.parse`,
`Configuration.text`, `Configuration.arguments`, `Configuration.differing`.
-/

namespace OrderTrials

/-- Levels by the names of their options. -/
abbrev Assignment := Table Level

/-- What is wrong with the text of a configuration. -/
inductive SeedFault where
  /-- There is no option of this name. -/
  | unknownOption (name : String)
  /-- The value is none of the option. -/
  | invalidValue (option value reason : String)
  /-- A value stands where an option must. -/
  | unexpectedToken (token : String)
  /-- The space cannot complete the configuration. -/
  | space (fault : SpaceError)
deriving DecidableEq, Inhabited

/-- A fault of a text in words. -/
def SeedFault.message : SeedFault → String
  | unknownOption name => "Unknown option '" ++ name ++ "' in configuration string"
  | invalidValue option value reason =>
    "Invalid value '" ++ value ++ "' for option '" ++ option ++ "': " ++ reason
  | unexpectedToken token => "Expected an option name but found '" ++ token ++ "'"
  | space fault => fault.message

/-- A level for each option, and the option under investigation. -/
structure Configuration where
  assignment : Assignment
  investigated : Option String
deriving DecidableEq, Inhabited

namespace Configuration

/-- The level of an option that is not followed by a value. -/
def flagValue : String := "TRUE"

/-- Gives every option that has no level its default. -/
def complete (s : Space) (given : Assignment) : Except SpaceError Configuration := do
  let full ← s.dimensions.values.foldlM (fun (a : Assignment) d => do
    if a.contains d.name then return a
    else return a.insert d.name (← d.defaultLevel)) given
  return ⟨full, none⟩

/-- The configuration with every option at its default. -/
def default (s : Space) : Except SpaceError Configuration :=
  complete s .empty

/-- The name of the option that a word starts with two dashes for. -/
def optionName? (word : String) : Option String :=
  match word.toList with
  | '-' :: '-' :: r => some (String.ofList r)
  | _ => none

/-- The level that a value names on a dimension. A placeholder is no value of an integer. -/
def levelOf (d : Dimension) (name value : String) : Except SeedFault Level :=
  match d.level value with
  | .error fault => .error (.invalidValue name value fault.message)
  | .ok l =>
    if d.isInteger && l.isPlaceholder then
      .error (.invalidValue name value "placeholder levels only appear in partial orders")
    else .ok l

/-- Enters the level that a value names into an assignment. -/
def assign (s : Space) (a : Assignment) (name value : String) : Except SeedFault Assignment := do
  match s.dimension? name with
  | none => throw (.unknownOption name)
  | some d => return a.insert d.name (← levelOf d name value)

/-- Reads options, each with the value after it or as a flag, into an assignment. -/
def readWords (s : Space) (a : Assignment) : List String → Except SeedFault Assignment
  | [] => .ok a
  | [word] =>
    match optionName? word with
    | none => .error (.unexpectedToken word)
    | some name => assign s a name flagValue
  | word :: next :: rest =>
    match optionName? word with
    | none => .error (.unexpectedToken word)
    | some name =>
      if (optionName? next).isSome then
        match assign s a name flagValue with
        | .error fault => .error fault
        | .ok a => readWords s a (next :: rest)
      else
        match assign s a name next with
        | .error fault => .error fault
        | .ok a => readWords s a rest

/-- The configuration that a text describes; options that it leaves out are at their defaults. -/
def parse (s : Space) (text : String) : Except SeedFault Configuration := do
  let given ← readWords s .empty (Text.words text)
  match complete s given with
  | .ok c => return c
  | .error fault => throw (.space fault)

/-- The level of an option. -/
def get? (c : Configuration) (option : String) : Option Level :=
  c.assignment.get? option

/-- The levels in the order of their options. -/
def levels (c : Configuration) : List Level := c.assignment.values

/-- The configuration with a level put in, whose option is then the one under investigation. -/
def mutated (c : Configuration) (l : Level) : Configuration :=
  ⟨c.assignment.insert l.option l, some l.option⟩

/-- The options of which `c` has a level that `other` does not have. -/
def differing (c other : Configuration) : List String :=
  (c.assignment.entries.filter fun e => other.get? e.1 != some e.2).map (·.1)

/-- The full text of a configuration. -/
def text (c : Configuration) : String :=
  " ".intercalate (c.assignment.entries.map fun e => "--" ++ e.1 ++ " " ++ e.2.name)

/-- Whether a level is the default of its option in a space. -/
def isDefault (s : Space) (l : Level) : Bool :=
  match s.dimension? l.option with
  | none => false
  | some d => d.default? == some l.name

/-- The arguments that one level makes. -/
def argumentsOf (l : Level) : List String :=
  ("--" ++ l.option) :: if l.name = flagValue then [] else [l.name]

/-- The command-line arguments for the levels that are not defaults. -/
def arguments (c : Configuration) (s : Space) : List String :=
  (c.levels.filter fun l => !isDefault s l).flatMap argumentsOf

/-- A short name for the assignment: the digest of the full text. -/
def fingerprint (c : Configuration) : String := Digest.hex c.text

/-- The names of the levels by option. -/
def levelNames (c : Configuration) : Table String := c.assignment.map (·.name)

end Configuration
end OrderTrials
