import OrderTrials.Text.Numeral
/-
# Faults of a configuration space

What can be wrong with a configuration space or with a question about it, and how each fault is
told.

Key definitions: `SpaceError`, `SpaceError.message`.
-/

namespace OrderTrials

/-- The ways in which a configuration space, or a question about one, is at fault. -/
inductive SpaceError where
  /-- The option has no level of this name. -/
  | unregisteredLevel (option level : String)
  /-- The level is one of another option. -/
  | foreignLevel (option levelOption level : String)
  /-- The option has no levels at all. -/
  | noLevels (option : String)
  /-- The number lies outside the range of the option. -/
  | outOfRange (option : String) (value least greatest : Int)
  /-- The option has no default level. -/
  | missingDefault (option : String)
  /-- There is no option of this name. -/
  | unknownOption (option : String)
  /-- Two options have this name. -/
  | duplicateOption (option : String)
  /-- The range of an integer option is empty. -/
  | invalidRange (option : String) (least greatest : Int)
  /-- The artifact as a whole cannot be used. -/
  | artifact (reason : String)
deriving DecidableEq, Inhabited

namespace SpaceError

/-- The text of a range. -/
def rangeText (least greatest : Int) : String :=
  "[" ++ Text.showInteger least ++ ", " ++ Text.showInteger greatest ++ "]"

/-- A fault in words. -/
def message : SpaceError → String
  | unregisteredLevel option level =>
    "Level '" ++ level ++ "' is not registered on option '" ++ option ++ "'"
  | foreignLevel option levelOption level =>
    "Level " ++ level ++ " belongs to option '" ++ levelOption ++ "', not '" ++ option ++ "'"
  | noLevels option => "Option '" ++ option ++ "' has no registered levels"
  | outOfRange option value least greatest =>
    "Value " ++ Text.showInteger value ++ " is outside the range " ++ rangeText least greatest ++
      " of option '" ++ option ++ "'"
  | missingDefault option => "Option '" ++ option ++ "' declares no default level"
  | unknownOption option => "Unknown option '" ++ option ++ "'"
  | duplicateOption option => "Option '" ++ option ++ "' is declared more than once"
  | invalidRange option least greatest =>
    "Integer option '" ++ option ++ "' has an invalid range " ++ rangeText least greatest
  | artifact reason => "Configuration space artifact error: " ++ reason

end SpaceError
end OrderTrials
