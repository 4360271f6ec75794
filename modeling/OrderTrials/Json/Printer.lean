import OrderTrials.Json.Value
/-
# JSON values as text

Two layouts: compact, with nothing between the tokens, and pretty, with one item per line and two
blanks per level. A string has an escape for a quote, a backslash and a control character below
the space, and all other characters as they are.

Key definitions: `Json.quoted`, `Json.Value.compact`, `Json.Value.pretty`.
-/

namespace OrderTrials
namespace Json

/-- A character inside a string. -/
def escape (c : Char) : List Char :=
  if c = '"' then ['\\', '"']
  else if c = '\\' then ['\\', '\\']
  else if c = '\x08' then ['\\', 'b']
  else if c = '\x0c' then ['\\', 'f']
  else if c = '\n' then ['\\', 'n']
  else if c = '\r' then ['\\', 'r']
  else if c = '\t' then ['\\', 't']
  else if c.toNat < 0x20 then ['\\', 'u', '0', '0'] ++ Text.hexDigits 2 c.toNat
  else [c]

/-- A string between quotes. -/
def quoted (s : String) : List Char :=
  '"' :: s.toList.flatMap escape ++ ['"']

/-- A new line at a level of nesting. -/
def newLine (level : Nat) : List Char :=
  '\n' :: List.replicate (2 * level) ' '

namespace Value

/-- The text of a value that is neither a list nor an object. -/
def leafText : Value → List Char
  | null => ['n', 'u', 'l', 'l']
  | bool true => ['t', 'r', 'u', 'e']
  | bool false => ['f', 'a', 'l', 's', 'e']
  | whole n => (Text.showInteger n).toList
  | double d => d.dataText.toList
  | text s => quoted s
  | list _ => []
  | object _ => []

mutual

/-- The compact text of a value. -/
def compactChars : Value → List Char
  | list items => '[' :: compactItems items ++ [']']
  | object members => '{' :: compactMembers members ++ ['}']
  | v => v.leafText

/-- The compact texts of items, with commas between them. -/
def compactItems : List Value → List Char
  | [] => []
  | [v] => compactChars v
  | v :: r => compactChars v ++ ',' :: compactItems r

/-- The compact texts of members, with commas between them. -/
def compactMembers : List (String × Value) → List Char
  | [] => []
  | [(k, v)] => quoted k ++ ':' :: compactChars v
  | (k, v) :: r => quoted k ++ ':' :: compactChars v ++ ',' :: compactMembers r

end

mutual

/-- The pretty text of a value at a level of nesting. -/
def prettyChars (level : Nat) : Value → List Char
  | list [] => ['[', ']']
  | list (v :: r) => '[' :: prettyItems (level + 1) (v :: r) ++ newLine level ++ [']']
  | object [] => ['{', '}']
  | object (m :: r) => '{' :: prettyMembers (level + 1) (m :: r) ++ newLine level ++ ['}']
  | v => v.leafText

/-- The pretty texts of items, each on a line of its own. -/
def prettyItems (level : Nat) : List Value → List Char
  | [] => []
  | [v] => newLine level ++ prettyChars level v
  | v :: r => newLine level ++ prettyChars level v ++ ',' :: prettyItems level r

/-- The pretty texts of members, each on a line of its own. -/
def prettyMembers (level : Nat) : List (String × Value) → List Char
  | [] => []
  | [(k, v)] => newLine level ++ quoted k ++ ':' :: ' ' :: prettyChars level v
  | (k, v) :: r =>
    newLine level ++ quoted k ++ ':' :: ' ' :: prettyChars level v ++ ',' :: prettyMembers level r

end

/-- The compact text of a value. -/
def compact (v : Value) : String := String.ofList v.compactChars

/-- The pretty text of a value. -/
def pretty (v : Value) : String := String.ofList (v.prettyChars 0)

end Value
end Json
end OrderTrials
