import OrderTrials.Text.Octets
/-
# Scripts

What a script is made of: words with expansions in them, redirections, and commands that are built
from each other. The texts of documents inside a script are kept apart, under numbers, because they
stand after the commands that use them.

Key definitions: `Shell.Piece`, `Shell.Word`, `Shell.Redirection`, `Shell.Command`.
-/

namespace OrderTrials
namespace Shell

/-- What becomes of the value of a parameter. -/
inductive Change where
  /-- There is no such change. -/
  | unknown
  | keep
  /-- A word stands in for a value that is missing. -/
  | orElse
  /-- A word stands in for a value that is there. -/
  | andThen
  /-- A missing value is an error, and a word tells which. -/
  | orFail
  /-- A word stands in for a value that is missing and becomes the value. -/
  | orAssign
  /-- What a pattern fits is cut off at the start or the end. -/
  | cut (atEnd longest : Bool)
  /-- The length of the value takes its place. -/
  | count
deriving DecidableEq, Inhabited

/-- What a file is opened for. -/
inductive FileUse where
  | input
  | both
  | output
  /-- For output, whatever the file holds. -/
  | clobber
  | append
deriving DecidableEq, Inhabited

mutual

/-- A piece of a word, in the order of writing. -/
inductive Piece where
  | plain (c : Char)
  /-- A character that stands for itself. -/
  | escaped (c : Char)
  /-- A quote, which begins or ends a quoted part. -/
  | quote
  /-- The value of a parameter. Unless it is kept as it is, the pieces of a word follow, up to
  `closing`. An empty value may count as missing. -/
  | parameter (name : Octets) (change : Change) (emptyToo : Bool)
  | closing
  /-- What a command writes. -/
  | outputOf (body : Option Command)
  /-- The value of the expression that follows, up to `total`. -/
  | sum
  | total

/-- A change of what a descriptor is of. -/
inductive Redirection where
  | file (fd : Nat) (how : FileUse) (name : List Piece)
  /-- The descriptor becomes a copy of the one that a word names, or is closed. -/
  | copy (fd : Nat) (target : List Piece)
  /-- The descriptor reads a document, in which values may be put in their places. -/
  | document (fd : Nat) (isExpanded : Bool) (number : Nat)

/-- A command with the line that it starts on. -/
inductive Command where
  | simple (line : Nat) (settings words : List (List Piece)) (redirections : List Redirection)
  | pipeline (isApart : Bool) (parts : List Command)
  | redirected (line : Nat) (body : Command) (redirections : List Redirection)
  /-- A command in a child of its own. -/
  | inside (line : Nat) (body : Command) (redirections : List Redirection)
  /-- A command that nobody waits for. -/
  | apart (line : Nat) (body : Command) (redirections : List Redirection)
  | sequence (first second : Command)
  | both (first second : Command)
  | either (first second : Command)
  | negated (body : Command)
  | choice (test first : Command) (second : Option Command)
  | loop (isUntil : Bool) (test body : Command)
  | each (line : Nat) (name : Octets) (words : List (List Piece)) (body : Command)
  | cases (line : Nat) (subject : List Piece) (branches : List (List (List Piece) × Option Command))
  | function (line : Nat) (name : Octets) (body : Command)

end

/-- The pieces of a word. -/
abbrev Word := List Piece

deriving instance Inhabited for Piece
deriving instance Inhabited for Redirection
deriving instance Inhabited for Command

/-- The text of a word that has nothing but plain characters in it. -/
def Word.plain? (w : Word) : Option Octets :=
  w.mapM fun p =>
    match p with
    | .plain c => some c
    | _ => none

/-- The plain characters at the start of a word. -/
def Word.plainStart : Word → Octets
  | .plain c :: r => c :: Word.plainStart r
  | _ => []

/-- A word as one text, without quotes. -/
def Word.text (w : Word) : Octets :=
  w.filterMap fun p =>
    match p with
    | .plain c | .escaped c => some c
    | _ => none

/-- Whether a character may begin a name. -/
def startsName (c : Char) : Bool := c.isAlpha || c == '_'

/-- Whether a character may stand in a name. -/
def isNameChar (c : Char) : Bool := c.isAlphanum || c == '_'

/-- The name at the start of a text. -/
def nameOf (s : Octets) : Octets :=
  match s with
  | [] => []
  | c :: _ => if startsName c then s.takeWhile isNameChar else []

/-- Whether a text is a name. -/
def isName (s : Octets) : Bool := !s.isEmpty && (nameOf s).length == s.length

/-- The names of one character that are no letters. -/
def isSpecialName (c : Char) : Bool := ['@', '*', '#', '?', '$', '!', '-'].contains c

/-- Whether a word sets a variable: a name, an equals sign, and more. -/
def Word.isSetting (w : Word) : Bool :=
  let start := Word.plainStart w
  let name := nameOf start
  !name.isEmpty && (start.drop name.length).head? == some '='

end Shell
end OrderTrials
