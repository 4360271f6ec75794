/-
# Paths

A path is a text of names with slashes between them. Joining follows the rule of a change of
folder: an absolute path replaces what stands before it. A place is what a path leads to, seen
from the working folder: the names on the way to it, without detours. Whether the detours can be
made is not said here.

Key definitions: `Path.join`, `Path.withExtension`, `Path.placeFrom`, `Path.place`, `Path.steps`.
Key theorems: `Path.join_of_isAbsolute`, `Path.placeFrom_of_isAbsolute`.
-/

namespace OrderTrials

/-- The names on the way to a file or folder. The root of all absolute paths is named `/`. -/
abbrev Place := List String

namespace Path

/-- Whether a path starts at the root. -/
def isAbsolute (p : String) : Bool := p.toList.head? == some '/'

/-- The path `p` seen from `base`. -/
def join (base p : String) : String :=
  if isAbsolute p || base.isEmpty then p
  else if base.toList.getLast? == some '/' then base ++ p
  else base ++ "/" ++ p

theorem join_of_isAbsolute (base : String) {p : String} (h : isAbsolute p = true) :
    join base p = p := by
  simp [join, h]

/-- The texts between the slashes of a path. -/
def segments : List Char → List (List Char)
  | [] => [[]]
  | '/' :: r => [] :: segments r
  | c :: r =>
    match segments r with
    | [] => [[c]]
    | w :: ws => (c :: w) :: ws

/-- Follows one segment of a path from a place; two dots lead back. -/
def follow (from_ : Place) (segment : List Char) : Place :=
  if segment = [] ∨ segment = ['.'] then from_
  else if segment = ['.', '.'] then
    match from_.getLast? with
    | none => [".."]
    | some "/" => from_
    | some ".." => from_ ++ [".."]
    | some _ => from_.dropLast
  else from_ ++ [String.ofList segment]

/-- The place that a path starts from, seen from another place. -/
def origin (base : Place) (p : String) : Place := if isAbsolute p then ["/"] else base

/-- The place that a path leads to, seen from another place. -/
def placeFrom (base : Place) (p : String) : Place :=
  (segments p.toList).foldl follow (origin base p)

/-- The place that a path leads to, seen from the working folder. -/
def place (p : String) : Place := placeFrom [] p

/-- An absolute path leads to the same place from everywhere. -/
theorem placeFrom_of_isAbsolute {p : String} (h : isAbsolute p = true) (a b : Place) :
    placeFrom a p = placeFrom b p := by
  simp [placeFrom, origin, h]

/-- The segments of a path that lead on. -/
def steps (p : String) : List (List Char) :=
  (segments p.toList).filter fun s => s != [] && s != ['.']

/-- The last name of a path, up to the last dot that has something before it. -/
def stem (name : List Char) : List Char :=
  let r := name.reverse.dropWhile (· != '.')
  match r with
  | [] => name
  | _ :: before => if before.isEmpty then name else before.reverse

/-- What stands after the last slash of a path. -/
def leaf (p : String) : List Char := (p.toList.reverse.takeWhile (· != '/')).reverse

/-- What stands before the leaf of a path, with the slash. -/
def folder (p : String) : String := String.ofList (p.toList.reverse.dropWhile (· != '/')).reverse

/-- The path with another extension in place of its own, if it has one. -/
def withExtension (p extension : String) : String :=
  folder p ++ String.ofList (stem (leaf p) ++ '.' :: extension.toList)

/-- How many bytes a name may have. -/
def nameLimit : Nat := 255

/-- How many bytes a path must not have. -/
def lengthLimit : Nat := 4096

/-- Whether a segment of a path is too long for a name. -/
def isTooLong (segment : List Char) : Bool :=
  decide (nameLimit < (String.ofList segment).utf8ByteSize)

/-- Whether a path ends with a slash, so that it can only lead to a folder. -/
def endsOpen (p : String) : Bool := p.toList.getLast? == some '/'

/-- A path without the slashes at its end. -/
def closed (p : String) : String :=
  String.ofList (p.toList.reverse.dropWhile (· == '/')).reverse

end Path
end OrderTrials
