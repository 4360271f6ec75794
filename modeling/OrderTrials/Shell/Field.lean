import OrderTrials.Shell.Pattern
import OrderTrials.Text.Octets
/-
# Fields

A word that has been expanded is a row of stretches. What stood in the word as it is makes up one
kind of stretch; what was put in the place of a parameter, a command or a sum makes up another, and
only that is broken up into fields at separators.

Key definitions: `Shell.Sign`, `Shell.Stretch`, `Shell.Fields`, `Shell.breakUp`.
Key theorems: `Shell.breakUp_fixed`.
-/

namespace OrderTrials
namespace Shell

/-- A character of an expanded word, or the place of a quote. -/
inductive Sign where
  | bare (c : Char)
  /-- A character that stands for itself. -/
  | guarded (c : Char)
  | quote
deriving DecidableEq, Inhabited

/-- The character of a sign. -/
def Sign.char? : Sign → Option Char
  | bare c | guarded c => some c
  | quote => none

/-- Where a stretch is broken up. -/
inductive Breaking where
  | nowhere
  /-- At separators. -/
  | atSeparators
  /-- Between arguments. -/
  | betweenArguments
deriving DecidableEq, Inhabited

/-- Signs that are treated alike. -/
structure Stretch where
  breaking : Breaking
  signs : List Sign
deriving DecidableEq, Inhabited

/-- The text of signs. -/
def textOf (signs : List Sign) : Octets := signs.filterMap Sign.char?

/-- All signs of some stretches. -/
def signsOf (stretches : List Stretch) : List Sign := stretches.flatMap (·.signs)

/-- Signs as a field, in which guarded characters stand for themselves. -/
def fieldOf (signs : List Sign) : Field :=
  signs.filterMap fun s =>
    match s with
    | .bare c => some (c, false)
    | .guarded c => some (c, true)
    | .quote => none

/-- The mark between arguments. -/
def argumentMark : Char := '\x00'

/-- The separators that are blanks. -/
def blanks : Octets := [' ', '\t', '\n', argumentMark]

/-- Fields in the making. -/
structure Fields where
  /-- The finished fields, the last one first. -/
  finished : List (List Sign)
  /-- The signs of the next field, the last one first. -/
  current : List Sign
  /-- Whether blanks have just ended a field. -/
  afterBlank : Bool
  /-- Whether the last stretch was broken up between arguments only. -/
  betweenArguments : Bool
  /-- How many fields may still be finished before the last one, if there is a limit. -/
  left : Option Nat
  /-- The length of the last field without the separators at its end. -/
  kept : Option Nat
deriving Inhabited

namespace Fields

/-- No fields yet. -/
def start (limit : Option Nat) : Fields := ⟨[], [], false, false, limit, none⟩

/-- The next sign of the last field. -/
def nextOfLast (isSeparator isBlank : Bool) (f : Fields) (s : Sign) : Fields :=
  let kept := if isBlank then f.kept.or (some f.current.length)
    else if isSeparator && f.afterBlank then f.kept
    else none
  { f with current := s :: f.current, kept, afterBlank := f.afterBlank && isBlank }

/-- The next sign of a stretch that is broken up at `separators`. -/
def next (separators : Octets) (argumentsBefore : Bool) (f : Fields) (s : Sign) : Fields :=
  let isSeparator := s.char?.any fun c => separators.contains c || c == argumentMark
  let isBlank := isSeparator && s.char?.any blanks.contains
  if f.left = some 0 then nextOfLast isSeparator isBlank f s
  else if f.afterBlank then
    if isBlank then { f with current := [] }
    else { f with current := if isSeparator then [] else [s], afterBlank := false }
  else if isSeparator then
    let afterBlank := isBlank && !argumentsBefore && !f.betweenArguments
    let left := f.left.map (· - 1)
    if f.current.isEmpty ∧ afterBlank then f
    else if left = some 0 then
      { f with left, afterBlank, kept := some f.current.length, current := s :: f.current }
    else { f with finished := f.current.reverse :: f.finished, current := [], afterBlank, left }
  else { f with current := s :: f.current }

/-- The next stretch. -/
def add (separators : Octets) (f : Fields) (s : Stretch) : Fields :=
  match s.breaking with
  | .nowhere => { f with current := s.signs.reverse ++ f.current }
  | .atSeparators =>
    s.signs.foldl (next separators f.betweenArguments)
      { f with afterBlank := false, betweenArguments := false }
  | .betweenArguments =>
    s.signs.foldl (next [] f.betweenArguments)
      { f with afterBlank := false, betweenArguments := true }

/-- All fields. An empty one at the end counts only between arguments. -/
def all (f : Fields) : List (List Sign) :=
  let last := f.current.reverse
  let last := match f.kept with
    | some n => last.take n
    | none => last
  if f.betweenArguments || !last.isEmpty then (last :: f.finished).reverse
  else f.finished.reverse

end Fields

/-- The fields of an expanded word, up to a limit. -/
def breakUp (separators : Octets) (limit : Option Nat) (stretches : List Stretch) :
    List (List Sign) :=
  (stretches.foldl (Fields.add separators) (.start limit)).all

/-- A word in which nothing was expanded is one field. -/
theorem breakUp_fixed (separators : Octets) {signs : List Sign} (h : signs ≠ []) :
    breakUp separators none [⟨.nowhere, signs⟩] = [signs] := by
  simp [breakUp, Fields.start, Fields.add, Fields.all, h]

end Shell
end OrderTrials
