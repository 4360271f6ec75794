import OrderTrials.Tools.Letters
import Std.Data.HashSet
/-
# Regular expressions

Regular expressions as line editors use them. Of all places where an expression fits, the first
counts, and there the longest text. Of several ways to fit that text, the one that tries the first
alternative and the most repetitions first says what the groups are.

Key definitions: `Tools.Regular`, `Tools.Regular.ends`, `Tools.Regular.find?`.
Key theorems: `Tools.Regular.ends_empty`, `Tools.Regular.mem_distinct`.
-/

namespace OrderTrials
namespace Tools

/-- A character of a text, or a byte that is part of none. -/
abbrev Glyph := Char × Bool

/-- What one character may be. -/
inductive Member where
  | one (g : Glyph)
  | range (low high : Char)
  | named (name : String)
  | notNamed (name : String)
deriving DecidableEq, Inhabited

/-- A place that has no length. -/
inductive Border where
  | lineStart
  | lineEnd
  | textStart
  | textEnd
  | wordStart
  | wordEnd
  | wordEdge
  | inside
deriving DecidableEq, Inhabited

/-- A regular expression. -/
inductive Regular where
  | empty
  | one (g : Glyph)
  | anyOne
  /-- One of some characters, or one of all others. -/
  | among (areOthers : Bool) (members : List Member)
  | anchor (a : Border)
  | sequence (first second : Regular)
  | either (first second : Regular)
  /-- Several times: not fewer than `least` and, if there is a limit, not more than `most`. -/
  | many (least : Nat) (most : Option Nat) (body : Regular)
  /-- An expression whose text is kept under a number. -/
  | group (number : Nat) (body : Regular)
  /-- The text that is kept under a number. -/
  | same (number : Nat)
deriving DecidableEq, Inhabited

/-- A text that is searched, and how. -/
structure Subject where
  text : Array Glyph
  /-- Whether capitals and small letters count for the same. -/
  isFolded : Bool
  /-- Whether the start and the end of every line count. -/
  hasLines : Bool
  /-- The character between lines. -/
  lineEnd : Char := '\n'
  /-- Where the search starts. A line that starts after that place is known to start there. -/
  start : Nat := 0

/-- A place in a text, and the groups up to there with where they start and end. -/
structure Spot where
  index : Nat
  groups : List (Nat × Nat × Nat)
deriving DecidableEq, Inhabited, Hashable

/-- Whether a character lies between lines that count one by one. -/
def Subject.isBetween (s : Subject) (g : Glyph) : Bool :=
  s.hasLines && (g.1 == '\n' || g.1 == s.lineEnd)

namespace Regular

/-! ### Characters -/

/-- Whether a character belongs to a word. -/
def isWord (g : Glyph) : Bool := g.2 && (Letters.isWordLetter g.1 || g.1 == '_')

/-- Whether a character is in the class with a name; words have a class of their own. -/
def isOfClass (name : String) (g : Glyph) : Bool :=
  if name == "word" then isWord g else g.2 && Letters.isIn name g.1

/-- Whether a character is what a member of a bracket says. -/
def Member.fits (m : Member) (g : Glyph) : Bool :=
  match m with
  | .one h => g == h
  | .range low high => g.2 && decide (low ≤ g.1) && decide (g.1 ≤ high)
  | .named name => isOfClass name g
  | .notNamed name => g.2 && !isOfClass name g

/-- A character in its other forms. -/
def forms (isFolded : Bool) (g : Glyph) : List Glyph :=
  if isFolded && g.2 then [g, (Letters.lower g.1, true), (Letters.upper g.1, true)] else [g]

/-- The test that an expression for one character makes; none if it is no such expression. -/
def test? (s : Subject) : Regular → Option (Glyph → Bool)
  | .one h => some fun g => (forms s.isFolded g).any (· == h)
  | .anyOne => some fun g => g.2 && !s.isBetween g
  | .among areOthers members => some fun g =>
    let isMember := (forms s.isFolded g).any fun g => members.any fun m => Member.fits m g
    if areOthers then g.2 && !isMember && !s.isBetween g else isMember
  | _ => none

/-- Whether there is a character of a word at an index. -/
def wordAt (s : Subject) (i : Nat) : Bool := (s.text[i]?).any isWord

/-- Whether there is a character of a word before an index. -/
def wordBefore (s : Subject) (i : Nat) : Bool := 0 < i && wordAt s (i - 1)

/-- Whether a place is of a kind. -/
def Border.holds (s : Subject) (i : Nat) : Border → Bool
  | .textStart => i == 0
  | .textEnd => i == s.text.size
  | .lineStart =>
    let follows := 0 < i && (s.text[i - 1]?).any fun g => g.1 == s.lineEnd
    i == 0 || (follows && (s.hasLines || (s.start < i && s.lineEnd == '\n')))
  | .lineEnd => i == s.text.size || (s.hasLines && (s.text[i]?).any fun g => g.1 == s.lineEnd)
  | .wordStart => !wordBefore s i && wordAt s i
  | .wordEnd => wordBefore s i && !wordAt s i
  | .wordEdge => wordBefore s i != wordAt s i
  | .inside => wordBefore s i == wordAt s i

/-! ### Places -/

/-- Places without repetitions, each where it came first. -/
def distinctFrom (seen : Std.HashSet Spot) : List Spot → List Spot
  | [] => []
  | p :: ps =>
    if seen.contains p then distinctFrom seen ps else p :: distinctFrom (seen.insert p) ps

/-- Places without repetitions, each where it came first. -/
def distinct (ps : List Spot) : List Spot :=
  match ps with
  | [] | [_] => ps
  | ps => distinctFrom {} ps

theorem mem_of_mem_distinctFrom {p : Spot} {ps : List Spot} {seen : Std.HashSet Spot}
    (h : p ∈ distinctFrom seen ps) : p ∈ ps := by
  induction ps generalizing seen with
  | nil => simp [distinctFrom] at h
  | cons q qs ih =>
    simp only [distinctFrom] at h
    split at h
    · exact List.mem_cons_of_mem q (ih h)
    · rcases List.mem_cons.1 h with h | h
      · exact h ▸ List.mem_cons_self
      · exact List.mem_cons_of_mem q (ih h)

/-- No place is invented. -/
theorem mem_distinct {p : Spot} {ps : List Spot} (h : p ∈ distinct ps) : p ∈ ps := by
  unfold distinct at h
  split at h
  · exact h
  · exact h
  · exact mem_of_mem_distinctFrom h

/-- The places reached by a step from some places. -/
def onward (step : Spot → List Spot) (ps : List Spot) : List Spot := distinct (ps.flatMap step)

/-- The places reached by a step that is taken so many times. -/
def iterated (step : Spot → List Spot) : Nat → List Spot → List Spot
  | 0, ps => ps
  | n + 1, ps =>
    match ps with
    | [] => []
    | ps => iterated step n (onward step ps)

/-- The places reached by a step that is taken up to so many times, the longest ways first. -/
def upTo (step : Spot → List Spot) : Nat → Spot → List Spot
  | 0, p => [p]
  | n + 1, p =>
    distinct (((step p).filter fun q => q.index != p.index).flatMap (upTo step n) ++ [p])

mutual

/-- The places reached by repeating a step that moves on, the longest ways first, without those
that have been reached before. The first argument bounds the length of a way. -/
def repeated (step : Spot → List Spot) : Nat → Std.HashSet Spot → Spot →
    List Spot × Std.HashSet Spot
  | 0, seen, p => ([p], seen)
  | fuel + 1, seen, p =>
    if seen.contains p then ([], seen)
    else
      let (ps, seen) := repeatedFrom step fuel (seen.insert p)
        ((step p).filter fun q => q.index != p.index)
      (ps ++ [p], seen)

/-- The same from several places, one after the other. -/
def repeatedFrom (step : Spot → List Spot) : Nat → Std.HashSet Spot → List Spot →
    List Spot × Std.HashSet Spot
  | _, seen, [] => ([], seen)
  | 0, seen, _ => ([], seen)
  | fuel + 1, seen, p :: ps =>
    let (first, seen) := repeated step fuel seen p
    let (more, seen) := repeatedFrom step fuel seen ps
    (first ++ more, seen)

end

/-- How many characters from an index on pass a test. -/
def runLength (s : Subject) (test : Glyph → Bool) : Nat → Nat → Nat
  | 0, _ => 0
  | fuel + 1, i =>
    match s.text[i]? with
    | some g => if test g then runLength s test fuel (i + 1) + 1 else 0
    | none => 0

/-- The places after so many characters, the last one first. -/
def descending (p : Spot) (least : Nat) : Nat → List Spot
  | 0 => if least = 0 then [p] else []
  | n + 1 =>
    if n + 1 < least then [] else { p with index := p.index + n + 1 } :: descending p least n

/-- The text between two indices. -/
def between (s : Subject) (start finish : Nat) : List Glyph :=
  (s.text.extract start finish).toList

/-- Whether two texts are the same, or the same but for capitals. -/
def areSame (s : Subject) (a b : List Glyph) : Bool :=
  a.length == b.length && (a.zip b).all fun (g, h) =>
    g == h || (s.isFolded && g.2 && h.2 && Letters.lower g.1 == Letters.lower h.1)

/-- The groups after the text of one of them has been found. -/
def withGroup (groups : List (Nat × Nat × Nat)) (n start finish : Nat) : List (Nat × Nat × Nat) :=
  let before := groups.filter (·.1 < n)
  let after := groups.filter (n < ·.1)
  before ++ (n, start, finish) :: after

/-- The places to which an expression leads, in the order in which they are tried. -/
def ends (s : Subject) : Regular → Spot → List Spot
  | .empty, p => [p]
  | .anchor a, p => if Border.holds s p.index a then [p] else []
  | .sequence a b, p => onward (ends s b) (ends s a p)
  | .either a b, p => distinct (ends s a p ++ ends s b p)
  | .many least most a, p =>
    let room := s.text.size - p.index
    match test? s a with
    | some test =>
      let n := runLength s test (match most with
        | some m => min m room
        | none => room) p.index
      descending p least n
    | none =>
      let start := iterated (ends s a) least [p]
      match most with
      | some m => distinct (start.flatMap (upTo (ends s a) (min (m - least) room)))
      | none => (repeatedFrom (ends s a) (2 ^ 40) {} start).1
  | .group n a, p =>
    (ends s a p).map fun q => { q with groups := withGroup q.groups n p.index q.index }
  | .same n, p =>
    match p.groups.find? (·.1 == n) with
    | none => []
    | some (_, start, finish) =>
      let next := p.index + (finish - start)
      if areSame s (between s start finish) (between s p.index next) ∧ next ≤ s.text.size then
        [{ p with index := next }]
      else []
  | r, p =>
    match test? s r, s.text[p.index]? with
    | some test, some g => if test g then [{ p with index := p.index + 1 }] else []
    | _, _ => []

/-- The empty expression leads nowhere else. -/
theorem ends_empty (s : Subject) (p : Spot) : ends s .empty p = [p] := rfl

/-- The farthest of some places; the first one of several. -/
def farthest? : List Spot → Option Spot
  | [] => none
  | p :: ps =>
    match farthest? ps with
    | some q => if p.index < q.index then some q else some p
    | none => some p

/-- The first place from an index on where an expression fits: its index and the place after it.
The first number bounds how many places are tried. -/
def findFrom (r : Regular) (s : Subject) : Nat → Nat → Option (Nat × Spot)
  | 0, _ => none
  | fuel + 1, i =>
    match farthest? (r.ends { s with start := i } ⟨i, []⟩) with
    | some p => some (i, p)
    | none => findFrom r s fuel (i + 1)

/-- The first place from an index on where an expression fits. -/
def find? (r : Regular) (s : Subject) (start : Nat) : Option (Nat × Spot) :=
  findFrom r s (s.text.size + 1 - start) start

end Regular
end Tools
end OrderTrials
