/-
# Patterns

Patterns for whole texts, as scripts and file names use them: `*` stands for any text, `?` for any
character and brackets for one of several characters. A character that was quoted stands for
itself.

Key definitions: `Shell.Pattern`, `Shell.Pattern.fits`, `Shell.Pattern.ofField`.
Key theorems: `Shell.Pattern.fits_literal`.
-/

namespace OrderTrials
namespace Shell

/-- A character of an expanded word, and whether it was quoted. -/
abbrev Mark := Char × Bool

/-- A word after expansion. -/
abbrev Field := List Mark

/-- The text of a field. -/
def Field.text (f : Field) : List Char := f.map (·.1)

/-- A text as a field that stands for itself. -/
def Field.literal (s : List Char) : Field := s.map fun c => (c, true)

/-- A part of a pattern. -/
inductive Glob where
  | one (c : Char)
  | anyOne
  | anyText
  /-- One of the characters in some ranges, or one of all others. -/
  | among (others : Bool) (ranges : List (Char × Char))
deriving DecidableEq, Inhabited

/-- The parts of a pattern in order. -/
abbrev Pattern := List Glob

namespace Pattern

/-- All that may be left of a text once its start is taken away. -/
def remainders : List Char → List (List Char)
  | [] => [[]]
  | c :: r => (c :: r) :: remainders r

/-- Whether a character is in one of some ranges. -/
def isAmong (ranges : List (Char × Char)) (c : Char) : Bool :=
  ranges.any fun r => decide (r.1 ≤ c) && decide (c ≤ r.2)

/-- Whether a pattern fits a whole text. -/
def fits : Pattern → List Char → Bool
  | [], s => s.isEmpty
  | .anyText :: p, s => (remainders s).any (fits p)
  | .one c :: p, s =>
    match s with
    | [] => false
    | d :: r => c == d && fits p r
  | .anyOne :: p, s =>
    match s with
    | [] => false
    | _ :: r => fits p r
  | .among others ranges :: p, s =>
    match s with
    | [] => false
    | d :: r => (isAmong ranges d != others) && fits p r

/-- The pattern that fits one text. -/
def literal (s : List Char) : Pattern := s.map .one

/-- A pattern without special parts fits exactly its own text. -/
theorem fits_literal (s t : List Char) : fits (literal s) t = true ↔ t = s := by
  induction s generalizing t with
  | nil => cases t <;> simp [literal, fits]
  | cons c s ih =>
    cases t with
    | nil => simp [literal, fits]
    | cons d t =>
      have := ih t
      simp only [literal] at this
      simp only [literal, List.map_cons, fits, Bool.and_eq_true, beq_iff_eq, this, List.cons.injEq]
      constructor
      · exact fun h => ⟨h.1.symm, h.2⟩
      · exact fun h => ⟨h.1.symm, h.2⟩

/-- The classes of characters that have names. -/
def classes : List (String × List (Char × Char)) :=
  [("alnum", [('0', '9'), ('A', 'Z'), ('a', 'z')]), ("alpha", [('A', 'Z'), ('a', 'z')]),
    ("blank", [(' ', ' '), ('\t', '\t')]), ("cntrl", [('\x00', '\x1f'), ('\x7f', '\x7f')]),
    ("digit", [('0', '9')]), ("graph", [('!', '~')]), ("lower", [('a', 'z')]),
    ("print", [(' ', '~')]),
    ("punct", [('!', '/'), (':', '@'), ('[', '\x60'), ('\x7b', '~')]),
    ("space", [(' ', ' '), ('\t', '\r')]), ("upper", [('A', 'Z')]),
    ("xdigit", [('0', '9'), ('A', 'F'), ('a', 'f')])]

/-- The class whose name, in colons and with a closing bracket, starts a text, and what follows. -/
def class? (f : Field) : Option (List (Char × Char) × Field) :=
  classes.findSome? fun (name, ranges) =>
    let sign : Field := ((':' :: name.toList) ++ [':', ']']).map fun c => (c, false)
    if sign.isPrefixOf f then some (ranges, f.drop sign.length) else none

/-- The ranges up to the closing bracket, and what follows it. A bracket that comes first is a
character like others. -/
def ranges : Nat → Bool → Field → Option (List (Char × Char) × Field)
  | 0, _, _ => none
  | _ + 1, _, [] => none
  | fuel + 1, first, (c, quoted) :: r =>
    if c = ']' ∧ !quoted ∧ !first then some ([], r)
    else
      match if c = '[' ∧ !quoted then class? r else none with
      | some (named, rest) => (ranges fuel false rest).map fun p => (named ++ p.1, p.2)
      | none =>
        let (c, r) := match c, quoted, r with
          | '\\', false, (d, _) :: rest => (d, rest)
          | c, _, r => (c, r)
        match r with
        | ('-', false) :: (']', false) :: _ =>
          (ranges fuel false r).map fun p => ((c, c) :: p.1, p.2)
        | ('-', false) :: ('\\', false) :: (d, _) :: rest
        | ('-', false) :: (d, _) :: rest =>
          (ranges fuel false rest).map fun p => ((c, d) :: p.1, p.2)
        | r => (ranges fuel false r).map fun p => ((c, c) :: p.1, p.2)

/-- The pattern that a field is. -/
def ofFieldWithin : Nat → Field → Pattern
  | 0, _ => []
  | _ + 1, [] => []
  | fuel + 1, (c, quoted) :: r =>
    if quoted then .one c :: ofFieldWithin fuel r
    else if c = '*' then .anyText :: ofFieldWithin fuel r
    else if c = '?' then .anyOne :: ofFieldWithin fuel r
    else if c = '[' then
      let (others, inside) := match r with
        | ('!', false) :: rest => (true, rest)
        | r => (false, r)
      match ranges (inside.length + 1) true inside with
      | some (rs, rest) => .among others rs :: ofFieldWithin fuel rest
      | none => .one c :: ofFieldWithin fuel r
    else if c = '\\' then
      match r with
      | [] => [.one c]
      | (d, _) :: rest => .one d :: ofFieldWithin fuel rest
    else .one c :: ofFieldWithin fuel r

/-- The pattern that a field is. -/
def ofField (f : Field) : Pattern := ofFieldWithin (f.length + 1) f

/-- Whether a pattern fits more than one text. -/
def isOpen (p : Pattern) : Bool :=
  p.any fun g =>
    match g with
    | .one _ => false
    | _ => true

end Pattern
end Shell
end OrderTrials
