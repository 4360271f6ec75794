import OrderTrials.Tools.Edit.Script
import OrderTrials.Tools.Simple
/-
# Backslashes in scripts

A backslash and a letter stand for a character that is hard to write. Other backslashes stay; what
they mean is for the place to say where they stand. A character that stands for itself gets a
backslash where it would mean something else.

Key definitions: `Tools.Edit.Escape.unescape`, `Tools.Edit.Escape.parts`, `Tools.Edit.Escape.bare`.
Key theorems: `Tools.Edit.Escape.bare_of_plain`.
-/

namespace OrderTrials
namespace Tools
namespace Edit
namespace Escape

/-- The character that a letter after a backslash stands for. -/
def letter? (c : Char) : Option Char :=
  [('a', '\x07'), ('f', '\x0c'), ('n', '\n'), ('r', '\r'), ('t', '\t'), ('v', '\x0b')].findSome?
    fun (letter, d) => if c = letter then some d else none

/-- The base of the number after a letter, and how many digits it may have. -/
def base? (c : Char) : Option (Nat × Nat) :=
  [('d', 10, 3), ('o', 8, 3), ('x', 16, 2)].findSome? fun (letter, p) =>
    if c = letter then some p else none

/-- A character that stands for itself; the given ones get a backslash. -/
def shielded (special : List Char) (c : Char) : Octets :=
  if special.contains c then ['\\', c] else [c]

/-- A text after the characters that are hard to write have been put into it; none if it asks for
a control character of a backslash that is no pair. The first argument bounds the length. -/
def unescapeWithin (special : List Char) : Nat → Octets → Option Octets
  | 0, _ => some []
  | fuel + 1, s =>
    let go (done rest : Octets) := (unescapeWithin special fuel rest).map (done ++ ·)
    match s with
    | '\\' :: 'c' :: r =>
      match r with
      | [] => some ['\\']
      | '\\' :: '\\' :: r => go ['\x1c'] r
      | '\\' :: _ => none
      | c :: r => go (shielded special (byteOf (c.toUpper.toNat ^^^ 64))) r
    | '\\' :: c :: r =>
      match letter? c, base? c with
      | some d, _ => go [d] r
      | none, some (base, count) =>
        let ds := (r.takeWhile (Text.Scan.isDigitOf base)).take count
        if ds.isEmpty then go [c] r
        else go (shielded special (byteOf (Text.Scan.digitsValue base ds))) (r.drop ds.length)
      | none, none => go ['\\', c] r
    | c :: r => go [c] r
    | [] => some []

/-- A text after the characters that are hard to write have been put into it. -/
def unescape (special : List Char) (s : Octets) : Option Octets :=
  unescapeWithin special (s.length + 1) s

/-- A text without its backslashes; one after another stays. -/
def bare : Octets → Octets
  | '\\' :: c :: r => c :: bare r
  | ['\\'] => []
  | c :: r => c :: bare r
  | [] => []

/-- A text without backslashes stays as it is. -/
theorem bare_of_plain {s : Octets} (h : ∀ c ∈ s, c ≠ '\\') : bare s = s := by
  induction s with
  | nil => rfl
  | cons c r ih =>
    have hc : c ≠ '\\' := h c List.mem_cons_self
    have hr := ih fun d hd => h d (List.mem_cons_of_mem c hd)
    unfold bare
    split
    · simp_all
    · simp_all
    · simp_all
    · simp_all

/-! ### What is put in the place of a text -/

/-- How the letters of the parts that follow are written. -/
structure Writing where
  lettering : Lettering := .kept
  first : Option Lettering := none

/-- The parts of a text, given the text of its own that has come last, its last character first.
The first argument bounds the length. -/
def partsWithin : Nat → Writing → Octets → Octets → List Part
  | 0, _, _, _ => []
  | fuel + 1, w, own, s =>
    let part (group : Option Nat) : Part := ⟨own.reverse, group, w.lettering, w.first⟩
    let plain : Writing := { w with first := none }
    let literal (c : Char) (r : Octets) := partsWithin fuel w (c :: own) r
    let cut (w : Writing) (r : Octets) := part none :: partsWithin fuel w [] r
    match s with
    | [] => if own.isEmpty then [] else [part none]
    | '\\' :: c :: r =>
      if c.isDigit then part (some (c.toNat - '0'.toNat)) :: partsWithin fuel plain [] r
      else
        match c with
        | 'L' => cut { lettering := .small } r
        | 'U' => cut { lettering := .capital } r
        | 'E' => cut {} r
        | 'l' => cut { plain with first := some .small } r
        | 'u' => cut { plain with first := some .capital } r
        | c => literal c r
    | '&' :: r => part (some 0) :: partsWithin fuel plain [] r
    | c :: r => literal c r

/-- The parts of a text. -/
def parts (s : Octets) : List Part := partsWithin (s.length + 1) {} [] s

/-! ### Characters for characters -/

/-- The characters of a text; a pair of backslashes is one, and no other backslash counts. None if
a backslash has nothing after it. -/
def letters? : Characters → Option (List Glyph)
  | [] => some []
  | ('\\', _) :: g :: r => (letters? r).map (g :: ·)
  | [('\\', _)] => none
  | g :: r => (letters? r).map (g :: ·)

end Escape
end Edit
end Tools
end OrderTrials
