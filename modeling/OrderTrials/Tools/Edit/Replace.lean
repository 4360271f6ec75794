import OrderTrials.Tools.Edit.Script
/-
# Replacing texts

What the line editor puts in the place of the texts it finds in a line. A text without length
that follows another one at once does not count.

Key definitions: `Tools.Edit.expanded`, `Tools.Edit.replaced?`, `Tools.Edit.translated`,
`Tools.Edit.revealed`.
Key theorems: `Tools.Edit.written_kept`, `Tools.Edit.translated_nil`.
-/

namespace OrderTrials
namespace Tools
namespace Edit

/-! ### Letters -/

/-- A character in the letters of a kind. -/
def Lettering.apply (l : Lettering) (g : Glyph) : Glyph :=
  match l, g with
  | .small, (c, true) => (Letters.lower c, true)
  | .capital, (c, true) => (Letters.upper c, true)
  | _, g => g

/-- A text in the letters of a kind, with its first letter perhaps in another. -/
def written (l : Lettering) (first : Option Lettering) : Characters → Characters
  | [] => []
  | g :: r => (first.getD l).apply g :: r.map l.apply

theorem Lettering.apply_kept (g : Glyph) : Lettering.kept.apply g = g := rfl

/-- A text may keep its letters. -/
theorem written_kept (s : Characters) : written .kept none s = s := by
  have h : Lettering.kept.apply = id := funext Lettering.apply_kept
  cases s <;> simp [written, h]

/-- The text of parts, given the texts of groups and how the next letter is written. A wish for a
first letter passes over a group without text, but only one. -/
def expanded (textOf : Nat → Characters) : Option Lettering → List Part → Characters
  | _, [] => []
  | awaited, p :: ps =>
    let first := p.first.or awaited
    let own := characters p.text
    let rest := if own.isEmpty then first else none
    let text := match p.group with
      | none => []
      | some n => textOf n
    let awaited := if text.isEmpty ∧ p.group.isSome ∧ p.first.isSome then rest else none
    written p.lettering first own ++ written p.lettering rest text ++ expanded textOf awaited ps

/-! ### Lines -/

/-- The text that an expression is looked for in. -/
def Search.subject (s : Search) (mark : Char) (text : Octets) : Subject where
  text := (characters text).toArray
  isFolded := s.isFolded
  hasLines := s.hasLines
  lineEnd := mark

/-- Whether a text holds an expression. -/
def Search.isIn (s : Search) (mark : Char) (text : Octets) : Bool :=
  (s.expression.body.find? (s.subject mark text) 0).isSome

/-- The text of a group after an expression was found from a place on. -/
def groupText (s : Subject) (start : Nat) (p : Spot) (n : Nat) : Characters :=
  if n = 0 then Regular.between s start p.index
  else
    match p.groups.find? (·.1 == n) with
    | some (_, start, finish) => Regular.between s start finish
    | none => []

/-- How far a line has been gone through. -/
structure Progress where
  /-- Where to look next. -/
  start : Nat := 0
  /-- Up to where the line has been copied. -/
  copied : Nat := 0
  /-- How many texts have been found. -/
  count : Nat := 0
  /-- The end of the last one. -/
  last : Option Nat := none
  /-- The new line, the last part first. -/
  done : List Characters := []
  hasReplaced : Bool := false

/-- Goes through a line. The first argument bounds the number of texts that are found. -/
def replaceFrom (r : Regular) (s : Subject) (sub : Substitution) : Nat → Progress → Progress
  | 0, p => p
  | fuel + 1, p =>
    if s.text.size < p.start then p
    else
      match r.find? s p.start with
      | none => p
      | some (i, spot) =>
        let j := spot.index
        if i = j ∧ p.last = some i then replaceFrom r s sub fuel { p with start := i + 1 }
        else
          let next := { p with
            start := if i = j then j + 1 else j, count := p.count + 1, last := some j }
          if next.count < sub.number then replaceFrom r s sub fuel next
          else
            let new := expanded (groupText s i spot) none sub.parts
            let next := { next with
              copied := j, done := new :: Regular.between s p.copied i :: p.done
              hasReplaced := true }
            if sub.isGlobal then replaceFrom r s sub fuel next else next

/-- A text after its replacements, if there are any. -/
def replaced? (search : Search) (sub : Substitution) (mark : Char) (text : Octets) :
    Option Octets :=
  let s := search.subject mark text
  let p := replaceFrom search.expression.body s sub (2 * s.text.size + 3) {}
  if p.hasReplaced then
    some (octetsOf (Regular.between s p.copied s.text.size :: p.done).reverse.flatten)
  else none

/-- A text with other characters for some. -/
def translated (pairs : List (Glyph × Glyph)) (text : Octets) : Octets :=
  octetsOf ((characters text).map fun g => ((pairs.find? (·.1 == g)).map (·.2)).getD g)

/-- Nothing stays nothing. -/
theorem translated_nil (pairs : List (Glyph × Glyph)) : translated pairs [] = [] := rfl

/-! ### Showing without doubt -/

/-- A character without doubt. -/
def unmistakable (c : Char) : Octets :=
  if c = '\\' then ['\\', '\\']
  else if ' ' ≤ c ∧ c ≤ '~' then [c]
  else
    match escapeLetter? c with
    | some letter => ['\\', letter]
    | none => octalEscape c

/-- Texts in rows of a width; none is torn. Without a width there is one row. -/
def inRows (mark : Char) (width : Nat) : Nat → List Octets → Octets
  | _, [] => []
  | filled, text :: rest =>
    if 0 < width ∧ width - 1 < filled + text.length then
      '\\' :: mark :: text ++ inRows mark width text.length rest
    else text ++ inRows mark width (filled + text.length) rest

/-- A text without doubt about any character. -/
def revealed (mark : Char) (width : Nat) (text : Octets) : Octets :=
  inRows mark width 0 (text.map unmistakable) ++ ['$', mark]

end Edit
end Tools
end OrderTrials
