import OrderTrials.Tools.Regular
/-
# Regular expressions in writing

How regular expressions are written. In the plain form groups, alternatives and most repetitions
are marked with a backslash; in the extended form they are not, and the backslash takes the
meaning away. What would repeat nothing stands for itself in the plain form.

Key definitions: `Tools.Expression`, `Tools.Expression.Fault`, `Tools.Expression.Token`,
`Tools.Expression.read`.
Key theorems: `Tools.Expression.fromToken_eq_self`.
-/

namespace OrderTrials
namespace Tools

/-- An expression that has been read, and how many groups it has. -/
structure Expression where
  body : Regular
  groups : Nat
deriving DecidableEq, Inhabited

namespace Expression

/-- Why a text is no expression. -/
inductive Fault where
  | emptyBracket
  | openBracket
  | badRange
  | badCollation
  | badClass
  /-- A class that stands alone and not within a bracket. -/
  | bareClass
  | openGroup
  | closedGroup
  | badReference
  | lonelyBackslash
  | nothingRepeated
  | badInterval
  | openInterval
  | tooBig
deriving DecidableEq, Inhabited

/-- A fault in words. -/
def Fault.text : Fault → String
  | emptyBracket => "Invalid regular expression"
  | openBracket => "Unmatched [, [^, [:, [., or [="
  | badRange => "Invalid range end"
  | badCollation => "Invalid collation character"
  | badClass => "Invalid character class name"
  | bareClass => "character class syntax is [[:space:]], not [:space:]"
  | openGroup => "Unmatched ( or \\("
  | closedGroup => "Unmatched ) or \\)"
  | badReference => "Invalid back reference"
  | lonelyBackslash => "Trailing backslash"
  | nothingRepeated => "Invalid preceding regular expression"
  | badInterval => "Invalid content of \\\x7b\\\x7d"
  | openInterval => "Unmatched \\\x7b"
  | tooBig => "Regular expression too big"

/-! ### Tokens -/

/-- What an expression is made of. -/
inductive Token where
  | finish
  | glyph (g : Glyph)
  | anyOne
  | bracket
  | openGroup
  | closeGroup
  | either
  /-- A repetition, and the character that asks for it. -/
  | repeated (least : Nat) (most : Option Nat) (c : Char)
  | openInterval
  | closeInterval
  | same (number : Nat)
  | border (b : Border)
  | class (m : Member)
  | lonelyBackslash
deriving DecidableEq, Inhabited

/-- The character of an ASCII text. -/
def plain (c : Char) : Glyph := (c, true)

/-- The token that a character with a mark is; the mark is a backslash in the plain form only. -/
def marked? (c : Char) : Option Token :=
  match c with
  | '(' => some .openGroup
  | ')' => some .closeGroup
  | '|' => some .either
  | '\x7b' => some .openInterval
  | '\x7d' => some .closeInterval
  | '+' => some (.repeated 1 none '+')
  | '?' => some (.repeated 0 (some 1) '?')
  | _ => none

/-- The token that a character after a backslash is in both forms. -/
def escaped (g : Glyph) : Token :=
  match g.1 with
  | '<' => .border .wordStart
  | '>' => .border .wordEnd
  | 'b' => .border .wordEdge
  | 'B' => .border .inside
  | '\x60' => .border .textStart
  | '\'' => .border .textEnd
  | 'w' => .class (.named "word")
  | 'W' => .class (.notNamed "word")
  | 's' => .class (.named "space")
  | 'S' => .class (.notNamed "space")
  | c => if '1' ≤ c ∧ c ≤ '9' then .same (c.toNat - '0'.toNat) else .glyph g

/-- Whether an end of line can stand before a text in the plain form. -/
def canEnd : Characters → Bool
  | [] => true
  | ('\\', _) :: (c, _) :: _ => c == ')' || c == '|'
  | _ => false

/-- The first token of a text, and what follows it. A start of line can stand in the plain form
only where something starts. -/
def Token.read (isExtended canStart : Bool) : Characters → Token × Characters
  | [] => (.finish, [])
  | ('\\', true) :: [] => (.lonelyBackslash, [])
  | ('\\', true) :: g :: r =>
    match if isExtended || !g.2 then none else marked? g.1 with
    | some t => (t, r)
    | none => (if g.2 then escaped g else .glyph g, r)
  | g :: r =>
    if !g.2 then (.glyph g, r)
    else
      match g.1 with
      | '.' => (.anyOne, r)
      | '[' => (.bracket, r)
      | '*' => (.repeated 0 none '*', r)
      | '^' => (if isExtended || canStart then .border .lineStart else .glyph g, r)
      | '$' => (if isExtended || canEnd r then .border .lineEnd else .glyph g, r)
      | c => ((if isExtended then marked? c else none).getD (.glyph g), r)

/-! ### Brackets -/

/-- What stands in a bracket: a character by itself or between marks, or a class. -/
inductive Element where
  | glyph (g : Glyph)
  | marked (g : Glyph)
  | class (m : Member)

/-- The text up to a mark with a bracket, and what follows it. -/
def upToMark (mark : Char) : Characters → Option (Characters × Characters)
  | [] => none
  | c :: r =>
    match if c.1 = mark then r.head? else none with
    | some (']', _) => some ([], r.tail)
    | _ => (upToMark mark r).map fun (name, rest) => (c :: name, rest)

/-- The character that is the only one of a text, if it is one that has a place in an order. -/
def onlyOne? : Characters → Option Glyph
  | [(c, isWhole)] => if c.toNat < 128 then some (c, isWhole) else none
  | _ => none

/-- The first element in a text, and what follows it. -/
def element : Characters → Except Fault (Element × Characters)
  | [] => .error .openBracket
  | ('[', _) :: (mark, isWhole) :: r =>
    if mark = ':' ∨ mark = '.' ∨ mark = '=' then
      match upToMark mark r with
      | none => .error .openBracket
      | some (name, rest) =>
        if mark = ':' then
          let name := String.ofList (name.map (·.1))
          if Letters.classNames.contains name then .ok (.class (.named name), rest)
          else .error .badClass
        else
          match onlyOne? name with
          | none => .error .badCollation
          | some g => .ok (if mark = '.' then .marked g else .class (.one g), rest)
    else .ok (.glyph (plain '['), (mark, isWhole) :: r)
  | g :: r => .ok (.glyph g, r)

/-- The range between two elements. -/
def range (a b : Element) : Except Fault Member :=
  let end? : Element → Option Glyph
    | .glyph g | .marked g => some g
    | .class _ => none
  match end? a, end? b with
  | some g, some h =>
    match onlyOne? [g], onlyOne? [h] with
    | some (low, _), some (high, _) =>
      if low ≤ high then .ok (.range low high) else .error .badRange
    | _, _ => .error .badCollation
  | _, _ => .error .badRange

/-- The member that an element is, and whether it is a character by itself. -/
def Element.member : Element → Member × Bool
  | .glyph g => (.one g, true)
  | .marked g => (.one g, false)
  | .class m => (m, false)

/-- The members of a bracket up to its end, each with whether it is a character by itself, and
what follows the bracket. The first argument bounds their number. -/
def members : Nat → Bool → Characters → Except Fault (List (Member × Bool) × Characters)
  | 0, _, _ => .error .tooBig
  | fuel + 1, isFirst, s => do
    match s, isFirst with
    | (']', _) :: r, false => return ([], r)
    | ('-', _) :: r, false =>
      match r with
      | [] => throw .openBracket
      | (']', _) :: r => return ([(.one (plain '-'), true)], r)
      | _ => throw .badRange
    | _, _ =>
      let (a, r) ← element s
      let isClass := match a with
        | .class _ => true
        | _ => false
      match r, isClass with
      | ('-', _) :: r, false =>
        match r with
        | [] => throw .openBracket
        | (']', _) :: r => return ([a.member, (.one (plain '-'), true)], r)
        | _ =>
          let (b, r) ← element r
          let m ← range a b
          let (ms, r) ← members fuel false r
          return ((m, false) :: ms, r)
      | r, _ =>
        let (ms, r) ← members fuel false r
        return (a.member :: ms, r)

/-- Whether members look like a class without its bracket. -/
def looksLikeClass (ms : List (Member × Bool)) : Bool :=
  let isColon (m : Member × Bool) : Bool := m.1 == .one (plain ':')
  ms.head?.any isColon && ms.getLast?.any isColon && ms.all (·.2) && ms.any (!isColon ·)

/-- The bracket at the start of a text after its opening, whether it looks like a class without
its bracket, and what follows it. -/
def bracket (s : Characters) : Except Fault (Regular × Bool × Characters) := do
  let (areOthers, s) := match s with
    | ('^', _) :: r => (true, r)
    | s => (false, s)
  if s.isEmpty then throw .emptyBracket
  let (ms, r) ← members (s.length + 1) true s
  return (.among areOthers (ms.map (·.1)), looksLikeClass ms, r)

/-! ### Expressions -/

/-- How far a text has been read: the token that comes next, what follows it, how many groups
have been opened, which have been closed, and whether a bracket looks like a class. -/
structure Reading where
  token : Token
  rest : Characters
  opened : Nat := 0
  closed : List Nat := []
  isDubious : Bool := false

/-- What is read from a text. -/
abbrev Reader := StateT Reading (Except Fault)

/-- Goes on to the next token. -/
def advance (isExtended canStart : Bool) : Reader Unit :=
  modify fun s =>
    let (token, rest) := Token.read isExtended canStart s.rest
    { s with token, rest }

/-- The limit of repetitions. -/
def mostRepetitions : Nat := 32767

/-- A number in an interval. -/
inductive Bound where
  | absent
  | invalid
  | count (n : Nat)
deriving DecidableEq, Inhabited

/-- A bound with another digit. -/
def Bound.with (b : Bound) (c : Char) : Bound :=
  let d := c.toNat - '0'.toNat
  if !c.isDigit then .invalid
  else
    match b with
    | .absent => .count d
    | .invalid => .invalid
    | .count n => .count (min (mostRepetitions + 1) (n * 10 + d))

/-- Reads a number up to a comma or the end of an interval. The first argument bounds its
length. -/
def bound (isExtended : Bool) : Nat → Bound → Reader Bound
  | 0, _ => throw .tooBig
  | fuel + 1, b => do
    advance isExtended false
    match (← get).token with
    | .finish => return .invalid
    | .closeInterval | .glyph (',', _) => return b
    | .glyph (c, true) => bound isExtended fuel (b.with c)
    | _ => bound isExtended fuel .invalid

/-- Reads an interval and what follows it. -/
def interval (isExtended : Bool) (a : Regular) : Reader Regular := do
  let fuel := (← get).rest.length + 1
  let comma := Token.glyph (plain ',')
  let badOrOpen : Reader Fault := do
    return if (← get).token = .finish then .openInterval else .badInterval
  let start ← bound isExtended fuel .absent
  let least ← match start with
    | .count n => pure n
    | .absent => if (← get).token = comma then pure 0 else throw .badInterval
    | .invalid => throw (← badOrOpen)
  let most ←
    if (← get).token = .closeInterval then pure (some least)
    else if (← get).token ≠ comma then throw (← badOrOpen)
    else
      match ← bound isExtended fuel .absent with
      | .count n => pure (some n)
      | .absent => pure none
      | .invalid => throw (← badOrOpen)
  if (most.any (· < least)) ∨ (← get).token ≠ .closeInterval then throw .badInterval
  if mostRepetitions < most.getD least then throw .tooBig
  advance isExtended false
  return if most = some 0 then .empty else .many least most a

/-- Reads the repetitions of an expression. The first argument bounds their number. -/
def repetitions (isExtended : Bool) : Nat → Regular → Reader Regular
  | 0, _ => throw .tooBig
  | fuel + 1, a => do
    let again (a : Regular) : Reader Regular := do
      match isExtended, (← get).token with
      | false, .repeated _ _ '*' | false, .openInterval => throw .nothingRepeated
      | _, _ => repetitions isExtended fuel a
    match (← get).token with
    | .repeated least most _ =>
      advance isExtended false
      again (.many least most a)
    | .openInterval => again (← interval isExtended a)
    | _ => return a

/-- The expression that a token is by itself, if it is one. -/
def fromToken? : Token → Option Regular
  | .glyph g => some (.one g)
  | .anyOne => some .anyOne
  | .closeInterval => some (.one (plain '\x7d'))
  | .class m => some (.among false [m])
  | _ => none

/-- A character is the expression for itself. -/
theorem fromToken_eq_self (g : Glyph) : fromToken? (.glyph g) = some (.one g) := rfl

mutual

/-- Reads alternatives within so many groups. -/
def alternatives (isExtended : Bool) (depth : Nat) : Nat → Reader Regular
  | 0 => throw .tooBig
  | fuel + 1 => do
    let closed := (← get).closed
    let first ← branch isExtended depth fuel
    if (← get).token ≠ .either then return first
    let all := (← get).closed
    advance isExtended true
    modify fun s => { s with closed }
    let others ← alternatives isExtended depth fuel
    modify fun s => { s with closed := all ++ s.closed }
    return .either first others

/-- Reads expressions that follow each other. -/
def branch (isExtended : Bool) (depth : Nat) : Nat → Reader Regular
  | 0 => throw .tooBig
  | fuel + 1 => do
    match (← get).token with
    | .finish | .either => return .empty
    | .closeGroup =>
      if 0 < depth then return .empty
      throw .closedGroup
    | _ =>
      let first ← piece isExtended depth fuel
      let others ← branch isExtended depth fuel
      return if others = .empty then first else .sequence first others

/-- Reads one expression with its repetitions. -/
def piece (isExtended : Bool) (depth : Nat) : Nat → Reader Regular
  | 0 => throw .tooBig
  | fuel + 1 => do
    let fuelThere := (← get).rest.length + 2
    match (← get).token with
    | .border b =>
      advance isExtended true
      return .anchor b
    | .lonelyBackslash => throw .lonelyBackslash
    | .openInterval => throw .nothingRepeated
    | .repeated _ _ c =>
      if isExtended then throw .nothingRepeated
      advance isExtended false
      repetitions isExtended fuelThere (.one (plain c))
    | .same n =>
      if !(← get).closed.contains n then throw .badReference
      advance isExtended false
      repetitions isExtended fuelThere (.same n)
    | .openGroup =>
      let number := (← get).opened + 1
      modify fun s => { s with opened := number }
      advance isExtended true
      let body ← alternatives isExtended (depth + 1) fuel
      if (← get).token ≠ .closeGroup then throw .openGroup
      modify fun s => { s with closed := number :: s.closed }
      advance isExtended false
      repetitions isExtended fuelThere (.group number body)
    | .bracket =>
      let (r, isDubious, rest) ← bracket (← get).rest
      modify fun s => { s with rest, isDubious := s.isDubious || isDubious }
      advance isExtended false
      repetitions isExtended fuelThere r
    | token =>
      advance isExtended false
      repetitions isExtended fuelThere ((fromToken? token).getD .empty)

end

/-- The expression that a text is. -/
def read (isExtended : Bool) (s : Characters) : Except Fault Expression :=
  let (token, rest) := Token.read isExtended true s
  match alternatives isExtended 0 (3 * s.length + 3) { token, rest } with
  | .error fault => .error fault
  | .ok (body, r) => if r.isDubious then .error .bareClass else .ok ⟨body, r.opened⟩

end Expression
end Tools
end OrderTrials
