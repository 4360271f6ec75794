import OrderTrials.Shell.Arithmetic
import OrderTrials.Shell.Field
import OrderTrials.Shell.State
/-
# Expanding words

What a script puts in the place of parameters, commands and sums, and what becomes of the word
then: it is broken up into fields, and a field that is a pattern becomes the names of the files that
it fits. How the output of a command is obtained is not said here; whoever expands a word says it.

Key definitions: `Shell.Expansion.pieces`, `Shell.Expansion.fields`, `Shell.Expansion.single`,
`Shell.Expansion.pattern`.
-/

namespace OrderTrials
namespace Shell
namespace Expansion

open Action
open Machine (Act Program Refusal)

/-- How a word is expanded. -/
structure Manner where
  /-- Whether it becomes fields. -/
  isSplit : Bool := false
  /-- Whether a tilde at the start stands for a folder. -/
  hasTilde : Bool := false
  /-- Whether the word sets a variable, so that a tilde may also stand inside it. -/
  isSetting : Bool := false
  /-- Whether the equals sign of the setting has been passed. -/
  isPastSign : Bool := false
  /-- Whether the word stands in for a parameter. -/
  isInner : Bool := false
  isQuoted : Bool := false
  /-- Whether the word is only passed over. -/
  isIdle : Bool := false
deriving Inhabited

/-- Obtains what a command writes. -/
abbrev Outputs := Option Command → Action Octets

/-! ### Values -/

/-- Whether a character of a quoted value must be guarded. -/
def isGuarded (isQuoted : Bool) (c : Char) : Bool :=
  (isQuoted && (Parse.patternChars.contains c || c == '\\')) ||
    (0x81 ≤ c.toNat && c.toNat ≤ 0x88)

/-- A text as signs. -/
def signs (isQuoted : Bool) (text : Octets) : List Sign :=
  (text.filter (· != '\x00')).map fun c => if isGuarded isQuoted c then .guarded c else .bare c

/-- The separators of fields. -/
def separators : Action (Option Octets) := do return (← get).value? "IFS".toList

/-- The separators that are used if none are set. -/
def usualSeparators : Octets := [' ', '\t', '\n']

/-- What is put between arguments, if anything. -/
def between (m : Manner) (name : Octets) : Action (Option Sign) := do
  let ifs ← separators
  let first (s : Octets) : Option Sign :=
    s.head?.map fun c => if isGuarded m.isQuoted c then .guarded c else .bare c
  if m.isSplit ∧ m.isQuoted ∧ name = ['@'] then return some (.bare argumentMark)
  else if m.isSplit ∧ !m.isQuoted then
    return some (.bare (if ifs.isSome then argumentMark else ' '))
  else
    match ifs with
    | none => return some (.bare ' ')
    | some s => return first s

/-- The letters of the options that are set. -/
def optionLetters (options : List Char) : Octets :=
  (optionNames.map (·.1)).reverse.filter fun c => c.isAlpha && options.contains c

/-- The value of a parameter as signs; none if there is none. -/
def value? (m : Manner) (name : Octets) : Action (Option (List Sign)) := do
  let s ← get
  let shown (text : Octets) : Option (List Sign) := some (signs m.isQuoted text)
  match name with
  | ['$'] => return shown (Octets.ofNat s.process)
  | ['?'] => return shown (Octets.ofNat s.status)
  | ['#'] => return shown (Octets.ofNat s.arguments.length)
  | ['!'] => return s.lastApart.bind fun n => shown (Octets.ofNat n)
  | ['-'] => return shown (optionLetters s.options)
  | ['@'] | ['*'] =>
    let mark ← between m name
    return some (List.intercalate mark.toList (s.arguments.map (signs m.isQuoted)))
  | _ =>
    if name.all Char.isDigit then
      match Text.readDigits name with
      | some 0 => return shown s.name
      | some n => return (s.arguments[n - 1]?).bind shown
      | none => return none
    else return (s.value? name).bind shown

/-- The stretch of a value. -/
def valueStretch (m : Manner) (name : Octets) (value : List Sign) : Action Stretch := do
  if !m.isQuoted then return ⟨.atSeparators, value⟩
  if name.head? = some '@' ∧ !(← get).arguments.isEmpty then return ⟨.betweenArguments, value⟩
  return ⟨.nowhere, value⟩

/-- Breaks off because a parameter is missing. -/
def failMissing {α : Type} (name message : Octets) : Action α :=
  fail (name ++ ": ".toList ++ message)

/-- Why a parameter is missing, if nothing else is said. -/
def missingReason : Octets := "parameter not set".toList

/-- The text of a value up to the first mark between arguments. -/
def firstText (value : List Sign) : Octets := (textOf value).takeWhile (· != argumentMark)

/-- A value without what a pattern fits at its start or end. A pattern sees no more of a value than
the text up to the next mark between arguments, and no search that starts at the first character
goes beyond such a mark. -/
def cut (atEnd longest : Bool) (p : Pattern) (value : List Sign) : List Sign :=
  let isMark (s : Sign) : Bool := s.char? == some argumentMark
  -- the lengths of the part that is kept or cut, in the order in which they are tried
  let ascending := List.range ((value.takeWhile (!isMark ·)).length + 1)
  let descending := (List.range (value.length + 1)).reverse
  if atEnd then
    let starts := if longest then ascending else descending
    match starts.find? fun i => p.fits (firstText (value.drop i)) with
    | some i => value.take i
    | none => value
  else
    let ends := if longest then descending else ascending
    match ends.find? fun i => p.fits (firstText (value.take i)) with
    | some i => value.drop i
    | none => value

/-! ### Tildes -/

/-- The name after a tilde, and what follows it; none if the tilde stands for itself. -/
def tildeName (isSetting : Bool) : Word → Option (Octets × Word)
  | [] => some ([], [])
  | .plain c :: r =>
    if c = '/' ∨ (c = ':' ∧ isSetting) then some ([], .plain c :: r)
    else (tildeName isSetting r).map fun p => (c :: p.1, p.2)
  | .closing :: r => some ([], .closing :: r)
  | _ => none

/-- The folder that a tilde with a name stands for. -/
def tildeFolder (name : Octets) : Action (Option Octets) := do
  if name.isEmpty then return (← get).value? "HOME".toList
  else if name = "root".toList then return some "/root".toList
  else return none

/-- Expands a tilde at the start of a word. -/
def tilde (m : Manner) (w : Word) : Action (List Stretch × Word) := do
  match w with
  | .plain '~' :: r =>
    match tildeName m.isSetting r with
    | none => return ([], w)
    | some (name, rest) =>
      if m.isIdle then return ([], rest)
      match ← tildeFolder name with
      | some folder => return ([⟨.nowhere, signs true folder⟩], rest)
      | none => return ([], w)
  | _ => return ([], w)

/-! ### Pieces -/

/-- The plain characters at the start of a word, what follows them, and whether a tilde may follow
the last one. -/
def plainRun (m : Manner) : Word → Octets × Word × Bool
  | .plain c :: r =>
    if m.isSetting ∧ (c = ':' ∨ (c = '=' ∧ !m.isPastSign)) then ([c], r, true)
    else
      let (s, rest, b) := plainRun m r
      (c :: s, rest, b)
  | r => ([], r, false)

/-- The value of an expression. -/
def sum (expression : Octets) : Action Int := do
  let s ← get
  let look (name : Octets) : Octets := (s.value? name).getD []
  match Arithmetic.value look expression with
  | .ok (n, settings) =>
    settings.reverse.forM fun (name, n) => setVariable name (Octets.ofInt n.toInt)
    return n
  | .error (.number text) => failNumber text
  | .error (.expression reason) =>
    fail ("arithmetic expression: ".toList ++ reason.toList ++ ": \"".toList ++ expression ++
      ['"'])

mutual

/-- Expands the pieces of a word up to the end of the part that they belong to, and returns what
follows that. `inner` says whether a quote is open. The first argument bounds the length. -/
def pieces (outputs : Outputs) : Nat → Manner → Bool → Word → Action (List Stretch × Word)
  | 0, _, _, w => return ([], w)
  | fuel + 1, m, inner, w => do
    let here : Manner := { m with isQuoted := m.isQuoted || inner, hasTilde := false }
    let on (first : List Stretch) (m : Manner) (inner : Bool) (r : Word) :
        Action (List Stretch × Word) := do
      let (rest, r) ← pieces outputs fuel { m with hasTilde := false } inner r
      return (first ++ rest, r)
    if m.hasTilde then
      let (first, r) ← tilde m w
      on first m inner r
    else
      match w with
      | [] => return ([], [])
      | .closing :: r => return ([], r)
      | .total :: r => return ([], r)
      | .plain _ :: _ =>
        let (text, r, mayTilde) := plainRun m w
        let breaking : Breaking := if m.isInner && !m.isQuoted && !inner then .atSeparators
          else .nowhere
        let first := if m.isIdle then [] else [⟨breaking, text.map Sign.bare⟩]
        let m := if mayTilde then { m with isPastSign := true } else m
        if mayTilde then
          let (more, r) ← tilde { m with isSetting := true } r
          on (first ++ more) m inner r
        else on first m inner r
      | .escaped c :: r => on (if m.isIdle then [] else [⟨.nowhere, [.guarded c]⟩]) m inner r
      | .quote :: r =>
        match inner, r with
        | false, .parameter ['@'] .keep false :: .quote :: rest =>
          let (first, _) ←
            parameter outputs fuel { here with isQuoted := true } ['@'] .keep false []
          on first m inner rest
        | inner, r => on (if m.isIdle then [] else [⟨.nowhere, [.quote]⟩]) m (!inner) r
      | .parameter name change emptyToo :: r =>
        let (first, r) ← parameter outputs fuel here name change emptyToo r
        on first m inner r
      | .outputOf body :: r =>
        if m.isIdle then on [] m inner r
        else
          let text ← outputs body
          let text := ((text.filter (· != '\x00')).reverse.dropWhile (· == '\n')).reverse
          let breaking : Breaking := if here.isQuoted then .nowhere else .atSeparators
          on [⟨breaking, signs here.isQuoted text⟩] m inner r
      | .sum :: r =>
        let (inside, r) ← pieces outputs fuel { isIdle := m.isIdle } false r
        if m.isIdle then on [] m inner r
        else
          let n ← sum (textOf (signsOf inside))
          let breaking : Breaking := if here.isQuoted then .nowhere else .atSeparators
          on [⟨breaking, (Octets.ofInt n).map Sign.bare⟩] m inner r

/-- Expands a parameter, and returns what follows the word that belongs to it. -/
def parameter (outputs : Outputs) : Nat → Manner → Octets → Change → Bool → Word →
    Action (List Stretch × Word)
  | 0, _, _, _, _, w => return ([], w)
  | fuel + 1, m, name, change, emptyToo, w => do
    if change = .unknown ∧ !m.isIdle then fail "Bad substitution".toList
    let found ← value? m name
    let found := if emptyToo then found.filter (!·.isEmpty) else found
    -- the word of the parameter, which counts or is passed over
    let word (counts : Bool) : Action (List Stretch × Word) :=
      pieces outputs fuel
        { m with hasTilde := true, isInner := true, isIdle := m.isIdle || !counts }
        false w
    let shown (value : List Sign) (r : Word) : Action (List Stretch × Word) := do
      if m.isIdle then return ([], r)
      return ([← valueStretch m name value], r)
    let mustBeSet : Action Unit := do
      if found.isNone ∧ !m.isIdle ∧ (← hasOption 'u') then failMissing name missingReason
    match change with
    | .unknown => word false
    | .keep =>
      mustBeSet
      match found with
      | some value => shown value w
      | none => return ([], w)
    | .orElse =>
      match found with
      | none => word true
      | some value => shown value (← word false).2
    | .andThen =>
      match found with
      | none => return ([], (← word false).2)
      | some _ => word true
    | .orAssign | .orFail =>
      match found with
      | some value => shown value (← word false).2
      | none =>
        if m.isIdle then word false
        else
          let (inside, r) ← pieces outputs fuel { hasTilde := true } false w
          let text := textOf (signsOf inside)
          if change = .orAssign then
            setChecked name text
            match ← value? m name with
            | some value => shown value r
            | none => return ([], r)
          else
            match w with
            | .closing :: _ =>
              failMissing name (missingReason ++ if emptyToo then " or null".toList else [])
            | _ => failMissing name text
    | .count =>
      mustBeSet
      let r := match w with
        | .closing :: r => r
        | r => r
      shown ((Octets.ofNat ((found.getD []).length)).map Sign.bare) r
    | .cut atEnd longest =>
      mustBeSet
      match found, m.isIdle with
      | some value, false =>
        let (inside, r) ← pieces outputs fuel { hasTilde := true } false w
        shown (cut atEnd longest (.ofField (fieldOf (signsOf inside))) value) r
      | _, _ => return ([], (← word false).2)

end

/-- Expands a whole word. -/
def whole (outputs : Outputs) (m : Manner) (w : Word) : Action (List Stretch) := do
  return (← pieces outputs (4 * w.length + 8) m false w).1

/-! ### Files -/

/-- A field cut at its slashes. -/
def components : Field → List Field
  | [] => [[]]
  | (c, q) :: r =>
    match components r with
    | [] => [[(c, q)]]
    | f :: fs => if c = '/' then [] :: f :: fs else ((c, q) :: f) :: fs

/-- The paths that fit the components of a pattern, each after a path that is already there. -/
def matching : List Field → Octets → Action (List Octets)
  | [], path => return [path]
  | f :: fs, path => do
    let p := Pattern.ofField f
    let ending : Octets := if fs.isEmpty then [] else ['/']
    if p.isOpen then
      let folder : Octets := if path.isEmpty then ['.'] else path
      match ← lift fun k => .list folder k with
      | .error _ => return []
      | .ok names =>
        let names := [".", ".."].map String.toList ++ names
        let isHiddenMeant := (f.head?.map (·.1)) == some '.'
        let names := names.filter fun n => p.fits n && (isHiddenMeant || n.head? != some '.')
        return (← names.mapM fun n => matching fs (path ++ n ++ ending)).flatten
    else
      let path := path ++ f.text ++ ending
      if !fs.isEmpty then matching fs path
      else
        match ← lift fun k => .look path k with
        | .ok _ => return [path]
        | .error _ => return []

/-- The names of the files that a field fits, or its text. -/
def files (signs : List Sign) : Action (List Octets) := do
  let field := fieldOf signs
  if (← hasOption 'f') || !(Pattern.ofField field).isOpen then return [textOf signs]
  match ← matching (components field) [] with
  | [] => return [textOf signs]
  | paths => return paths.mergeSort fun a b => !List.lex b a fun c d => decide (c < d)

/-! ### Words -/

/-- The fields of a word. -/
def fields (outputs : Outputs) (w : Word) : Action (List Octets) := do
  let stretches ← whole outputs { isSplit := true, hasTilde := true } w
  let ifs := (← separators).getD usualSeparators
  return (← (breakUp ifs none stretches).mapM files).flatten

/-- A word as one text. -/
def single (outputs : Outputs) (m : Manner) (w : Word) : Action Octets := do
  return textOf (signsOf (← whole outputs m w))

/-- A word as a pattern. -/
def pattern (outputs : Outputs) (w : Word) : Action Pattern := do
  return .ofField (fieldOf (signsOf (← whole outputs { hasTilde := true } w)))

/-- A document in which values are put in their places. -/
def document (outputs : Outputs) (w : Word) : Action Octets :=
  single outputs { isQuoted := true } w

end Expansion
end Shell
end OrderTrials
