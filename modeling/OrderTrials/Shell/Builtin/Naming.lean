import OrderTrials.Shell.Builtin.Control
/-
# Builtins that name things

Variables and what is known about them, aliases, and the options in the arguments of a script.

Key definitions: `Shell.Builtin.markVariables`, `Shell.Builtin.makeLocals`,
`Shell.Builtin.nextOption`, `Shell.Builtin.readLine`.
-/

namespace OrderTrials
namespace Shell
namespace Builtin

open Action
open Machine (Act Program Refusal)

/-! ### Variables -/

/-- Marks variables, some of which are given values, or lists those with the mark. -/
def markVariables (name : String) (mark : Variable → Variable) (isMarked : Variable → Bool)
    (words : List Octets) : Action Nat := do
  let (options, words) ← readOptions [('p', false)] words
  if !options.isEmpty || words.isEmpty then
    listVariables (name.toList ++ [' ']) isMarked
    return 0
  words.forM fun word => do
    let (name, value) := splitSetting word
    let _ ← nameIn name
    match value with
    | some value => setVariable name value
    | none => pure ()
    changeVariable name mark
  return 0

/-- Removes variables or functions. -/
def unset (words : List Octets) : Action Nat := do
  let (options, words) ← readOptions [('v', false), ('f', false)] words
  let isFunction := options.getLast?.any (·.1 == 'f')
  words.forM fun name => do
    if isFunction then
      modify fun s => { s with functions := s.functions.filter (·.1 != name) }
    else
      unsetVariable (← nameIn name)
  return 0

/-- Makes variables those of the function that runs. -/
def makeLocals (words : List Octets) : Action Nat := do
  if (← get).locals.isEmpty then fail "not in a function".toList
  words.forM fun word => do
    let (name, value) := splitSetting word
    if word ≠ ['-'] ∧ value.isNone ∧ ((← get).known? name).isNone then
      let _ ← nameIn name
    makeLocal name
    match value with
    | some value => setVariable name value
    | none => pure ()
  return 0

/-! ### Aliases -/

/-- The order in which a table of `size` rows keeps names. -/
def row (size : Nat) (name : Octets) : Nat :=
  let start := match name with
    | c :: _ => 16 * c.toNat
    | [] => 0
  name.foldl (fun n c => n + c.toNat) start % size

/-- Shows an alias. -/
def showAlias (a : Octets × Octets) : Octets := a.1 ++ '=' :: quoted a.2

/-- The size of the table of aliases. -/
def aliasRows : Nat := 39

/-- The aliases in the order in which they are listed. -/
def listedAliases (aliases : List (Octets × Octets)) : List (Octets × Octets) :=
  (List.range aliasRows).flatMap fun n => aliases.filter fun a => row aliasRows a.1 == n

/-- An alias instead of an older one of its name, or after all others. -/
def withAlias (aliases : List (Octets × Octets)) (name value : Octets) : List (Octets × Octets) :=
  if aliases.any (·.1 == name) then
    aliases.map fun a => if a.1 = name then (name, value) else a
  else aliases ++ [(name, value)]

/-- Shows or sets one alias, and says whether that was possible. -/
def setAlias (word : Octets) : Action Bool := do
  let aliases := (← get).aliases
  -- an equals sign at the start belongs to the name
  let name := word.take 1 ++ (word.drop 1).takeWhile (· != '=')
  match word.drop name.length with
  | _ :: value =>
    modify fun s => { s with aliases := withAlias aliases name value }
    return true
  | [] =>
    match aliases.find? (·.1 == word) with
    | some a =>
      emitLine (showAlias a)
      return true
    | none =>
      write 2 ("alias: ".toList ++ word ++ " not found\n".toList)
      return false

/-- Sets and shows aliases. -/
def setAliases (words : List Octets) : Action Nat := do
  if words.isEmpty then
    (listedAliases (← get).aliases).forM fun a => emitLine (showAlias a)
  let done ← words.mapM setAlias
  return if done.all id then 0 else 1

/-- Removes aliases. -/
def unsetAliases (words : List Octets) : Action Nat := do
  let (options, words) ← readOptions [('a', false)] words
  if !options.isEmpty then
    modify fun s => { s with aliases := [] }
    return 0
  let done ← words.mapM fun name => do
    let isThere := (← get).aliases.any (·.1 == name)
    modify fun s => { s with aliases := s.aliases.filter (·.1 != name) }
    if !isThere then write 2 ("unalias: ".toList ++ name ++ " not found\n".toList)
    return isThere
  return if done.all id then 0 else 1

/-! ### Options of a script -/

/-- What follows a letter in a list of letters with colons; none if the letter is not in it. -/
def afterLetter? (c : Char) : Octets → Option Octets
  | [] => none
  | d :: r =>
    if d = c then some r
    else
      match r with
      | ':' :: r => afterLetter? c r
      | r => afterLetter? c r

/-- What `getopts` found: the letter, its text if it has one, what is said, and where it goes on. -/
structure FoundOption where
  letter : Char
  text : Option Octets
  message : Octets := []
  index : Nat
  offset : Option Nat
  isDone : Bool := false

/-- Finds the next option in some arguments. -/
def findOption (letters : Octets) (arguments : List Octets) (index : Nat) (offset : Option Nat) :
    FoundOption :=
  let isQuiet := letters.head? == some ':'
  let inside : Octets := match offset with
    | some n => if index ≤ 1 then [] else ((arguments[index - 2]?).getD []).drop n
    | none => []
  let next := arguments.drop (index - 1)
  let read (c : Char) (r : Octets) (before index : Nat) : FoundOption :=
    let offset := if r.isEmpty then none else some before
    let refused (reason : Octets) (quiet : Char) (offset : Option Nat) : FoundOption :=
      if isQuiet then ⟨quiet, some [c], [], index, offset, false⟩
      else ⟨'?', none, reason, index, offset, false⟩
    match afterLetter? c letters with
    | none => refused ("Illegal option -".toList ++ [c, '\n']) '?' (some before)
    | some (':' :: _) =>
      match r, arguments[index - 1]? with
      | [], none => refused ("No arg for -".toList ++ [c] ++ " option\n".toList) ':' (some before)
      | [], some text => ⟨c, some text, [], index + 1, none, false⟩
      | r, _ => ⟨c, some r, [], index, none, false⟩
    | some _ => ⟨c, some [], [], index, offset, false⟩
  match inside, next with
  | c :: r, _ => read c r ((offset.getD 0) + 1) index
  | [], ['-', '-'] :: _ => ⟨'?', none, [], index + 1, none, true⟩
  | [], ('-' :: c :: r) :: _ => read c r 2 (index + 1)
  | [], _ => ⟨'?', none, [], index, none, true⟩

/-- Reads the next option of the script. -/
def nextOption (words : List Octets) : Action Nat := do
  match ← readNone words with
  | letters :: name :: rest =>
    let s ← get
    let arguments := if rest.isEmpty then s.arguments else rest
    let isBeyond := decide (arguments.length + 1 < s.optionIndex)
    let o := findOption letters arguments (if isBeyond then 1 else s.optionIndex)
      (if isBeyond then none else s.optionOffset)
    if !o.isDone then
      match o.text with
      | some text => setVariable "OPTARG".toList text
      | none =>
        write 2 o.message
        unsetVariable "OPTARG".toList
    changeVariable "OPTIND".toList fun v => { v with value := some (Octets.ofNat o.index) }
    setChecked name [o.letter]
    modify fun s => { s with optionIndex := o.index, optionOffset := o.offset }
    return if o.isDone then 1 else 0
  | _ => fail "Usage: getopts optstring var [arg...]".toList

/-! ### Lines -/

/-- The stretches of a line that is read, the last one first, and whether the line is complete. The
second argument says whether a backslash has no meaning. -/
def readStretches (isRaw : Bool) : Nat → List Stretch → Octets → Bool → Action (List Stretch × Bool)
  | 0, done, run, _ => return (⟨.atSeparators, Expansion.signs false run.reverse⟩ :: done, false)
  | fuel + 1, done, run, isEscaped => do
    let stretch : Stretch := ⟨.atSeparators, Expansion.signs false run.reverse⟩
    match ← lift fun k => .read 0 1 k with
    | .ok [c] =>
      if c = '\x00' then readStretches isRaw fuel done run isEscaped
      else if isEscaped then
        if c = '\n' then readStretches isRaw fuel (stretch :: done) [] false
        else readStretches isRaw fuel (⟨.nowhere, [.guarded c]⟩ :: stretch :: done) [] false
      else if c = '\\' ∧ !isRaw then readStretches isRaw fuel done run true
      else if c = '\n' then return (stretch :: done, true)
      else readStretches isRaw fuel done (c :: run) false
    | .error .interrupted =>
      Jobs.noticeSignals
      if (← get).pending.isEmpty then readStretches isRaw fuel done run isEscaped
      else return (stretch :: done, false)
    | _ => return (stretch :: done, false)

/-- Gives variables the fields of a line; those without a field become empty. -/
def setFields : List Octets → List (List Sign) → Action Unit
  | [], _ => return
  | name :: names, fields => do
    setChecked name (textOf (fields.head?.getD []))
    setFields names fields.tail

/-- Reads a line into variables. -/
def readLine (words : List Octets) : Action Nat := do
  let (options, names) ← readOptions [('p', true), ('r', false)] words
  if names.isEmpty then fail "arg count".toList
  let isRaw := options.any (·.1 == 'r')
  let (stretches, isWhole) ← readStretches isRaw Act.endless [] [] false
  let ifs := (← Expansion.separators).getD Expansion.usualSeparators
  setFields names (breakUp ifs (some names.length) stretches.reverse)
  return if isWhole then 0 else 1

end Builtin
end Shell
end OrderTrials
