import OrderTrials.Shell.Evaluation
/-
# The words of a builtin

A builtin reads options from its first words: letters after a minus sign, some of which take a text
along with them.

Key definitions: `Shell.Builtin.Known`, `Shell.Builtin.readOptions`, `Shell.Builtin.readSetup`.
-/

namespace OrderTrials
namespace Shell
namespace Builtin

open Action

/-- The options of a builtin, each with whether it takes a text along. -/
abbrev Known := List (Char × Bool)

/-- The options in one word. If the last one still needs its text, it is returned apart. -/
def optionsIn (known : Known) : Octets → Action (List (Char × Octets) × Option Char)
  | [] => return ([], none)
  | c :: r => do
    match known.find? (·.1 == c) with
    | none => fail ("Illegal option -".toList ++ [c])
    | some (_, true) => return if r.isEmpty then ([], some c) else ([(c, r)], none)
    | some (_, false) =>
      let (found, unfinished) ← optionsIn known r
      return ((c, []) :: found, unfinished)

/-- The options in the first words, and the words after them. -/
def readOptions (known : Known) : List Octets → Action (List (Char × Octets) × List Octets)
  | [] => return ([], [])
  | ('-' :: c :: r) :: rest => do
    if c = '-' ∧ r = [] then return ([], rest)
    let (found, unfinished) ← optionsIn known (c :: r)
    match unfinished, rest with
    | none, rest =>
      let (more, rest) ← readOptions known rest
      return (found ++ more, rest)
    | some c, text :: rest =>
      let (more, rest) ← readOptions known rest
      return (found ++ (c, text) :: more, rest)
    | some c, [] => fail ("No arg for -".toList ++ [c] ++ " option".toList)
  | words => return ([], words)

/-- The words after the options of a builtin that knows none. -/
def readNone (words : List Octets) : Action (List Octets) := do
  return (← readOptions [] words).2

/-! ### The options of a shell -/

/-- A text widened with blanks at its end. -/
def column (width : Nat) (s : String) : Octets :=
  s.toList ++ List.replicate (width - s.length) ' '

/-- Lists the options of the shell, for readers or as commands. -/
def listOptions (isForReaders : Bool) : Action Unit := do
  let set := (← get).options
  if isForReaders then emitLine "Current option settings".toList
  optionNames.forM fun (c, name) =>
    emitLine <| if isForReaders then
        column 16 name ++ (if set.contains c then "on" else "off").toList
      else (if set.contains c then "set -o " else "set +o ").toList ++ name.toList

/-- Sets or resets the option with a name. -/
def setNamed (name : Octets) (value : Bool) : Action Unit := do
  match optionNames.find? (·.2.toList == name) with
  | some (c, _) => setOption c value
  | none => fail ("Illegal option -o ".toList ++ name)

/-- What the first words of a shell or of `set` say. -/
structure Setup where
  /-- The words after the options. -/
  rest : List Octets
  /-- Whether the options ended with a mark of their own. -/
  isMarked : Bool := false
  /-- Whether the next word is a script. -/
  isScript : Bool := false
deriving Inhabited

/-- Sets the options of one word. Returns the words after it, and whether the next one is a
script. -/
def setLetters (isStart value : Bool) : Octets → List Octets → Action (List Octets × Bool)
  | [], rest => return (rest, false)
  | 'o' :: letters, [] => do
    listOptions value
    setLetters isStart value letters []
  | 'o' :: letters, name :: rest => do
    setNamed name value
    setLetters isStart value letters rest
  | c :: letters, rest => do
    if isStart ∧ c = 'c' then
      return ((← setLetters isStart value letters rest).1, true)
    if !(isStart ∧ c = 'l') then setOption c value
    setLetters isStart value letters rest

/-- Sets the options of a shell that its first words ask for. The first argument bounds the number
of the words. -/
def readSetup (isStart : Bool) : Nat → List Octets → Action Setup
  | 0, words => return { rest := words }
  | fuel + 1, words => do
    match words with
    | ['-'] :: rest =>
      if !isStart then
        modify fun s => { s with options := s.options.filter fun c => c != 'x' && c != 'v' }
      return { rest }
    | ['-', '-'] :: rest => return { rest, isMarked := true }
    | (sign :: letters) :: rest =>
      if sign = '-' ∨ sign = '+' then
        let (rest, isScript) ← setLetters isStart (sign == '-') letters rest
        let setup ← readSetup isStart fuel rest
        return { setup with isScript := isScript || setup.isScript }
      else return { rest := words }
    | _ => return { rest := words }

/-- Takes notice of changed options. There is no terminal that jobs could be controlled with. -/
def noticeOptions : Action Unit := do
  if ← hasOption 'm' then
    complain "can't access tty; job control turned off".toList
    setOption 'm' false

end Builtin
end Shell
end OrderTrials
