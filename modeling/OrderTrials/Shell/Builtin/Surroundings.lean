import OrderTrials.Shell.Builtin.Naming
import OrderTrials.Shell.Builtin.Printing
/-
# Builtins about the surroundings

The working folder, the programs that can be found, and the limits of the machine.

Key definitions: `Shell.Builtin.absolutePath`, `Shell.Builtin.changeFolder`,
`Shell.Builtin.describe`.
-/

namespace OrderTrials
namespace Shell
namespace Builtin

open Action
open Machine (Act Program Refusal)

/-! ### The working folder -/

/-- The texts between the slashes of a path. -/
def parts (path : Octets) : List Octets := path.splitOn '/'

/-- The absolute path to which a path leads from a folder, when two dots simply drop a name. -/
def absolutePath (folder path : Octets) : Octets :=
  let isAbsolute := path.head? == some '/'
  let isDouble := match if isAbsolute then path else folder with
    | '/' :: '/' :: '/' :: _ => false
    | '/' :: '/' :: _ => true
    | _ => false
  let start := if isAbsolute then [] else parts folder
  let names := (start ++ parts path).foldl (fun (before : List Octets) name =>
    if name = [] ∨ name = ['.'] then before
    else if name = ['.', '.'] then before.tail
    else name :: before) []
  (if isDouble then ['/', '/'] else ['/']) ++ Octets.join ['/'] names.reverse

/-- Enters a folder; returns whether that was possible. -/
def enter (path : Octets) (isPhysical : Bool) : Action Bool := do
  let s ← get
  let target := if isPhysical then path else absolutePath s.folder path
  match ← lift fun k => .enter target k with
  | .error _ => return false
  | .ok _ =>
    let folder ← if isPhysical then lift fun k => .whereabouts k else pure target
    setVariable "OLDPWD".toList s.folder
    changeVariable "OLDPWD".toList fun v => { v with isExported := true }
    modify fun s => { s with folder, found := [] }
    setVariable "PWD".toList folder
    changeVariable "PWD".toList fun v => { v with isExported := true }
    return true

/-- Whether a path leads to a folder. -/
def isFolder (path : Octets) : Action Bool := do
  match ← lift fun k => .look path k with
  | .ok (_, .folder) => return true
  | _ => return false

/-- Enters the first folder of a search path that has a folder in it; returns whether there was
one, and whether it is to be shown. -/
def enterBelow (path : Octets) (isPhysical : Bool) : List Octets → Action (Option Bool × Bool)
  | [] => return (none, false)
  | folder :: rest => do
    let file := folder ++ path
    if ← isFolder file then return (some (← enter file isPhysical), !folder.isEmpty)
    enterBelow path isPhysical rest

/-- Whether the physical folder is meant by some options. -/
def isPhysicalIn (options : List (Char × Octets)) : Bool := options.getLast?.any (·.1 == 'P')

/-- Whether the first name of a path is one or two dots. -/
def startsWithDots (path : Octets) : Bool :=
  let first := path.takeWhile (· != '/')
  first == ['.'] || first == ['.', '.']

/-- Enters another folder. -/
def changeFolder (words : List Octets) : Action Nat := do
  let (options, words) ← readOptions [('L', false), ('P', false)] words
  let isPhysical := isPhysicalIn options
  let (path, isShown) ← match words with
    | [] => pure (← valueOf "HOME", false)
    | ['-'] :: _ => pure (← valueOf "OLDPWD", true)
    | path :: _ => pure (path, false)
  let isDirect := path.head? == some '/' || startsWithDots path
  let path := if path.isEmpty then ['.'] else path
  let folders := (← get).value? "CDPATH".toList
  let (found, isBelow) ← match if isDirect then none else folders with
    | some folders => enterBelow path isPhysical (searchPath folders)
    | none => pure (none, false)
  let isDone ← match found with
    | some b => pure b
    | none => enter path isPhysical
  if !isDone then fail ("can't cd to ".toList ++ path)
  if isShown || isBelow then emitLine (← get).folder
  return 0

/-- Shows the working folder. -/
def showFolder (words : List Octets) : Action Nat := do
  let (options, _) ← readOptions [('L', false), ('P', false)] words
  let logical := (← get).folder
  emitLine (← if isPhysicalIn options then lift fun k => .whereabouts k else pure logical)
  return 0

/-! ### Programs -/

/-- The words that belong to the grammar of scripts. -/
def keywords : List String :=
  ["!", "case", "do", "done", "elif", "else", "esac", "fi", "for", "if", "in", "then", "until",
    "while", "\x7b", "\x7d"]

/-- Tells what a name stands for, in a sentence or as it could be written; returns the status. -/
def describe (builtin? : Octets → Option Builtin) (path : Option Octets) (isSentence : Bool)
    (name : Octets) : Action Nat := do
  let told (sentence : Octets) (word : Octets) : Action Nat := do
    emitLine (if isSentence then name ++ " is ".toList ++ sentence else word)
    return 0
  let s ← get
  if (keywords.map String.toList).contains name then told "a shell keyword".toList name
  else
    match s.aliases.find? (·.1 == name) with
    | some a => told ("an alias for ".toList ++ a.2) ("alias ".toList ++ showAlias a)
    | none =>
      let isTracked := path.isNone && s.found.any (·.1 == name)
      let searched := path.getD ((s.value? "PATH".toList).getD [])
      match ← findCommand builtin? true searched name with
      | .function _ => told "a shell function".toList name
      | .builtin b =>
        told ((if b.isSpecial then "a special " else "a ").toList ++ "shell builtin".toList) name
      | .program =>
        let file ← if name.contains '/' then
            match ← lift fun k => .look name k with
            | .ok _ => pure (some name)
            | .error _ => pure none
          else
            match ← findFile name (searchPath searched) notFound with
            | .ok file => pure (some file)
            | .error _ => pure none
        match file with
        | some file =>
          told ((if isTracked then "a tracked alias for " else "").toList ++ file) file
        | none =>
          if isSentence then emitLine (name ++ ": not found".toList)
          return 127
      | .missing _ =>
        if isSentence then emitLine (name ++ ": not found".toList)
        return 127

/-- Tells what names stand for. -/
def describeAll (builtin? : Octets → Option Builtin) : List Octets → Action Nat
  | [] => return 0
  | name :: rest => do
    let status ← describe builtin? none true name
    return status ||| (← describeAll builtin? rest)

/-- Tells what a name stands for, if an option asks for that. What is to be carried out otherwise
has been taken care of before. -/
def describeCommand (builtin? : Octets → Option Builtin) (words : List Octets) : Action Nat := do
  let (options, words) ← readOptions [('p', false), ('v', false), ('V', false)] words
  let isSentence := options.any (·.1 == 'V')
  let path := if options.any (·.1 == 'p') then some standardPath else none
  match if isSentence || options.any (·.1 == 'v') then words else [] with
  | [] => return 0
  | name :: _ => describe builtin? path isSentence name

/-- The size of the table of programs. -/
def programRows : Nat := 31

/-- Looks for programs, and counts those that are not there. -/
def findPrograms (builtin? : Octets → Option Builtin) : List Octets → Action Nat
  | [] => return 0
  | name :: rest => do
    modify fun s => { s with found := s.found.filter (·.1 != name) }
    let isMissing ← match ← findCommand builtin? true (← valueOf "PATH") name with
      | .missing reason =>
        complain (name ++ ": ".toList ++ reason)
        pure true
      | _ => pure false
    let more ← findPrograms builtin? rest
    return if isMissing then 1 else more

/-- Lists or finds programs. -/
def trackPrograms (builtin? : Octets → Option Builtin) (words : List Octets) : Action Nat := do
  let (options, words) ← readOptions [('r', false)] words
  if !options.isEmpty then
    modify fun s => { s with found := [] }
    return 0
  if words.isEmpty then
    let found := (← get).found
    (List.range programRows).forM fun n =>
      (found.filter fun f => row programRows f.1 == n).forM fun f => emitLine f.2
    return 0
  findPrograms builtin? words

/-! ### Limits -/

/-- A mode of files as permissions of three kinds of users. -/
def modeText (mode : Nat) : Octets :=
  let permissions (shift : Nat) : Octets :=
    ("rwx".toList.zip [4, 2, 1]).filterMap fun (c, bit) =>
      if (mode / Nat.pow 2 shift) / bit % 2 = 1 then some c else none
  "u=".toList ++ permissions 6 ++ ",g=".toList ++ permissions 3 ++ ",o=".toList ++ permissions 0

/-- The users that letters at the start of a text mean, as a number with a digit for each, and
what follows. -/
def users (s : Octets) : Nat × Octets :=
  let letters := s.takeWhile fun c => "augo".toList.contains c
  let bits := letters.foldl (fun n c => n ||| match c with
    | 'a' => 0o111
    | 'u' => 0o100
    | 'g' => 0o010
    | _ => 0o001) 0
  (bits, s.drop letters.length)

/-- A mode after the changes that a text describes; none if it describes none. The first argument
bounds their number. -/
def changedMode (mode : Nat) : Nat → Nat → Nat → Octets → Option Nat
  | 0, _, _, _ => none
  | fuel + 1, new, before, s =>
    let (more, s) := users s
    let who := if before ||| more = 0 then 0o111 else before ||| more
    match s with
    | [] => if before ||| more = 0 then some new else none
    | operator :: r =>
      if !(['=', '+', '-'].contains operator) then none
      else
        let letters := r.takeWhile fun c => "rwxugoXs".toList.contains c
        let r := r.drop letters.length
        let value := letters.foldl (fun n c => n ||| match c with
          | 'r' => 4
          | 'w' => 2
          | 'x' => 1
          | 'u' => mode / 64
          | 'g' => mode / 8
          | 'o' => mode
          | 'X' => if mode &&& 0o111 = 0 then 0 else 1
          | _ => 0) 0
        let value := (value &&& 7) * who
        let new := match operator with
          | '-' => new &&& (0o777 ^^^ (value &&& 0o777))
          | '=' => value ||| (new &&& (0o777 ^^^ (who * 7 &&& 0o777)))
          | _ => new ||| value
        match r with
        | [] => some new
        | ',' :: r => if r.isEmpty then some new else changedMode mode fuel new 0 r
        | c :: _ => if ['=', '+', '-'].contains c then changedMode mode fuel new who r else none

/-- Shows or changes the permissions that new files do not get. -/
def setMask (words : List Octets) : Action Nat := do
  let (options, words) ← readOptions [('S', false)] words
  let mask := (← get).mask
  match words with
  | [] =>
    if options.isEmpty then
      let ds := Text.Layout.digitsIn 8 false 5 mask
      emitLine (List.replicate (4 - ds.length) '0' ++ ds)
    else emitLine (modeText (0o777 ^^^ mask))
  | text :: _ =>
    let mask ← if text.head?.any Char.isDigit then
        if text.all isOctal then pure (Text.Scan.digitsValue 8 text &&& 0o777)
        else failNumber text
      else
        let mode := 0o777 ^^^ mask
        match changedMode mode (text.length + 1) mode 0 text with
        | some mode => pure (0o777 ^^^ (mode &&& 0o777))
        | none => fail ("Illegal mode: ".toList ++ text)
    modify fun s => { s with mask }
  return 0

/-- The limits of a machine: their letters, what they are about, and how they stand at first. -/
def limits : List (Char × String × Limit) :=
  [('t', "time(seconds)", ⟨none, none⟩), ('f', "file(blocks)", ⟨none, none⟩),
    ('d', "data(kbytes)", ⟨none, none⟩), ('s', "stack(kbytes)", ⟨some 8192, none⟩),
    ('c', "coredump(blocks)", ⟨some 0, none⟩), ('m', "memory(kbytes)", ⟨none, none⟩),
    ('l', "locked memory(kbytes)", ⟨some 64, some 64⟩), ('p', "process", ⟨none, none⟩),
    ('n', "nofiles", ⟨some 1024, some 1048576⟩), ('v', "vmemory(kbytes)", ⟨none, none⟩),
    ('w', "locks", ⟨none, none⟩), ('r', "rtprio", ⟨some 0, some 0⟩)]

/-- A limit as a text. -/
def limitText : Option Nat → Octets
  | none => "unlimited".toList
  | some n => Text.digits n

/-- The limit that a text means; none if it means none. -/
def limit? (text : Octets) : Option (Option Nat) :=
  if text = "unlimited".toList then some none
  else if text.all Char.isDigit then some (some (Text.Scan.digitsValue 10 text))
  else none

/-- Shows or changes limits of the machine. -/
def setLimits (words : List Octets) : Action Nat := do
  let known := ('H', false) :: ('S', false) :: ('a', false) :: limits.map fun l => (l.1, false)
  let (options, words) ← readOptions known words
  let (kinds, letters) := (options.map (·.1)).partition fun c => c = 'H' ∨ c = 'S'
  let showsAll := letters.contains 'a'
  let letter := (letters.filter (· != 'a')).getLast?.getD 'f'
  let value? ← match words with
    | [] => pure none
    | text :: more =>
      if showsAll ∨ more ≠ [] then fail "too many arguments".toList
      else match limit? text with
        | some value => pure (some value)
        | none => fail "bad number".toList
  let changed := (← get).limits
  let stands (l : Char × String × Limit) : Limit := (changed.lookup l.1).getD l.2.2
  let shown (l : Limit) : Octets := limitText (if kinds.getLast? = some 'H' then l.hard else l.soft)
  if showsAll then
    limits.forM fun l => emitLine (column 20 l.2.1 ++ ' ' :: shown (stands l))
  else
    match limits.find? (·.1 == letter), value? with
    | some l, none => emitLine (shown (stands l))
    | some l, some value =>
      let before := stands l
      let limit : Limit := match kinds.getLast? with
        | some 'H' => { before with hard := value }
        | some _ => { before with soft := value }
        | none => ⟨value, value⟩
      if limit.isOrdered then modify fun s => { s with limits := (letter, limit) :: changed }
      else fail "error setting limit (Invalid argument)".toList
    | none, _ => pure ()
  return 0

end Builtin
end Shell
end OrderTrials
