import OrderTrials.Tools.Edit.Running
/-
# The line editor

The tool that edits lines as a script says. The script comes from its options, in their order, or
is its first word; the other words are the names of the files.

Key definitions: `Tools.Edit.Setup`, `Tools.Edit.program`.
Key theorems: `Tools.Edit.outletFd_stdout`.
-/

namespace OrderTrials
namespace Tools
namespace Edit

open Machine (Act Program Refusal Environment)

/-- The options of the tool. -/
def known : Known where
  letters := "bsnrzuE".toList.map (fun c => (c, .nothing)) ++
    [('e', .text), ('f', .text), ('l', .text), ('i', .perhaps)]
  names := [("binary", .nothing, 'b'), ("regexp-extended", .nothing, 'r'),
    ("debug", .nothing, 'D'), ("in-place", .perhaps, 'i'), ("expression", .text, 'e'),
    ("file", .text, 'f'), ("line-length", .text, 'l'), ("null-data", .nothing, 'z'),
    ("zero-terminated", .nothing, 'z'), ("quiet", .nothing, 'n'), ("posix", .nothing, 'p'),
    ("silent", .nothing, 'n'), ("sandbox", .nothing, 'S'), ("separate", .nothing, 's'),
    ("unbuffered", .nothing, 'u'), ("version", .nothing, '!'), ("help", .nothing, '?'),
    ("follow-symlinks", .nothing, 'F')]

/-- What has been made of the options. -/
structure Setup where
  tool : Octets
  manner : Manner := {}
  reading : Reading := {}
  /-- How many pieces of the script were words. -/
  words : Nat := 0
  outlets : List Outlet := []

/-- Tells how the tool is used, and ends. -/
def explain {α : Type} (tool : Octets) (fd status : Nat) : Act α := do
  let _ ← Act.write fd ("Usage: ".toList ++ tool ++
    " [OPTION]... \x7bscript-only-if-no-other-script\x7d [input-file]...\n".toList)
  Act.exit status

/-- Ends with a complaint. -/
def giveUp {α : Type} (tool : Octets) (status : Nat) (message : Octets) : Act α := do
  complain tool message
  Act.exit status

/-- The descriptor that a name stands for. -/
def outletFd? (name : Octets) : Option Nat :=
  if name = "/dev/stdout".toList then some 1
  else if name = "/dev/stderr".toList then some 2
  else none

theorem outletFd_stdout : outletFd? "/dev/stdout".toList = some 1 := rfl

/-- Opens files that are written, unless they are open. -/
def openOutlets (tool : Octets) : List Octets → List Outlet → Act (List Outlet)
  | [], outlets => return outlets
  | name :: rest, outlets => do
    if outlets.any (·.name == name) then openOutlets tool rest outlets
    else
      match outletFd? name with
      | some fd => openOutlets tool rest (⟨name, fd, false⟩ :: outlets)
      | none =>
        let how : Machine.Opening := { writes := true, makes := true, empties := true }
        match ← fun k => .openFile name how k with
        | .ok fd => openOutlets tool rest (⟨name, fd, false⟩ :: outlets)
        | .error refusal =>
          giveUp tool Session.brokenStatus
            (because ("couldn't open file ".toList ++ name) refusal)

/-- Ends with a fault at a place of the script. -/
def refuse {α : Type} (tool place : Octets) (fault : Fault) : Act α :=
  match fault with
  | .regular .bareClass => giveUp tool Session.brokenStatus fault.text
  | fault => giveUp tool 1 (place ++ ": ".toList ++ fault.text)

/-- Adds a piece to the script. -/
def Setup.withPiece (s : Setup) (origin : Origin) (text : Octets) : Act Setup := do
  let result := EStateM.run Reading.all (s.reading.begun origin text)
  let (reading, fault) : Reading × Option Fault := match result with
    | .ok _ r => (r, none)
    | .error fault r => (r, some fault)
  let outlets ← openOutlets s.tool reading.targets.reverse s.outlets
  match fault with
  | some fault => refuse s.tool reading.place fault
  | none => return { s with reading, outlets }

/-- Adds a word to the script. -/
def Setup.withWord (s : Setup) (text : Octets) : Act Setup :=
  { s with words := s.words + 1 }.withPiece (.word (s.words + 1)) text

/-- Adds a file to the script. -/
def Setup.withFile (s : Setup) (name : Octets) : Act Setup := do
  let isInput := name == ['-']
  match ← if isInput then pure (.ok 0) else fun k => .openFile name { reads := true } k with
  | .error refusal =>
    giveUp s.tool Session.brokenStatus (because ("couldn't open file ".toList ++ name) refusal)
  | .ok fd =>
    match ← Act.readAll fd with
    | .error refusal =>
      giveUp s.tool Session.brokenStatus (because ("read error on ".toList ++ name) refusal)
    | .ok text =>
      if !isInput then let _ ← fun k => .close fd k
      s.withPiece (.file name) text

/-- What has been made of one more option. -/
def Setup.withOption (s : Setup) (letter : Char) (value : Option Octets) : Act Setup :=
  let text := value.getD []
  let m := s.manner
  match letter with
  | 'n' => return { s with manner := { m with isQuiet := true } }
  | 's' => return { s with manner := { m with isSeparate := true } }
  | 'i' => return { s with manner := { m with inPlace := some text, isSeparate := true } }
  | 'u' => return { s with manner := { m with isPrompt := true } }
  | 'z' => return { s with manner := { m with mark := '\x00' } }
  | 'l' =>
    let width := (Text.Scan.number (some 10) text).1.toNat
    return { s with manner := { m with width } }
  | 'E' | 'r' => return { s with reading := { s.reading with isExtended := true } }
  | 'S' => return { s with reading := { s.reading with isSandboxed := true } }
  | 'e' => s.withWord text
  | 'f' => s.withFile text
  | '?' => explain s.tool 1 0
  | '!' => Act.exit 0
  | _ => return s

/-- What has been made of options. -/
def Setup.withOptions (s : Setup) : List (Char × Option Octets) → Act Setup
  | [] => return s
  | (letter, value) :: rest => do (← s.withOption letter value).withOptions rest

/-- Edits lines. -/
def start (words : List Octets) (environment : Environment) : Act Nat := do
  let tool := words.head?.getD []
  match Options.read known words.tail with
  | .error reason =>
    complain tool reason
    explain tool 2 1
  | .ok o =>
    let s ← Setup.withOptions { tool } o.found
    let (s, files) ← if 0 < s.reading.pieces then pure (s, o.words)
      else
        match o.words with
        | text :: files => do pure (← s.withWord text, files)
        | [] => explain tool 2 1
    match s.reading.script with
    | .error (place, fault) => refuse tool place fault
    | .ok script =>
      if let some label := script.missing? then
        giveUp tool Session.brokenStatus
          ("can't find label for jump to \x60".toList ++ label ++ ['\''])
      if s.manner.inPlace.isSome && files.isEmpty then
        giveUp tool Session.brokenStatus "no input files".toList
      let session : Session := {
        tool, script, environment, manner := { s.manner with
          isQuiet := s.manner.isQuiet || s.reading.isQuiet }
        place := { s.reading with taken := 0 }.place
        files := if files.isEmpty then [['-']] else files
        spans := Session.freshSpans script
        outlets := s.outlets }
      let (status, _) ← edit.run session
      return status

/-- The line editor. -/
def program (words : List Octets) (environment : Environment) : Program :=
  (start words environment).toProgram

end Edit
end Tools
end OrderTrials
