import OrderTrials.Machine.Running
/-
# Launching programs in a machine

The launcher that runs programs in a machine of its own, with the files that are there. A program is
found before it is run: its folder must be there, and its name must lead to a program. Nothing can
be read by it, and what it writes is kept.

Key definitions: `Machine.find`, `Machine.booted`, `Machine.launch`.
Key theorems: `Machine.launch_of_zero`.
-/

namespace OrderTrials
namespace Machine

/-! ### Finding a program -/

/-- The reason why a word with a zero in it can be handed to no program. -/
def zeroReason : String := "nul byte found in provided data"

/-- Why a program does not start, as the caller is told. -/
def Refusal.reason : Refusal → String
  | .file fault => fault.message
  | .denied => Refusal.denied.text ++ " (os error 13)"
  | .tooLong => Refusal.tooLong.text ++ " (os error 7)"
  | r => r.text

/-- The folders in which programs are looked for. -/
def programFolders : List String :=
  ["/usr/local/sbin", "/usr/local/bin", "/usr/sbin", "/usr/bin", "/sbin", "/bin"]

/-- The variables that programs are started with. -/
def startEnvironment : Environment :=
  [("HOME".toList, "/root".toList), ("PATH".toList, (":".intercalate programFolders).toList)]

/-- The name of the program to which a path leads from a folder. -/
def programAt (files : FileTree) (folder : Place) (words : List String) (path : String) :
    Except Refusal String :=
  match files.locate folder path with
  | .error fault => .error (.file fault)
  | .ok place =>
    match files.get? place with
    | none => .error (.file .notFound)
    | some (.program name) =>
      if words.any fun w => decide (wordLimit < w.utf8ByteSize) then .error .tooLong else .ok name
    | some _ => .error .denied

/-- The first program among some paths, or why there is none. -/
def firstProgram (files : FileTree) (folder : Place) (words : List String) :
    List String → Refusal → Except Refusal String
  | [], refusal => .error refusal
  | path :: rest, refusal =>
    match programAt files folder words path with
    | .ok name => .ok name
    | .error .denied => firstProgram files folder words rest .denied
    | .error (.file .notFound) | .error (.file .notFolder) =>
      firstProgram files folder words rest refusal
    | .error refusal => .error refusal

/-- The name of the program that the first of some words means in a folder. -/
def find (files : FileTree) (folder : Place) (words : List String) : Except Refusal String :=
  let name := words.head?.getD ""
  if name.toList.contains '/' then programAt files folder words name
  else if name.isEmpty then .error (.file .notFound)
  else if Path.isTooLong name.toList then .error (.file .nameTooLong)
  else firstProgram files folder words (programFolders.map (· ++ "/" ++ name)) (.file .notFound)

/-- The folder that a program is started in. -/
def folderOf (files : FileTree) : Option String → Except Refusal Place
  | none => .ok []
  | some path =>
    match files.locate [] path with
    | .error fault => .error (.file fault)
    | .ok place =>
      match files.get? place with
      | some .folder => .ok place
      | some _ => .error (.file .notFolder)
      | none => .error (.file .notFound)

/-! ### Running it -/

/-- A machine in which one program is about to start. -/
def booted (files : FileTree) (folder : Place) (program : Program) : State :=
  let reading : Opening := { reads := true }
  let writing : Opening := { writes := true }
  { files
    clock := 0
    processes := [{
      number := firstNumber
      parent := firstNumber - 1
      program
      descriptors := [⟨0, 0, false⟩, ⟨1, 1, false⟩, ⟨2, 2, false⟩]
      folder
      alarm := none
      dispositions := []
      pending := []
      stopped := false }]
    descriptions := #[⟨.void, 0, reading⟩, ⟨.outlet 1, 0, writing⟩, ⟨.outlet 2, 0, writing⟩]
    pipes := #[]
    output := []
    complaints := []
    ended := []
    ending := none
    nextNumber := firstNumber + 1
    idle := 0
    granted := 0 }

/-- Whether anything can still leave a machine. -/
def isOpen (s : State) : Bool :=
  s.processes.any (s.holds fun d => d.source == .outlet 1 || d.source == .outlet 2)

/-- Nanoseconds in a millisecond. -/
def millisecond : Nat := 1000000

/-- What a machine leaves. -/
def outcome (s : State) (ending : Ending) (elapsed : Nat) : Outcome :=
  let bytes (blocks : List Octets) := Octets.toBytes blocks.reverse.flatten
  ⟨ending, bytes s.output, bytes s.complaints, elapsed, s.files⟩

/-- Runs a machine until nothing can leave it any more or, with a limit in milliseconds, until it
is looked at after its first program has ended. -/
def runFor (c : Catalogue) (limit : Option Nat) (s : State) : Outcome :=
  match limit with
  | none =>
    let s := run c (fun s => s.ending.isSome && !isOpen s) none Act.endless s
    outcome s (s.ending.getD .overdue) (s.clock / millisecond)
  | some limit =>
    let s := run c (·.ending.isSome) (some (limit * millisecond)) Act.endless s
    match s.ending with
    | none => outcome s .overdue limit
    | some ending =>
      let look := (s.clock / (Launch.pause * millisecond) + 1) * Launch.pause
      let s := run c (fun _ => false) (some (look * millisecond)) Act.endless s
      outcome s ending look

/-- Starts a program of a catalogue. -/
def launch (c : Catalogue) : Launcher := fun l limit files =>
  let words := l.program :: l.arguments
  if (words ++ l.folder.toList).any fun w => w.toList.contains '\x00' then .error zeroReason
  else
    let found : Except Refusal (Place × String) := do
      let folder ← folderOf files l.folder
      return (folder, ← find files folder words)
    match found with
    | .error refusal => .error refusal.reason
    | .ok (folder, name) =>
      match c name with
      | none => .error Refusal.denied.reason
      | some make =>
        let program := make (words.map Octets.ofString) startEnvironment
        .ok (runFor c limit (booted files folder program))

/-- No word with a zero in it reaches a program. -/
theorem launch_of_zero (c : Catalogue) {l : Launch} (limit : Option Nat) (files : FileTree)
    (h : l.program.toList.contains '\x00' = true) :
    launch c l limit files = .error zeroReason := by
  simp only [launch, List.cons_append, List.any_cons, h, Bool.true_or, if_true]

end Machine
end OrderTrials
