import OrderTrials.Execution.Launch
import OrderTrials.Seed
import OrderTrials.Text.Lossy
import OrderTrials.Text.Quoted
/-
# Seeds from a command

A source that starts a program for each seed and takes what it prints, without the white space at
both ends. The program must end well and print text.

Key definitions: `CommandSeeds`, `CommandSeeds.read`, `CommandSeeds.next`.
-/

namespace OrderTrials

/-- A state of the world that has files in it. -/
class Filing (σ : Type) where
  files : σ → FileTree
  refile : σ → FileTree → σ

/-- The words of a program that prints seeds, and the folder that it is started in. -/
structure CommandSeeds where
  launcher : Launcher
  command : List String
  folder : Option String

namespace CommandSeeds

/-- The seed that a program leaves. -/
def read (command : List String) (o : Outcome) : Except SeedFailure String :=
  if o.ending.succeeded then
    match String.fromUTF8? o.output with
    | some text => .ok (Text.trim text)
    | none =>
      .error ⟨"Seed generator produced non UTF-8 output", Text.brokenReason o.output.toList⟩
  else
    .error ⟨"Seed generator " ++ Text.quotedList command ++ " exited with " ++ o.ending.text ++
      ": " ++ Text.trim (Text.lossy o.complaints.toList), none⟩

/-- The next seed, and the files after it. -/
def next (c : CommandSeeds) (files : FileTree) : Except SeedFailure String × FileTree :=
  match c.command with
  | [] => (.error ⟨"Seed generator command is empty", none⟩, files)
  | program :: arguments =>
    match c.launcher ⟨program, arguments, c.folder⟩ none files with
    | .error reason =>
      (.error ⟨"Failed to spawn seed generator " ++ Text.quotedList c.command, some reason⟩, files)
    | .ok o => (read c.command o, o.files)

end CommandSeeds

/-- Seeds from a command beside any world that has files in it. -/
instance {σ : Type} [Filing σ] : SeedSource CommandSeeds σ where
  next c s :=
    let (r, files) := c.next (Filing.files s)
    (r, c, Filing.refile s files)

end OrderTrials
