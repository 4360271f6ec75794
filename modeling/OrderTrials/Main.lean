import OrderTrials.Cli.Session
import OrderTrials.Tools.Catalogue
/-
# The program

Reads the working folder, answers the words of the command line, puts what has changed back into
the folder, and prints. All that is decided is decided by `Cli.answer`; the programs that a session
starts run in the file tree.
-/

open OrderTrials

/-- The tree with all that is given and all that lies below it, as far as it can be read. -/
partial def readAll (items : Array IO.FS.DirEntry) (folder : Place) (tree : FileTree) :
    IO FileTree := do
  let mut tree := tree
  for item in items do
    let place := folder ++ [item.fileName]
    if ← item.path.isDir then
      tree ← readAll (← item.path.readDir) place (tree.put place .folder)
    else
      try tree := tree.put place (.file (← IO.FS.readBinFile item.path)) catch _ => pure ()
  return tree

/-- Makes a folder of the disk like a tree, given the tree that it was like. -/
def writeChanges (before after : FileTree) : IO Unit := do
  for (place, _) in before.entries do
    if (after.get? place).isNone then IO.FS.removeFile (FileTree.showPlace place)
  for (place, item) in after.entries do
    if before.get? place != some item then
      match item with
      | .folder => IO.FS.createDirAll (FileTree.showPlace place)
      | .file bytes =>
        IO.FS.createDirAll ("./" ++ FileTree.showPlace place.dropLast)
        IO.FS.writeBinFile (FileTree.showPlace place) bytes
      | .program _ | .void => pure ()

/-- Answers a command line in the working folder. -/
def main (words : List String) : IO UInt32 := do
  let here ← IO.currentDir
  let before ← readAll (← here.readDir) [] (Tools.install ⟨[], here.fileName⟩)
  let answer := Cli.answer Tools.launch words before
  writeChanges before answer.files
  for line in answer.lines do
    IO.println line
  if let some complaint := answer.complaint then
    IO.eprintln complaint
  return answer.exit.toUInt32
