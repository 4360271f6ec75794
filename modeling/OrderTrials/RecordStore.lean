import OrderTrials.Record
/-
# Stores of records

A store keeps the records of pairs below a root folder, each at a path that depends on the pair
alone: the option, the target and the two configurations. A pair is recorded once.

Key definitions: `RecordStore`, `RecordStore.pathOf`, `RecordStore.persist`, `RecordStore.load`.
-/

namespace OrderTrials

/-- Why a record cannot be kept or found again. -/
inductive StoreFault where
  /-- The folder of the record cannot be made. -/
  | folder (path : String) (cause : FileFault)
  /-- The record cannot be put in its place. -/
  | moving (path : String) (cause : FileFault)
  /-- The record cannot be opened. -/
  | opening (path : String) (cause : FileFault)
  /-- The text is that of no record. -/
  | parsing (path : String)
deriving DecidableEq, Inhabited

/-- A fault of a store in words. -/
def StoreFault.message : StoreFault → String
  | folder path cause =>
    "Violation store I/O error: Failed to create directory " ++ Text.quoted path ++ ": " ++
      cause.message
  | moving path cause =>
    "Violation store I/O error: Failed to move record into " ++ Text.quoted path ++ ": " ++
      cause.message
  | opening path cause =>
    "Violation store I/O error: Failed to open record " ++ Text.quoted path ++ ": " ++
      cause.message
  | parsing path =>
    "Violation store deserialization error: Failed to parse JSON from record " ++
      Text.quoted path

/-- The root folder of records. -/
structure RecordStore where
  root : String
deriving DecidableEq, Inhabited

namespace RecordStore

/-- The folder of the record of a pair. -/
def folderOf (s : RecordStore) (v : Violation) : String :=
  Path.join (Path.join s.root v.option) v.target.slug

/-- The path of the record of a pair. -/
def pathOf (s : RecordStore) (v : Violation) : String :=
  Path.join (s.folderOf v)
    (v.first.configuration.fingerprint ++ "_" ++ v.second.configuration.fingerprint ++ ".json")

/-- Records a pair unless a record of it is there. Returns whether the record is new. -/
def persist (s : RecordStore) (j : Judge String) (files : FileTree) (v : Violation) :
    Except StoreFault (Bool × FileTree) :=
  let path := s.pathOf v
  if files.hasFile path then .ok (false, files)
  else
    match files.makeFolders (s.folderOf v) with
    | .error cause => .error (.folder (s.folderOf v) cause)
    | .ok files =>
      match files.replace path (Record.ofViolation j v).text.toUTF8 with
      | .error cause => .error (.moving path cause)
      | .ok files => .ok (true, files)

/-- Goes on after a call with what it has left, and counts it if the record was new. -/
def counting (answer : Except StoreFault (Bool × FileTree)) (count : Nat) (files : FileTree)
    (others : Nat → FileTree → Except StoreFault Nat × FileTree) :
    Except StoreFault Nat × FileTree :=
  match answer with
  | .error fault => (.error fault, files)
  | .ok (fresh, files) => others (if fresh then count + 1 else count) files

/-- Records several pairs and counts the new records. -/
def persistAll (s : RecordStore) (j : Judge String) :
    List Violation → Nat → FileTree → Except StoreFault Nat × FileTree
  | [], count, files => (.ok count, files)
  | v :: vs, count, files => counting (s.persist j files v) count files (persistAll s j vs)

/-- The record at a path. -/
def load (files : FileTree) (path : String) : Except StoreFault Record :=
  match files.read path with
  | .error .isFolder => .error (.parsing path)
  | .error cause => .error (.opening path cause)
  | .ok bytes =>
    match (String.fromUTF8? bytes).bind Record.read? with
    | none => .error (.parsing path)
    | some r => .ok r

end RecordStore
end OrderTrials
