import OrderTrials.Path
/-
# File trees

A tree of files and folders as a map from places to what lies there. The working folder and the
root always exist. A path is followed name by name: all that is passed on the way must be folders,
also where the way leads back. An operation that a file system refuses is an error and changes
nothing.

Key definitions: `FileTree`, `FileTree.get?`, `FileTree.walk`, `FileTree.locate`, `FileTree.read`,
`FileTree.write`, `FileTree.replace`, `FileTree.makeFolders`, `FileTree.remove`,
`FileTree.filesBelow`.
Key theorems: `FileTree.get?_put_self`, `FileTree.get?_put_of_ne`, `FileTree.get?_drop`,
`FileTree.walk_eq_foldl`.
-/

namespace OrderTrials

/-- Bytes are compared in the same way whatever else is imported. -/
instance (priority := 2000) bytesDecidableEq : DecidableEq ByteArray := ByteArray.instDecidableEq

/-- A text that is written as bytes is read back. -/
theorem fromUTF8?_toUTF8 (text : String) : String.fromUTF8? text.toUTF8 = some text := by
  unfold String.fromUTF8?
  exact dif_pos text.isValidUTF8

/-- What lies at a place. -/
inductive Entry where
  | folder
  | file (bytes : ByteArray)
  /-- A program that can be started. -/
  | program (name : String)
  /-- A device that takes everything and yields nothing. -/
  | void
deriving DecidableEq, Inhabited

/-- Why a file system refuses an operation. -/
inductive FileFault where
  /-- Nothing is there. -/
  | notFound
  /-- Something is there already. -/
  | present
  /-- A file is in the place of a folder. -/
  | notFolder
  /-- A folder is in the place of a file. -/
  | isFolder
  /-- The name is too long. -/
  | nameTooLong
  /-- The name has a zero in it. -/
  | zeroInName
deriving DecidableEq, Inhabited

/-- A refusal in words. -/
def FileFault.message : FileFault → String
  | notFound => "No such file or directory (os error 2)"
  | present => "File exists (os error 17)"
  | notFolder => "Not a directory (os error 20)"
  | isFolder => "Is a directory (os error 21)"
  | nameTooLong => "File name too long (os error 36)"
  | zeroInName => "file name contained an unexpected NUL byte"

/-- Files and folders by their places, and the name of the working folder in the folder above it,
if it matters. -/
structure FileTree where
  entries : List (Place × Entry)
  home : Option String
deriving DecidableEq, Inhabited

namespace FileTree

/-- The tree without files and folders. -/
def empty : FileTree := ⟨[], none⟩

/-- Whether a folder is at a place in every tree. -/
def isRoot (p : Place) : Bool := p == [] || p == ["/"] || p.all (· == "..")

/-- What is recorded at a place. -/
def recorded? (t : FileTree) (p : Place) : Option Entry :=
  (t.entries.find? (·.1 == p)).map (·.2)

/-- What lies at a place. -/
def get? (t : FileTree) (p : Place) : Option Entry :=
  if isRoot p then some .folder else t.recorded? p

/-- Whether a file is at a place. -/
def isFile (t : FileTree) (p : Place) : Bool :=
  match t.get? p with
  | some (.file _) | some (.program _) => true
  | _ => false

/-- Whether a folder is at a place. -/
def isFolder (t : FileTree) (p : Place) : Bool := t.get? p == some .folder

/-- Whether anything is at a place. -/
def isPresent (t : FileTree) (p : Place) : Bool := (t.get? p).isSome

/-- The map without what lies at a place. -/
def drop (t : FileTree) (p : Place) : FileTree :=
  { t with entries := t.entries.filter (·.1 != p) }

/-- The map with `e` at a place. -/
def put (t : FileTree) (p : Place) (e : Entry) : FileTree :=
  { t with entries := (t.drop p).entries ++ [(p, e)] }

/-! ### Paths -/

/-- A place without the detour over the folder above the working folder. -/
def settled (t : FileTree) (p : Place) : Place :=
  match p, t.home with
  | [up, name], some home => if up = ".." ∧ name = home then [] else p
  | p, _ => p

/-- Follows segments from a place. Each segment is looked for in a folder, which must be there. -/
def walk (t : FileTree) : Place → List (List Char) → Except FileFault Place
  | p, [] => .ok p
  | p, s :: r =>
    match t.get? p with
    | none => .error .notFound
    | some .folder =>
      if Path.isTooLong s then .error .nameTooLong else walk t (t.settled (Path.follow p s)) r
    | some _ => .error .notFolder

/-- The place that a path leads to from a folder; nothing needs to lie there. -/
def locate (t : FileTree) (base : Place) (p : String) : Except FileFault Place :=
  if p.toList.contains '\x00' then .error .zeroInName
  else if p.isEmpty then .error .notFound
  else if Path.lengthLimit ≤ p.utf8ByteSize then .error .nameTooLong
  else t.walk (Path.origin base p) (Path.segments p.toList)

/-- What a path leads to from a folder. -/
def find? (t : FileTree) (base : Place) (p : String) : Option Entry :=
  match t.locate base p with
  | .ok place => t.get? place
  | .error _ => none

/-- Whether a path leads to a file. -/
def hasFile (t : FileTree) (p : String) : Bool :=
  match t.find? [] p with
  | some (.file _) | some (.program _) => true
  | _ => false

/-- Whether a path leads to anything. -/
def has (t : FileTree) (p : String) : Bool := (t.find? [] p).isSome

/-- The bytes of a file, seen from a folder. -/
def readFrom (t : FileTree) (base : Place) (p : String) : Except FileFault ByteArray :=
  match t.locate base p with
  | .error fault => .error fault
  | .ok place =>
    match t.get? place with
    | some (.file bytes) => .ok bytes
    | some .folder => .error .isFolder
    | some _ => .ok .empty
    | none => .error .notFound

/-- The bytes of a file. -/
def read (t : FileTree) (p : String) : Except FileFault ByteArray := t.readFrom [] p

/-- The place of a file that is to be written, seen from a folder. -/
def locateFile (t : FileTree) (base : Place) (p : String) : Except FileFault Place :=
  if Path.endsOpen p ∧ Path.steps p ≠ [] then
    match t.locate base (Path.closed p) with
    | .error fault => .error fault
    | .ok _ => .error .isFolder
  else t.locate base p

/-- Gives a file new contents, and makes it if it is not there. -/
def writeFrom (t : FileTree) (base : Place) (p : String) (bytes : ByteArray) :
    Except FileFault FileTree :=
  match t.locateFile base p with
  | .error fault => .error fault
  | .ok place =>
    match t.get? place with
    | some .folder => .error .isFolder
    | some .void => .ok t
    | _ => .ok (t.put place (.file bytes))

/-- Gives a file new contents, and makes it if it is not there. -/
def write (t : FileTree) (p : String) (bytes : ByteArray) : Except FileFault FileTree :=
  t.writeFrom [] p bytes

/-- Puts a file with contents in place of what a path leads to, if that is no folder. -/
def replace (t : FileTree) (p : String) (bytes : ByteArray) : Except FileFault FileTree :=
  match t.locate [] p with
  | .error fault => .error fault
  | .ok place =>
    match t.get? place with
    | some .folder => .error .isFolder
    | _ => .ok (t.put place (.file bytes))

/-- Makes the folder to which segments lead from a place. -/
def makeFolder (t : FileTree) (base : Place) (segments : List (List Char)) :
    Except FileFault FileTree :=
  match t.walk base segments with
  | .error fault => .error fault
  | .ok p => if t.isPresent p then .error .present else .ok (t.put p .folder)

/-- Makes the folder to which segments lead, unless it is there. -/
def ensureFolder (t : FileTree) (base : Place) (segments : List (List Char)) :
    Except FileFault FileTree :=
  match t.makeFolder base segments with
  | .ok t => .ok t
  | .error fault =>
    match t.walk base segments with
    | .ok p => if t.isFolder p then .ok t else .error fault
    | .error _ => .error fault

/-- Makes the folder to which segments lead, given from the last one on, and all those on the way
to it that are not there. -/
def makeFoldersBackwards (t : FileTree) (base : Place) :
    List (List Char) → Except FileFault FileTree
  | [] => .ok t
  | s :: r =>
    match t.ensureFolder base (s :: r).reverse with
    | .error .notFound =>
      match makeFoldersBackwards t base r with
      | .error fault => .error fault
      | .ok t => t.ensureFolder base (s :: r).reverse
    | answer => answer

/-- Makes the folder to which a path leads and all those on the way to it. -/
def makeFolders (t : FileTree) (p : String) : Except FileFault FileTree :=
  if p.toList.contains '\x00' then .error .zeroInName
  else if Path.lengthLimit ≤ p.utf8ByteSize then .error .nameTooLong
  else t.makeFoldersBackwards (Path.origin [] p) (Path.steps p).reverse

/-- Removes a file. -/
def remove (t : FileTree) (p : String) : Except FileFault FileTree :=
  match t.locate [] p with
  | .error fault => .error fault
  | .ok place =>
    match t.get? place with
    | some .folder => .error .isFolder
    | some _ => .ok (t.drop place)
    | none => .error .notFound

/-- Removes a file if that is possible. -/
def discard (t : FileTree) (p : String) : FileTree :=
  match t.remove p with
  | .ok t => t
  | .error _ => t

/-- Makes a folder if that is possible. -/
def layFolder (t : FileTree) (p : String) : FileTree :=
  match t.makeFolders p with
  | .ok t => t
  | .error _ => t

/-- Writes a file in a folder that is made for it, if that is possible. -/
def layFile (t : FileTree) (p : String) (bytes : ByteArray) : FileTree :=
  let t := t.layFolder (Path.folder p)
  match t.write p bytes with
  | .ok t => t
  | .error _ => t

/-- Segments that can be followed lead where they lead without looking, as long as the working
folder has no name. -/
theorem walk_eq_foldl {t : FileTree} (h : t.home = none) {p q : Place} {s : List (List Char)}
    (hw : t.walk p s = .ok q) : q = s.foldl Path.follow p := by
  induction s generalizing p with
  | nil => simpa [walk] using hw.symm
  | cons c r ih =>
    simp only [walk] at hw
    split at hw
    · simp at hw
    · split at hw
      · simp at hw
      · have hs : t.settled (Path.follow p c) = Path.follow p c := by
          simp [settled, h]
        rw [hs] at hw
        simpa using ih hw
    · simp at hw

/-! ### Listings -/

/-- A place as a path. -/
def showPlace : Place → String
  | "/" :: r => "/" ++ "/".intercalate r
  | p => "/".intercalate p

/-- The way from a folder to a place below it. -/
def wayFrom? (folder p : Place) : Option Place :=
  if folder.isPrefixOf p then
    match p.drop folder.length with
    | [] => none
    | n :: r => if n = "/" ∨ n = ".." then none else some (n :: r)
  else none

/-- The files below a folder, as paths seen from it in ascending order. -/
def filesBelow (t : FileTree) (folder : Place) : List String :=
  let files := t.entries.filterMap fun (p, e) =>
    match e with
    | .file _ => (wayFrom? folder p).map showPlace
    | _ => none
  files.mergeSort fun a b => decide (a ≤ b)

/-! ### What the map answers after an operation -/

theorem recorded?_drop (t : FileTree) (p q : Place) :
    (t.drop p).recorded? q = if q = p then none else t.recorded? q := by
  simp only [recorded?, drop, List.find?_filter]
  split
  · next h =>
    subst h
    simp only [Option.map_eq_none_iff, List.find?_eq_none]
    intro x _
    simp
  · next h =>
    congr 1
    congr 1
    funext x
    by_cases hx : x.1 = q
    · simp [hx, h]
    · simp [hx]

theorem recorded?_put (t : FileTree) (p q : Place) (e : Entry) :
    (t.put p e).recorded? q = if q = p then some e else t.recorded? q := by
  have h := recorded?_drop t p q
  simp only [recorded?] at h ⊢
  rw [put, List.find?_append, Option.map_or, h]
  by_cases hq : q = p
  · simp [hq]
  · simp [hq, Ne.symm hq]

/-- What has just been put at a place lies there. -/
theorem get?_put_self (t : FileTree) {p : Place} (e : Entry) (h : isRoot p = false) :
    (t.put p e).get? p = some e := by
  simp [get?, h, recorded?_put]

/-- Putting something at a place changes nothing elsewhere. -/
theorem get?_put_of_ne (t : FileTree) {p q : Place} (e : Entry) (h : q ≠ p) :
    (t.put p e).get? q = t.get? q := by
  simp [get?, recorded?_put, h]

/-- Dropping what lies at a place leaves nothing there and changes nothing elsewhere. -/
theorem get?_drop (t : FileTree) {p : Place} (q : Place) (h : isRoot p = false) :
    (t.drop p).get? q = if q = p then none else t.get? q := by
  simp only [get?, recorded?_drop]
  by_cases hq : q = p
  · simp [hq, h]
  · simp [hq]

end FileTree
end OrderTrials
