import OrderTrials.FileTree
/-
# Trees with the same folders

Where a path leads depends on the folders of a tree and on nothing else that lies in it. So as long
as files alone come, change and go, every path that leads to a place still leads there
(`FileTree.locate_iff`), and a folder that was made once need not be made again
(`FileTree.makeFolders_again`). What an operation on one file does to the others is then said place
by place.

Key definitions: `Entry.isRegular`, `FileTree.Keeps`, `FileTree.SameFolders`,
`FileTree.ChangesFiles`.
Key theorems: `FileTree.Keeps.locate`, `FileTree.locate_iff`, `FileTree.makeFolders_again`,
`FileTree.replace_ok`, `FileTree.discard_cases`.
-/

namespace OrderTrials

/-- A file, with or without a program in it, and neither a folder nor a device. -/
def Entry.isRegular : Entry → Bool
  | .file _ | .program _ => true
  | .folder | .void => false

namespace FileTree

variable {t t' t'' : FileTree} {p q : Place} {e : Entry} {path : String} {base : Place}
  {s : List (List Char)}

theorem isRoot_eq_false (h : t.get? p ≠ some .folder) : isRoot p = false := by
  rw [get?] at h
  split at h
  · exact absurd rfl h
  · rename_i root
    exact Bool.eq_false_iff.mpr root

theorem find?_eq_some_iff :
    t.find? base path = some e ↔ ∃ q, t.locate base path = .ok q ∧ t.get? q = some e := by
  unfold find?
  cases t.locate base path <;> simp

theorem hasFile_iff :
    t.hasFile path = true ↔ ∃ e, t.find? [] path = some e ∧ e.isRegular = true := by
  unfold hasFile
  cases t.find? [] path with
  | none => simp
  | some e => cases e <;> simp [Entry.isRegular]

theorem has_iff : t.has path = true ↔ ∃ e, t.find? [] path = some e := by
  rw [has, Option.isSome_iff_exists]

/-! ### Folders that stay -/

/-- Each folder of one tree is a folder of another, with the same working folder. -/
structure Keeps (t t' : FileTree) : Prop where
  home : t'.home = t.home
  folders : ∀ p, t.get? p = some .folder → t'.get? p = some .folder

theorem Keeps.refl (t : FileTree) : Keeps t t := ⟨rfl, fun _ h => h⟩

theorem Keeps.trans (h : Keeps t t') (h' : Keeps t' t'') : Keeps t t'' :=
  ⟨h'.home.trans h.home, fun p hp => h'.folders p (h.folders p hp)⟩

theorem Keeps.settled (h : Keeps t t') (p : Place) : t'.settled p = t.settled p := by
  unfold FileTree.settled
  rw [h.home]

/-- Segments that can be followed in a tree can be followed where its folders stay. -/
theorem Keeps.walk (h : Keeps t t') (hw : t.walk p s = .ok q) : t'.walk p s = .ok q := by
  induction s generalizing p with
  | nil => exact hw
  | cons c r ih =>
    rw [FileTree.walk] at hw
    split at hw
    · cases hw
    · rename_i here
      rw [FileTree.walk, h.folders p here]
      split at hw
      · cases hw
      · rename_i short
        simp only [short, Bool.false_eq_true, if_false, h.settled]
        exact ih hw
    · cases hw

/-- A path that leads to a place leads there where the folders stay. -/
theorem Keeps.locate (h : Keeps t t') (hp : t.locate base path = .ok q) :
    t'.locate base path = .ok q := by
  unfold FileTree.locate at hp ⊢
  repeat' split at hp
  · cases hp
  · cases hp
  · cases hp
  · simp_all [h.walk]

/-- Two trees have the same folders. -/
def SameFolders (t t' : FileTree) : Prop := Keeps t t' ∧ Keeps t' t

theorem SameFolders.refl (t : FileTree) : SameFolders t t := ⟨.refl t, .refl t⟩

theorem SameFolders.trans (h : SameFolders t t') (h' : SameFolders t' t'') : SameFolders t t'' :=
  ⟨h.1.trans h'.1, h'.2.trans h.2⟩

/-- **Paths lead to the same places** in trees with the same folders. -/
theorem locate_iff (h : SameFolders t t') :
    t'.locate base path = .ok q ↔ t.locate base path = .ok q :=
  ⟨h.2.locate, h.1.locate⟩

theorem sameFolders_of_frame (home : t'.home = t.home) (frame : ∀ q, q ≠ p → t'.get? q = t.get? q)
    (before : t.get? p ≠ some .folder) (after : t'.get? p ≠ some .folder) : SameFolders t t' := by
  refine ⟨⟨home, fun q hq => ?_⟩, ⟨home.symm, fun q hq => ?_⟩⟩
  · rwa [frame q fun same => before (same ▸ hq)]
  · rwa [← frame q fun same => after (same ▸ hq)]

/-- Something that is no folder comes in place of something that is none. -/
theorem sameFolders_put (before : t.get? p ≠ some .folder) (he : e ≠ .folder) :
    SameFolders t (t.put p e) := by
  refine sameFolders_of_frame rfl (fun q hq => get?_put_of_ne t e hq) before ?_
  rw [get?_put_self t e (isRoot_eq_false before)]
  exact fun folder => he (Option.some.inj folder)

/-- Something that is no folder goes. -/
theorem sameFolders_drop (before : t.get? p ≠ some .folder) : SameFolders t (t.drop p) := by
  have frame := get?_drop t (p := p)
  refine sameFolders_of_frame rfl (fun q hq => ?_) before ?_
  · rw [frame q (isRoot_eq_false before), if_neg hq]
  · rw [frame p (isRoot_eq_false before), if_pos rfl]
    nofun

/-- Files come, change and go, and all else stays. -/
structure ChangesFiles (t t' : FileTree) : Prop where
  home : t'.home = t.home
  places : ∀ p, t'.get? p = t.get? p ∨
    (∀ e ∈ t.get? p, e.isRegular = true) ∧ ∀ e ∈ t'.get? p, e.isRegular = true

theorem ChangesFiles.refl (t : FileTree) : ChangesFiles t t := ⟨rfl, fun _ => .inl rfl⟩

theorem ChangesFiles.sameFolders (h : ChangesFiles t t') : SameFolders t t' := by
  constructor
  · refine ⟨h.home, fun p hp => ?_⟩
    rcases h.places p with same | ⟨before, -⟩
    · rw [same, hp]
    · exact absurd (before _ hp) (by decide)
  · refine ⟨h.home.symm, fun p hp => ?_⟩
    rcases h.places p with same | ⟨-, after⟩
    · rw [← same, hp]
    · exact absurd (after _ hp) (by decide)

/-- What is no file stays. -/
theorem ChangesFiles.get?_eq (h : ChangesFiles t t') (he : e.isRegular = false)
    (hp : t'.get? p = some e) : t.get? p = some e := by
  rcases h.places p with same | ⟨-, after⟩
  · rw [← same, hp]
  · exact absurd (after e hp) (by simp [he])

/-! ### Operations on one file -/

/-- A file is put in place of what a path leads to. -/
theorem replace_ok {bytes : ByteArray} (h : t.replace path bytes = .ok t') :
    ∃ q, t.locate [] path = .ok q ∧ t.get? q ≠ some .folder ∧ t' = t.put q (.file bytes) := by
  unfold replace at h
  split at h
  · cases h
  · rename_i q hq
    split at h
    · cases h
    · rename_i vacant
      exact ⟨q, hq, vacant, (Except.ok.inj h).symm⟩

/-- A file is written where a path leads to, unless there is a device. -/
theorem writeFrom_ok {bytes : ByteArray} (h : t.writeFrom base path bytes = .ok t') :
    ∃ q, t.locate base path = .ok q ∧ t.get? q ≠ some .folder ∧
      (t.get? q = some .void ∧ t' = t ∨ t.get? q ≠ some .void ∧ t' = t.put q (.file bytes)) := by
  unfold writeFrom at h
  split at h
  · cases h
  · rename_i q hq
    have located : t.locate base path = .ok q := by
      unfold locateFile at hq
      split at hq
      · split at hq <;> cases hq
      · exact hq
    split at h
    · cases h
    · rename_i device
      exact ⟨q, located, by rw [device]; nofun, .inl ⟨device, (Except.ok.inj h).symm⟩⟩
    · rename_i noFolder noDevice
      exact ⟨q, located, noFolder, .inr ⟨noDevice, (Except.ok.inj h).symm⟩⟩

theorem write_ok {bytes : ByteArray} (h : t.write path bytes = .ok t') :
    ∃ q, t.locate [] path = .ok q ∧ t.get? q ≠ some .folder ∧
      (t.get? q = some .void ∧ t' = t ∨ t.get? q ≠ some .void ∧ t' = t.put q (.file bytes)) :=
  writeFrom_ok h

theorem sameFolders_writeFrom {bytes : ByteArray} (h : t.writeFrom base path bytes = .ok t') :
    SameFolders t t' := by
  obtain ⟨q, -, noFolder, ⟨-, rfl⟩ | ⟨-, rfl⟩⟩ := writeFrom_ok h
  · exact .refl t'
  · exact sameFolders_put noFolder nofun

/-- A path is discarded: either nothing is there that can be, or what it leads to goes. -/
theorem discard_cases (t : FileTree) (path : String) :
    (∀ e, t.find? [] path = some e → e = .folder) ∧ t.discard path = t ∨
      ∃ q, t.locate [] path = .ok q ∧ t.get? q ≠ some .folder ∧ t.discard path = t.drop q := by
  unfold discard remove
  cases hq : t.locate [] path with
  | error fault => exact .inl ⟨by simp [find?, hq], rfl⟩
  | ok q =>
    cases he : t.get? q with
    | none => exact .inl ⟨by simp [find?, hq, he], by simp [he]⟩
    | some e =>
      by_cases folder : e = .folder
      · subst folder
        exact .inl ⟨by simp [find?, hq, he], by simp [he]⟩
      · refine .inr ⟨q, rfl, by simpa [he] using folder, ?_⟩
        cases e <;> simp_all

theorem sameFolders_discard (t : FileTree) (path : String) : SameFolders t (t.discard path) := by
  rcases t.discard_cases path with ⟨-, same⟩ | ⟨q, -, noFolder, dropped⟩
  · rw [same]
    exact .refl t
  · rw [dropped]
    exact sameFolders_drop noFolder

/-- Nothing new is found where something was discarded. -/
theorem find?_of_discard {other : String} (h : (t.discard other).find? [] path = some e) :
    t.find? [] path = some e := by
  obtain ⟨q, hq, he⟩ := find?_eq_some_iff.mp h
  refine find?_eq_some_iff.mpr ⟨q, (locate_iff (t.sameFolders_discard other)).mp hq, ?_⟩
  rcases t.discard_cases other with ⟨-, same⟩ | ⟨q', -, noFolder, dropped⟩
  · rwa [same] at he
  · rw [dropped, get?_drop t q (isRoot_eq_false noFolder)] at he
    split at he
    · cases he
    · exact he

/-- **Only a folder is left** where a path has been discarded. -/
theorem eq_folder_of_discard (h : (t.discard path).find? [] path = some e) : e = .folder := by
  obtain ⟨q, hq, he⟩ := find?_eq_some_iff.mp h
  rcases t.discard_cases path with ⟨folder, same⟩ | ⟨q', hq', noFolder, dropped⟩
  · rw [same] at h
    exact folder e h
  · rw [locate_iff (t.sameFolders_discard path), hq'] at hq
    obtain rfl := Except.ok.inj hq
    rw [dropped, get?_drop t q' (isRoot_eq_false noFolder), if_pos rfl] at he
    cases he

/-! ### Folders that are made -/

/-- A folder that is there is not made again. -/
theorem ensureFolder_of_folder (hw : t.walk base s = .ok q) (hq : t.get? q = some .folder) :
    t.ensureFolder base s = .ok t := by
  have present : t.makeFolder base s = .error .present := by
    simp [makeFolder, hw, isPresent, hq]
  simp [ensureFolder, present, hw, isFolder, hq]

/-- A folder that is made is there, and so are those that were. -/
theorem ensureFolder_ok (h : t.ensureFolder base s = .ok t') :
    Keeps t t' ∧ ∃ q, t'.walk base s = .ok q ∧ t'.get? q = some .folder := by
  unfold ensureFolder at h
  split at h
  · rename_i made
    obtain rfl := Except.ok.inj h
    unfold makeFolder at made
    split at made
    · cases made
    · rename_i q hw
      split at made
      · cases made
      · rename_i vacant
        obtain rfl := Except.ok.inj made
        have absent : t.get? q = none := by simpa [isPresent] using vacant
        have self := get?_put_self t .folder (p := q) (isRoot_eq_false (by rw [absent]; nofun))
        have keeps : Keeps t (t.put q .folder) := by
          refine ⟨rfl, fun p hp => ?_⟩
          by_cases same : p = q
          · rw [same, self]
          · rw [get?_put_of_ne t _ same, hp]
        exact ⟨keeps, q, keeps.walk hw, self⟩
  · split at h
    · rename_i q hw
      split at h
      · rename_i folder
        obtain rfl := Except.ok.inj h
        exact ⟨.refl t, q, hw, by simpa [isFolder] using folder⟩
      · cases h
    · cases h

theorem makeFoldersBackwards_ok {r : List (List Char)}
    (h : t.makeFoldersBackwards base r = .ok t') :
    Keeps t t' ∧ (r = [] ∨ ∃ q, t'.walk base r.reverse = .ok q ∧ t'.get? q = some .folder) := by
  induction r generalizing t' with
  | nil =>
    obtain rfl := Except.ok.inj h
    exact ⟨.refl t, .inl rfl⟩
  | cons c r ih =>
    rw [makeFoldersBackwards] at h
    split at h
    · split at h
      · cases h
      · rename_i between hr
        obtain ⟨keeps, there⟩ := ensureFolder_ok h
        exact ⟨(ih hr).1.trans keeps, .inr there⟩
    · obtain ⟨keeps, there⟩ := ensureFolder_ok h
      exact ⟨keeps, .inr there⟩

/-- **A folder that was made need not be made again,** as long as no folder goes. -/
theorem makeFolders_again (h : t.makeFolders path = .ok t') (keeps : Keeps t' t'') :
    t''.makeFolders path = .ok t'' := by
  unfold makeFolders at h ⊢
  split at h
  · cases h
  · split at h
    · cases h
    · rename_i noZero short
      rw [if_neg noZero, if_neg short]
      obtain ⟨-, nothing | ⟨q, hw, hq⟩⟩ := makeFoldersBackwards_ok h
      · rw [nothing, makeFoldersBackwards]
      · have there := ensureFolder_of_folder (keeps.walk hw) (keeps.folders q hq)
        cases hr : (Path.steps path).reverse with
        | nil => rw [makeFoldersBackwards]
        | cons c r =>
          rw [hr] at there
          simp only [makeFoldersBackwards, there]

end FileTree
end OrderTrials
