import Mathlib.Data.List.Induction
import OrderTrials.Proofs.Placing
/-
# The ways of paths

Following a path passes places, and which ones they are depends on the path and the working folder
alone (`FileTree.way`). What lies at these places decides all else: the path leads to its goal if
they are folders (`FileTree.walk_snoc_ok_iff`), and their folders can be made if nothing else lies
there (`FileTree.makeFolders_ok`, `FileTree.exists_makeFolders`).

A way may leave the places above its goal and come back. So something can lie at the goal of a path
while a folder on the way is missing, and then it is not found, until somebody makes that folder. In
a tree in which each entry lies in a folder this takes a path with such a detour
(`FileTree.exposes_of_straight`).

Key definitions: `FileTree.way`, `FileTree.goal`, `FileTree.Lays`, `FileTree.Stands`,
`FileTree.Grounded`, `FileTree.Straight`, `FileTree.Exposes`.
Key theorems: `FileTree.walk_congr`, `FileTree.walk_snoc_ok_iff`, `FileTree.makeFolders_ok`,
`FileTree.exists_makeFolders`, `FileTree.locate_join_ok_iff`, `FileTree.exposes_of_straight`.
-/

namespace OrderTrials

/-! ### Paths that are joined -/

namespace Path

/-- A path without a zero that is short enough to be followed. -/
structure Valid (path : String) : Prop where
  noZero : path.toList.contains '\x00' = false
  short : ¬ lengthLimit ≤ path.utf8ByteSize

theorem Leads.isAbsolute {name : String} (leads : Leads name.toList) : isAbsolute name = false := by
  rw [Path.isAbsolute, beq_eq_false_iff_ne]
  intro slash
  exact leads.1 (List.mem_of_mem_head? slash)

/-- A name stands after the path it is joined to, and after a slash. -/
theorem toList_join (base : String) {name : String} (relative : isAbsolute name = false) :
    (join base name).toList = base.toList ++ name.toList ∧
        (base.toList = [] ∨ ∃ r, base.toList = r ++ ['/']) ∨
      (join base name).toList = base.toList ++ '/' :: name.toList ∧ base.toList ≠ [] := by
  have slash : "/".toList = ['/'] := rfl
  unfold join
  rw [relative, Bool.false_or]
  by_cases empty : base = ""
  · subst empty
    exact .inl ⟨rfl, .inl rfl⟩
  · rw [Bool.eq_false_iff.mpr (mt String.isEmpty_iff.mp empty), if_neg Bool.false_ne_true]
    split
    · rename_i ends
      exact .inl ⟨String.toList_append, .inr (List.getLast?_eq_some_iff.mp (beq_iff_eq.mp ends))⟩
    · refine .inr ⟨by simp [slash], fun nothing => empty (String.toList_inj.mp nothing)⟩

theorem segments_slash (a b : List Char) : segments (a ++ '/' :: b) = segments a ++ segments b := by
  rw [segments_eq_splitAt, segments_eq_splitAt, segments_eq_splitAt]
  exact Text.splitAt_append rfl a b

theorem segments_of_no_slash {name : List Char} (plain : '/' ∉ name) : segments name = [name] := by
  rw [segments_eq_splitAt]
  refine Text.splitAt_of_none fun c hc => ?_
  rw [beq_eq_false_iff_ne]
  rintro rfl
  exact plain hc

/-- A path to which a name is joined can be followed if the joined path can. -/
theorem Valid.of_join {base name : String} (relative : isAbsolute name = false)
    (h : Valid (join base name)) : Valid base := by
  have parts : base = "" ∨ ∃ rest, join base name = base ++ rest := by
    unfold join
    by_cases empty : base = ""
    · exact .inl empty
    · have filled := Bool.eq_false_iff.mpr (mt String.isEmpty_iff.mp empty)
      rw [relative, filled, Bool.false_or, if_neg Bool.false_ne_true]
      split
      · exact .inr ⟨name, rfl⟩
      · exact .inr ⟨"/" ++ name, String.append_assoc⟩
  rcases parts with rfl | ⟨rest, hrest⟩
  · exact ⟨rfl, by decide⟩
  · obtain ⟨noZero, short⟩ := h
    rw [hrest, String.toList_append, List.contains_eq_mem, decide_eq_false_iff_not,
      List.mem_append, not_or] at noZero
    rw [hrest, String.utf8ByteSize_append] at short
    refine ⟨?_, fun long => short (Nat.le_trans long (Nat.le_add_right _ _))⟩
    rw [List.contains_eq_mem, decide_eq_false_iff_not]
    exact noZero.1

/-- Whether a segment leads on. -/
def isStep (d : List Char) : Bool := d != [] && d != ['.']

theorem steps_eq_filter (p : String) : steps p = (segments p.toList).filter isStep := rfl

theorem Leads.isStep {name : List Char} (leads : Leads name) : Path.isStep name = true := by
  simp [Path.isStep, leads.2.1, leads.2.2.1]

theorem follow_of_not_isStep (p : Place) {d : List Char} (h : isStep d = false) :
    follow p d = p := by
  have none : d = [] ∨ d = ['.'] := by
    by_cases empty : d = []
    · exact .inl empty
    · simpa [isStep, empty] using h
  rw [follow, if_pos none]

/-- The segments of a path with a name joined to it lead on as those of the path, and then to the
name. -/
theorem exists_segments_join (base : String) {name : String} (leads : Leads name.toList) :
    ∃ s, segments (join base name).toList = s ++ [name.toList] ∧ s.filter isStep = steps base := by
  have last := segments_of_no_slash leads.1
  have empty : isStep [] = false := rfl
  rcases toList_join base leads.isAbsolute with ⟨same, nothing | ⟨r, hr⟩⟩ | ⟨same, -⟩
  · refine ⟨[], by rw [same, nothing, List.nil_append, last]; rfl, ?_⟩
    rw [steps_eq_filter, nothing]
    rfl
  · refine ⟨segments r, ?_, ?_⟩
    · rw [same, hr, List.append_assoc, ← last]
      exact segments_slash r name.toList
    · rw [steps_eq_filter, hr, segments_slash]
      simp [segments, empty]
  · exact ⟨segments base.toList, by rw [same, segments_slash, last], rfl⟩

theorem isAbsolute_join (base : String) {name : String} (relative : isAbsolute name = false) :
    isAbsolute (join base name) = isAbsolute base := by
  rcases toList_join base relative with ⟨same, nothing | ⟨r, hr⟩⟩ | ⟨same, something⟩
  · rw [isAbsolute, isAbsolute, same, nothing]
    exact relative
  · rw [isAbsolute, isAbsolute, same, hr]
    cases r <;> rfl
  · obtain ⟨c, r, hr⟩ := List.exists_cons_of_ne_nil something
    rw [isAbsolute, isAbsolute, same, hr]
    rfl

/-- A relative path leads on after the path that it is joined to. -/
theorem steps_join_of_relative (base : String) {name : String} (relative : isAbsolute name = false) :
    steps (join base name) = steps base ++ steps name := by
  have empty : isStep [] = false := rfl
  simp only [steps_eq_filter]
  rcases toList_join base relative with ⟨same, nothing | ⟨r, hr⟩⟩ | ⟨same, -⟩
  · rw [same, nothing]
    rfl
  · -- the slash at the end of the base is the one between the two
    have base_steps : (segments base.toList).filter isStep = (segments r).filter isStep := by
      rw [hr, segments_slash, List.filter_append]
      simp [segments, empty]
    rw [base_steps, same, hr, List.append_assoc, List.singleton_append, segments_slash,
      List.filter_append]
  · rw [same, segments_slash, List.filter_append]

theorem Leads.steps {name : String} (leads : Leads name.toList) :
    Path.steps name = [name.toList] := by
  rw [steps_eq_filter, segments_of_no_slash leads.1, List.filter_cons_of_pos leads.isStep]
  rfl

theorem steps_join (base : String) {name : String} (leads : Leads name.toList) :
    steps (join base name) = steps base ++ [name.toList] := by
  rw [steps_join_of_relative base leads.isAbsolute, leads.steps]

theorem origin_join {here : Place} (base : String) {name : String} (leads : Leads name.toList) :
    origin here (join base name) = origin here base := by
  rw [origin, origin, isAbsolute_join base leads.isAbsolute]

/-- The steps of a path lead to its place. -/
theorem place_eq_foldl_steps (p : String) : place p = (steps p).foldl follow (origin [] p) := by
  rw [place, placeFrom, steps_eq_filter, List.foldl_filter]
  congr 1
  funext q segment
  cases step : isStep segment with
  | true => rfl
  | false => exact follow_of_not_isStep q step

end Path

namespace FileTree

variable {t t' : FileTree} {p q : Place} {s r : List (List Char)} {c : List Char} {e : Entry}
  {fs : List Place}

/-! ### Places that are passed -/

/-- The places that segments pass from a place, the one they lead to included. -/
def way (t : FileTree) : Place → List (List Char) → List Place
  | _, [] => []
  | p, c :: r => t.settled (Path.follow p c) :: t.way (t.settled (Path.follow p c)) r

/-- The place to which segments lead from a place, if all on the way are folders. -/
def goal (t : FileTree) : Place → List (List Char) → Place
  | p, [] => p
  | p, c :: r => t.goal (t.settled (Path.follow p c)) r

theorem way_append : t.way p (s ++ r) = t.way p s ++ t.way (t.goal p s) r := by
  induction s generalizing p with
  | nil => rfl
  | cons c s ih => rw [List.cons_append, way, way, goal, ih, List.cons_append]

theorem goal_append : t.goal p (s ++ r) = t.goal (t.goal p s) r := by
  induction s generalizing p with
  | nil => rfl
  | cons c s ih => rw [List.cons_append, goal, goal, ih]

theorem goal_mem : t.goal p s ∈ p :: t.way p s := by
  induction s generalizing p with
  | nil => exact List.mem_cons_self
  | cons c s ih => exact List.mem_cons_of_mem _ ih

theorem settled_of_home (home : t'.home = t.home) (p : Place) : t'.settled p = t.settled p := by
  unfold settled
  rw [home]

theorem way_of_home (home : t'.home = t.home) : t'.way p s = t.way p s := by
  induction s generalizing p with
  | nil => rfl
  | cons c s ih => rw [way, way, settled_of_home home, ih]

theorem goal_of_home (home : t'.home = t.home) : t'.goal p s = t.goal p s := by
  induction s generalizing p with
  | nil => rfl
  | cons c s ih => rw [goal, goal, settled_of_home home, ih]

/-- **Where segments lead depends on the places before the goal alone.** -/
theorem walk_congr (home : t'.home = t.home)
    (same : ∀ f ∈ p :: t.way p s, t'.get? f = t.get? f) :
    t'.walk p (s ++ [c]) = t.walk p (s ++ [c]) := by
  induction s generalizing p with
  | nil =>
    have here := same p List.mem_cons_self
    simp only [List.nil_append, walk, here, settled_of_home home]
  | cons d s ih =>
    have here := same p List.mem_cons_self
    have rest := ih (p := t.settled (Path.follow p d)) fun f hf => same f (List.mem_cons_of_mem _ hf)
    simp only [List.cons_append, walk, here, settled_of_home home, rest]

/-- **Segments lead to their goal** exactly if there are folders before it and no name is too
long. -/
theorem walk_snoc_ok_iff : t.walk p (s ++ [c]) = .ok q ↔
    (∀ f ∈ p :: t.way p s, t.get? f = some .folder) ∧
      (∀ d ∈ s ++ [c], Path.isTooLong d = false) ∧ q = t.goal p (s ++ [c]) := by
  induction s generalizing p with
  | nil =>
    simp only [List.nil_append, walk, way, goal, List.mem_singleton, forall_eq]
    cases here : t.get? p with
    | none => simp
    | some e =>
      cases e <;> cases long : Path.isTooLong c <;> simp [eq_comm]
  | cons d s ih =>
    simp only [List.cons_append, walk, way, goal, List.forall_mem_cons]
    cases here : t.get? p with
    | none => simp
    | some e =>
      cases e <;> cases long : Path.isTooLong d <;> simp [ih]

/-- Segments over folders and places that are free lead on, or the way ends in nothing. -/
theorem walk_error_of_free (here : t.get? p = some .folder)
    (free : ∀ f ∈ t.way p s, t.get? f = none ∨ t.get? f = some .folder)
    (short : ∀ d ∈ s, Path.isTooLong d = false) {fault : FileFault}
    (h : t.walk p s = .error fault) : fault = .notFound := by
  induction s generalizing p with
  | nil => cases h
  | cons d s ih =>
    have next := free _ (List.mem_cons_self (a := t.settled (Path.follow p d)))
    simp only [walk, here, short d List.mem_cons_self, Bool.false_eq_true, if_false] at h
    rcases next with missing | folder
    · cases s with
      | nil => cases h
      | cons d' s =>
        simp only [walk, missing] at h
        exact (Except.error.inj h).symm
    · exact ih folder (fun f hf => free f (List.mem_cons_of_mem _ hf))
        (fun d' hd => short d' (List.mem_cons_of_mem _ hd)) h

/-! ### Folders that are made -/

/-- One tree is another one with folders at some places. -/
structure Lays (t t' : FileTree) (places : List Place) : Prop where
  home : t'.home = t.home
  get?_eq : ∀ q, t'.get? q = if q ∈ places then some .folder else t.get? q

theorem Lays.folder (h : Lays t t' fs) (hq : q ∈ fs) : t'.get? q = some .folder := by
  rw [h.get?_eq, if_pos hq]

theorem Lays.get?_of_not_mem (h : Lays t t' fs) (hq : q ∉ fs) : t'.get? q = t.get? q := by
  rw [h.get?_eq, if_neg hq]

theorem Lays.keeps (h : Lays t t' fs) : Keeps t t' := by
  refine ⟨h.home, fun q hq => ?_⟩
  rw [h.get?_eq, hq, ite_self]

/-- A folder is made where nothing is, and kept where it is. -/
theorem ensureFolder_eq (t : FileTree) (p : Place) (s : List (List Char)) : t.ensureFolder p s =
    match t.walk p s with
    | .error fault => .error fault
    | .ok q =>
      match t.get? q with
      | none => .ok (t.put q .folder)
      | some .folder => .ok t
      | some _ => .error .present := by
  unfold ensureFolder makeFolder isFolder isPresent
  cases hw : t.walk p s with
  | error fault => rfl
  | ok q =>
    cases he : t.get? q with
    | none => simp [he]
    | some e => cases e <;> simp [he]

/-- If a folder is made or kept, the folders before it are there. -/
theorem lays_of_ensureFolder (h : t.ensureFolder p (s ++ [c]) = .ok t') :
    (∀ f ∈ p :: t.way p s, t.get? f = some .folder) ∧
      (∀ d ∈ s ++ [c], Path.isTooLong d = false) ∧
      (t.get? (t.goal p (s ++ [c])) = none ∨ t.get? (t.goal p (s ++ [c])) = some .folder) ∧
      Lays t t' [t.goal p (s ++ [c])] := by
  rw [ensureFolder_eq] at h
  cases hw : t.walk p (s ++ [c]) with
  | error fault => rw [hw] at h; cases h
  | ok q =>
    obtain ⟨folders, short, rfl⟩ := walk_snoc_ok_iff.mp hw
    rw [hw] at h
    refine ⟨folders, short, ?_⟩
    cases he : t.get? (t.goal p (s ++ [c])) with
    | none =>
      simp only [he] at h
      obtain rfl := Except.ok.inj h
      have free : t.get? (t.goal p (s ++ [c])) ≠ some .folder := by rw [he]; nofun
      refine ⟨.inl rfl, rfl, fun q => ?_⟩
      by_cases here : q = t.goal p (s ++ [c])
      · rw [if_pos (List.mem_singleton.mpr here), here, get?_put_self t _ (isRoot_eq_false free)]
      · rw [if_neg (mt List.mem_singleton.mp here), get?_put_of_ne t _ here]
    | some e =>
      simp only [he] at h
      cases e with
      | folder =>
        obtain rfl := Except.ok.inj h
        refine ⟨.inr rfl, rfl, fun q => ?_⟩
        split
        · rename_i here
          rw [List.mem_singleton.mp here, he]
        · rfl
      | file bytes => cases h
      | program name => cases h
      | void => cases h

/-- If all folders before it are there, and it is one or free, a folder is made or kept. -/
theorem exists_ensureFolder (folders : ∀ f ∈ p :: t.way p s, t.get? f = some .folder)
    (short : ∀ d ∈ s ++ [c], Path.isTooLong d = false)
    (free : t.get? (t.goal p (s ++ [c])) = none ∨ t.get? (t.goal p (s ++ [c])) = some .folder) :
    ∃ t', t.ensureFolder p (s ++ [c]) = .ok t' := by
  rw [ensureFolder_eq, walk_snoc_ok_iff.mpr ⟨folders, short, rfl⟩]
  rcases free with nothing | folder
  · exact ⟨t.put (t.goal p (s ++ [c])) .folder, by simp only [nothing]⟩
  · exact ⟨t, by simp only [folder]⟩

/-- Segments of which no place is taken by anything but a folder, and none is too long. -/
structure Open (t : FileTree) (p : Place) (s : List (List Char)) : Prop where
  free : ∀ f ∈ t.way p s, t.get? f = none ∨ t.get? f = some .folder
  short : ∀ d ∈ s, Path.isTooLong d = false

theorem way_snoc : t.way p (s ++ [c]) = t.way p s ++ [t.goal p (s ++ [c])] := by
  rw [way_append, goal_append]
  rfl

theorem Open.init (h : t.Open p (s ++ [c])) : t.Open p s :=
  ⟨fun f hf => h.free f (way_append ▸ List.mem_append_left _ hf),
    fun d hd => h.short d (List.mem_append_left _ hd)⟩

/-- After folders have been made up to a place, the next one is as free as before. -/
theorem Lays.get?_cases (h : Lays t t' fs)
    (free : t'.get? q = none ∨ t'.get? q = some .folder)
    (known : q ∈ fs → t.get? q = none ∨ t.get? q = some .folder) :
    t.get? q = none ∨ t.get? q = some .folder := by
  by_cases hq : q ∈ fs
  · exact known hq
  · rwa [h.get?_of_not_mem hq] at free

/-- Folders that are there already need not be made. -/
theorem lays_of_folders (h : ∀ f ∈ fs, t.get? f = some .folder) : Lays t t fs := by
  refine ⟨rfl, fun q => ?_⟩
  split
  · exact h q ‹_›
  · rfl

/-- The next folder on a way is made after the folders before it. -/
theorem lays_snoc {between : FileTree} (opened : t.Open p s) (laid : Lays t between (t.way p s))
    (h : between.ensureFolder p (s ++ [c]) = .ok t') :
    t.Open p (s ++ [c]) ∧ Lays t t' (t.way p (s ++ [c])) := by
  obtain ⟨-, short, free, last⟩ := lays_of_ensureFolder h
  rw [goal_of_home laid.home] at free last
  refine ⟨⟨fun f hf => ?_, short⟩, last.home.trans laid.home, fun q => ?_⟩
  · rw [way_snoc, List.mem_append, List.mem_singleton] at hf
    rcases hf with hf | rfl
    · exact opened.free f hf
    · exact laid.get?_cases free fun hq => opened.free _ hq
  · rw [last.get?_eq, laid.get?_eq, way_snoc]
    by_cases here : q = t.goal p (s ++ [c])
    · simp [here]
    · simp [here]

/-- After the folders before it have been made, the next folder on an open way can be made. -/
theorem exists_ensureFolder_of_lays {between : FileTree} (start : t.get? p = some .folder)
    (opened : t.Open p (s ++ [c])) (laid : Lays t between (t.way p s)) :
    ∃ t', between.ensureFolder p (s ++ [c]) = .ok t' := by
  refine exists_ensureFolder ?_ opened.short ?_
  · rw [way_of_home laid.home]
    intro f hf
    rcases List.mem_cons.mp hf with rfl | hf
    · exact laid.keeps.folders _ start
    · exact laid.folder hf
  · rw [goal_of_home laid.home, laid.get?_eq]
    split
    · exact .inr rfl
    · exact opened.free _ (way_snoc ▸ List.mem_append_right _ List.mem_cons_self)

/-- On an open way, a folder cannot be made only because one before it is missing. -/
theorem notFound_of_open {fault : FileFault} (start : t.get? p = some .folder)
    (opened : t.Open p (s ++ [c])) (h : t.ensureFolder p (s ++ [c]) = .error fault) :
    fault = .notFound := by
  rw [ensureFolder_eq] at h
  cases hw : t.walk p (s ++ [c]) with
  | error cause =>
    rw [hw] at h
    rw [← Except.error.inj h]
    exact walk_error_of_free start opened.free opened.short hw
  | ok q =>
    have free := opened.free q (by
      rw [way_snoc, (walk_snoc_ok_iff.mp hw).2.2]
      exact List.mem_append_right _ List.mem_cons_self)
    rw [hw] at h
    rcases free with nothing | folder
    · simp [nothing] at h
    · simp [folder] at h

/-- Folders are made along a way exactly if it is open, and then all of them. -/
theorem makeFoldersBackwards_spec (start : t.get? p = some .folder) (r : List (List Char)) :
    (∀ t', t.makeFoldersBackwards p r = .ok t' →
      t.Open p r.reverse ∧ Lays t t' (t.way p r.reverse)) ∧
    (t.Open p r.reverse → ∃ t', t.makeFoldersBackwards p r = .ok t') := by
  induction r with
  | nil =>
    refine ⟨fun t' h => ?_, fun _ => ⟨t, rfl⟩⟩
    obtain rfl := Except.ok.inj h
    exact ⟨⟨nofun, nofun⟩, rfl, fun q => rfl⟩
  | cons c r ih =>
    rw [List.reverse_cons]
    constructor
    · intro t' h
      rw [makeFoldersBackwards, List.reverse_cons] at h
      split at h
      · -- the folders before are made first
        split at h
        · cases h
        · rename_i between made
          obtain ⟨opened, laid⟩ := ih.1 between made
          exact lays_snoc opened laid h
      · obtain ⟨folders, short, -, -⟩ := lays_of_ensureFolder h
        have there : ∀ f ∈ t.way p r.reverse, t.get? f = some .folder := fun f hf =>
          folders f (List.mem_cons_of_mem _ hf)
        have opened : t.Open p r.reverse := ⟨fun f hf => .inr (there f hf),
          fun d hd => short d (List.mem_append_left _ hd)⟩
        exact lays_snoc opened (lays_of_folders there) h
    · intro opened
      obtain ⟨between, made⟩ := ih.2 opened.init
      obtain ⟨-, laid⟩ := ih.1 between made
      rw [makeFoldersBackwards, List.reverse_cons]
      cases first : t.ensureFolder p (r.reverse ++ [c]) with
      | ok t' => exact ⟨t', rfl⟩
      | error fault =>
        obtain rfl := notFound_of_open start opened first
        simp only [made]
        exact exists_ensureFolder_of_lays start opened laid

/-! ### Where paths lead -/

variable {base name path : String} {here : Place}

/-- The places that a path passes, its goal included. -/
def wayOf (t : FileTree) (path : String) : List Place :=
  t.way (Path.origin [] path) (Path.steps path)

/-- The place to which a path leads, if all on the way are folders. -/
def goalOf (t : FileTree) (path : String) : Place :=
  t.goal (Path.origin [] path) (Path.steps path)

/-- A folder from which paths are followed. -/
structure Stands (t : FileTree) (here : Place) : Prop where
  folder : t.get? here = some .folder
  settled : t.settled here = here

theorem stands_nil (t : FileTree) : t.Stands [] := ⟨rfl, rfl⟩

theorem Stands.origin (h : t.Stands here) (path : String) : t.Stands (Path.origin here path) := by
  unfold Path.origin
  split
  · exact ⟨rfl, rfl⟩
  · exact h

theorem get?_origin (t : FileTree) (path : String) :
    t.get? (Path.origin [] path) = some .folder :=
  (t.stands_nil.origin path).folder

theorem settled_settled (t : FileTree) (p : Place) : t.settled (t.settled p) = t.settled p := by
  rcases t.settled_cases p with same | home
  · rw [same, same]
  · rw [home]
    rfl

theorem wayOf_join (leads : Path.Leads name.toList) :
    t.wayOf (Path.join base name) = t.wayOf base ++ [t.goalOf (Path.join base name)] := by
  rw [wayOf, wayOf, goalOf, Path.steps_join base leads, Path.origin_join base leads, way_snoc]

theorem goalOf_join (leads : Path.Leads name.toList) :
    t.goalOf (Path.join base name) = t.settled (t.goalOf base ++ [name]) := by
  rw [goalOf, goalOf, Path.steps_join base leads, Path.origin_join base leads, goal_append]
  change t.settled (Path.follow _ name.toList) = _
  rw [leads.follow, String.ofList_toList]

theorem wayOf_of_home (home : t'.home = t.home) : t'.wayOf path = t.wayOf path :=
  way_of_home home

theorem goalOf_of_home (home : t'.home = t.home) : t'.goalOf path = t.goalOf path :=
  goal_of_home home

/-- Segments that do not lead on can be left out before one that does. -/
theorem walk_filter (fixed : t.settled p = p) :
    t.walk p (s ++ [c]) = t.walk p (s.filter Path.isStep ++ [c]) := by
  induction s generalizing p with
  | nil => rfl
  | cons d s ih =>
    cases step : Path.isStep d with
    | true =>
      rw [List.filter_cons_of_pos step, List.cons_append, List.cons_append, walk, walk,
        ih (t.settled_settled _)]
    | false =>
      rw [List.filter_cons_of_neg (Bool.eq_false_iff.mp step), List.cons_append, walk,
        Path.follow_of_not_isStep p step, fixed, ih fixed]
      have short : Path.isTooLong d = false := by
        by_cases empty : d = []
        · rw [empty]
          rfl
        · have dot : d = ['.'] := by simpa [Path.isStep, empty] using step
          rw [dot]
          rfl
      obtain ⟨d', r, hr⟩ := List.exists_cons_of_ne_nil
        (List.append_ne_nil_of_right_ne_nil (s.filter Path.isStep) (List.cons_ne_nil c []))
      rw [hr, walk, short]
      cases t.get? p with
      | none => rfl
      | some e => cases e <;> rfl

/-- A path with a name joined to it is followed like the path, and then to the name. -/
theorem Stands.walk_join (h : t.Stands here) (leads : Path.Leads name.toList) :
    t.walk (Path.origin here (Path.join base name)) (Path.segments (Path.join base name).toList) =
      t.walk (Path.origin here base) (Path.steps base ++ [name.toList]) := by
  obtain ⟨s, hs, hf⟩ := Path.exists_segments_join base leads
  rw [hs, Path.origin_join base leads, walk_filter (h.origin base).settled, hf]

/-- **Where a path leads depends on the places before its goal alone.** -/
theorem locate_join_congr (leads : Path.Leads name.toList) (home : t'.home = t.home)
    (same : ∀ f ∈ t.wayOf base, t'.get? f = t.get? f) :
    t'.locate [] (Path.join base name) = t.locate [] (Path.join base name) := by
  have origin : t'.get? (Path.origin [] base) = t.get? (Path.origin [] base) := by
    rw [get?_origin, get?_origin]
  have walks := walk_congr (c := name.toList) home (List.forall_mem_cons.mpr ⟨origin, same⟩)
  rw [locate, locate, t'.stands_nil.walk_join leads, t.stands_nil.walk_join leads, walks]

/-- **A path with a name joined to it leads to its goal** exactly if it is valid, and the places
before the goal are folders with names that are not too long, -/
theorem Stands.locate_join_ok_iff (h : t.Stands here) (leads : Path.Leads name.toList) :
    t.locate here (Path.join base name) = .ok q ↔
      Path.Valid (Path.join base name) ∧
        (∀ f ∈ t.way (Path.origin here base) (Path.steps base), t.get? f = some .folder) ∧
        (∀ d ∈ Path.steps base ++ [name.toList], Path.isTooLong d = false) ∧
        q = t.goal (Path.origin here base) (Path.steps base ++ [name.toList]) := by
  have something : (Path.join base name).isEmpty = false := by
    rw [Bool.eq_false_iff, ne_eq, String.isEmpty_iff]
    intro empty
    have none := congrArg String.toList empty
    rcases Path.toList_join base leads.isAbsolute with ⟨same, -⟩ | ⟨same, -⟩
    · rw [same] at none
      exact leads.2.1 (List.append_eq_nil_iff.mp none).2
    · rw [same] at none
      exact List.cons_ne_nil _ _ (List.append_eq_nil_iff.mp none).2
  rw [locate, h.walk_join leads, something]
  cases zero : (Path.join base name).toList.contains '\x00' with
  | true => exact ⟨nofun, fun h => absurd (zero.symm.trans h.1.noZero) (by decide)⟩
  | false =>
    by_cases long : Path.lengthLimit ≤ (Path.join base name).utf8ByteSize
    · rw [if_neg Bool.false_ne_true, if_neg Bool.false_ne_true, if_pos long]
      exact ⟨nofun, fun h => absurd long h.1.short⟩
    · have valid : Path.Valid (Path.join base name) := ⟨zero, long⟩
      simp only [Bool.false_eq_true, if_false, long, walk_snoc_ok_iff, List.forall_mem_cons,
        (h.origin base).folder, valid, true_and]

/-- also when it is followed from the working folder. -/
theorem locate_join_ok_iff (leads : Path.Leads name.toList) :
    t.locate [] (Path.join base name) = .ok q ↔
      Path.Valid (Path.join base name) ∧ (∀ f ∈ t.wayOf base, t.get? f = some .folder) ∧
        (∀ d ∈ Path.steps base ++ [name.toList], Path.isTooLong d = false) ∧
        q = t.goalOf (Path.join base name) := by
  rw [goalOf, Path.steps_join base leads, Path.origin_join base leads]
  exact t.stands_nil.locate_join_ok_iff leads

/-- Folders on the way of a path are made if the path is valid and no place is taken. -/
theorem makeFolders_ok (h : t.makeFolders path = .ok t') :
    Path.Valid path ∧ t.Open (Path.origin [] path) (Path.steps path) ∧ Lays t t' (t.wayOf path) := by
  unfold makeFolders at h
  cases noZero : path.toList.contains '\x00' with
  | true => rw [noZero, if_pos rfl] at h; cases h
  | false =>
    rw [noZero, if_neg Bool.false_ne_true] at h
    split at h
    · cases h
    · rename_i short
      have spec := (makeFoldersBackwards_spec (t.get?_origin path) (Path.steps path).reverse).1 t' h
      rw [List.reverse_reverse] at spec
      exact ⟨⟨noZero, short⟩, spec⟩

theorem exists_makeFolders (valid : Path.Valid path)
    (opened : t.Open (Path.origin [] path) (Path.steps path)) :
    ∃ t', t.makeFolders path = .ok t' := by
  unfold makeFolders
  rw [valid.noZero, if_neg Bool.false_ne_true, if_neg valid.short]
  refine (makeFoldersBackwards_spec (t.get?_origin path) (Path.steps path).reverse).2 ?_
  rwa [List.reverse_reverse]

/-- Folders that are there are not made again. -/
theorem makeFolders_of_locate (leads : Path.Leads name.toList)
    (h : t.locate [] (Path.join base name) = .ok q) : t.makeFolders base = .ok t := by
  obtain ⟨joined, folders, short, -⟩ := (locate_join_ok_iff leads).mp h
  have valid := joined.of_join leads.isAbsolute
  unfold makeFolders
  rw [valid.noZero, if_neg Bool.false_ne_true, if_neg valid.short]
  rcases List.eq_nil_or_concat (Path.steps base) with none | ⟨s, c, hs⟩
  · rw [none]
    rfl
  · rw [List.concat_eq_append] at hs
    have walked : t.walk (Path.origin [] base) (s ++ [c]) = .ok (t.goalOf base) := by
      rw [wayOf, hs, way_snoc] at folders
      refine walk_snoc_ok_iff.mpr ⟨fun f hf => ?_, fun d hd => ?_, by rw [goalOf, hs]⟩
      · rcases List.mem_cons.mp hf with rfl | hf
        · exact t.get?_origin base
        · exact folders f (List.mem_append_left _ hf)
      · exact short d (by rw [hs]; exact List.mem_append_left _ hd)
    have there : t.get? (t.goalOf base) = some .folder := by
      refine folders _ ?_
      rw [wayOf, goalOf, hs, way_snoc]
      exact List.mem_append_right _ List.mem_cons_self
    have kept := ensureFolder_of_folder walked there
    rw [hs, List.reverse_append, List.reverse_singleton, List.singleton_append,
      makeFoldersBackwards, List.reverse_cons, List.reverse_reverse, kept]

/-! ### What lies behind a missing folder -/

/-- Each entry lies in a folder. -/
def Grounded (t : FileTree) : Prop :=
  ∀ p e, isRoot p = false → t.get? p = some e → t.get? p.dropLast = some .folder

theorem grounded_empty : empty.Grounded := by
  intro p e root he
  rw [get?, root] at he
  cases he

theorem get?_of_isRoot (h : isRoot p = true) : t.get? p = some .folder := by
  rw [get?, if_pos h]

theorem isRoot_of_above (root : isRoot p = true) (above : q <+: p) : isRoot q = true := by
  simp only [isRoot, Bool.or_eq_true, beq_iff_eq, List.all_eq_true] at root ⊢
  rcases root with (rfl | rfl) | ups
  · exact .inl (.inl (List.prefix_nil.mp above))
  · rcases List.prefix_cons_iff.mp above with rfl | ⟨r, rfl, nothing⟩
    · exact .inl (.inl rfl)
    · rw [List.prefix_nil.mp nothing]
      exact .inl (.inr rfl)
  · exact .inr fun name hn => ups name (above.subset hn)

/-- All places above an entry are folders. -/
theorem Grounded.above (h : t.Grounded) (he : t.get? q = some e) (above : p <+: q)
    (other : p ≠ q) : t.get? p = some .folder := by
  induction q using List.reverseRecOn generalizing e with
  | nil => exact absurd (List.prefix_nil.mp above) other
  | append_singleton r name ih =>
    by_cases root : isRoot (r ++ [name]) = true
    · exact get?_of_isRoot (isRoot_of_above root above)
    · have parent := h _ _ (Bool.eq_false_iff.mpr root) he
      rw [List.dropLast_concat] at parent
      have inner : p <+: r := (List.prefix_concat_iff.mp above).resolve_left other
      by_cases same : p = r
      · rw [same, parent]
      · exact ih parent inner same

/-- A path on whose way each folder is above its goal or there already. -/
def Straight (t : FileTree) (path : String) : Prop :=
  ∀ f ∈ (t.wayOf path).dropLast,
    (f <+: t.goalOf path ∧ f ≠ t.goalOf path) ∨ t.get? f = some .folder

instance decidableStraight (t : FileTree) (path : String) : Decidable (t.Straight path) :=
  inferInstanceAs (Decidable (∀ f ∈ _, _))

/-- What lies at the goal of a path is behind no folder that is missing. -/
def Exposes (t : FileTree) (path : String) : Prop :=
  t.get? (t.goalOf path) ≠ none → ∀ f ∈ (t.wayOf path).dropLast, t.get? f = some .folder

/-- **On a straight path nothing is hidden.** -/
theorem exposes_of_straight (grounded : t.Grounded) (straight : t.Straight path) :
    t.Exposes path := by
  intro something f hf
  obtain ⟨e, he⟩ := Option.ne_none_iff_exists'.mp something
  rcases straight f hf with ⟨above, other⟩ | there
  · exact grounded.above he above other
  · exact there

/-- A segment leads to a place above, or to one in the same folder. -/
theorem follow_cases (p : Place) (c : List Char) :
    Path.follow p c <+: p ∨ ∃ name, Path.follow p c = p ++ [name] := by
  unfold Path.follow
  split
  · exact .inl (List.prefix_refl p)
  · split
    · split
      · rename_i empty
        rw [List.getLast?_eq_none_iff.mp empty]
        exact .inr ⟨"..", rfl⟩
      · exact .inl (List.prefix_refl p)
      · exact .inr ⟨"..", rfl⟩
      · exact .inl (List.dropLast_prefix p)
    · exact .inr ⟨_, rfl⟩

/-- All places above a way are folders if the way itself and the places above its start are. -/
theorem folders_above_way (start : ∀ f, f <+: p → t.get? f = some .folder)
    (folders : ∀ f ∈ t'.way p s, t.get? f = some .folder) :
    ∀ f ∈ t'.way p s, ∀ g, g <+: f → t.get? g = some .folder := by
  induction s generalizing p with
  | nil => nofun
  | cons c s ih =>
    have next : ∀ g, g <+: t'.settled (Path.follow p c) → t.get? g = some .folder := by
      intro g hg
      rcases t'.settled_cases (Path.follow p c) with same | home
      · rw [same] at hg
        rcases follow_cases p c with above | ⟨name, inner⟩
        · exact start g (hg.trans above)
        · rw [inner] at hg
          rcases List.prefix_concat_iff.mp hg with here | above
          · rw [here, ← inner, ← same]
            exact folders _ List.mem_cons_self
          · exact start g above
      · rw [home] at hg
        rw [List.prefix_nil.mp hg]
        rfl
    intro f hf
    rcases List.mem_cons.mp hf with rfl | hf
    · exact next
    · exact ih next (fun f hf => folders f (List.mem_cons_of_mem _ hf)) f hf

/-- Folders on the way of a path leave a tree grounded. -/
theorem Grounded.lays (h : t.Grounded) (laid : Lays t t' (t.wayOf path)) : t'.Grounded := by
  have origin : ∀ f, f <+: Path.origin [] path → t'.get? f = some .folder := by
    intro f hf
    refine get?_of_isRoot (isRoot_of_above ?_ hf)
    unfold Path.origin
    split <;> rfl
  have above := folders_above_way origin fun f hf => laid.folder hf
  intro p e root he
  by_cases hp : p ∈ t.wayOf path
  · exact above p hp _ (List.dropLast_prefix p)
  · rw [laid.get?_of_not_mem hp] at he
    exact laid.keeps.folders _ (h p e root he)

/-- Something in a folder that takes the place of no folder leaves a tree grounded. -/
theorem Grounded.put (h : t.Grounded) (noFolder : t.get? q ≠ some .folder)
    (parent : t.get? q.dropLast = some .folder) (e : Entry) : (t.put q e).Grounded := by
  intro p e' root he'
  by_cases here : p = q
  · subst here
    have other : p.dropLast ≠ p := fun same => noFolder (same ▸ parent)
    rw [get?_put_of_ne t e other, parent]
  · rw [get?_put_of_ne t e here] at he'
    have folder := h p e' root he'
    have other : p.dropLast ≠ q := fun same => noFolder (same ▸ folder)
    rw [get?_put_of_ne t e other, folder]

end FileTree
end OrderTrials
