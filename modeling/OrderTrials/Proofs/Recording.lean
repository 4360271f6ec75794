import Mathlib.Data.Finset.Card
import Mathlib.Data.Finset.Dedup
import OrderTrials.Proofs.Keeping
/-
# Records written once

A record is written where no file lies yet. The store looks for the file before it makes the
folders on the way, and the two agree as long as nothing is hidden behind a missing folder: in a tree
in which each entry lies in a folder, on paths without such a detour (`RecordStore.persist_adds`).
So over any sequence of calls exactly the first one for each place is fresh, what it wrote stays,
and a call that is made again changes nothing (`RecordStore.persistEach_once`).

Names of options are put into paths as they are, so an option can be named like a detour. Then the
first record of a pair hides from the call for another one, which overwrites it
(`RecordStore.persistEach_detour`).

Key definitions: `RecordStore.Adds`, `RecordStore.persistEach`, `RecordStore.placesOf`.
Key theorems: `RecordStore.persist_adds`, `RecordStore.persistEach_adds`,
`RecordStore.count_persistEach`, `RecordStore.persistEach_once`, `RecordStore.persistEach_detour`.
-/

namespace OrderTrials

theorem FileTree.Straight.of_keeps {t t' : FileTree} {path : String} (h : t.Straight path)
    (keeps : FileTree.Keeps t t') : t'.Straight path := by
  intro f hf
  rw [wayOf_of_home keeps.home] at hf
  rw [goalOf_of_home keeps.home]
  exact (h f hf).imp_right (keeps.folders f)

namespace RecordStore

open Path Comparison

variable {s : RecordStore} {j : Judge String} {v : Violation} {x : Judge String × Violation}
  {vs again : List (Judge String × Violation)} {t t' t'' : FileTree} {fresh : Bool}
  {flags : List Bool} {folder : String} {p q : Place} {places places' : List Place}

/-! ### One call -/

theorem wayOf_pathOf (s : RecordStore) (t : FileTree) (v : Violation) :
    (t.wayOf (s.pathOf v)).dropLast = t.wayOf (s.folderOf v) := by
  rw [pathOf_eq, FileTree.wayOf_join (leads_recordName v), List.dropLast_concat]

/-- One tree is another one with folders that were missing, and changes where no file was, at some
places. -/
structure Adds (t t' : FileTree) (places : List Place) : Prop where
  keeps : FileTree.Keeps t t'
  frame : ∀ q, t'.get? q = t.get? q ∨ t.isFile q = false ∧
    (q ∈ places ∨ t.get? q = none ∧ t'.get? q = some .folder)

namespace Adds

theorem refl (t : FileTree) (places : List Place) : Adds t t places :=
  ⟨.refl t, fun _ => .inl rfl⟩

theorem trans (h : Adds t t' places) (h' : Adds t' t'' places') :
    Adds t t'' (places ++ places') := by
  refine ⟨h.keeps.trans h'.keeps, fun q => ?_⟩
  rcases h.frame q with same | ⟨noFile, changed⟩
  · rcases h'.frame q with same' | ⟨noFile', changed'⟩
    · exact .inl (same'.trans same)
    · refine .inr ⟨by rwa [FileTree.isFile, ← same], ?_⟩
      exact changed'.imp (List.mem_append_right _) fun made => ⟨same ▸ made.1, made.2⟩
  · refine .inr ⟨noFile, ?_⟩
    rcases changed with here | ⟨missing, made⟩
    · exact .inl (List.mem_append_left _ here)
    · exact .inr ⟨missing, h'.keeps.folders q made⟩

/-- A file that is there stays as it is. -/
theorem get?_of_isFile (h : Adds t t' places) (file : t.isFile q = true) :
    t'.get? q = t.get? q :=
  (h.frame q).resolve_right fun changed => by simp [changed.1] at file

theorem isFile_of_isFile (h : Adds t t' places) (file : t.isFile q = true) :
    t'.isFile q = true := by
  rwa [FileTree.isFile, h.get?_of_isFile file]

/-- A file that was not there lies at one of the places. -/
theorem isFile_eq_of_not_mem (h : Adds t t' places) (off : q ∉ places) :
    t'.isFile q = t.isFile q := by
  rcases h.frame q with same | ⟨noFile, here | ⟨-, made⟩⟩
  · rw [FileTree.isFile, same]
    rfl
  · exact absurd here off
  · rw [noFile, FileTree.isFile, made]

end Adds

theorem isFile_of_hasFile (h : t.hasFile (s.pathOf v) = true) :
    t.locate [] (s.pathOf v) = .ok (s.placeOf t v) ∧ t.isFile (s.placeOf t v) = true := by
  obtain ⟨e, he, regular⟩ := FileTree.hasFile_iff.mp h
  obtain ⟨p, located, there⟩ := FileTree.find?_eq_some_iff.mp he
  rw [placeOf_eq_of_locate located]
  refine ⟨located, ?_⟩
  rw [FileTree.isFile, there]
  cases e <;> first | rfl | cases regular

theorem hasFile_of_isFile (located : t.locate [] (s.pathOf v) = .ok p)
    (file : t.isFile p = true) : t.hasFile (s.pathOf v) = true := by
  rw [FileTree.hasFile, FileTree.find?, located]
  exact file

/-- A file in the place of a record is found, since nothing is hidden: where none is found, there is
none. -/
theorem isFile_eq_false_of_absent (grounded : t.Grounded) (straight : t.Straight (s.pathOf v))
    (located : t'.locate [] (s.pathOf v) = .ok p) (absent : t.hasFile (s.pathOf v) = false) :
    t.isFile (s.placeOf t v) = false := by
  obtain ⟨valid, -, short, -⟩ := (FileTree.locate_join_ok_iff (leads_recordName v)).mp located
  rw [Bool.eq_false_iff]
  intro file
  have something : t.get? (t.goalOf (s.pathOf v)) ≠ none := by
    intro nothing
    rw [FileTree.isFile, placeOf, nothing] at file
    cases file
  have way := FileTree.exposes_of_straight grounded straight something
  rw [wayOf_pathOf] at way
  have found := (FileTree.locate_join_ok_iff (leads_recordName v)).mpr ⟨valid, way, short, rfl⟩
  exact Bool.eq_false_iff.mp absent (hasFile_of_isFile found file)

/-- What the path of a record leads to lies in a folder. -/
theorem folder_of_locate (located : t.locate [] (s.pathOf v) = .ok p)
    (noFolder : t.get? p ≠ some .folder) : t.get? p.dropLast = some .folder := by
  obtain ⟨-, folders, -, goal⟩ := (FileTree.locate_join_ok_iff (leads_recordName v)).mp located
  have place : p = t.settled (t.goalOf (s.folderOf v) ++ [recordName v]) :=
    goal.trans (FileTree.goalOf_join (leads_recordName v))
  have inner : p ≠ [] := by
    rintro rfl
    exact noFolder rfl
  rw [(t.settled_cases _).resolve_right (place ▸ inner)] at place
  rw [place, List.dropLast_concat]
  rcases List.mem_cons.mp (t.goal_mem (p := origin [] (s.folderOf v))
    (s := steps (s.folderOf v))) with start | way
  · change t.get? (t.goal _ _) = _
    rw [start]
    exact t.get?_origin _
  · exact folders _ way

/-- Folders and a file, put where no file was. -/
theorem Adds.put {laid : FileTree} {e : Entry} (opened : t.Open (origin [] folder) (steps folder))
    (lays : FileTree.Lays t laid (t.wayOf folder)) (noFile : t.isFile p = false)
    (keeps : FileTree.Keeps t (laid.put p e)) : Adds t (laid.put p e) [p] := by
  refine ⟨keeps, fun q => ?_⟩
  by_cases here : q = p
  · exact .inr ⟨here ▸ noFile, .inl (List.mem_singleton.mpr here)⟩
  · rw [laid.get?_put_of_ne _ here, lays.get?_eq]
    split
    · rename_i way
      rcases opened.free q way with missing | there
      · refine .inr ⟨?_, .inr ⟨missing, rfl⟩⟩
        rw [FileTree.isFile, missing]
      · exact .inl there.symm
    · exact .inl rfl

/-- **A call is fresh exactly if no file is in the place of the record.** Afterwards there is one,
the record if the call was fresh, and nothing else is new but folders. -/
theorem persist_adds (grounded : t.Grounded) (straight : t.Straight (s.pathOf v))
    (h : s.persist j t v = .ok (fresh, t')) :
    fresh = !t.isFile (s.placeOf t v) ∧ t'.Grounded ∧ Adds t t' [s.placeOf t v] ∧
      t'.locate [] (s.pathOf v) = .ok (s.placeOf t v) ∧ t'.isFile (s.placeOf t v) = true ∧
      (fresh = true →
        t'.get? (s.placeOf t v) = some (.file (Record.ofViolation j v).text.toUTF8)) := by
  rcases persist_ok h with ⟨rfl, rfl, there⟩ | ⟨rfl, absent, laid, opened, lays, located, noFolder, rfl⟩
  · obtain ⟨located, file⟩ := isFile_of_hasFile there
    exact ⟨by rw [file]; rfl, grounded, .refl _ _, located, file, nofun⟩
  · obtain ⟨keeps, found, there⟩ := persist_fresh h
    have noFile := isFile_eq_false_of_absent grounded straight located absent
    have parent := folder_of_locate located noFolder
    refine ⟨by rw [noFile]; rfl, (grounded.lays lays).put noFolder parent _,
      .put opened lays noFile keeps, found, ?_, fun _ => there⟩
    rw [FileTree.isFile, there]

/-! ### One call after another -/

/-- Records one violation after another, each with what is needed to decide about it; which calls
were fresh, and the files. -/
def persistEach (s : RecordStore) : List (Judge String × Violation) → FileTree →
    Except StoreFault (List Bool × FileTree)
  | [], t => .ok ([], t)
  | x :: vs, t =>
    (s.persist x.1 t x.2).bind fun own =>
      (persistEach s vs own.2).map fun others => (own.1 :: others.1, others.2)

theorem persistEach_nil_ok (h : s.persistEach [] t = .ok (flags, t')) : flags = [] ∧ t' = t := by
  rw [persistEach] at h
  cases h
  exact ⟨rfl, rfl⟩

theorem persistEach_cons_ok (h : s.persistEach (x :: vs) t = .ok (flags, t'')) :
    ∃ fresh t' rest, s.persist x.1 t x.2 = .ok (fresh, t') ∧
      s.persistEach vs t' = .ok (rest, t'') ∧ flags = fresh :: rest := by
  rw [persistEach] at h
  cases first : s.persist x.1 t x.2 with
  | error fault =>
    rw [first] at h
    cases h
  | ok own =>
    rw [first] at h
    dsimp only [Except.bind] at h
    cases others : s.persistEach vs own.2 with
    | error fault =>
      rw [others] at h
      cases h
    | ok rest =>
      rw [others] at h
      cases h
      exact ⟨own.1, own.2, rest.1, rfl, others, rfl⟩

theorem persistEach_cons (first : s.persist x.1 t x.2 = .ok (fresh, t'))
    (others : s.persistEach vs t' = .ok (flags, t'')) :
    s.persistEach (x :: vs) t = .ok (fresh :: flags, t'') := by
  rw [persistEach, first, Except.bind]
  dsimp only
  rw [others]
  rfl

/-- A campaign counts the fresh calls. -/
theorem persistAll_of_persistEach {count : Nat} {pairs : List Violation}
    (h : s.persistEach (pairs.map fun v => (j, v)) t = .ok (flags, t')) :
    s.persistAll j pairs count t = (.ok (count + flags.count true), t') := by
  induction pairs generalizing count flags t with
  | nil =>
    obtain ⟨rfl, rfl⟩ := persistEach_nil_ok h
    rfl
  | cons v pairs ih =>
    obtain ⟨fresh, t₁, rest, first, others, rfl⟩ := persistEach_cons_ok h
    rw [persistAll, first, counting]
    rw [ih others, List.count_cons, Nat.add_comm (rest.count true), ← Nat.add_assoc]
    cases fresh <;> rfl

/-- The calls before one, and the call itself. -/
theorem persistEach_split {before after : List (Judge String × Violation)}
    (h : s.persistEach (before ++ x :: after) t = .ok (flags, t'')) :
    ∃ earlier t₁ fresh t₂ later, s.persistEach before t = .ok (earlier, t₁) ∧
      s.persist x.1 t₁ x.2 = .ok (fresh, t₂) ∧ s.persistEach after t₂ = .ok (later, t'') ∧
      flags = earlier ++ fresh :: later ∧ earlier.length = before.length := by
  induction before generalizing flags t with
  | nil =>
    obtain ⟨fresh, t₂, later, first, others, flagged⟩ := persistEach_cons_ok h
    exact ⟨[], t, fresh, t₂, later, by rw [persistEach], first, others, flagged, rfl⟩
  | cons y before ih =>
    obtain ⟨own, t', rest, first, others, rfl⟩ := persistEach_cons_ok h
    obtain ⟨earlier, t₁, fresh, t₂, later, front, call, back, rfl, length⟩ := ih others
    exact ⟨own :: earlier, t₁, fresh, t₂, later, persistEach_cons first front, call, back, rfl,
      by rw [List.length_cons, List.length_cons, length]⟩

/-- The places of the records of several pairs. -/
def placesOf (s : RecordStore) (t : FileTree) (vs : List (Judge String × Violation)) : List Place :=
  vs.map fun x => s.placeOf t x.2

theorem placesOf_of_home (home : t'.home = t.home) : s.placesOf t' vs = s.placesOf t vs :=
  List.map_congr_left fun _ _ => placeOf_of_home home

/-- **Calls add records and folders,** and each of them finds a file in its place afterwards. -/
theorem persistEach_adds (grounded : t.Grounded)
    (straight : ∀ x ∈ vs, t.Straight (s.pathOf x.2))
    (h : s.persistEach vs t = .ok (flags, t')) :
    t'.Grounded ∧ Adds t t' (s.placesOf t vs) ∧ ∀ x ∈ vs, t'.hasFile (s.pathOf x.2) = true := by
  induction vs generalizing t flags with
  | nil =>
    obtain ⟨-, rfl⟩ := persistEach_nil_ok h
    exact ⟨grounded, .refl _ _, nofun⟩
  | cons x vs ih =>
    obtain ⟨fresh, t₁, rest, first, others, rfl⟩ := persistEach_cons_ok h
    obtain ⟨-, grounded₁, adds, located, file, -⟩ :=
      persist_adds grounded (straight x List.mem_cons_self) first
    obtain ⟨grounded', adds', found⟩ := ih grounded₁
      (fun y hy => (straight y (List.mem_cons_of_mem _ hy)).of_keeps adds.keeps) others
    rw [placesOf_of_home adds.keeps.home] at adds'
    refine ⟨grounded', adds.trans adds', fun y hy => ?_⟩
    rcases List.mem_cons.mp hy with rfl | hy
    · exact hasFile_of_isFile (adds'.keeps.locate located) (adds'.isFile_of_isFile file)
    · exact found y hy

/-- Calls that find a file change nothing. -/
theorem persistEach_again (h : ∀ x ∈ again, t.hasFile (s.pathOf x.2) = true) :
    s.persistEach again t = .ok (again.map fun _ => false, t) := by
  induction again with
  | nil => rw [persistEach, List.map_nil]
  | cons x again ih =>
    have found : s.persist x.1 t x.2 = .ok (false, t) := by
      unfold persist
      dsimp only
      rw [if_pos (h x List.mem_cons_self)]
    exact persistEach_cons found (ih fun y hy => h y (List.mem_cons_of_mem _ hy))

/-- **There are as many fresh calls as new places.** -/
theorem count_persistEach (grounded : t.Grounded)
    (straight : ∀ x ∈ vs, t.Straight (s.pathOf x.2))
    (h : s.persistEach vs t = .ok (flags, t')) :
    flags.count true = ((s.placesOf t vs).toFinset.filter fun q => t.isFile q = false).card := by
  induction vs generalizing t flags with
  | nil =>
    obtain ⟨rfl, -⟩ := persistEach_nil_ok h
    rfl
  | cons x vs ih =>
    obtain ⟨fresh, t₁, rest, first, others, rfl⟩ := persistEach_cons_ok h
    obtain ⟨new, grounded₁, adds, -, file, -⟩ :=
      persist_adds grounded (straight x List.mem_cons_self) first
    have counted := ih grounded₁
      (fun y hy => (straight y (List.mem_cons_of_mem _ hy)).of_keeps adds.keeps) others
    rw [placesOf_of_home adds.keeps.home] at counted
    -- after the call the new places are the others of them
    have others : (s.placesOf t vs).toFinset.filter (fun q => t₁.isFile q = false) =
        ((s.placesOf t vs).toFinset.filter fun q => t.isFile q = false).erase
          (s.placeOf t x.2) := by
      ext q
      rw [Finset.mem_erase, Finset.mem_filter, Finset.mem_filter]
      by_cases here : q = s.placeOf t x.2
      · simp [here, file]
      · rw [adds.isFile_eq_of_not_mem (mt List.mem_singleton.mp here)]
        simp [here]
    have all : s.placesOf t (x :: vs) = s.placeOf t x.2 :: s.placesOf t vs := rfl
    rw [List.count_cons, counted, others, new, all, List.toFinset_cons, Finset.filter_insert]
    cases there : t.isFile (s.placeOf t x.2) with
    | true =>
      have off : s.placeOf t x.2 ∉
          (s.placesOf t vs).toFinset.filter fun q => t.isFile q = false := by
        simp [there]
      rw [Finset.erase_eq_of_notMem off]
      simp
    | false =>
      simp only [if_true]
      rw [← Finset.card_erase_add_one (Finset.mem_insert_self _ _), Finset.erase_insert_eq_erase]
      simp

/-- **One record per pair, written once.** Take files in which each entry lies in a folder, a store
and pairs whose paths make no detours through folders that are missing, and a sequence of calls that
all succeed. A call is fresh exactly if there was no file at its path before it, and there are as
many fresh calls as there are different places of records at which no file was. What was at a place
with a file is there as before; at a new place there is the record of the first call for it; and
nothing else has changed but that folders were made. Any of the calls, made again, are not fresh and
change nothing. -/
theorem persistEach_once (grounded : t.Grounded)
    (straight : ∀ x ∈ vs, t.Straight (s.pathOf x.2))
    (h : s.persistEach vs t = .ok (flags, t')) :
    (∀ before x after, vs = before ++ x :: after →
      ∃ earlier t₁, s.persistEach before t = .ok (earlier, t₁) ∧
        flags[before.length]? = some (!t₁.hasFile (s.pathOf x.2))) ∧
      flags.count true =
        ((s.placesOf t vs).toFinset.filter fun q => t.isFile q = false).card ∧
      (∀ q, t'.get? q = t.get? q ∨ t.isFile q = false ∧
        (q ∈ s.placesOf t vs ∨ t.get? q = none ∧ t'.get? q = some .folder)) ∧
      (∀ before x after, vs = before ++ x :: after → t.isFile (s.placeOf t x.2) = false →
        s.placeOf t x.2 ∉ s.placesOf t before →
          t'.read (s.pathOf x.2) = .ok (Record.ofViolation x.1 x.2).text.toUTF8) ∧
      ∀ again, again ⊆ vs → s.persistEach again t' = .ok (again.map fun _ => false, t') := by
  obtain ⟨-, adds, found⟩ := persistEach_adds grounded straight h
  refine ⟨fun before x after parts => ?_, count_persistEach grounded straight h, adds.frame,
    fun before x after parts noFile first => ?_, fun again part => ?_⟩
  · rw [parts] at h
    obtain ⟨earlier, t₁, fresh, t₂, later, front, call, -, rfl, length⟩ := persistEach_split h
    refine ⟨earlier, t₁, front, ?_⟩
    rw [← length, List.getElem?_append_right (Nat.le_refl _), Nat.sub_self]
    rcases persist_ok call with ⟨rfl, -, there⟩ | ⟨rfl, absent, -⟩
    · rw [there]
      rfl
    · rw [absent]
      rfl
  · rw [parts] at h straight
    obtain ⟨earlier, t₁, fresh, t₂, later, front, call, back, -, -⟩ := persistEach_split h
    obtain ⟨grounded₁, adds₁, -⟩ := persistEach_adds grounded
      (fun y hy => straight y (List.mem_append_left _ hy)) front
    have own := (straight x (List.mem_append_right _ List.mem_cons_self)).of_keeps adds₁.keeps
    obtain ⟨new, grounded₂, adds₂, located, file, record⟩ := persist_adds grounded₁ own call
    rw [placeOf_of_home adds₁.keeps.home] at new located file record
    obtain ⟨-, adds₃, -⟩ := persistEach_adds grounded₂ (fun y hy =>
      (straight y (List.mem_append_right _ (List.mem_cons_of_mem _ hy))).of_keeps
        (adds₁.keeps.trans adds₂.keeps)) back
    -- no file was in the place before the call, so the call wrote its record, and that stays
    have written : fresh = true := by
      rw [new, adds₁.isFile_eq_of_not_mem first, noFile]
      rfl
    exact read_eq_of_get? (adds₃.keeps.locate located)
      ((adds₃.get?_of_isFile file).trans (record written))
  · exact persistEach_again fun x hx => found x (part hx)

/-! ### Records of the stairs -/

/-- A judge that sees no results. -/
def silent : Judge String := ⟨fun _ => [], none⟩

/-- A pair of the stairs, its reverse, and the pair once more. -/
def stairsCalls : List (Judge String × Violation) :=
  [(silent, stairsPair "A" "C" true), (silent, stairsPair "C" "A" true),
    (silent, stairsPair "A" "C" true)]

theorem persistEach_once_stairs :
    ∃ t', shelf.persistEach stairsCalls .empty = .ok ([true, true, false], t') ∧
      ((shelf.placesOf .empty stairsCalls).toFinset.filter fun q =>
        FileTree.empty.isFile q = false).card = 2 ∧
      shelf.persistEach stairsCalls t' = .ok ([false, false, false], t') := by
  have flagged : (shelf.persistEach stairsCalls .empty).toOption.map (·.1) =
      some [true, true, false] := by decide +kernel
  have straight : ∀ x ∈ stairsCalls, FileTree.empty.Straight (shelf.pathOf x.2) := by
    decide +kernel
  obtain ⟨t', h⟩ := exists_ok_of_fst flagged
  obtain ⟨-, count, -, -, again⟩ := persistEach_once FileTree.grounded_empty straight h
  exact ⟨t', h, count.symm, again stairsCalls (List.Subset.refl _)⟩

/-- The pair with an option that is named like a detour to the other one. -/
def detourPair : Violation := { stairsPair "A" "C" true with option := "b/../k" }

/-- **A record that is overwritten.** The record of a pair is written; the call for the detour finds
no file and is fresh too, and then the record of the pair is gone. -/
theorem persistEach_detour :
    ∃ t₁ t₂, shelf.persistEach [(silent, stairsPair "A" "C" true)] .empty = .ok ([true], t₁) ∧
      t₁.read (shelf.pathOf (stairsPair "A" "C" true)) =
        .ok (Record.ofViolation silent (stairsPair "A" "C" true)).text.toUTF8 ∧
      shelf.persistEach [(silent, detourPair)] t₁ = .ok ([true], t₂) ∧
      t₂.read (shelf.pathOf (stairsPair "A" "C" true)) =
        .ok (Record.ofViolation silent detourPair).text.toUTF8 ∧
      (Record.ofViolation silent detourPair).text.toUTF8 ≠
        (Record.ofViolation silent (stairsPair "A" "C" true)).text.toUTF8 := by
  have flagged : (shelf.persistEach [(silent, stairsPair "A" "C" true), (silent, detourPair)]
      .empty).toOption.map (·.1) = some [true, true] := by decide +kernel
  have together : shelf.placeOf .empty detourPair =
      shelf.placeOf .empty (stairsPair "A" "C" true) := by decide +kernel
  obtain ⟨t₂, h⟩ := exists_ok_of_fst flagged
  obtain ⟨fresh₁, t₁, rest, first, others, same⟩ := persistEach_cons_ok h
  obtain ⟨fresh₂, t, nothing, second, done, same'⟩ := persistEach_cons_ok others
  obtain ⟨rfl, rfl⟩ := persistEach_nil_ok done
  subst same'
  obtain ⟨rfl, rest⟩ := List.cons.inj same
  obtain rfl : true = fresh₂ := (List.cons.inj rest).1
  obtain ⟨keeps, located, there⟩ := persist_fresh first
  obtain ⟨keeps', -, there'⟩ := persist_fresh second
  rw [placeOf_of_home keeps.home, together] at there'
  refine ⟨t₁, t₂, persistEach_cons first rfl, read_eq_of_get? located there,
    persistEach_cons second rfl, read_eq_of_get? (keeps'.locate located) there', fun equal => ?_⟩
  have texts := congrArg String.fromUTF8? equal
  rw [fromUTF8?_toUTF8, fromUTF8?_toUTF8] at texts
  have records := Record.eq_of_text (Record.plain_ofViolation silent _)
    (Record.plain_ofViolation silent _) (Option.some.inj texts)
  have options : "b/../k" = "k" := congrArg Record.option records
  exact absurd options (by decide)

end RecordStore
end OrderTrials
