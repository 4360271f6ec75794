import OrderTrials.Proofs.Outputs
import OrderTrials.Proofs.Reporting
import OrderTrials.Proofs.Wording
import OrderTrials.RecordStore
/-
# Records that are kept

A record is written as the pretty text of its document and read back field by field
(`Record.read?_text`). What makes it come back is that its differences are texts and its times fit a
word (`Record.Plain`), and so it is with every record of a violation. A fresh call of a store leaves
the text in the place where the path of the record leads (`RecordStore.persist_fresh`), so loading
from that path yields the record (`RecordStore.load_persist`).

Key definitions: `Record.Plain`, `RecordStore.placeOf`.
Key theorems: `Table.ofList_entries`, `JobRecord.read?_document`, `Record.read?_text`,
`RecordStore.persist_ok`, `RecordStore.load_persist`.
-/

namespace OrderTrials

/-! ### Tables from their entries -/

namespace Table

variable {α : Type} {k : String} {a : α} {l : List (String × α)}

/-- An entry with a greater key than all others comes last. -/
theorem insertEntry_of_greater (h : ∀ e ∈ l, e.1 < k) : insertEntry k a l = l ++ [(k, a)] := by
  induction l with
  | nil => rfl
  | cons e l ih =>
    have less := h e List.mem_cons_self
    have other : k ≠ e.1 := fun same => String.lt_irrefl k (same ▸ less)
    rw [insertEntry, if_neg (String.lt_asymm less), if_neg other,
      ih fun x hx => h x (List.mem_cons_of_mem e hx)]
    rfl

theorem entries_foldl_insert (t : Table α)
    (h : (t.entries ++ l).Pairwise fun a b => a.1 < b.1) :
    (l.foldl (fun t e => t.insert e.1 e.2) t).entries = t.entries ++ l := by
  induction l generalizing t with
  | nil => exact (List.append_nil _).symm
  | cons e l ih =>
    have greater : ∀ x ∈ t.entries, x.1 < e.1 := fun x hx =>
      (List.pairwise_append.mp h).2.2 x hx e List.mem_cons_self
    have next : (t.insert e.1 e.2).entries = t.entries ++ [e] := insertEntry_of_greater greater
    have all : (t.insert e.1 e.2).entries ++ l = t.entries ++ e :: l := by
      rw [next, List.append_assoc]
      rfl
    rw [List.foldl_cons, ih _ (all ▸ h), all]

/-- **A table is the table of its entries.** -/
theorem ofList_entries (t : Table α) : ofList t.entries = t := by
  have entries := entries_foldl_insert empty (l := t.entries) t.ascending
  obtain ⟨l, ascending⟩ := t
  unfold ofList
  generalize l.foldl _ empty = t' at entries
  obtain ⟨l', ascending'⟩ := t'
  dsimp only at entries
  subst entries
  rfl

end Table

/-! ### Records from their texts -/

open Json

namespace JobRecord

theorem maybe?_textOrNull (x : Option String) :
    Document.maybe? Document.text? (some (textOrNull x).document) = some x := by
  cases x <;> rfl

theorem table?_document (t : Table String) :
    table? (Value.object (t.entries.map fun e => (e.1, .text e.2))).document = some t := by
  have entries (l : List (String × String)) :
      ((Value.memberDocuments (l.map fun e => (e.1, .text e.2))).mapM fun m =>
        do return (← m.1, ← m.2.text?)) = some l := by
    induction l with
    | nil => rfl
    | cons e l ih =>
      rw [List.map_cons, Value.memberDocuments, List.mapM_cons, ih]
      rfl
  rw [Value.document, table?, entries]
  exact congrArg some t.ofList_entries

/-- **A recorded job is read back** from its document if its time fits a word. -/
theorem read?_document {r : JobRecord} (word : r.elapsed ≤ maxUnsigned) :
    read? r.toJson.document = some r := by
  have text (s : String) : (Value.text s).document.text? = some s := rfl
  rw [read?, toJson, Document.fields?_object (by decide) rfl]
  simp only [Option.bind_eq_bind, Option.bind_some, List.map, table?_document, maybe?_textOrNull,
    text, Document.unsigned?_whole word, Option.pure_def]

theorem whole_toJson (r : JobRecord) : r.toJson.Whole := by
  have names : (Value.object (r.configuration.entries.map fun e => (e.1, .text e.2))).Whole := by
    refine Value.membersWhole_iff.mpr fun m hm => ?_
    obtain ⟨e, -, rfl⟩ := List.mem_map.mp hm
    trivial
  have textOrNull (x : Option String) : (textOrNull x).Whole := by cases x <;> trivial
  exact ⟨names, textOrNull _, trivial, textOrNull _, trivial, trivial⟩

end JobRecord

namespace Record

variable {r r' : Record}

/-- What makes a record come back from its text: the times fit a word, and the differences are
texts. -/
structure Plain (r : Record) : Prop where
  first : r.first.elapsed ≤ maxUnsigned
  second : r.second.elapsed ≤ maxUnsigned
  onlyFirst : ∀ v ∈ r.onlyFirst, ∃ s, v = .text s
  onlySecond : ∀ v ∈ r.onlySecond, ∃ s, v = .text s

/-- Texts are read back item by item. -/
theorem list?_innerValue {vs : List Value} (texts : ∀ v ∈ vs, ∃ s, v = .text s) :
    (Value.list vs).document.list? innerValue? = some vs := by
  have items : ∀ v ∈ vs, innerValue? (id v).document = some v := by
    intro v hv
    obtain ⟨s, rfl⟩ := texts v hv
    rfl
  have read := Document.list?_list items
  rwa [List.map_id] at read

/-- **A record is read back** from its document. -/
theorem ofDocument?_document (plain : r.Plain) : ofDocument? r.toJson.document = some r := by
  have text (s : String) : (Value.text s).document.text? = some s := rfl
  have bool (b : Bool) : (Value.bool b).document.bool? = some b := rfl
  have orders : (Value.list (r.orders.map .text)).document.list? Document.text? = some r.orders :=
    Document.list?_list fun s _ => text s
  rw [ofDocument?, toJson, Document.fields?_object (by decide) rfl]
  simp only [Option.bind_eq_bind, Option.bind_some, List.map_cons, List.map_nil, text, bool, orders,
    JobRecord.read?_document plain.first, JobRecord.read?_document plain.second,
    list?_innerValue plain.onlyFirst, list?_innerValue plain.onlySecond, Option.pure_def]

theorem whole_toJson (plain : r.Plain) : r.toJson.Whole := by
  have texts {vs : List Value} (h : ∀ v ∈ vs, ∃ s, v = .text s) : (Value.list vs).Whole := by
    refine Value.allWhole_iff.mpr fun v hv => ?_
    obtain ⟨s, rfl⟩ := h v hv
    trivial
  have orders : (Value.list (r.orders.map .text)).Whole := by
    refine Value.allWhole_iff.mpr fun v hv => ?_
    obtain ⟨s, -, rfl⟩ := List.mem_map.mp hv
    trivial
  exact ⟨trivial, trivial, trivial, trivial, trivial, orders, r.first.whole_toJson,
    r.second.whole_toJson, texts plain.onlyFirst, texts plain.onlySecond, trivial⟩

/-- **A record is read back from its text.** -/
theorem read?_text (plain : r.Plain) : read? r.text = some r := by
  rw [read?, text, Value.read?_pretty _ (whole_toJson plain), Option.bind_some,
    ofDocument?_document plain]

/-- Records with one text are equal. -/
theorem eq_of_text (plain : r.Plain) (plain' : r'.Plain) (same : r.text = r'.text) : r = r' := by
  have read := read?_text plain
  rw [same, read?_text plain'] at read
  exact (Option.some.inj read).symm

theorem exists_text_of_mem_sortedValues {results : List String} {v : Value}
    (h : v ∈ sortedValues results) : ∃ s, v = .text s := by
  rw [sortedValues, List.mem_mergeSort] at h
  obtain ⟨s, -, rfl⟩ := List.mem_map.mp h
  exact ⟨s, rfl⟩

/-- **The record of a violation comes back.** -/
theorem plain_ofViolation (j : Judge String) (v : Violation) : (ofViolation j v).Plain :=
  ⟨Nat.min_le_right _ _, Nat.min_le_right _ _, fun _ => exists_text_of_mem_sortedValues,
    fun _ => exists_text_of_mem_sortedValues⟩

end Record

namespace RecordStore

open Path Comparison

variable {s : RecordStore} {j : Judge String} {v : Violation} {t t' : FileTree} {fresh : Bool}
  {p : Place}

/-! ### Places of records -/

/-- The name of the record of a pair in its folder. -/
def recordName (v : Violation) : String :=
  v.first.configuration.fingerprint ++ "_" ++ v.second.configuration.fingerprint ++ ".json"

theorem pathOf_eq (s : RecordStore) (v : Violation) :
    s.pathOf v = join (s.folderOf v) (recordName v) := rfl

theorem leads_recordName (v : Violation) : Leads (recordName v).toList := by
  have line : "_".toList = ['_'] := rfl
  have json : ".json".toList = ['.', 'j', 's', 'o', 'n'] := rfl
  refine leads_of_mem (c := '_') ?_ (by simp [recordName, line]) (by decide)
  simp only [recordName, String.toList_append, line, json, List.mem_append, not_or]
  exact ⟨⟨⟨Digest.slash_not_mem_hex _, by decide⟩, Digest.slash_not_mem_hex _⟩, by decide⟩

/-- The place of the record of a pair. -/
def placeOf (s : RecordStore) (t : FileTree) (v : Violation) : Place := t.goalOf (s.pathOf v)

theorem placeOf_of_home (home : t'.home = t.home) : s.placeOf t' v = s.placeOf t v :=
  FileTree.goalOf_of_home home

theorem placeOf_eq_of_locate (h : t.locate [] (s.pathOf v) = .ok p) : s.placeOf t v = p :=
  ((FileTree.locate_join_ok_iff (leads_recordName v)).mp h).2.2.2.symm

/-! ### A call, and loading after it -/

/-- A call finds a file and changes nothing, or it makes folders and puts the record in its place. -/
theorem persist_ok (h : s.persist j t v = .ok (fresh, t')) :
    fresh = false ∧ t' = t ∧ t.hasFile (s.pathOf v) = true ∨
      fresh = true ∧ t.hasFile (s.pathOf v) = false ∧ ∃ laid,
        t.Open (origin [] (s.folderOf v)) (steps (s.folderOf v)) ∧
        FileTree.Lays t laid (t.wayOf (s.folderOf v)) ∧
        laid.locate [] (s.pathOf v) = .ok (s.placeOf t v) ∧
        laid.get? (s.placeOf t v) ≠ some .folder ∧
        t' = laid.put (s.placeOf t v) (.file (Record.ofViolation j v).text.toUTF8) := by
  unfold persist at h
  dsimp only at h
  split at h
  · rename_i there
    cases h
    exact .inl ⟨rfl, rfl, there⟩
  · rename_i absent
    split at h
    · cases h
    · rename_i laid made
      split at h
      · cases h
      · rename_i done put
        cases h
        obtain ⟨-, opened, lays⟩ := FileTree.makeFolders_ok made
        obtain ⟨q, located, noFolder, written⟩ := FileTree.replace_ok put
        have place := placeOf_eq_of_locate located
        rw [placeOf_of_home lays.home] at place
        rw [← place] at located noFolder written
        exact .inr ⟨rfl, Bool.eq_false_iff.mpr absent, laid, opened, lays, located, noFolder,
          written⟩

/-- **A fresh call leaves its record where the path leads,** and keeps the folders. -/
theorem persist_fresh (h : s.persist j t v = .ok (true, t')) :
    FileTree.Keeps t t' ∧ t'.locate [] (s.pathOf v) = .ok (s.placeOf t v) ∧
      t'.get? (s.placeOf t v) = some (.file (Record.ofViolation j v).text.toUTF8) := by
  obtain ⟨stale, -⟩ | ⟨-, -, laid, -, lays, located, noFolder, rfl⟩ := persist_ok h
  · cases stale
  · have same := FileTree.sameFolders_put (t := laid)
      (e := .file (Record.ofViolation j v).text.toUTF8) noFolder nofun
    exact ⟨lays.keeps.trans same.1, same.1.locate located,
      laid.get?_put_self _ (FileTree.isRoot_eq_false noFolder)⟩

theorem read_eq_of_get? {bytes : ByteArray} (located : t.locate [] (s.pathOf v) = .ok p)
    (there : t.get? p = some (.file bytes)) : t.read (s.pathOf v) = .ok bytes := by
  rw [FileTree.read, FileTree.readFrom, located]
  dsimp only
  rw [there]

/-- A call of which the first part of the answer is known has an answer. -/
theorem exists_ok_of_fst {ε α β : Type} {x : Except ε (α × β)} {a : α}
    (h : x.toOption.map (·.1) = some a) : ∃ b, x = .ok (a, b) := by
  cases x with
  | error fault => cases h
  | ok answer =>
    obtain ⟨a', b⟩ := answer
    obtain rfl : a' = a := Option.some.inj h
    exact ⟨b, rfl⟩

/-- **Records survive the store.** Whatever the names, levels, results and paths of a pair are, what
is loaded from the path of a fresh record is the record of the pair. -/
theorem load_persist (h : s.persist j t v = .ok (true, t')) :
    load t' (s.pathOf v) = .ok (Record.ofViolation j v) := by
  obtain ⟨-, located, there⟩ := persist_fresh h
  rw [load, read_eq_of_get? located there]
  dsimp only
  rw [fromUTF8?_toUTF8, Option.bind_some, Record.read?_text (Record.plain_ofViolation j v)]

/-- The store below `records`. -/
def shelf : RecordStore := ⟨"records"⟩

/-- A judge for which a result holds its own path and a tab. -/
def echoing : Judge String := ⟨fun path => [path, "\t"], none⟩

/-- A pair of jobs on an option with a quote, a line end, a control character and an accent in its
name; only the first one has a result, and its time fits no word. -/
def quaintPair : Violation :=
  { stairsPair "A" "C" true with
    option := "k\"\n\x01é"
    first := { jobAt "A" with result := some "w/\\.out", elapsed := maxUnsigned + 1 }
    second := { jobAt "C" with result := none } }

theorem load_persist_quaint :
    ∃ t', shelf.persist echoing .empty quaintPair = .ok (true, t') ∧
      load t' (shelf.pathOf quaintPair) = .ok (Record.ofViolation echoing quaintPair) := by
  have flagged : (shelf.persist echoing .empty quaintPair).toOption.map (·.1) = some true := by
    decide +kernel
  obtain ⟨t', h⟩ := exists_ok_of_fst flagged
  exact ⟨t', h, load_persist h⟩

end RecordStore
end OrderTrials
