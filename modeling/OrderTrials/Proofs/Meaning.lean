import OrderTrials.Proofs.Lining
import OrderTrials.Proofs.Wording
/-
# Results that are values

What a JSON value means is a tree in which an object is a function from its keys, so the order of
the members and all but the last of those with one key are forgotten (`Json.Value.meaning`). A value
has a canonical form, which is what is read from its text (`Json.Value.valueWithin_document`), and
values mean the same if and only if their canonical forms are the same
(`Json.Value.canonical_eq_iff`). So what a reader finds in two lists of values is the same if and
only if the values mean the same (`Reader.values_alike`).

Key definitions: `Json.Value.Fits`, `Json.Value.depth`, `Json.Value.canonical`, `Json.Meaning`,
`Json.Value.meaning`.
Key theorems: `Table.get?_ofList`, `Json.Value.valueWithin_document`, `Json.Value.canonical_eq_iff`,
`Reader.values_alike`.
-/

namespace OrderTrials

/-! ### The last entry of a key -/

/-- What the last entry of a key says. -/
def last? {α : Type} : List (String × α) → String → Option α
  | [], _ => none
  | (k, a) :: r, key => (last? r key).or (if k = key then some a else none)

theorem last?_map {α β : Type} (f : α → β) (l : List (String × α)) (key : String) :
    last? (l.map fun e => (e.1, f e.2)) key = (last? l key).map f := by
  induction l with
  | nil => rfl
  | cons e l ih =>
    rw [List.map_cons, last?, last?, ih, Option.map_or, apply_ite (Option.map f)]
    rfl

theorem mem_of_last? {α : Type} {l : List (String × α)} {key : String} {a : α}
    (h : last? l key = some a) : (key, a) ∈ l := by
  induction l with
  | nil => cases h
  | cons e l ih =>
    rw [last?, Option.or_eq_some_iff] at h
    rcases h with h | ⟨-, h⟩
    · exact List.mem_cons_of_mem e (ih h)
    · rw [Option.ite_none_right_eq_some] at h
      obtain ⟨rfl, h⟩ := h
      obtain rfl := Option.some.inj h
      exact List.mem_cons_self

namespace Table

variable {α : Type}

theorem get?_foldl_insert (l : List (String × α)) (t : Table α) (key : String) :
    (l.foldl (fun t e => t.insert e.1 e.2) t).get? key = (last? l key).or (t.get? key) := by
  induction l generalizing t with
  | nil => rfl
  | cons e l ih =>
    have step : (t.insert e.1 e.2).get? key =
        (if e.1 = key then some e.2 else none).or (t.get? key) := by
      by_cases same : e.1 = key
      · rw [← same, get?_insert_self, if_pos rfl]
        rfl
      · rw [get?_insert_of_ne t e.2 (Ne.symm same), if_neg same]
        rfl
    rw [List.foldl_cons, ih, step, last?, Option.or_assoc]

/-- **In the table of a list, the last entry of a key counts.** -/
theorem get?_ofList (l : List (String × α)) (key : String) : (ofList l).get? key = last? l key := by
  rw [ofList, get?_foldl_insert]
  exact Option.or_none

/-- The tables of two lists have the same entries if the last entries of each key say the same. -/
theorem entries_ofList_eq_iff {l l' : List (String × α)} :
    (ofList l).entries = (ofList l').entries ↔ ∀ key, last? l key = last? l' key := by
  constructor
  · intro same key
    rw [← get?_ofList, ← get?_ofList, get?, get?, same]
  · intro same
    have tables : ofList l = ofList l' := ext_get? fun key => by
      rw [get?_ofList, get?_ofList, same]
    rw [tables]

theorem mem_of_mem_ofList {l : List (String × α)} {e : String × α}
    (h : e ∈ (ofList l).entries) : e ∈ l := by
  have found := (get?_eq_some_iff (ofList l)).mpr h
  rw [get?_ofList] at found
  exact mem_of_last? found

end Table

namespace Json

/-- What a JSON value means. An object is what it has under each key, if anything. -/
inductive Meaning where
  | null
  | bool (b : Bool)
  | whole (n : Int)
  | double (d : Double)
  | text (s : String)
  | list (items : List Meaning)
  | object (under : String → Option Meaning)

namespace Value

mutual

/-- The meaning of a value. -/
def meaning : Value → Meaning
  | null => .null
  | bool b => .bool b
  | whole n => .whole n
  | double d => .double d
  | text s => .text s
  | list items => .list (meanings items)
  | object members => .object (meaningUnder members)

/-- The meanings of items. -/
def meanings : List Value → List Meaning
  | [] => []
  | v :: r => v.meaning :: meanings r

/-- The meaning of what members have under a key: the last one counts. -/
def meaningUnder : List (String × Value) → String → Option Meaning
  | [], _ => none
  | (k, v) :: r, key => (meaningUnder r key).or (if k = key then some v.meaning else none)

end

mutual

/-- A value with the members of its objects in the order of their keys, and one for each key. -/
def canonical : Value → Value
  | list items => list (canonicals items)
  | object members => object (Table.ofList (canonicalMembers members)).entries
  | v => v

/-- The canonical forms of items. -/
def canonicals : List Value → List Value
  | [] => []
  | v :: r => v.canonical :: canonicals r

/-- Members with the canonical forms of their values. -/
def canonicalMembers : List (String × Value) → List (String × Value)
  | [] => []
  | (k, v) :: r => (k, v.canonical) :: canonicalMembers r

end

mutual

/-- How many lists and objects are nested in a value. -/
def depth : Value → Nat
  | list items => depths items + 1
  | object members => memberDepths members + 1
  | _ => 0

/-- How many lists and objects are nested in items at most. -/
def depths : List Value → Nat
  | [] => 0
  | v :: r => max v.depth (depths r)

/-- How many lists and objects are nested in the values of members at most. -/
def memberDepths : List (String × Value) → Nat
  | [] => 0
  | (_, v) :: r => max v.depth (memberDepths r)

end

mutual

/-- A value whose numbers are whole and fit a word of 64 bits, signed or not. -/
def Fits : Value → Prop
  | whole n => Text.minWord ≤ n ∧ n ≤ maxUnsigned
  | double _ => False
  | list items => AllFit items
  | object members => MembersFit members
  | _ => True

/-- Items whose numbers are whole and fit a word. -/
def AllFit : List Value → Prop
  | [] => True
  | v :: r => v.Fits ∧ AllFit r

/-- Members whose numbers are whole and fit a word. -/
def MembersFit : List (String × Value) → Prop
  | [] => True
  | (_, v) :: r => v.Fits ∧ MembersFit r

end

variable {items items' : List Value} {members members' : List (String × Value)}

theorem canonicals_eq_map (items : List Value) : canonicals items = items.map canonical := by
  induction items with
  | nil => rfl
  | cons v r ih => rw [canonicals, ih, List.map_cons]

theorem canonicalMembers_eq_map (members : List (String × Value)) :
    canonicalMembers members = members.map fun m => (m.1, m.2.canonical) := by
  induction members with
  | nil => rfl
  | cons m r ih => rw [canonicalMembers, ih, List.map_cons]

theorem meaningUnder_eq (members : List (String × Value)) (key : String) :
    meaningUnder members key = (last? members key).map meaning := by
  rw [← last?_map]
  induction members with
  | nil => rfl
  | cons m r ih => rw [meaningUnder, ih, List.map_cons, last?]

theorem allFit_iff : AllFit items ↔ ∀ v ∈ items, v.Fits := by
  induction items with
  | nil => simp [AllFit]
  | cons v r ih => simp [AllFit, ih]

theorem membersFit_iff : MembersFit members ↔ ∀ m ∈ members, m.2.Fits := by
  induction members with
  | nil => simp [MembersFit]
  | cons m r ih => simp [MembersFit, ih]

theorem depth_le_depths {v : Value} (hv : v ∈ items) : v.depth ≤ depths items := by
  induction items with
  | nil => cases hv
  | cons w r ih =>
    rw [depths]
    rcases List.mem_cons.mp hv with rfl | hv
    · exact Nat.le_max_left _ _
    · exact Nat.le_trans (ih hv) (Nat.le_max_right _ _)

theorem depth_le_memberDepths {m : String × Value} (hm : m ∈ members) :
    m.2.depth ≤ memberDepths members := by
  induction members with
  | nil => cases hm
  | cons n r ih =>
    rw [memberDepths]
    rcases List.mem_cons.mp hm with rfl | hm
    · exact Nat.le_max_left _ _
    · exact Nat.le_trans (ih hm) (Nat.le_max_right _ _)

/-! ### What is read is the canonical form -/

theorem valuesWithin_documents {d : Nat}
    (h : ∀ v ∈ items, v.document.valueWithin d = some v.canonical) :
    Document.valuesWithin d (documents items) = some (canonicals items) := by
  induction items with
  | nil => rfl
  | cons v r ih =>
    obtain ⟨first, others⟩ := List.forall_mem_cons.mp h
    rw [documents, Document.valuesWithin, first, ih others]
    rfl

theorem membersWithin_memberDocuments {d : Nat}
    (h : ∀ m ∈ members, m.2.document.valueWithin d = some m.2.canonical) :
    Document.membersWithin d (memberDocuments members) = some (canonicalMembers members) := by
  induction members with
  | nil => rfl
  | cons m r ih =>
    obtain ⟨first, others⟩ := List.forall_mem_cons.mp h
    simp only [memberDocuments, Document.membersWithin, first, ih others, canonicalMembers]

/-- **From the document of a value its canonical form is read,** if the value is not nested too
deeply and its numbers fit. -/
theorem valueWithin_document {v : Value} {d : Nat} (fits : v.Fits) (nested : v.depth < d) :
    v.document.valueWithin d = some v.canonical := by
  induction v using induct generalizing d with
  | null => rfl
  | bool b => rfl
  | text x => rfl
  | double x => exact fits.elim
  | whole n =>
    have value : (numeralOf n).whole? = some n := whole?_numeralOf fits.1 fits.2
    rw [document, Document.valueWithin, Scalar.value?, Numeral.value?, value]
    rfl
  | list items ih =>
    have fit := allFit_iff.mp fits
    rw [depth] at nested
    have read : Document.valuesWithin (d - 1) (documents items) = some (canonicals items) :=
      valuesWithin_documents fun v hv => by
        have inside := depth_le_depths hv
        exact ih v hv (fit v hv) (by omega)
    rw [document, Document.valueWithin, if_neg (by omega), read]
    rfl
  | object members ih =>
    have fit := membersFit_iff.mp fits
    rw [depth] at nested
    have read : Document.membersWithin (d - 1) (memberDocuments members) =
        some (canonicalMembers members) :=
      membersWithin_memberDocuments fun m hm => by
        have inside := depth_le_memberDepths hm
        exact ih m hm (fit m hm) (by omega)
    rw [document, Document.valueWithin, if_neg (by omega), read]
    rfl

/-! ### Values that mean the same -/

theorem canonicals_eq_iff (h : ∀ v ∈ items, ∀ w : Value,
    v.canonical = w.canonical ↔ v.meaning = w.meaning) (items' : List Value) :
    canonicals items = canonicals items' ↔ meanings items = meanings items' := by
  induction items generalizing items' with
  | nil => cases items' <;> simp [canonicals, meanings]
  | cons v r ih =>
    obtain ⟨first, others⟩ := List.forall_mem_cons.mp h
    cases items' with
    | nil => simp [canonicals, meanings]
    | cons w r' =>
      rw [canonicals, canonicals, meanings, meanings, List.cons.injEq, List.cons.injEq, first w,
        ih others r']

/-- **Values mean the same if and only if their canonical forms are the same.** -/
theorem canonical_eq_iff (v w : Value) :
    v.canonical = w.canonical ↔ v.meaning = w.meaning := by
  induction v using induct generalizing w with
  | null => cases w <;> simp [canonical, meaning]
  | bool b => cases w <;> simp [canonical, meaning]
  | whole n => cases w <;> simp [canonical, meaning]
  | double d => cases w <;> simp [canonical, meaning]
  | text x => cases w <;> simp [canonical, meaning]
  | list items ih =>
    cases w with
    | list items' =>
      rw [canonical, canonical, meaning, meaning, list.injEq, Meaning.list.injEq]
      exact canonicals_eq_iff ih items'
    | _ => simp [canonical, meaning]
  | object members ih =>
    cases w with
    | object members' =>
      rw [canonical, canonical, meaning, meaning, object.injEq, Meaning.object.injEq,
        Table.entries_ofList_eq_iff, funext_iff]
      refine forall_congr' fun key => ?_
      rw [canonicalMembers_eq_map, canonicalMembers_eq_map, last?_map, last?_map,
        meaningUnder_eq, meaningUnder_eq]
      cases found : last? members key with
      | none => cases last? members' key <;> simp
      | some v =>
        have same := ih (key, v) (mem_of_last? found)
        cases last? members' key with
        | none => simp
        | some w => simpa using same w
    | _ => simp [canonical, meaning]

/-- A value that fits has no doubles in its canonical form. -/
theorem whole_canonical {v : Value} (fits : v.Fits) : v.canonical.Whole := by
  induction v using induct with
  | null => trivial
  | bool b => trivial
  | whole n => trivial
  | double d => exact fits.elim
  | text x => trivial
  | list items ih =>
    have fit := allFit_iff.mp fits
    refine allWhole_iff.mpr fun v hv => ?_
    rw [canonicals_eq_map] at hv
    obtain ⟨w, hw, rfl⟩ := List.mem_map.mp hv
    exact ih w hw (fit w hw)
  | object members ih =>
    have fit := membersFit_iff.mp fits
    refine membersWhole_iff.mpr fun m hm => ?_
    have origin := Table.mem_of_mem_ofList hm
    rw [canonicalMembers_eq_map] at origin
    obtain ⟨n, hn, rfl⟩ := List.mem_map.mp origin
    exact ih n hn (fit n hn)

/-- **Values have the same compact canonical form if and only if they mean the same.** -/
theorem compact_canonical_eq_iff {v w : Value} (fits : v.Fits) (fits' : w.Fits) :
    v.canonical.compact = w.canonical.compact ↔ v.meaning = w.meaning := by
  rw [← canonical_eq_iff]
  constructor
  · exact compact_inj (whole_canonical fits) (whole_canonical fits')
  · intro same
    rw [same]

end Value
end Json

/-! ### What is found in lists of values -/

/-- Two functions that tell the same members apart have the same values on two lists at the same
time. -/
theorem values_of_same {α β γ : Type} {f : α → β} {g : α → γ} {l l' : List α}
    (same : ∀ v ∈ l, ∀ w ∈ l', f v = f w ↔ g v = g w)
    (h : ∀ x, (∃ v ∈ l, f v = x) ↔ ∃ w ∈ l', f w = x) (y : γ) :
    (∃ v ∈ l, g v = y) ↔ ∃ w ∈ l', g w = y := by
  constructor
  · rintro ⟨v, hv, rfl⟩
    obtain ⟨w, hw, equal⟩ := (h (f v)).mp ⟨v, hv, rfl⟩
    exact ⟨w, hw, ((same v hv w hw).mp equal.symm).symm⟩
  · rintro ⟨w, hw, rfl⟩
    obtain ⟨v, hv, equal⟩ := (h (f w)).mpr ⟨w, hw, rfl⟩
    exact ⟨v, hv, (same v hv w hw).mp equal⟩

namespace Reader

open Json

variable {items items' : List Value} {files files' : FileTree} {path path' text text' : String}

/-- A text of a list has a bracket in it. -/
theorem mem_of_spells : ∀ {v : Value} {s : List Char}, v.Spells s → (∃ items, v = .list items) →
    '[' ∈ s
  | _, _, .emptyList _, _ => List.mem_append_left _ List.mem_cons_self
  | _, _, .list _, _ => List.mem_append_left _ List.mem_cons_self
  | _, _, .before _ h, list => List.mem_cons_of_mem _ (mem_of_spells h list)
  | _, _, .after _ h, list => List.mem_append_left _ (mem_of_spells h list)
  | _, _, .null, list | _, _, .yes, list | _, _, .no, list | _, _, .whole _, list
  | _, _, .text _, list | _, _, .emptyObject _, list | _, _, .object _, list => by
    obtain ⟨items, h⟩ := list
    cases h

/-- **From a text of a list the canonical forms of its items are read.** -/
theorem parse_of_spells (spells : (Value.list items).Spells text.toList)
    (fits : (Value.list items).Fits) (nested : (Value.list items).depth < Document.depthLimit) :
    jsonValues.parse text = some (items.map fun v => v.canonical.compact) := by
  have visible : isBlankText text = false := by
    refine Bool.eq_false_iff.mpr fun blank => ?_
    exact absurd (List.all_eq_true.mp blank '[' (mem_of_spells spells ⟨items, rfl⟩)) (by decide)
  have read : ∀ v ∈ items, (v.document.valueWithin (Document.depthLimit - 1)).map Value.compact =
      some v.canonical.compact := by
    intro v hv
    have inside := Value.depth_le_depths hv
    rw [Value.depth] at nested
    rw [Value.valueWithin_document (Value.allFit_iff.mp fits v hv) (by omega), Option.map_some]
  have list : (Value.list (items.map id)).document.list?
      (fun d => (d.valueWithin (Document.depthLimit - 1)).map Value.compact) =
        some (items.map fun v => v.canonical.compact) := Document.list?_map read
  rw [List.map_id] at list
  rw [jsonValues, jsonList]
  dsimp only
  rw [visible, if_neg Bool.false_ne_true, spells.read?, Option.bind_some]
  exact list

theorem read_of_spells (holds : textAt files path = .ok (some text))
    (spells : (Value.list items).Spells text.toList) (fits : (Value.list items).Fits)
    (nested : (Value.list items).depth < Document.depthLimit) :
    ∃ found, jsonValues.read files path = .ok found ∧
      ∀ x, x ∈ found ↔ ∃ v ∈ items, v.canonical.compact = x := by
  have parsed := parse_of_spells spells fits nested
  obtain ⟨found, read, mem⟩ := read_of_parse holds parsed
  refine ⟨found, read, fun x => ?_⟩
  rw [mem, mem_setIn, parsed]
  simp

/-- **Results are compared by value.** Two files hold a text of a list each, with numbers that fit a
word and not nested too deeply. The reader finds the same in them if and only if the items of the
two lists mean the same. -/
theorem values_alike (holds : textAt files path = .ok (some text))
    (holds' : textAt files' path' = .ok (some text'))
    (spells : (Value.list items).Spells text.toList)
    (spells' : (Value.list items').Spells text'.toList)
    (fits : (Value.list items).Fits) (fits' : (Value.list items').Fits)
    (nested : (Value.list items).depth < Document.depthLimit)
    (nested' : (Value.list items').depth < Document.depthLimit) :
    ∃ found found', jsonValues.read files path = .ok found ∧
      jsonValues.read files' path' = .ok found' ∧
      ((∀ x, x ∈ found ↔ x ∈ found') ↔
        ∀ m, (∃ v ∈ items, v.meaning = m) ↔ ∃ v ∈ items', v.meaning = m) := by
  obtain ⟨found, read, mem⟩ := read_of_spells holds spells fits nested
  obtain ⟨found', read', mem'⟩ := read_of_spells holds' spells' fits' nested'
  have same : ∀ v ∈ items, ∀ w ∈ items',
      v.canonical.compact = w.canonical.compact ↔ v.meaning = w.meaning := fun v hv w hw =>
    Value.compact_canonical_eq_iff (Value.allFit_iff.mp fits v hv) (Value.allFit_iff.mp fits' w hw)
  refine ⟨found, found', read, read', ?_⟩
  simp only [mem, mem']
  exact ⟨values_of_same same, values_of_same fun v hv w hw => (same v hv w hw).symm⟩

/-- A text of a list with white space, with an escape and with an item that is repeated. -/
def looseText : String := "[ \x7b\"b\": 1, \"a\": \"\\u0041\"\x7d, 7 , 7]\n"

/-- The items of this text. -/
def looseItems : List Value :=
  [.object [("b", .whole 1), ("a", .text "A")], .whole 7, .whole 7]

/-- A text of a list without white space, in which a key is repeated. -/
def tightText : String := "[7,\x7b\"a\":null,\"b\":1,\"a\":\"A\"\x7d]"

/-- The items of this text. -/
def tightItems : List Value :=
  [.whole 7, .object [("a", .null), ("b", .whole 1), ("a", .text "A")]]

/-- A number with one digit. -/
theorem spells_digit {n : Int} {c : Char} (h : (Text.showInteger n).toList = [c]) :
    (Value.whole n).Spells [c] := h ▸ .whole n

theorem spells_loose : (Value.list looseItems).Spells looseText.toList := by
  have one : (Value.whole 1).Spells ['1'] := spells_digit (by decide +kernel)
  have seven : (Value.whole 7).Spells ['7'] := spells_digit (by decide +kernel)
  have escape : Escapes "A".toList ['\\', 'u', '0', '0', '4', '1'] :=
    .code (n := 65) (by decide) (by decide) .nothing
  have members := Value.SpellsMembers.more (Value.spells_quoted "b") (one.before (c := ' ') rfl)
    (.last ((Value.spells_quoted "a").before (c := ' ') rfl)
      ((Value.Spells.text escape).before (c := ' ') rfl))
  have items := Value.SpellsItems.more ((Value.Spells.object members).before (c := ' ') rfl)
    (.more ((seven.before (c := ' ') rfl).after (c := ' ') rfl)
      (.last (seven.before (c := ' ') rfl)))
  exact (Value.Spells.list items).after (c := '\n') rfl

theorem spells_tight : (Value.list tightItems).Spells tightText.toList := by
  have one : (Value.whole 1).Spells ['1'] := spells_digit (by decide +kernel)
  have seven : (Value.whole 7).Spells ['7'] := spells_digit (by decide +kernel)
  have members := Value.SpellsMembers.more (Value.spells_quoted "a") .null
    (.more (Value.spells_quoted "b") one
      (.last (Value.spells_quoted "a") (Value.spells_quoted "A")))
  exact Value.Spells.list (.more seven (.last (.object members)))

/-- Two files with these texts. -/
def twoLists : FileTree :=
  ⟨[(["loose"], .file looseText.toUTF8), (["tight"], .file tightText.toUTF8)], none⟩

/-- What is found in the two files is the same, since their items mean the same. -/
theorem values_alike_spelled :
    (Value.list looseItems).Spells looseText.toList ∧
      (Value.list tightItems).Spells tightText.toList ∧
      ∃ found found', jsonValues.read twoLists "loose" = .ok found ∧
        jsonValues.read twoLists "tight" = .ok found' ∧ ∀ x, x ∈ found ↔ x ∈ found' := by
  have fits : (Value.list looseItems).Fits := by
    simp [looseItems, Value.Fits, Value.AllFit, Value.MembersFit, Text.minWord, maxUnsigned]
  have fits' : (Value.list tightItems).Fits := by
    simp [tightItems, Value.Fits, Value.AllFit, Value.MembersFit, Text.minWord, maxUnsigned]
  have holds : textAt twoLists "loose" = .ok (some looseText) := textAt_of_read (by rfl)
  have holds' : textAt twoLists "tight" = .ok (some tightText) := textAt_of_read (by rfl)
  obtain ⟨found, found', read, read', alike⟩ := values_alike holds holds' spells_loose
    spells_tight fits fits' (by decide) (by decide)
  have same : (Value.object [("b", .whole 1), ("a", .text "A")]).meaning =
      (Value.object [("a", .null), ("b", .whole 1), ("a", .text "A")]).meaning :=
    (Value.canonical_eq_iff _ _).mp rfl
  refine ⟨spells_loose, spells_tight, found, found', read, read', alike.mpr fun m => ?_⟩
  simp [looseItems, tightItems, same, or_comm]

end Reader
end OrderTrials
