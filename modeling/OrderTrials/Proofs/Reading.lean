import Mathlib.Data.List.Forall2
import OrderTrials.Json.Shape
import OrderTrials.Proofs.Numerals
/-
# Reading documents

A reader of documents looks for a number, a string, a record or a list. What it looks for is
described here without it. A record, for example, is an object in which members of other names may
stand between those of the record, or the list of the values in their order, at whose end fields
with a default may be missing (`Json.Document.IsRecord`). Each reader finds what is described and
nothing else, whatever the document is, so what is made of a document can be told without its
readers.

Key definitions: `Json.Numeral.Writes`, `Json.Document.IsRecord`, `Json.Document.AreItems`,
`Json.Document.IsMaybe`.
Key theorems: `Json.Numeral.whole?_eq_some_iff`, `Json.Document.fields?_eq_some_iff`,
`Json.Document.orElse?_list?_eq_some_iff`, `Json.Document.maybe?_eq_some_iff`.
-/

namespace OrderTrials

/-! ### Lists read item by item -/

theorem mapM_eq_some_iff {α β : Type} {f : α → Option β} {xs : List α} {ys : List β} :
    xs.mapM f = some ys ↔ List.Forall₂ (fun x y => f x = some y) xs ys := by
  induction xs generalizing ys with
  | nil =>
    rw [List.forall₂_nil_left_iff]
    exact ⟨fun h => (Option.some.inj h).symm, fun h => h ▸ rfl⟩
  | cons x xs ih =>
    simp only [List.mapM_cons, Option.bind_eq_bind, Option.bind_eq_some_iff, Option.pure_def,
      Option.some.injEq, List.forall₂_cons_left_iff, ih]
    constructor
    · rintro ⟨y, hy, ys, hys, rfl⟩
      exact ⟨y, ys, hy, hys, rfl⟩
    · rintro ⟨y, ys, hy, hys, rfl⟩
      exact ⟨y, hy, ys, hys, rfl⟩

/-- If each item comes from something that stands in a relation, the list comes from a list of such
things. -/
theorem forall₂_exists_iff {α β γ : Type} {R : γ → α → Prop} {f : γ → β} {xs : List α}
    {ys : List β} : List.Forall₂ (fun x y => ∃ z, R z x ∧ f z = y) xs ys ↔
      ∃ zs, List.Forall₂ R zs xs ∧ zs.map f = ys := by
  constructor
  · intro h
    induction h with
    | nil => exact ⟨[], .nil, rfl⟩
    | cons first _ ih =>
      obtain ⟨z, hz, rfl⟩ := first
      obtain ⟨zs, hzs, rfl⟩ := ih
      exact ⟨z :: zs, .cons hz hzs, rfl⟩
  · rintro ⟨zs, h, rfl⟩
    induction h with
    | nil => exact .nil
    | cons hz _ ih => exact .cons ⟨_, hz, rfl⟩ ih

namespace Json

/-! ### Whole numbers -/

/-- A numeral writes a whole number: its digits have the size of the number as their value, a minus
sign stands in front exactly if the number is negative, and neither a fraction nor an exponent
follows. -/
structure Numeral.Writes (n : Numeral) (v : Int) : Prop where
  digits : ∀ c ∈ n.whole, c.isDigit = true
  size : Nat.ofDigitChars 10 n.whole 0 = v.natAbs
  sign : n.negative = decide (v < 0)
  fraction : n.fraction = []
  exponent : n.exponent = none

/-- **A numeral is read as the whole number that it writes,** if that is a word. -/
theorem Numeral.whole?_eq_some_iff (n : Numeral) (v : Int) :
    n.whole? = some v ↔ n.Writes v ∧ Text.minWord ≤ v ∧ v ≤ maxUnsigned := by
  have digits (k : Nat) := Text.digitsValue_eq_some_iff 0 n.whole k
  constructor
  · intro h
    rw [Numeral.whole?, Option.ite_none_right_eq_some, Bool.and_eq_true, List.isEmpty_iff,
      Option.isNone_iff_eq_none] at h
    obtain ⟨⟨fraction, exponent⟩, h⟩ := h
    obtain ⟨k, hk, h⟩ := Option.bind_eq_some_iff.mp h
    obtain ⟨all, value⟩ := (digits k).mp hk
    cases sign : n.negative with
    | true =>
      rw [sign, if_pos rfl, Option.ite_none_right_eq_some, Bool.and_eq_true, bne_iff_ne,
        Text.isSignedWord, Bool.and_eq_true, decide_eq_true_eq, decide_eq_true_eq] at h
      obtain ⟨⟨nonzero, least, -⟩, h⟩ := h
      obtain rfl := Option.some.inj h
      have below : -(k : Int) < 0 := by omega
      exact ⟨⟨all, by omega, by rw [sign, decide_eq_true below], fraction, exponent⟩, least,
        by omega⟩
    | false =>
      rw [sign, if_neg Bool.false_ne_true, Option.ite_none_right_eq_some] at h
      obtain ⟨most, h⟩ := h
      obtain rfl := Option.some.inj h
      have above : ¬ (k : Int) < 0 := by omega
      have least : Text.minWord ≤ (k : Int) := Int.le_trans (by decide) (Int.natCast_nonneg k)
      exact ⟨⟨all, by omega, by rw [sign, decide_eq_false above], fraction, exponent⟩, least,
        by omega⟩
  · rintro ⟨writes, least, most⟩
    have value := (digits v.natAbs).mpr ⟨writes.digits, writes.size⟩
    rw [Numeral.whole?, writes.fraction, writes.exponent, value, writes.sign]
    by_cases below : v < 0
    · have back : -(v.natAbs : Int) = v := by omega
      have nonzero : (v.natAbs != 0) = true := bne_iff_ne.mpr (by omega)
      have word : Text.isSignedWord v = true := by
        rw [Text.isSignedWord, Bool.and_eq_true, decide_eq_true_eq, decide_eq_true_eq]
        exact ⟨least, Int.le_trans (Int.le_of_lt below) (by decide)⟩
      simp only [List.isEmpty_nil, Option.isNone_none, Bool.and_self, if_true, Option.bind_some,
        decide_eq_true below, back, nonzero, word]
    · have back : (v.natAbs : Int) = v := by omega
      have fits : v.natAbs ≤ maxUnsigned := by omega
      simp only [List.isEmpty_nil, Option.isNone_none, Bool.and_self, if_true, Option.bind_some,
        decide_eq_false below, Bool.false_eq_true, if_false, back, fits]

namespace Document

/-- A document is the numeral of a signed word of 64 bits. -/
def IsWord (v : Int) (d : Document) : Prop :=
  ∃ n : Numeral, d = .leaf (.number n) ∧ n.Writes v ∧ Text.minWord ≤ v ∧ v ≤ Text.maxWord

/-- A document is a string. -/
def IsText (s : String) (d : Document) : Prop := d = .leaf (.text (some s))

/-- A document is one of several names: a string, or an object with the name as its only key, which
has the value null. -/
def IsName (s : String) (d : Document) : Prop :=
  d.IsText s ∨ d = .object [(some s, .leaf .null)]

theorem signed?_eq_some_iff (d : Document) (v : Int) : d.signed? = some v ↔ d.IsWord v := by
  have word : Text.isSignedWord v = true ↔ Text.minWord ≤ v ∧ v ≤ Text.maxWord := by
    rw [Text.isSignedWord, Bool.and_eq_true, decide_eq_true_eq, decide_eq_true_eq]
  rw [signed?, Option.filter_eq_some_iff, word]
  constructor
  · rintro ⟨h, fits⟩
    unfold whole? at h
    split at h
    · exact ⟨_, rfl, ((Numeral.whole?_eq_some_iff _ v).mp h).1, fits⟩
    · cases h
  · rintro ⟨n, rfl, writes, fits⟩
    have most : v ≤ maxUnsigned := Int.le_trans fits.2 (by decide)
    exact ⟨(n.whole?_eq_some_iff v).mpr ⟨writes, fits.1, most⟩, fits⟩

theorem text?_eq_some_iff (d : Document) (s : String) : d.text? = some s ↔ d.IsText s := by
  unfold text? IsText
  split
  · simp
  · rename_i other
    refine ⟨nofun, fun h => absurd h (other _)⟩

theorem name?_eq_some_iff (d : Document) (s : String) : d.name? = some s ↔ d.IsName s := by
  unfold name? IsName IsText
  split
  · simp
  · simp
  · rename_i other other'
    exact ⟨nofun, fun h => h.elim (fun h => absurd h (other _)) fun h => absurd h (other' _)⟩

/-! ### Records -/

/-- What the members of an object say about a field: the only member of its name, or nothing, if
there is none and the field may be missing. -/
inductive Says (members : List (String × Document)) (f : Field) : Option Document → Prop where
  | given {before after : List (String × Document)} {d : Document} :
      members = before ++ (f.name, d) :: after → (∀ m ∈ before ++ after, m.1 ≠ f.name) →
      Says members f (some d)
  | missing : f.presence ≠ .required → (∀ m ∈ members, m.1 ≠ f.name) → Says members f none

/-- A document is a record that has certain values in its fields: an object that says so, with
members of any other names, or the list of the values, from whose end fields with a default may be
missing. -/
inductive IsRecord (fs : List Field) : Document → List (Option Document) → Prop where
  | object {members : List (String × Document)} {values : List (Option Document)} :
      List.Forall₂ (Says members) fs values →
      IsRecord fs (.object (members.map fun m => (some m.1, m.2))) values
  | list (front rest : List Field) (items : List Document) :
      fs = front ++ rest → front.length = items.length →
      (∀ f ∈ rest, f.presence = .defaulted) →
      IsRecord fs (.list items) (items.map some ++ rest.map fun _ => none)

theorem memberOf?_eq_some_iff (members : List (String × Document)) (f : Field)
    (value : Option Document) : memberOf? members f = some value ↔ Says members f value := by
  unfold memberOf?
  constructor
  · intro h
    split at h
    · rename_i none
      have absent : ∀ m ∈ members, m.1 ≠ f.name := fun m hm same =>
        List.filter_eq_nil_iff.mp none m hm (beq_iff_eq.mpr same)
      split at h
      · cases h
      · rename_i presence
        obtain rfl := Option.some.inj h
        exact .missing presence absent
    · -- one member alone has the name, so those before it and after it have others
      rename_i m only
      obtain rfl := Option.some.inj h
      obtain ⟨before, after, rfl, first, named, later⟩ := List.filter_eq_cons_iff.mp only
      obtain ⟨name, d⟩ := m
      obtain rfl : name = f.name := eq_of_beq named
      refine .given rfl fun m hm same => ?_
      rcases List.mem_append.mp hm with hm | hm
      · exact first m hm (beq_iff_eq.mpr same)
      · exact List.filter_eq_nil_iff.mp later m hm (beq_iff_eq.mpr same)
    · cases h
  · intro stated
    cases stated with
    | missing presence absent =>
      have none : members.filter (·.1 == f.name) = [] :=
        List.filter_eq_nil_iff.mpr fun m hm same => absent m hm (eq_of_beq same)
      rw [none]
      exact if_neg presence
    | @given before after d split others =>
      have none {part : List (String × Document)} (h : part ⊆ before ++ after) :
          part.filter (·.1 == f.name) = [] :=
        List.filter_eq_nil_iff.mpr fun m hm same => others m (h hm) (eq_of_beq same)
      have only : members.filter (·.1 == f.name) = [(f.name, d)] := by
        rw [split, List.filter_append, List.filter_cons, if_pos (beq_self_eq_true f.name),
          none (List.subset_append_left _ _), none (List.subset_append_right _ _), List.nil_append]
      rw [only]

theorem isRecord_nil_iff (items : List Document) (values : List (Option Document)) :
    IsRecord [] (.list items) values ↔ items = [] ∧ values = [] := by
  constructor
  · rintro (_ | ⟨front, rest, _, split, many, -⟩)
    obtain ⟨rfl, rfl⟩ := List.append_eq_nil_iff.mp split.symm
    obtain rfl := List.length_eq_zero_iff.mp many.symm
    exact ⟨rfl, rfl⟩
  · rintro ⟨rfl, rfl⟩
    exact .list [] [] [] rfl rfl nofun

/-- At the end of a list only fields with a default are missing. -/
theorem isRecord_cons_nil_iff (f : Field) (fs : List Field) (values : List (Option Document)) :
    IsRecord (f :: fs) (.list []) values ↔
      f.presence = .defaulted ∧ ∃ later, IsRecord fs (.list []) later ∧ none :: later = values := by
  constructor
  · rintro (_ | ⟨front, rest, _, split, many, defaulted⟩)
    obtain rfl := List.length_eq_zero_iff.mp many
    obtain rfl := split
    obtain ⟨first, defaulted⟩ := List.forall_mem_cons.mp defaulted
    exact ⟨first, _, .list [] fs [] rfl rfl defaulted, rfl⟩
  · rintro ⟨first, _, _ | ⟨front, rest, _, rfl, many, defaulted⟩, rfl⟩
    obtain rfl := List.length_eq_zero_iff.mp many
    exact .list [] _ [] rfl rfl (List.forall_mem_cons.mpr ⟨first, defaulted⟩)

/-- The first item of a list is the value of the first field. -/
theorem isRecord_cons_cons_iff (f : Field) (fs : List Field) (d : Document) (ds : List Document)
    (values : List (Option Document)) : IsRecord (f :: fs) (.list (d :: ds)) values ↔
      ∃ later, IsRecord fs (.list ds) later ∧ some d :: later = values := by
  constructor
  · rintro (_ | ⟨front, rest, _, split, many, defaulted⟩)
    obtain ⟨g, front, rfl⟩ := List.exists_cons_of_length_eq_add_one many
    obtain ⟨rfl, rfl⟩ := List.cons.inj split
    exact ⟨_, .list front rest ds rfl (Nat.succ.inj many) defaulted, rfl⟩
  · rintro ⟨_, _ | ⟨front, rest, _, rfl, many, defaulted⟩, rfl⟩
    exact .list (f :: front) rest (d :: ds) rfl (congrArg (· + 1) many) defaulted

theorem fieldsOfItems?_eq_some_iff (fs : List Field) (items : List Document)
    (values : List (Option Document)) :
    fieldsOfItems? fs items = some values ↔ IsRecord fs (.list items) values := by
  induction fs generalizing items values with
  | nil =>
    rw [isRecord_nil_iff]
    cases items with
    | nil => simp [fieldsOfItems?, eq_comm]
    | cons d ds => simp [fieldsOfItems?]
  | cons f fs ih =>
    cases items with
    | nil =>
      rw [fieldsOfItems?, Option.ite_none_right_eq_some, Option.map_eq_some_iff,
        isRecord_cons_nil_iff]
      simp only [ih]
    | cons d ds =>
      rw [fieldsOfItems?, Option.map_eq_some_iff, isRecord_cons_cons_iff]
      simp only [ih]

/-- The members of an object whose keys all have contents. -/
theorem mapM_keys_eq_some_iff (members : List (Option String × Document))
    (named : List (String × Document)) :
    (members.mapM fun m => m.1.map (·, m.2)) = some named ↔
      members = named.map fun m => (some m.1, m.2) := by
  rw [mapM_eq_some_iff]
  constructor
  · intro h
    induction h with
    | nil => rfl
    | @cons m n members named first _ ih =>
      obtain ⟨k, hk, rfl⟩ := Option.map_eq_some_iff.mp first
      obtain ⟨key, d⟩ := m
      obtain rfl : key = some k := hk
      rw [List.map_cons, ih]
  · rintro rfl
    rw [List.forall₂_map_left_iff, List.forall₂_same]
    exact fun _ _ => rfl

/-- **A record is read as it is written.** -/
theorem fields?_eq_some_iff (fs : List Field) (d : Document) (values : List (Option Document)) :
    d.fields? fs = some values ↔ d.IsRecord fs values := by
  cases d with
  | leaf s =>
    refine ⟨nofun, ?_⟩
    generalize read : leaf s = d
    intro record
    cases record <;> cases read
  | list items => exact fieldsOfItems?_eq_some_iff fs items values
  | object members =>
    simp only [fields?, Option.bind_eq_bind, Option.bind_eq_some_iff, mapM_keys_eq_some_iff]
    constructor
    · rintro ⟨named, rfl, h⟩
      exact .object ((mapM_eq_some_iff.mp h).imp fun f v => (memberOf?_eq_some_iff named f v).mp)
    · rintro (@⟨named, _, all⟩ | _)
      exact ⟨named, rfl,
        mapM_eq_some_iff.mpr (all.imp fun f v => (memberOf?_eq_some_iff named f v).mpr)⟩

/-! ### Lists, and what may be missing -/

/-- A document is the list of what stands in a relation to some things, or it is missing, and there
are none. -/
inductive AreItems {α : Type} (stated : α → Document → Prop) : List α → Option Document → Prop where
  | missing : AreItems stated [] none
  | list {xs : List α} {items : List Document} : List.Forall₂ stated xs items →
      AreItems stated xs (some (.list items))

/-- A document stands in a relation to something, or it is null or missing, and there is nothing. -/
inductive IsMaybe {α : Type} (stated : α → Document → Prop) :
    Option α → Option Document → Prop where
  | missing : IsMaybe stated none none
  | null : IsMaybe stated none (some (.leaf .null))
  | given {a : α} {d : Document} : stated a d → IsMaybe stated (some a) (some d)

section

variable {α β : Type} {read : Document → Option β} {stated : α → Document → Prop} {f : α → β}

theorem list?_eq_some_iff (h : ∀ d b, read d = some b ↔ ∃ a, stated a d ∧ f a = b) (d : Document)
    (bs : List β) : d.list? read = some bs ↔
      ∃ as items, d = .list items ∧ List.Forall₂ stated as items ∧ as.map f = bs := by
  unfold list?
  split
  · rename_i items
    simp only [mapM_eq_some_iff, h, forall₂_exists_iff]
    constructor
    · rintro ⟨as, all, rfl⟩
      exact ⟨as, items, rfl, all, rfl⟩
    · rintro ⟨as, _, ⟨⟩, all, rfl⟩
      exact ⟨as, all, rfl⟩
  · rename_i other
    exact ⟨nofun, fun ⟨_, items, h, _⟩ => absurd h (other items)⟩

/-- **A list that may be missing is read item by item.** -/
theorem orElse?_list?_eq_some_iff (h : ∀ d b, read d = some b ↔ ∃ a, stated a d ∧ f a = b)
    (value : Option Document) (bs : List β) : orElse? [] (list? read) value = some bs ↔
      ∃ as, AreItems stated as value ∧ as.map f = bs := by
  cases value with
  | none =>
    constructor
    · rintro ⟨⟩
      exact ⟨[], .missing, rfl⟩
    · rintro ⟨_, ⟨⟩, rfl⟩
      rfl
  | some d =>
    rw [orElse?, list?_eq_some_iff h]
    constructor
    · rintro ⟨as, items, rfl, all, rfl⟩
      exact ⟨as, .list all, rfl⟩
    · rintro ⟨as, _ | all, rfl⟩
      exact ⟨as, _, rfl, all, rfl⟩

/-- **What may be null or missing is read if it is there.** -/
theorem maybe?_eq_some_iff (h : ∀ d b, read d = some b ↔ ∃ a, stated a d ∧ f a = b)
    (null : ∀ a, ¬ stated a (.leaf .null)) (value : Option Document) (b : Option β) :
    maybe? read value = some b ↔ ∃ a, IsMaybe stated a value ∧ a.map f = b := by
  cases value with
  | none =>
    constructor
    · rintro ⟨⟩
      exact ⟨none, .missing, rfl⟩
    · rintro ⟨_, ⟨⟩, rfl⟩
      rfl
  | some d =>
    rw [maybe?]
    unfold nullable?
    split
    · constructor
      · rintro ⟨⟩
        exact ⟨none, .null, rfl⟩
      · rintro ⟨_, _ | _ | stated, rfl⟩
        · rfl
        · exact absurd stated (null _)
    · rename_i other
      rw [Option.map_eq_some_iff]
      constructor
      · rintro ⟨b, hb, rfl⟩
        obtain ⟨a, ha, rfl⟩ := (h d b).mp hb
        exact ⟨some a, .given ha, rfl⟩
      · rintro ⟨_, _ | _ | stated, rfl⟩
        · exact absurd rfl other
        · exact ⟨_, (h d _).mpr ⟨_, stated, rfl⟩, rfl⟩

end

section

variable {α : Type} {read : Document → Option α} {stated : α → Document → Prop}

theorem exists_id_iff (h : ∀ d a, read d = some a ↔ stated a d) (d : Document) (a : α) :
    read d = some a ↔ ∃ b, stated b d ∧ id b = a := by
  rw [h]
  exact ⟨fun stated => ⟨a, stated, rfl⟩, fun ⟨b, stated, same⟩ => same ▸ stated⟩

theorem orElse?_list?_eq_some_iff_of_exact (h : ∀ d a, read d = some a ↔ stated a d)
    (value : Option Document) (as : List α) :
    orElse? [] (list? read) value = some as ↔ AreItems stated as value := by
  rw [orElse?_list?_eq_some_iff (exists_id_iff h)]
  simp only [List.map_id, exists_eq_right]

theorem maybe?_eq_some_iff_of_exact (h : ∀ d a, read d = some a ↔ stated a d)
    (null : ∀ a, ¬ stated a (.leaf .null)) (value : Option Document) (a : Option α) :
    maybe? read value = some a ↔ IsMaybe stated a value := by
  rw [maybe?_eq_some_iff (exists_id_iff h) null]
  simp only [Option.map_id, id_eq, exists_eq_right]

end

theorem not_isWord_null (v : Int) : ¬ IsWord v (.leaf .null) := by
  rintro ⟨n, ⟨⟩, -⟩

end Document
end Json

end OrderTrials
