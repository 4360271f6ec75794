/-
# Tables keyed by text

A table holds at most one value per key and lists its entries in ascending order of the keys, by
code point. The order is part of the type, so two tables with the same look-ups are the same
table (`Table.ext_get?`).

Key definitions: `Table`, `Table.get?`, `Table.insert`, `Table.ofList`.
Key theorems: `Table.get?_insert_self`, `Table.get?_insert_of_ne`, `Table.nodup_keys`,
`Table.ext_get?`.
-/

namespace OrderTrials

universe u v

/-- Entries with strictly ascending keys. -/
structure Table (α : Type u) where
  entries : List (String × α)
  ascending : entries.Pairwise fun a b => a.1 < b.1

namespace Table

variable {α : Type u} {β : Type v}

instance [DecidableEq α] : DecidableEq (Table α) := fun s t =>
  if h : s.entries = t.entries then isTrue (by cases s; cases t; simp_all)
  else isFalse fun e => h (e ▸ rfl)

/-- The table without entries. -/
def empty : Table α := ⟨[], List.Pairwise.nil⟩

instance : Inhabited (Table α) := ⟨empty⟩

/-- The value at a key. -/
def get? (t : Table α) (k : String) : Option α :=
  (t.entries.find? (·.1 == k)).map (·.2)

/-- Whether a key has a value. -/
def contains (t : Table α) (k : String) : Bool :=
  (t.get? k).isSome

/-- The keys in ascending order. -/
def keys (t : Table α) : List String := t.entries.map (·.1)

/-- The values in the order of their keys. -/
def values (t : Table α) : List α := t.entries.map (·.2)

/-- The number of entries. -/
def size (t : Table α) : Nat := t.entries.length

/-- Puts a value at its place in a list with ascending keys, over the one that has its key. -/
def insertEntry (k : String) (v : α) : List (String × α) → List (String × α)
  | [] => [(k, v)]
  | e :: r =>
    if k < e.1 then (k, v) :: e :: r
    else if k = e.1 then (k, v) :: r
    else e :: insertEntry k v r

theorem mem_insertEntry {k : String} {v : α} {e : String × α} :
    ∀ {l : List (String × α)}, e ∈ insertEntry k v l → e = (k, v) ∨ e ∈ l
  | [], h => by simpa [insertEntry] using h
  | d :: r, h => by
    simp only [insertEntry] at h
    split at h
    · simpa using h
    · split at h
      · rcases List.mem_cons.1 h with h | h
        · exact .inl h
        · exact .inr (List.mem_cons_of_mem _ h)
      · rcases List.mem_cons.1 h with h | h
        · exact .inr (h ▸ List.mem_cons_self)
        · rcases mem_insertEntry h with h | h
          · exact .inl h
          · exact .inr (List.mem_cons_of_mem _ h)

theorem ascending_insertEntry (k : String) (v : α) :
    ∀ {l : List (String × α)}, l.Pairwise (fun a b => a.1 < b.1) →
      (insertEntry k v l).Pairwise fun a b => a.1 < b.1
  | [], _ => by simp [insertEntry]
  | d :: r, h => by
    obtain ⟨hd, hr⟩ := List.pairwise_cons.1 h
    simp only [insertEntry]
    split
    · rename_i hk
      refine List.pairwise_cons.2 ⟨fun e he => ?_, h⟩
      rcases List.mem_cons.1 he with he | he
      · exact he ▸ hk
      · exact String.lt_trans hk (hd e he)
    · split
      · rename_i hk
        exact List.pairwise_cons.2 ⟨fun e he => hk ▸ hd e he, hr⟩
      · rename_i hlt hne
        refine List.pairwise_cons.2 ⟨fun e he => ?_, ascending_insertEntry k v hr⟩
        rcases mem_insertEntry he with he | he
        · exact he ▸ Std.lt_of_le_of_ne (String.not_lt.1 hlt) (Ne.symm hne)
        · exact hd e he

/-- The table with `v` at `k`. -/
def insert (t : Table α) (k : String) (v : α) : Table α :=
  ⟨insertEntry k v t.entries, ascending_insertEntry k v t.ascending⟩

/-- The table of a list of entries; the last of those with one key counts. -/
def ofList (l : List (String × α)) : Table α :=
  l.foldl (fun t e => t.insert e.1 e.2) empty

/-- The table with `f` applied to each value. -/
def map (f : α → β) (t : Table α) : Table β :=
  ⟨t.entries.map fun e => (e.1, f e.2), by
    rw [List.pairwise_map]
    exact t.ascending⟩

theorem find?_insertEntry_self (k : String) (v : α) :
    ∀ l : List (String × α), (insertEntry k v l).find? (·.1 == k) = some (k, v)
  | [] => by simp [insertEntry]
  | d :: r => by
    simp only [insertEntry]
    split
    · simp
    · split
      · simp
      · rename_i hne
        have : (d.1 == k) = false := by simpa using Ne.symm hne
        simp [this, find?_insertEntry_self k v r]

theorem find?_insertEntry_of_ne {k k' : String} (v : α) (h : k' ≠ k) :
    ∀ l : List (String × α), (insertEntry k v l).find? (·.1 == k') = l.find? (·.1 == k')
  | [] => by simp [insertEntry, Ne.symm h]
  | d :: r => by
    simp only [insertEntry]
    split
    · simp [Ne.symm h]
    · split
      · rename_i he
        simp [Ne.symm h, ← he]
      · simp only [List.find?_cons]
        split
        · rfl
        · exact find?_insertEntry_of_ne v h r

@[simp]
theorem get?_insert_self (t : Table α) (k : String) (v : α) : (t.insert k v).get? k = some v := by
  simp [get?, insert, find?_insertEntry_self]

theorem get?_insert_of_ne (t : Table α) {k k' : String} (v : α) (h : k' ≠ k) :
    (t.insert k v).get? k' = t.get? k' := by
  simp [get?, insert, find?_insertEntry_of_ne v h]

theorem get?_eq_some_iff (t : Table α) {k : String} {v : α} :
    t.get? k = some v ↔ (k, v) ∈ t.entries := by
  obtain ⟨l, hl⟩ := t
  simp only [get?]
  induction l with
  | nil => simp
  | cons e r ih =>
    obtain ⟨he, hr⟩ := List.pairwise_cons.1 hl
    by_cases h : e.1 = k
    · subst h
      have : (e.1, v) ∉ r := fun hm => String.lt_irrefl e.1 (he (e.1, v) hm)
      simp only [List.find?_cons, beq_self_eq_true, Option.map_some, Option.some.injEq,
        List.mem_cons, this, or_false]
      constructor
      · rintro rfl
        rfl
      · intro e'
        exact (congrArg Prod.snd e').symm
    · have hb : (e.1 == k) = false := by simpa using h
      have hne : (k, v) ≠ e := fun e' => h (congrArg Prod.fst e').symm
      simp only [List.find?_cons, hb, List.mem_cons, hne, false_or]
      exact ih hr

theorem mem_keys_iff (t : Table α) (k : String) : k ∈ t.keys ↔ (t.get? k).isSome = true := by
  simp only [keys, List.mem_map, Option.isSome_iff_exists, get?_eq_some_iff]
  constructor
  · rintro ⟨e, he, rfl⟩
    exact ⟨e.2, he⟩
  · rintro ⟨v, hv⟩
    exact ⟨(k, v), hv, rfl⟩

theorem get?_map (f : α → β) (t : Table α) (k : String) : (t.map f).get? k = (t.get? k).map f := by
  simp [get?, map, List.find?_map, Function.comp_def]

/-- No key occurs twice. -/
theorem nodup_keys (t : Table α) : t.keys.Nodup := by
  rw [keys, List.Nodup, List.pairwise_map]
  refine t.ascending.imp ?_
  intro e e' less equal
  rw [equal] at less
  exact String.lt_irrefl _ less

/-- Two tables that answer every look-up alike are equal. -/
theorem ext_get? {s t : Table α} (h : ∀ k, s.get? k = t.get? k) : s = t := by
  have hm : ∀ e, e ∈ s.entries ↔ e ∈ t.entries := fun e => by
    rw [show e = (e.1, e.2) from rfl, ← get?_eq_some_iff, ← get?_eq_some_iff, h]
  obtain ⟨l, hl⟩ := s
  obtain ⟨m, hm'⟩ := t
  congr
  clear h
  simp only at hm
  induction l generalizing m with
  | nil =>
    cases m with
    | nil => rfl
    | cons e r => exact absurd ((hm e).2 List.mem_cons_self) (by simp)
  | cons a l ih =>
    cases m with
    | nil => exact absurd ((hm a).1 List.mem_cons_self) (by simp)
    | cons b m =>
      obtain ⟨ha, hl⟩ := List.pairwise_cons.1 hl
      obtain ⟨hb, ht⟩ := List.pairwise_cons.1 hm'
      have hab : a = b := by
        rcases List.mem_cons.1 ((hm a).1 List.mem_cons_self) with e | h1
        · exact e
        · rcases List.mem_cons.1 ((hm b).2 List.mem_cons_self) with e | h2
          · exact e.symm
          · exact absurd (ha b h2) (String.lt_asymm (hb a h1))
      subst hab
      rw [ih hl m ht fun e => ?_]
      constructor
      · intro he
        rcases List.mem_cons.1 ((hm e).1 (List.mem_cons_of_mem _ he)) with h | h
        · exact absurd (h ▸ ha e he) (String.lt_irrefl _)
        · exact h
      · intro he
        rcases List.mem_cons.1 ((hm e).2 (List.mem_cons_of_mem _ he)) with h | h
        · exact absurd (h ▸ hb e he) (String.lt_irrefl _)
        · exact h

end Table
end OrderTrials
