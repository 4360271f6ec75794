import OrderTrials.Configuration
import OrderTrials.Proofs.Loading
/-
# Total configurations

A configuration is total on a space if it gives a level to each option of the space and to nothing
else. Every configuration that a space is asked for is: one that is completed from levels of its
options, in particular the default one, one that is read from a text, and any of these with
another level of one of its options.

Key definitions: `Space.Total`, `Space.WellNamed`.
Key theorems: `Space.total_iff_keys`, `Configuration.total_complete`, `Configuration.parse_ok`,
`Configuration.total_parse`, `Configuration.total_mutated`.
-/

namespace OrderTrials

namespace Space

variable {s : Space} {a : Assignment}

/-- An assignment gives a level to each option of a space, and to nothing else. -/
def Total (s : Space) (a : Assignment) : Prop :=
  ∀ option, (a.get? option).isSome = (s.dimension? option).isSome

/-- An assignment gives levels to options of a space alone. -/
def Within (s : Space) (a : Assignment) : Prop :=
  ∀ option, (a.get? option).isSome = true → (s.dimension? option).isSome = true

/-- Each dimension stands under its own name. -/
def WellNamed (s : Space) : Prop := ∀ k d, s.dimension? k = some d → d.name = k

theorem wellNamed_of_text {text : String} (accepted : ofText text = .ok s) : s.WellNamed := by
  intro k d h
  obtain ⟨-, -, -, -, -, -, hname, -⟩ := s.exists_entry accepted h
  exact hname

theorem mem_values_iff (s : Space) (d : Dimension) :
    d ∈ s.dimensions.values ↔ ∃ k, s.dimension? k = some d := by
  simp only [Table.values, List.mem_map, dimension?, Table.get?_eq_some_iff]
  constructor
  · rintro ⟨e, he, rfl⟩
    exact ⟨e.1, he⟩
  · rintro ⟨k, hk⟩
    exact ⟨(k, d), hk, rfl⟩

theorem within_empty (s : Space) : s.Within .empty := by
  intro option h
  simp [Table.empty, Table.get?] at h

theorem isSome_get?_insert (a : Assignment) (k : String) (l : Level) (k' : String) :
    ((a.insert k l).get? k').isSome = true ↔ k' = k ∨ (a.get? k').isSome = true := by
  by_cases h : k' = k
  · subst h
    simp
  · simp [Table.get?_insert_of_ne, h]

/-- A total assignment lists the options as the space does. -/
theorem total_iff_keys (s : Space) (a : Assignment) : s.Total a ↔ a.keys = s.dimensions.keys := by
  constructor
  · intro total
    have same : a.map (fun _ => ()) = s.dimensions.map fun _ => () := by
      refine Table.ext_get? fun k => ?_
      have h := total k
      rw [dimension?] at h
      rw [Table.get?_map, Table.get?_map]
      cases ha : a.get? k <;> cases hs : s.dimensions.get? k <;> simp_all
    have keys := congrArg Table.keys same
    simpa [Table.keys, Table.map, Function.comp_def] using keys
  · intro keys option
    rw [Bool.eq_iff_iff, dimension?, ← Table.mem_keys_iff, ← Table.mem_keys_iff, keys]

/-- On a space of one option, a level of it is a total assignment. -/
theorem total_single (name k : String) (d : Dimension) (l : Level) :
    Total ⟨name, Table.empty.insert k d⟩ (Table.empty.insert k l) := by
  intro option
  by_cases h : option = k
  · subst h
    simp [dimension?]
  · simp only [dimension?, Table.get?_insert_of_ne _ _ h]
    rfl

end Space

namespace Configuration

variable {s : Space} {a given : Assignment} {c : Configuration}

/-- Going through dimensions adds their names to those that have a level. -/
theorem isSome_of_foldlM {ds : List Dimension} {full : Assignment}
    (h : ds.foldlM (fun (a : Assignment) d => do
      if a.contains d.name then return a
      else return a.insert d.name (← d.defaultLevel)) a = .ok full) (k : String) :
    (full.get? k).isSome = true ↔ (a.get? k).isSome = true ∨ ∃ d ∈ ds, d.name = k := by
  induction ds generalizing a with
  | nil =>
    obtain rfl := Except.ok.inj h
    simp
  | cons d ds ih =>
    rw [List.foldlM_cons] at h
    obtain ⟨next, hnext, h⟩ := (bind_eq_ok_iff _ _ _).mp h
    have step : (next.get? k).isSome = true ↔ d.name = k ∨ (a.get? k).isSome = true := by
      split at hnext
      · rename_i hc
        obtain rfl := Except.ok.inj hnext
        constructor
        · exact .inr
        · rintro (rfl | h)
          · exact hc
          · exact h
      · obtain ⟨l, -, hnext⟩ := (bind_eq_ok_iff _ _ _).mp hnext
        obtain rfl := Except.ok.inj hnext
        rw [Space.isSome_get?_insert, eq_comm]
    rw [ih h, step]
    simp only [List.mem_cons, exists_eq_or_imp]
    grind

/-- **A completed configuration is total** if it is made from levels of options of the space. -/
theorem total_complete (named : s.WellNamed) (within : s.Within given)
    (h : complete s given = .ok c) : s.Total c.assignment := by
  unfold complete at h
  obtain ⟨full, hfull, h⟩ := (bind_eq_ok_iff _ _ _).mp h
  obtain rfl := Except.ok.inj h
  intro k
  rw [Bool.eq_iff_iff, isSome_of_foldlM hfull]
  constructor
  · rintro (hk | ⟨d, hd, rfl⟩)
    · exact within k hk
    · obtain ⟨k', hk'⟩ := (s.mem_values_iff d).mp hd
      rw [named k' d hk', hk']
      rfl
  · intro hk
    obtain ⟨d, hd⟩ := Option.isSome_iff_exists.mp hk
    exact .inr ⟨d, (s.mem_values_iff d).mpr ⟨k, hd⟩, named k d hd⟩

/-- A value that is entered names a level of an option of the space. -/
theorem assign_ok {name value : String} {a' : Assignment} (h : assign s a name value = .ok a') :
    ∃ d l, s.dimension? name = some d ∧ levelOf d name value = .ok l ∧
      a' = a.insert d.name l := by
  unfold assign at h
  cases hd : s.dimension? name with
  | none =>
    rw [hd] at h
    exact absurd h (by simp [throw, throwThe, MonadExceptOf.throw])
  | some d =>
    rw [hd] at h
    obtain ⟨l, hl, h⟩ := (bind_eq_ok_iff _ _ _).mp h
    exact ⟨d, l, rfl, hl, (Except.ok.inj h).symm⟩

/-- What entering a value keeps, reading words keeps. -/
theorem invariant_of_readWords {p : Assignment → Prop}
    (step : ∀ {a a' : Assignment} {name value : String}, p a →
      assign s a name value = .ok a' → p a') (words : List String) {a' : Assignment} (start : p a)
    (h : readWords s a words = .ok a') : p a' := by
  fun_induction readWords s a words with
  | case1 a =>
    obtain rfl := Except.ok.inj h
    exact start
  | case3 a word name hname => exact step start h
  | case6 a word next rest name hname hnext next' hassign ih => exact ih (step start hassign) h
  | case8 a word next rest name hname hnext next' hassign ih => exact ih (step start hassign) h
  | case2 | case4 | case5 | case7 => cases h

/-- A configuration that is read from a text is completed from what its words enter. -/
theorem parse_ok {text : String} (h : parse s text = .ok c) :
    ∃ given, readWords s .empty (Text.words text) = .ok given ∧ complete s given = .ok c := by
  unfold parse at h
  obtain ⟨given, hgiven, h⟩ := (bind_eq_ok_iff _ _ _).mp h
  split at h
  · rename_i c' hc
    obtain rfl := Except.ok.inj h
    exact ⟨given, hgiven, hc⟩
  · exact absurd h (by simp [throw, throwThe, MonadExceptOf.throw])

theorem within_assign (named : s.WellNamed) (within : s.Within a) {name value : String}
    {a' : Assignment} (h : assign s a name value = .ok a') : s.Within a' := by
  obtain ⟨d, l, hd, -, rfl⟩ := assign_ok h
  intro k hk
  rcases (Space.isSome_get?_insert _ _ _ _).mp hk with rfl | hk
  · rw [named name d hd, hd]
    rfl
  · exact within k hk

theorem within_readWords (named : s.WellNamed) (words : List String) {a' : Assignment}
    (within : s.Within a) (h : readWords s a words = .ok a') : s.Within a' :=
  invariant_of_readWords (fun within entered => within_assign named within entered) words within h

/-- **A configuration that is read from a text is total.** -/
theorem total_parse (named : s.WellNamed) {text : String} (h : parse s text = .ok c) :
    s.Total c.assignment := by
  obtain ⟨given, hgiven, hc⟩ := parse_ok h
  exact total_complete named (within_readWords named _ s.within_empty hgiven) hc

/-- **The default configuration is total.** -/
theorem total_default (named : s.WellNamed) (h : default s = .ok c) : s.Total c.assignment :=
  total_complete named s.within_empty h

/-- **Another level of an option of the space** keeps a configuration total. -/
theorem total_mutated (total : s.Total c.assignment) {l : Level}
    (own : (s.dimension? l.option).isSome = true) : s.Total (c.mutated l).assignment := by
  intro k
  rw [Bool.eq_iff_iff, mutated, Space.isSome_get?_insert, total k]
  constructor
  · rintro (rfl | hk)
    · exact own
    · exact hk
  · exact .inr

end Configuration
end OrderTrials
