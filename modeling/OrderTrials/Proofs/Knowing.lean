import OrderTrials.Proofs.Loading
import OrderTrials.Proofs.Stating
import OrderTrials.Seed
/-
# Levels that a dimension knows

A comparison refuses levels that a dimension does not know. In a space that is read from a text it
never meets one: the default of a dimension is registered, the sides of its declared orders are
nodes, and an integer that is drawn for a placeholder lies in the range and has a numeral that
reads back as that integer, because both bounds are stated as words of 64 bits.

Key definitions: `Dimension.WellFormed`, `Dimension.Takes`.
Key theorems: `Random.between_mem`, `Dimension.WellFormed.knows_integer`,
`Dimension.WellFormed.knows_default`, `Space.wellFormed_of_text`,
`Dimension.Shows.mem_declaredOrders`, `Dimension.Shows.knows_sides`.
-/

namespace OrderTrials

/-- **An integer that is drawn from a range of words lies in it.** -/
theorem Random.between_mem {σ : Type} [Randomness σ] {least greatest : Int}
    (hl : Text.minWord ≤ least) (h : least ≤ greatest) (hg : greatest ≤ Text.maxWord) (s : σ) :
    least ≤ (between least greatest s).1 ∧ (between least greatest s).1 ≤ greatest := by
  unfold between
  have drawn := below_lt (n := (greatest - least + 1).toNat) (by omega) s
  dsimp only
  split
  · rename_i full
    have low : -((longWords : Int) / 2) ≤ _ := Int.le_bmod
      (x := ((below (greatest - least + 1).toNat s).1 : Int)) (m := longWords) (by decide)
    have high := Int.bmod_lt (x := ((below (greatest - least + 1).toNat s).1 : Int))
      (m := longWords) (by decide)
    -- only the range of all signed words has as many members as there are words
    simp only [longWords, Text.minWord, Text.maxWord] at *
    omega
  · dsimp only
    omega

/-! ### Dimensions of a space that is read from a text -/

namespace Dimension

variable {d d' : Dimension} {l : Level} {v : Int}

/-- Both bounds are known, and the value lies between them. -/
def Takes (d : Dimension) (v : Int) : Prop :=
  ∃ least greatest, d.least = some least ∧ d.greatest = some greatest ∧ least ≤ v ∧ v ≤ greatest

/-- What holds of each dimension of a space that is read from a text: a dimension with bounds is
one of integers, its bounds are words in their order, and its default is registered. -/
structure WellFormed (d : Dimension) : Prop where
  bounds : ∀ least greatest, d.least = some least → d.greatest = some greatest →
    d.isInteger = true ∧ Text.minWord ≤ least ∧ least ≤ greatest ∧ greatest ≤ Text.maxWord
  default : ∀ name, d.default? = some name → name ∈ d.levels

/-- **What is drawn is taken.** -/
theorem WellFormed.drawInteger (h : d.WellFormed) {σ : Type} [Randomness σ] {s s' : σ}
    (drawn : d.drawInteger s = (some v, s')) : d.Takes v := by
  unfold Dimension.drawInteger at drawn
  split at drawn
  · rename_i least greatest hl hg
    have hv : (Random.between least greatest s).1 = v := Option.some.inj (congrArg Prod.fst drawn)
    obtain ⟨-, low, ordered, high⟩ := h.bounds least greatest hl hg
    exact ⟨least, greatest, hl, hg, hv ▸ Random.between_mem low ordered high s⟩
  · exact absurd (Prod.mk.inj drawn).1 (by simp)

/-- An integer of the range is a signed word, and so its numeral reads back. -/
theorem WellFormed.readSigned_showInteger (h : d.WellFormed) (taken : d.Takes v) :
    d.isInteger = true ∧ Text.readSigned (Text.showInteger v) = some v := by
  obtain ⟨least, greatest, hl, hg, lower, upper⟩ := taken
  obtain ⟨integer, low, -, high⟩ := h.bounds least greatest hl hg
  refine ⟨integer, Text.readSigned_showInteger ?_⟩
  simp only [Text.isSignedWord, Bool.and_eq_true, decide_eq_true_eq]
  omega

/-- **An integer of the range is known** by its numeral. -/
theorem WellFormed.knows_integer (h : d.WellFormed) (taken : d.Takes v) :
    d.Knows ⟨d.name, Text.showInteger v⟩ := by
  obtain ⟨integer, read⟩ := h.readSigned_showInteger taken
  refine ⟨rfl, .inr (.inl ?_)⟩
  rw [integerValue?, if_pos integer, Level.value?, read]
  rfl

theorem defaultLevel_eq_ok_iff (d : Dimension) (l : Level) :
    d.defaultLevel = .ok l ↔ l.option = d.name ∧ d.default? = some l.name := by
  unfold defaultLevel
  cases d.default? with
  | none => simp
  | some name =>
    obtain ⟨option, name'⟩ := l
    simp [eq_comm]

theorem WellFormed.default_registered (h : d.WellFormed) (default : d.defaultLevel = .ok l) :
    l.option = d.name ∧ l.name ∈ d.levels := by
  obtain ⟨own, chosen⟩ := (d.defaultLevel_eq_ok_iff l).mp default
  exact ⟨own, h.default l.name chosen⟩

/-- **The default is known.** -/
theorem WellFormed.knows_default (h : d.WellFormed) (default : d.defaultLevel = .ok l) :
    d.Knows l :=
  ⟨(h.default_registered default).1, .inr (.inr (h.default_registered default).2)⟩

theorem mem_register (d : Dimension) (level name : String) :
    name ∈ (d.register level).levels ↔ name ∈ d.levels ∨ name = level := by
  unfold register
  split
  · rename_i hc
    have : level ∈ d.levels := List.contains_iff_mem.mp hc
    constructor
    · exact .inl
    · rintro (h | rfl)
      · exact h
      · exact this
  · simp

theorem WellFormed.register (h : d.WellFormed) (level : String) :
    (d.register level).WellFormed := by
  have mem (name : String) (hn : name ∈ d.levels) : name ∈ (d.register level).levels :=
    (mem_register d level name).mpr (.inl hn)
  unfold Dimension.register at mem ⊢
  split
  · exact h
  · rename_i new
    rw [if_neg new] at mem
    exact ⟨h.bounds, fun name hname => mem name (h.default name hname)⟩

/-- A call keeps a dimension well-formed. -/
theorem WellFormed.run (h : d.WellFormed) {c : Call} (hc : c.run d = .ok d') : d'.WellFormed := by
  cases c with
  | register level =>
    obtain rfl := Except.ok.inj hc
    exact h.register level
  | setDefault raw =>
    obtain ⟨l, -, rfl⟩ := setDefault_ok hc
    refine ⟨(h.register l.name).bounds, fun name hname => (mem_register d l.name name).mpr ?_⟩
    exact .inr (Option.some.inj hname).symm
  | declare r a b =>
    rw [(declare_ok hc).2.2.1]
    exact ⟨h.bounds, h.default⟩

end Dimension

/-- **The dimensions of a space that is read from a text are well-formed.** -/
theorem Space.wellFormed_of_text {text : String} {s : Space} (accepted : Space.ofText text = .ok s)
    {name : String} {d : Dimension} (h : s.dimension? name = some d) : d.WellFormed := by
  obtain ⟨a, hread, e, he, -, hd⟩ := exists_build accepted h
  obtain ⟨raw, stated, rfl⟩ := (Artifact.read?_eq_some_iff text a).mp hread
  obtain ⟨o, ho, rfl⟩ := List.mem_map.mp he
  obtain ⟨least, greatest⟩ := stated.bounds ho
  obtain ⟨blank, hblank, hrun⟩ := OptionEntry.run_calls hd
  refine invariant_of_foldlM (fun _ _ _ _ kept hc => Dimension.WellFormed.run kept hc) ?_ hrun
  unfold OptionEntry.blank at hblank
  split at hblank
  · split at hblank
    · rename_i low high hlow hhigh
      unfold Dimension.integer at hblank
      split at hblank
      · cases hblank
      · rename_i ordered
        obtain rfl := Except.ok.inj hblank
        have wordLow := least low hlow
        have wordHigh := greatest high hhigh
        refine ⟨?_, nofun⟩
        rintro _ _ ⟨⟩ ⟨⟩
        exact ⟨rfl, wordLow.1, Int.not_lt.mp ordered, wordHigh.2⟩
    · cases hblank
  · obtain rfl := Except.ok.inj hblank
    exact ⟨nofun, nofun⟩

/-! ### Declared orders -/

namespace Dimension

variable {d : Dimension} {orders : List Order} {o : Order}

theorem mem_declaredPairs (g : Graph) (p : String × String) :
    p ∈ g.declaredPairs ↔ g.Step true p.1 p.2 := by
  obtain ⟨a, b⟩ := p
  simp only [Graph.declaredPairs, List.mem_mergeSort, List.mem_map, List.mem_filter, Prod.mk.injEq,
    Graph.Step, Bool.not_true, Bool.or_false]
  constructor
  · rintro ⟨e, ⟨he, hd⟩, rfl, rfl⟩
    exact ⟨e, he, rfl, rfl, hd⟩
  · rintro ⟨e, he, rfl, rfl, hd⟩
    exact ⟨e, ⟨he, hd⟩, rfl, rfl⟩

/-- The declared orders are the declared steps, between levels of the dimension. -/
theorem mem_declaredOrders (d : Dimension) (o : Order) :
    o ∈ d.declaredOrders ↔ (d.graph o.relation).Step true o.left.name o.right.name ∧
      o.option = d.name ∧ o.left.option = d.name ∧ o.right.option = d.name := by
  simp only [declaredOrders, List.mem_flatMap, List.mem_map, mem_declaredPairs]
  constructor
  · rintro ⟨r, -, p, hp, rfl⟩
    exact ⟨hp, rfl, rfl, rfl⟩
  · obtain ⟨⟨_, a⟩, r, ⟨_, b⟩, _⟩ := o
    rintro ⟨hs, rfl, rfl, rfl⟩
    exact ⟨r, by cases r <;> simp, (a, b), hs, rfl⟩

/-- **The declared orders** are those that are stated, between levels of the dimension. -/
theorem Shows.mem_declaredOrders (h : d.Shows orders) :
    o ∈ d.declaredOrders ↔ Stated orders o.relation o.left.name o.right.name ∧
      o.option = d.name ∧ o.left.option = d.name ∧ o.right.option = d.name := by
  rw [Dimension.mem_declaredOrders, h, Bool.not_true, steps_declared]

/-- The sides of a declared order are known. -/
theorem Shows.knows_sides (h : d.Shows orders) (ho : o ∈ d.declaredOrders) :
    d.Knows o.left ∧ d.Knows o.right := by
  obtain ⟨⟨o', ho', -, hl, hr⟩, -, left, right⟩ := h.mem_declaredOrders.mp ho
  exact ⟨⟨left, .inl ((h.isNode _).mpr ⟨o', ho', .inl hl⟩)⟩,
    ⟨right, .inl ((h.isNode _).mpr ⟨o', ho', .inr hr⟩)⟩⟩

end Dimension
end OrderTrials
