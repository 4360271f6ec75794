import Mathlib.Data.List.Nodup
import OrderTrials.Mutation
import OrderTrials.Proofs.Comparing
import OrderTrials.Proofs.Knowing
/-
# What mutation yields

The mutants for an order hold its two sides, with an integer of the range in place of a
placeholder, and leave out a level that the seed has. They are put behind the configurations found
so far, each once. So every one of them differs from the seed in the option of its order alone, and
every side that is no placeholder is held by a mutant or by the seed.

Key definitions: `Mutation.Grows`, `Mutation.Stands`, `Mutation.IsMutant`, `Mutation.Covers`.
Key theorems: `Mutation.concrete_ok`, `Mutation.mutants_ok`, `Mutation.allMutants_ok`,
`Mutation.IsMutant.differOnlyAt`, `Mutation.Covers.exists_level`.
-/

namespace OrderTrials
namespace Mutation

/-! ### Lists that grow -/

section

variable {found next all ms : List Configuration} {p q : Configuration → Prop}

/-- A list grows by certain configurations: those that are new are put behind it, each once. -/
structure Grows (found : List Configuration) (p : Configuration → Prop)
    (all : List Configuration) : Prop where
  keeps : found <+: all
  nodup : found.Nodup → all.Nodup
  mem : ∀ c, c ∈ all ↔ c ∈ found ∨ p c

theorem Grows.refl (found : List Configuration) : Grows found (fun _ => False) found :=
  ⟨List.prefix_refl found, id, fun _ => (or_iff_left id).symm⟩

theorem Grows.trans (h : Grows found p next) (h' : Grows next q all) :
    Grows found (fun c => p c ∨ q c) all :=
  ⟨h.keeps.trans h'.keeps, fun nodup => h'.nodup (h.nodup nodup), fun c => by
    rw [h'.mem, h.mem, or_assoc]⟩

theorem Grows.congr (h : Grows found p all) (same : ∀ c, p c ↔ q c) : Grows found q all :=
  ⟨h.keeps, h.nodup, fun c => by rw [h.mem, same]⟩

/-- Adding a configuration that may be there. -/
theorem grows_add (found : List Configuration) (m : Configuration) :
    Grows found (· = m) (if found.contains m then found else found ++ [m]) := by
  by_cases h : m ∈ found
  · rw [if_pos (List.contains_iff_mem.mpr h)]
    refine ⟨List.prefix_refl found, id, fun c => ?_⟩
    constructor
    · exact .inl
    · rintro (hc | rfl)
      · exact hc
      · exact h
  · rw [if_neg (fun hc => h (List.contains_iff_mem.mp hc))]
    refine ⟨List.prefix_append found [m], fun nodup => ?_, fun c => by simp⟩
    refine List.nodup_append.mpr ⟨nodup, List.nodup_singleton m, fun a ha b hb e => ?_⟩
    obtain rfl : b = m := List.mem_singleton.mp hb
    exact h (e ▸ ha)

theorem grows_foldl (found ms : List Configuration) :
    Grows found (· ∈ ms)
      (ms.foldl (fun found m => if found.contains m then found else found ++ [m]) found) := by
  induction ms generalizing found with
  | nil => exact (Grows.refl found).congr fun c => by simp
  | cons m ms ih =>
    exact ((grows_add found m).trans (ih _)).congr fun c => List.mem_cons.symm

end

/-! ### The mutants for an order -/

variable {σ : Type} [Randomness σ] {s s' : σ} {space : Space} {seed c : Configuration} {d : Dimension}
  {o : Order} {os : List Order} {side l : Level} {found ms cs : List Configuration}

/-- A level that can be run stands for a side of an order: it is that side, or for a placeholder
the numeral of an integer of the range. -/
def Stands (d : Dimension) (side l : Level) : Prop :=
  if side.isPlaceholder then ∃ v, d.Takes v ∧ l = ⟨d.name, Text.showInteger v⟩ else l = side

/-- A side that is no placeholder stands for itself alone. -/
theorem Stands.eq_of_named (h : Stands d side l) (named : side.isPlaceholder = false) :
    l = side := by
  unfold Stands at h
  rwa [if_neg (by simp [named])] at h

/-- On a dimension of names nothing can stand for a placeholder. -/
theorem Stands.eq_of_names (h : Stands d side l) (wellFormed : d.WellFormed)
    (names : d.isInteger = false) : l = side := by
  unfold Stands at h
  split at h
  · obtain ⟨v, ⟨least, greatest, hl, hg, -⟩, -⟩ := h
    exact absurd (wellFormed.bounds least greatest hl hg).1 (by simp [names])
  · exact h

theorem concrete_ok (wellFormed : d.WellFormed) (h : concrete d side s = (.ok l, s')) :
    Stands d side l := by
  unfold concrete at h
  unfold Stands
  split at h
  · rename_i placeholder
    rw [if_pos placeholder]
    split at h
    · rename_i v _ drawn
      obtain ⟨hl, -⟩ := Prod.mk.inj h
      exact ⟨v, wellFormed.drawInteger drawn, (Except.ok.inj hl).symm⟩
    · cases (Prod.mk.inj h).1
  · rename_i named
    rw [if_neg named]
    exact (Except.ok.inj (Prod.mk.inj h).1).symm

/-- A mutant of a seed for an order: it has another level than the seed, which stands for a side
of the order. -/
def IsMutant (space : Space) (seed : Configuration) (o : Order) (c : Configuration) : Prop :=
  ∃ d side l, space.dimension? o.option = some d ∧ (side = o.left ∨ side = o.right) ∧
    Stands d side l ∧ seed.get? d.name ≠ some l ∧ c = seed.mutated l

/-- For each side of an order, a level that stands for it is held by the seed or by a mutant. -/
def Covers (space : Space) (seed : Configuration) (o : Order) (p : Configuration → Prop) : Prop :=
  ∃ d, space.dimension? o.option = some d ∧ ∀ side, side = o.left ∨ side = o.right →
    ∃ l, Stands d side l ∧ (seed.get? d.name = some l ∨ p (seed.mutated l))

theorem Covers.mono {p q : Configuration → Prop} (h : Covers space seed o p)
    (imp : ∀ c, p c → q c) : Covers space seed o q := by
  obtain ⟨d, hd, sides⟩ := h
  refine ⟨d, hd, fun side hside => ?_⟩
  obtain ⟨l, stands, held⟩ := sides side hside
  exact ⟨l, stands, held.imp_right (imp _)⟩

theorem grows_extend (seed : Configuration) (current : Option Level) (found : List Configuration)
    (l : Level) :
    Grows found (fun c => current ≠ some l ∧ c = seed.mutated l) (extend seed current found l) := by
  unfold extend
  split
  · rename_i held
    exact (Grows.refl found).congr fun c => by simp [held]
  · rename_i other
    exact (grows_add found (seed.mutated l)).congr fun c => by simp [other]

/-- **The mutants for an order** are mutants, and they cover its sides. -/
theorem mutants_ok (wellFormed : ∀ d, space.dimension? o.option = some d → d.WellFormed)
    (h : mutants space seed o s = (.ok ms, s')) :
    (∀ c ∈ ms, IsMutant space seed o c) ∧ Covers space seed o (· ∈ ms) := by
  unfold mutants at h
  split at h
  · cases (Prod.mk.inj h).1
  rename_i d hd
  have dimension := (space.dimension_eq_ok_iff o.option d).mp hd
  dsimp only at h
  split at h
  · cases (Prod.mk.inj h).1
  rename_i left _ hleft
  split at h
  · cases (Prod.mk.inj h).1
  rename_i right _ hright
  obtain rfl := Except.ok.inj (Prod.mk.inj h).1
  have left_stands := concrete_ok (wellFormed d dimension) hleft
  have right_stands := concrete_ok (wellFormed d dimension) hright
  have mem := ((grows_extend seed (seed.get? d.name) [] left).trans
    (grows_extend seed (seed.get? d.name) _ right)).mem
  simp only [List.not_mem_nil, false_or] at mem
  constructor
  · intro c hc
    rcases (mem c).mp hc with ⟨new, rfl⟩ | ⟨new, rfl⟩
    · exact ⟨d, o.left, left, dimension, .inl rfl, left_stands, new, rfl⟩
    · exact ⟨d, o.right, right, dimension, .inr rfl, right_stands, new, rfl⟩
  · refine ⟨d, dimension, fun side hside => ?_⟩
    rcases hside with rfl | rfl
    · refine ⟨left, left_stands, or_iff_not_imp_left.mpr fun new => (mem _).mpr ?_⟩
      exact .inl ⟨new, rfl⟩
    · refine ⟨right, right_stands, or_iff_not_imp_left.mpr fun new => (mem _).mpr ?_⟩
      exact .inr ⟨new, rfl⟩

/-- **The mutants for several orders** are put behind the configurations found so far. Each is a
mutant for one of the orders, and the sides of each order are covered. -/
theorem allMutants_ok
    (wellFormed : ∀ o ∈ os, ∀ d, space.dimension? o.option = some d → d.WellFormed)
    (h : allMutants space seed os found s = (.ok cs, s')) :
    ∃ p, Grows found p cs ∧ (∀ c, p c → ∃ o ∈ os, IsMutant space seed o c) ∧
      ∀ o ∈ os, Covers space seed o p := by
  induction os generalizing found s with
  | nil =>
    obtain rfl := Except.ok.inj (Prod.mk.inj h).1
    exact ⟨_, Grows.refl found, nofun, nofun⟩
  | cons o os ih =>
    unfold allMutants at h
    split at h
    · cases (Prod.mk.inj h).1
    rename_i ms _ hms
    obtain ⟨mutants, covers⟩ := mutants_ok (wellFormed o List.mem_cons_self) hms
    obtain ⟨p, grows, isMutant, allCovers⟩ :=
      ih (fun o ho => wellFormed o (List.mem_cons_of_mem _ ho)) h
    refine ⟨_, (grows_foldl found ms).trans grows, ?_, fun o' ho => ?_⟩
    · rintro c (hc | hc)
      · exact ⟨o, List.mem_cons_self, mutants c hc⟩
      · obtain ⟨o', ho', hc⟩ := isMutant c hc
        exact ⟨o', List.mem_cons_of_mem _ ho', hc⟩
    · rcases List.mem_cons.mp ho with rfl | ho
      · exact covers.mono fun _ => .inl
      · exact (allCovers o' ho).mono fun _ => .inr

/-! ### What a mutant is -/

/-- The sides of an order are levels of its option, which is one of the space. -/
structure Fits (space : Space) (o : Order) : Prop where
  dimension : ∃ d, space.dimension? o.option = some d ∧ d.name = o.option
  left : o.left.option = o.option
  right : o.right.option = o.option

theorem Fits.side_option (fits : Fits space o) (hside : side = o.left ∨ side = o.right) :
    side.option = o.option := by
  rcases hside with rfl | rfl
  · exact fits.left
  · exact fits.right

theorem Stands.option_eq (h : Stands d side l) (own : side.option = d.name) :
    l.option = d.name := by
  unfold Stands at h
  split at h
  · obtain ⟨v, -, rfl⟩ := h
    rfl
  · exact h ▸ own

/-- What a mutant is made of, once its order fits. -/
theorem IsMutant.exists_level (fits : Fits space o) (h : IsMutant space seed o c) :
    ∃ d l, space.dimension? o.option = some d ∧ l.option = o.option ∧
      (∃ side, (side = o.left ∨ side = o.right) ∧ Stands d side l) ∧
      seed.get? o.option ≠ some l ∧ c = seed.mutated l := by
  obtain ⟨d', hd', hname⟩ := fits.dimension
  obtain ⟨d, side, l, hd, hside, stands, new, rfl⟩ := h
  obtain rfl : d' = d := Option.some.inj (hd'.symm.trans hd)
  refine ⟨d', l, hd, ?_, ⟨side, hside, stands⟩, hname ▸ new, rfl⟩
  exact (stands.option_eq ((fits.side_option hside).trans hname.symm)).trans hname

theorem get?_mutated (seed : Configuration) (l : Level) (option : String) :
    (seed.mutated l).get? option = if option = l.option then some l else seed.get? option := by
  split
  · rename_i h
    rw [h]
    exact Table.get?_insert_self _ _ _
  · rename_i h
    exact Table.get?_insert_of_ne _ _ h

/-- **Each side of a covered order is held,** by the seed or by a mutant. -/
theorem Covers.exists_level (fits : Fits space o) (h : Covers space seed o (· ∈ cs))
    (start : seed ∈ cs) (hside : side = o.left ∨ side = o.right) :
    ∃ d l, ∃ c ∈ cs, space.dimension? o.option = some d ∧ Stands d side l ∧
      c.get? o.option = some l ∧ (c = seed ∨ c = seed.mutated l ∧ l.option = o.option) := by
  obtain ⟨d', hd', hname⟩ := fits.dimension
  obtain ⟨d, hd, sides⟩ := h
  obtain rfl : d' = d := Option.some.inj (hd'.symm.trans hd)
  obtain ⟨l, stands, held⟩ := sides side hside
  have own : l.option = o.option :=
    (stands.option_eq ((fits.side_option hside).trans hname.symm)).trans hname
  rcases held with held | mem
  · exact ⟨d', l, seed, start, hd, stands, hname ▸ held, .inl rfl⟩
  · exact ⟨d', l, _, mem, hd, stands, by rw [get?_mutated, if_pos own.symm], .inr ⟨rfl, own⟩⟩

/-- **A mutant differs from its seed in the option of its order alone,** and investigates it. -/
theorem IsMutant.differOnlyAt (fits : Fits space o) (h : IsMutant space seed o c) :
    c.investigated = some o.option ∧ seed.DifferOnlyAt c o.option := by
  obtain ⟨d, l, -, hl, -, new, rfl⟩ := h.exists_level fits
  refine ⟨congrArg some hl, fun other => ?_⟩
  rw [get?_mutated, hl]
  split
  · rename_i h
    simp only [h, iff_true]
    exact new
  · rename_i h
    simp [h]

/-- A mutant of a total configuration is total. -/
theorem IsMutant.total (fits : Fits space o) (total : space.Total seed.assignment)
    (h : IsMutant space seed o c) : space.Total c.assignment := by
  obtain ⟨d, l, hd, hl, -, -, rfl⟩ := h.exists_level fits
  exact Configuration.total_mutated total (by rw [hl, hd]; rfl)

/-- **Different assignments.** In a list of a seed that investigates nothing and of configurations
that differ from it in the option that they investigate alone, those with one assignment are one. -/
theorem nodup_assignments (nodup : cs.Nodup) (start : seed.investigated = none)
    (differ : ∀ c ∈ cs, c = seed ∨
      ∃ option, c.investigated = some option ∧ seed.DifferOnlyAt c option) :
    (cs.map (·.assignment)).Nodup := by
  refine List.Nodup.map_on (fun c hc c' hc' same => ?_) nodup
  have get (option : String) : c.get? option = c'.get? option := by
    rw [Configuration.get?, Configuration.get?, same]
  have investigated : c.investigated = c'.investigated := by
    rcases differ c hc with rfl | ⟨option, hi, hd⟩
    · rcases differ c' hc' with rfl | ⟨option', -, hd'⟩
      · rfl
      · exact absurd (get option') ((hd' option').mpr rfl)
    · have ne := (hd option).mpr rfl
      rw [get] at ne
      rcases differ c' hc' with rfl | ⟨option', hi', hd'⟩
      · exact absurd rfl ne
      · rw [hi, hi', (hd' option).mp ne]
  cases c
  cases c'
  simp only [Configuration.mk.injEq]
  exact ⟨same, investigated⟩

end Mutation
end OrderTrials
