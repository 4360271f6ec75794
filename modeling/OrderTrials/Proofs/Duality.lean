import OrderTrials.Proofs.History
/-
# Duality of the two relations

The two graphs of a dimension mirror each other. Every step of precision has its reverse among
the steps of soundness, a declared step of soundness has its reverse among those of precision,
and a declared step of precision is one of soundness in both directions. What holds of steps
holds of chains of them, and so of levels, wherever these stand.

Key theorems: `Dimension.Shows.reach_sound_of_precise`, `Dimension.Shows.reach_precise_of_declared`,
`Dimension.Shows.reach_sound_of_declared`.
-/

namespace OrderTrials

variable {orders : List Order} {r : Relation} {a b : String}

theorem Steps.of_declared (h : Steps orders false r a b) (induced : Bool) :
    Steps orders induced r a b := .inl (by rwa [steps_declared] at h)

/-- A step of precision is one of soundness, backwards. -/
theorem Steps.sound_of_precise (h : Steps orders true .morePrecise a b) :
    Steps orders true .moreSound b a := by
  rcases h with h | ⟨-, h⟩
  · exact .inr ⟨rfl, .inr h⟩
  · exact .inl h

/-- A declared step of soundness is one of precision, backwards. -/
theorem Steps.precise_of_declared (h : Steps orders false .moreSound a b) :
    Steps orders true .morePrecise b a := by
  rw [steps_declared] at h
  exact .inr ⟨rfl, h⟩

/-- A declared step of precision is one of soundness. -/
theorem Steps.sound_of_declared (h : Steps orders false .morePrecise a b) :
    Steps orders true .moreSound a b := by
  rw [steps_declared] at h
  exact .inr ⟨rfl, .inl h⟩

/-- A chain of steps from a named level ends in a named level. -/
theorem named_of_chain {induced : Bool} (ha : Named orders a)
    (h : Relation.ReflTransGen (Steps orders induced r) a b) : Named orders b := by
  induction h with
  | refl => exact ha
  | tail _ hs _ => exact hs.named.2

namespace Dimension

variable {d : Dimension} {l m : Level}

theorem Shows.reach_of_declared (h : d.Shows orders) (hr : d.reach r l m false = true) :
    d.reach r l m true = true := by
  rw [h.reach_iff] at hr ⊢
  exact ⟨hr.1, Relation.ReflTransGen.mono (fun _ _ hs => hs.of_declared true) _ _ hr.2⟩

/-- A relation that turns around step by step turns around between levels. -/
theorem Shows.reach_reverse (h : d.Shows orders) {i i' : Bool} {r r' : Relation}
    (turns : ∀ a b, Steps orders i r a b → Steps orders i' r' b a)
    (hr : d.reach r l m i = true) : d.reach r' m l i' = true := by
  rw [h.reach_iff] at hr ⊢
  rw [places_swap d l m]
  exact ⟨named_of_chain hr.1 hr.2,
    Relation.ReflTransGen.mono (fun b a hs => turns a b hs) _ _ hr.2.swap⟩

/-- If `l` is at least as precise as `m`, then `m` is at least as sound as `l`. -/
theorem Shows.reach_sound_of_precise (h : d.Shows orders)
    (hr : d.reach .morePrecise l m true = true) : d.reach .moreSound m l true = true :=
  h.reach_reverse (fun _ _ hs => hs.sound_of_precise) hr

/-- If `l` is declared to be at least as sound as `m`, then `m` is at least as precise as `l`. -/
theorem Shows.reach_precise_of_declared (h : d.Shows orders)
    (hr : d.reach .moreSound l m false = true) : d.reach .morePrecise m l true = true :=
  h.reach_reverse (fun _ _ hs => hs.precise_of_declared) hr

/-- If `l` is declared to be at least as precise as `m`, then they are equally sound. -/
theorem Shows.reach_sound_of_declared (h : d.Shows orders)
    (hr : d.reach .morePrecise l m false = true) :
    d.reach .moreSound l m true = true ∧ d.reach .moreSound m l true = true := by
  constructor
  · rw [h.reach_iff] at hr ⊢
    exact ⟨hr.1, Relation.ReflTransGen.mono (fun _ _ hs => hs.sound_of_declared) _ _ hr.2⟩
  · exact h.reach_sound_of_precise (h.reach_of_declared hr)

/-! ### Answers -/

/-- **The two relations mirror each other.** After any history, and for any two levels: what is
at least as precise is, the other way round, at least as sound; what is declared to be at least as
sound is, the other way round, at least as precise; and what is declared to be at least as precise
is as sound, in both directions. -/
theorem dual_after {start : Dimension} (fresh : start.Fresh) (cs : List Call) (a b : Level) :
    ((start.after cs).holds .morePrecise a b true = .ok true →
      (start.after cs).holds .moreSound b a true = .ok true) ∧
    ((start.after cs).holds .moreSound a b false = .ok true →
      (start.after cs).holds .morePrecise b a true = .ok true) ∧
    ((start.after cs).holds .morePrecise a b false = .ok true →
      (start.after cs).holds .moreSound a b true = .ok true ∧
        (start.after cs).holds .moreSound b a true = .ok true) := by
  have shown := shows_after fresh cs
  simp only [holds_eq_ok_iff, eq_comm (a := true)]
  refine ⟨?_, ?_, ?_⟩
  · rintro ⟨ka, kb, h⟩
    exact ⟨kb, ka, shown.reach_sound_of_precise h⟩
  · rintro ⟨ka, kb, h⟩
    exact ⟨kb, ka, shown.reach_precise_of_declared h⟩
  · rintro ⟨ka, kb, h⟩
    obtain ⟨forth, back⟩ := shown.reach_sound_of_declared h
    exact ⟨⟨ka, kb, forth⟩, kb, ka, back⟩

/-- Declares the shape of the range in two steps, from `i` to the integer 7 and on to `i-1`. -/
def relayCalls : List Call :=
  ["i", "7", "i-1"].map .register ++
    [.declare .morePrecise ⟨"k", "i"⟩ ⟨"k", "7"⟩, .declare .morePrecise ⟨"k", "7"⟩ ⟨"k", "i-1"⟩]

theorem dual_after_relayCalls :
    (upToTen.after relayCalls).holds .morePrecise ⟨"k", "5"⟩ ⟨"k", "3"⟩ false = .ok true ∧
      (upToTen.after relayCalls).holds .moreSound ⟨"k", "5"⟩ ⟨"k", "3"⟩ true = .ok true ∧
      (upToTen.after relayCalls).holds .moreSound ⟨"k", "3"⟩ ⟨"k", "5"⟩ true = .ok true := by
  have fresh : upToTen.Fresh := .integer (show integer "k" 0 10 = .ok upToTen from rfl)
  have declared : (upToTen.after relayCalls).holds .morePrecise ⟨"k", "5"⟩ ⟨"k", "3"⟩ false =
      .ok true := by decide +kernel
  exact ⟨declared, (dual_after fresh relayCalls _ _).2.2 declared⟩

end Dimension
end OrderTrials
