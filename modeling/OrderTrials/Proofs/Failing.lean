import OrderTrials.Proofs.Ranging
/-
# When generating fails

Whatever a campaign looks up in a space that is read from a text is there: the default of every
option, the option of every order, and the range of every option of integers. What remains is the
replacement of placeholders. A side of an order is taken for a placeholder by its name alone, and
an option of names has no range to draw from, so that an order of such an option that has a level
called like a placeholder cannot be exercised (`Mutation.Unfit`). A space is at fault in a round
only by such an order, and the first round fails if there is one (`Generator.fault_iff_unfit`).

Key definitions: `Mutation.Unfit`.
Key theorems: `Mutation.concrete_cases`, `Mutation.allMutants_cases`,
`Generator.fault_of_generate`, `Generator.generate_faults`, `Generator.fault_iff_unfit`,
`Generator.fault_of_letter`.
-/

namespace OrderTrials

namespace Mutation

variable {σ : Type} [Randomness σ] {s : Space} {text : String} {seed : Configuration}
  {d : Dimension} {o : Order} {os : List Order} {side : Level} {found : List Configuration}

/-- A side of an order is called like a placeholder on an option of names, which is the fault. -/
def Unfit (s : Space) (o : Order) (fault : SpaceError) : Prop :=
  ∃ d side, s.dimension? o.option = some d ∧ (side = o.left ∨ side = o.right) ∧
    d.isInteger = false ∧ side.isPlaceholder = true ∧
    fault = .unregisteredLevel d.name side.name

/-- **A side of an order can be run** unless it is called like a placeholder on an option of
names. -/
theorem concrete_cases (accepted : Space.ofText text = .ok s) {name : String}
    (hd : s.dimension? name = some d) (side : Level) (w : σ) :
    (d.isInteger = false ∧ side.isPlaceholder = true ∧
      ∃ w', concrete d side w = (.error (.unregisteredLevel d.name side.name), w')) ∨
    (¬ (d.isInteger = false ∧ side.isPlaceholder = true) ∧
      ∃ l w', concrete d side w = (.ok l, w')) := by
  by_cases placeholder : side.isPlaceholder = true
  · rw [concrete, if_pos placeholder, Dimension.drawInteger]
    cases integer : d.isInteger with
    | true =>
      obtain ⟨-, -, e, -, -, built⟩ := Space.exists_build accepted hd
      obtain ⟨least, greatest, hl, hg⟩ := OptionEntry.bounds_of_build built integer
      rw [hl, hg]
      exact .inr ⟨by simp, _, _, rfl⟩
    | false =>
      -- only a dimension of integers has bounds
      have unbounded := (Space.wellFormed_of_text accepted hd).bounds
      refine .inl ⟨rfl, placeholder, w, ?_⟩
      cases hl : d.least with
      | none => rfl
      | some least =>
        cases hg : d.greatest with
        | none => rfl
        | some greatest => exact absurd (unbounded least greatest hl hg).1 (by simp [integer])
  · rw [concrete, if_neg placeholder]
    exact .inr ⟨fun h => placeholder h.2, _, _, rfl⟩

/-- **An order can be exercised** unless it is unfit, which then is the fault. -/
theorem mutants_cases (accepted : Space.ofText text = .ok s) (declared : o ∈ s.declaredOrders)
    (seed : Configuration) (w : σ) :
    (∃ fault w', Unfit s o fault ∧ mutants s seed o w = (.error fault, w')) ∨
    ((∀ fault, ¬ Unfit s o fault) ∧ ∃ ms w', mutants s seed o w = (.ok ms, w')) := by
  obtain ⟨d, hd, -⟩ := (Space.fits_of_declared accepted declared).dimension
  have dimension := (s.dimension_eq_ok_iff o.option d).mpr hd
  unfold mutants
  simp only [dimension]
  rcases concrete_cases accepted hd o.left w with
    ⟨names, placeholder, w', left⟩ | ⟨fit, l, w', left⟩
  · rw [left]
    exact .inl ⟨_, _, ⟨d, o.left, hd, .inl rfl, names, placeholder, rfl⟩, rfl⟩
  · rw [left]
    dsimp only
    rcases concrete_cases accepted hd o.right w' with
      ⟨names, placeholder, w'', right⟩ | ⟨fit', r, w'', right⟩
    · rw [right]
      exact .inl ⟨_, _, ⟨d, o.right, hd, .inr rfl, names, placeholder, rfl⟩, rfl⟩
    · rw [right]
      refine .inr ⟨?_, _, _, rfl⟩
      rintro fault ⟨d', side, hd', hside, names, placeholder, -⟩
      obtain rfl : d = d' := Option.some.inj (hd.symm.trans hd')
      rcases hside with rfl | rfl
      · exact fit ⟨names, placeholder⟩
      · exact fit' ⟨names, placeholder⟩

/-- **Several orders can be exercised** unless one of them is unfit, which then is the fault. -/
theorem allMutants_cases (accepted : Space.ofText text = .ok s)
    (declared : ∀ o ∈ os, o ∈ s.declaredOrders) (seed : Configuration)
    (found : List Configuration) (w : σ) :
    (∃ o ∈ os, ∃ fault w', Unfit s o fault ∧ allMutants s seed os found w = (.error fault, w')) ∨
    ((∀ o ∈ os, ∀ fault, ¬ Unfit s o fault) ∧
      ∃ cs w', allMutants s seed os found w = (.ok cs, w')) := by
  induction os generalizing found w with
  | nil => exact .inr ⟨nofun, found, w, rfl⟩
  | cons o os ih =>
    unfold allMutants
    rcases mutants_cases accepted (declared o List.mem_cons_self) seed w with
      ⟨fault, w', unfit, h⟩ | ⟨fit, ms, w', h⟩
    · rw [h]
      exact .inl ⟨o, List.mem_cons_self, fault, w', unfit, rfl⟩
    · rw [h]
      dsimp only
      rcases ih (fun o' ho' => declared o' (List.mem_cons_of_mem o ho'))
        (ms.foldl (fun found m => if found.contains m then found else found ++ [m]) found) w' with
        ⟨o', ho', fault, w'', unfit, h⟩ | ⟨fits, cs, w'', h⟩
      · exact .inl ⟨o', List.mem_cons_of_mem o ho', fault, w'', unfit, h⟩
      · refine .inr ⟨fun o' ho' => ?_, cs, w'', h⟩
        rcases List.mem_cons.mp ho' with rfl | ho'
        · exact fit
        · exact fits o' ho'

end Mutation

namespace Generator

open Mutation

variable {τ σ : Type} {g : Generator τ} {s : Space} {text : String} {plan : Plan}
  {targets : List Target} {patience : Nat} {w : σ} {chosen : Selection} {fault : SpaceError}

variable [Randomness σ]

/-- A selection becomes a campaign unless one of its orders is unfit, which then is the fault. -/
theorem commit_cases (accepted : Space.ofText text = .ok s) (space : g.space = s)
    (declared : ∀ o ∈ chosen.orders, o ∈ s.declaredOrders) (w : σ) :
    (∃ o ∈ chosen.orders, ∃ fault, Unfit s o fault ∧
      (g.commit chosen w).1 = .error (.space fault)) ∨
    ((∀ o ∈ chosen.orders, ∀ fault, ¬ Unfit s o fault) ∧
      ∃ campaign, (g.commit chosen w).1 = .ok campaign) := by
  unfold commit
  rw [space]
  rcases allMutants_cases accepted declared chosen.seed [chosen.seed] w with
    ⟨o, ho, fault, w', unfit, h⟩ | ⟨fit, cs, w', h⟩
  · rw [h]
    exact .inl ⟨o, ho, fault, unfit, rfl⟩
  · rw [h]
    exact .inr ⟨fit, _, rfl⟩

variable [SeedSource τ σ]

/-- **A space is at fault in a round only by an unfit order** that has not retired. -/
theorem fault_of_generate (accepted : Space.ofText text = .ok s)
    (lawful : g.Lawful s plan targets)
    (h : (g.generate patience w).1 = .error (.space fault)) :
    ∃ o ∈ g.orders.items, Unfit s o fault := by
  have committed {g' : Generator τ} {chosen : Selection} {w' : σ} (space : g'.space = s)
      (selected : Selection.Of g chosen)
      (h : (g'.commit chosen w').1 = .error (.space fault)) :
      ∃ o ∈ g.orders.items, Unfit s o fault := by
    rcases commit_cases accepted space
        (fun o ho => lawful.declared o (selected.orders.2 o ho)) w' with
      ⟨o, ho, fault', unfit, h'⟩ | ⟨-, campaign, h'⟩
    · have same : fault' = fault := by simpa using h'.symm.trans h
      exact ⟨o, selected.orders.2 o ho, same ▸ unfit⟩
    · cases h'.symm.trans h
  unfold generate at h
  split at h
  · cases h
  split at h
  · rename_i swept
    obtain ⟨seeds, discarded, frame⟩ := g.select_frame patience w
    have selected (chosen : Selection) (h : (g.select patience w).1 = .ok chosen) :=
      select_ok lawful swept h
    -- selecting looks nothing up in the space
    have noFault : (g.select patience w).1 ≠ .error (.space fault) := by
      intro failed
      rcases select_error failed with seedless | ⟨⟨⟩, -⟩ | ⟨⟨⟩, -⟩ | ⟨⟨⟩, -⟩
      exact seedless
    split at h
    · rename_i hselect
      rw [hselect] at noFault
      exact absurd (congrArg Except.error (Except.error.inj h)) noFault
    · rename_i chosen g' w' hselect
      rw [hselect] at frame selected
      have space : g'.space = s := (congrArg Generator.space frame).trans lawful.space
      exact committed space (selected chosen rfl) h
  · rename_i unswept
    split at h
    · rename_i e hsweep
      obtain ⟨c, hc⟩ := Configuration.default_defined accepted
      rw [sweep, lawful.space, hc] at hsweep
      cases hsweep
    · rename_i chosen hsweep
      exact committed lawful.space
        (sweep_ok lawful (Bool.eq_false_iff.mpr unswept) hsweep) h

/-- **The first round fails if an order is unfit.** -/
theorem generate_faults (accepted : Space.ofText text = .ok s) (lawful : g.Lawful s plan targets)
    (unswept : g.swept = false) {o : Order} (ho : o ∈ g.orders.items) (unfit : Unfit s o fault) :
    ∃ fault', (g.generate patience w).1 = .error (.space fault') := by
  obtain ⟨c, hc⟩ := Configuration.default_defined accepted
  have live : g.isExhausted = false := by
    rw [isExhausted, Pool.isEmpty, List.isEmpty_eq_false_iff]
    intro none
    rw [Pool.items, none] at ho
    exact absurd ho List.not_mem_nil
  have hsweep : g.sweep = .ok ⟨c, g.orders.items, g.targets.items⟩ := by
    rw [sweep, lawful.space, hc]
  unfold generate
  rw [if_neg (by simp [live]), if_neg (by simp [unswept]), hsweep]
  let chosen : Selection := ⟨c, g.orders.items, g.targets.items⟩
  have declared : ∀ o ∈ chosen.orders, o ∈ s.declaredOrders := lawful.declared
  rcases commit_cases accepted lawful.space declared w with ⟨-, -, fault', -, h⟩ | ⟨fit, -⟩
  · exact ⟨fault', h⟩
  · exact absurd unfit (fit o ho fault)

/-- **When a space is at fault.** From every reachable state, whatever the seeds and the random
words, a space that is read from a text is at fault only by an order that has not retired, belongs
to an option of names and has a side called like a placeholder. The fault names that side. In the
first round the space is at fault if and only if there is such an order. -/
theorem fault_iff_unfit (accepted : Space.ofText text = .ok s)
    (reachable : g.Reachable σ s plan targets) :
    (∀ fault, (g.generate patience w).1 = .error (.space fault) →
      ∃ o ∈ g.orders.items, Unfit s o fault) ∧
    (g.swept = false → ((∃ fault, (g.generate patience w).1 = .error (.space fault)) ↔
      ∃ o ∈ g.orders.items, ∃ fault, Unfit s o fault)) := by
  have lawful := reachable.lawful
  refine ⟨fun fault h => fault_of_generate accepted lawful h, fun unswept => ?_⟩
  constructor
  · rintro ⟨fault, h⟩
    obtain ⟨o, ho, unfit⟩ := fault_of_generate accepted lawful h
    exact ⟨o, ho, fault, unfit⟩
  · rintro ⟨o, ho, fault, unfit⟩
    exact generate_faults accepted lawful unswept ho unfit

/-! ### An option of letters -/

open Comparison

/-- An option of two names, of which one is also that of a placeholder. -/
def letters : OptionEntry :=
  ⟨"k", false, ["i", "j"], none, none, some "j", [], [⟨.moreSound, "i", "j"⟩]⟩

/-- The text of an artifact with that option. -/
def lettersText : String :=
  "\x7b\"name\":\"t\",\"options\":[\x7b\"name\":\"k\",\"type\":\"enum\"," ++
    "\"levels\":[\"i\",\"j\"],\"default\":\"j\",\"orders\":[" ++
    "\x7b\"order\":\"MST\",\"left\":\"i\",\"right\":\"j\"\x7d]\x7d]\x7d"

/-- The dimension of the option. -/
def lettersDimension : Dimension := (Dimension.enumeration "k").after letters.calls

theorem ofText_lettersText : Space.ofText lettersText = .ok (spaceOf lettersDimension) :=
  (Space.ofText_eq_ok_iff _ _).mpr ⟨⟨"t", [letters]⟩, by decide +kernel, by decide +kernel⟩

/-- A generator for the two letters before its first round. -/
def lettersStart : Generator ListedSeeds := startOf (spaceOf lettersDimension) letters.declared []

theorem make_lettersStart :
    make (spaceOf lettersDimension) ⟨1, 1⟩ ⟨[]⟩ [⟨"p"⟩] = .ok lettersStart := by
  refine make_startOf ?_ []
  have sound : (lettersDimension.graph .moreSound).declaredPairs = [("i", "j")] :=
    declaredPairs_of_ascending (by decide +kernel) (by decide +kernel)
  have precise : (lettersDimension.graph .morePrecise).declaredPairs = [] :=
    declaredPairs_of_ascending (by decide +kernel) (by decide +kernel)
  rw [declaredOrders_spaceOf sound precise]
  decide +kernel

theorem fault_iff_unfit_letters :
    (∃ fault, (lettersStart.generate 1 (Replay.ofList [])).1 = .error (.space fault)) ∧
      ¬ ∃ fault, (digitsStart.generate 1 (Replay.ofList [])).1 = .error (.space fault) := by
  constructor
  · have found : (spaceOf lettersDimension).dimension? "k" = some lettersDimension := by
      decide +kernel
    have unfit : Unfit (spaceOf lettersDimension)
        ⟨⟨"k", "i"⟩, .moreSound, ⟨"k", "j"⟩, "k"⟩ (.unregisteredLevel "k" "i") :=
      ⟨_, _, found, .inl rfl, by decide +kernel, by decide, by decide +kernel⟩
    exact ((fault_iff_unfit ofText_lettersText (.make make_lettersStart)).2 rfl).mpr
      ⟨_, by decide +kernel, _, unfit⟩
  · rw [(fault_iff_unfit Space.ofText_digitsText (.make make_digitsStart)).2 rfl]
    rintro ⟨o, ho, fault, d, side, hd, -, names, -⟩
    have option : o.option = "n" := by
      have all : ∀ o ∈ digitsStart.orders.items, o.option = "n" := by decide +kernel
      exact all o ho
    rw [option, Space.dimension?_digitsSpace] at hd
    obtain rfl := Option.some.inj hd
    exact absurd names (by decide +kernel)

/-- **A level that is taken for a placeholder.** An artifact declares an order from the level `i`
of an option of names. It is accepted, and the first round fails. -/
theorem fault_of_letter :
    Space.ofText lettersText = .ok (spaceOf lettersDimension) ∧
      make (spaceOf lettersDimension) ⟨1, 1⟩ ⟨[]⟩ [⟨"p"⟩] = .ok lettersStart ∧
      (lettersStart.generate 1 (Replay.ofList [])).1 =
        .error (.space (.unregisteredLevel "k" "i")) :=
  ⟨ofText_lettersText, make_lettersStart, by decide +kernel⟩

end Generator
end OrderTrials
