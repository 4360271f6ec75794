import OrderTrials.Proofs.Standing
import OrderTrials.Proofs.Steps
/-
# What declarations mean

The order graphs of a dimension show a list of orders: a step of a graph is a stated order or one
that a stated order induces (`Dimension.Shows`). A soundness order induces the reverse step of
precision, a precision order the steps of soundness in both directions. A declaration adds its
order to those that are shown, and what a level reaches are the ends of chains of steps.

Key definitions: `Stated`, `Induced`, `Steps`, `Named`, `Dimension.Shows`.
Key theorems: `Dimension.Shows.reach_iff`, `Dimension.Shows.declare`,
`Dimension.Shows.chain_of_reach`.
-/

namespace OrderTrials

/-! ### Orders as steps between names -/

/-- One of the orders states that `a` stands in a relation to `b`. -/
def Stated (orders : List Order) (r : Relation) (a b : String) : Prop :=
  ∃ o ∈ orders, o.relation = r ∧ o.left.name = a ∧ o.right.name = b

/-- One of the orders induces that `a` stands in a relation to `b`. -/
def Induced (orders : List Order) : Relation → String → String → Prop
  | .moreSound, a, b => Stated orders .morePrecise a b ∨ Stated orders .morePrecise b a
  | .morePrecise, a, b => Stated orders .moreSound b a

/-- A step of a relation: a stated order or, with `induced`, one that a stated order induces. -/
def Steps (orders : List Order) (induced : Bool) (r : Relation) (a b : String) : Prop :=
  Stated orders r a b ∨ (induced = true ∧ Induced orders r a b)

/-- The name stands on one side of one of the orders. -/
def Named (orders : List Order) (n : String) : Prop :=
  ∃ o ∈ orders, o.left.name = n ∨ o.right.name = n

section

variable {orders : List Order} {r : Relation} {a b n : String} {induced : Bool}

theorem stated_append (l m : List Order) (r : Relation) (a b : String) :
    Stated (l ++ m) r a b ↔ Stated l r a b ∨ Stated m r a b := by
  simp only [Stated, List.mem_append]
  constructor
  · rintro ⟨o, ho | ho, h⟩
    · exact .inl ⟨o, ho, h⟩
    · exact .inr ⟨o, ho, h⟩
  · rintro (⟨o, ho, h⟩ | ⟨o, ho, h⟩)
    · exact ⟨o, .inl ho, h⟩
    · exact ⟨o, .inr ho, h⟩

theorem steps_append (l m : List Order) (induced : Bool) (r : Relation) (a b : String) :
    Steps (l ++ m) induced r a b ↔ Steps l induced r a b ∨ Steps m induced r a b := by
  cases r <;> simp only [Steps, Induced, stated_append] <;> grind

/-- Steps depend on which orders there are, not on how often and where. -/
theorem stated_congr {l m : List Order} (h : ∀ o, o ∈ l ↔ o ∈ m) : Stated l = Stated m := by
  funext r a b
  simp only [Stated, h]

theorem steps_congr {l m : List Order} (h : ∀ o, o ∈ l ↔ o ∈ m) : Steps l = Steps m := by
  funext induced r a b
  cases r <;> simp only [Steps, Induced, stated_congr h]

/-- Without what is induced, the steps are the stated orders. -/
theorem steps_declared (orders : List Order) (r : Relation) :
    Steps orders false r = Stated orders r := by
  funext a b
  simp [Steps]

/-- Both ends of a step are named by the orders. -/
theorem Steps.named (h : Steps orders induced r a b) : Named orders a ∧ Named orders b := by
  have stated : ∀ {r a b}, Stated orders r a b → Named orders a ∧ Named orders b := by
    rintro r a b ⟨o, ho, -, hl, hr⟩
    exact ⟨⟨o, ho, .inl hl⟩, ⟨o, ho, .inr hr⟩⟩
  rcases h with h | ⟨-, h⟩
  · exact stated h
  · cases r with
    | moreSound => exact h.elim stated fun h => (stated h).symm
    | morePrecise => exact (stated h).symm

/-- Each order is a step of either relation between its two ends, in one direction or the other. -/
theorem steps_of_mem {o : Order} (ho : o ∈ orders) (r : Relation) :
    Steps orders true r o.left.name o.right.name ∨
      Steps orders true r o.right.name o.left.name := by
  have stated : Stated orders o.relation o.left.name o.right.name := ⟨o, ho, rfl, rfl, rfl⟩
  cases hr : o.relation <;> rw [hr] at stated <;> cases r
  · exact .inl (.inl stated)
  · exact .inr (.inr ⟨rfl, stated⟩)
  · exact .inl (.inr ⟨rfl, .inl stated⟩)
  · exact .inl (.inl stated)

/-- A name is named by the orders if and only if a step of either relation begins or ends there. -/
theorem named_iff (orders : List Order) (r : Relation) (n : String) :
    Named orders n ↔ ∃ m, Steps orders true r n m ∨ Steps orders true r m n := by
  constructor
  · rintro ⟨o, ho, rfl | rfl⟩
    · exact ⟨o.right.name, steps_of_mem ho r⟩
    · exact ⟨o.left.name, (steps_of_mem ho r).symm⟩
  · rintro ⟨m, h | h⟩
    · exact h.named.1
    · exact h.named.2

end

namespace Dimension

variable {d d' start : Dimension} {orders : List Order}

/-! ### Graphs that show orders -/

/-- The steps of the order graphs are those of the orders. -/
def Shows (d : Dimension) (orders : List Order) : Prop :=
  ∀ r declaredOnly a b, (d.graph r).Step declaredOnly a b ↔ Steps orders (!declaredOnly) r a b

theorem Shows.isNode_graph (h : d.Shows orders) (r : Relation) (n : String) :
    (d.graph r).isNode n = true ↔ Named orders n := by
  rw [Graph.isNode_iff, named_iff orders r]
  simp only [h r false, Bool.not_false]

theorem Shows.isNode (h : d.Shows orders) (n : String) : d.isNode n = true ↔ Named orders n := by
  rw [Dimension.isNode, Bool.or_eq_true]
  have hs := h.isNode_graph .moreSound n
  have hp := h.isNode_graph .morePrecise n
  exact ⟨fun k => k.elim hs.mp hp.mp, fun k => .inl (hs.mpr k)⟩

/-- **What a level reaches** are the ends of chains of steps from a named level. -/
theorem Shows.reach_iff (h : d.Shows orders) (r : Relation) (a b : Level) (induced : Bool) :
    d.reach r a b induced = true ↔
      Named orders (d.places a b).1.node ∧
        Relation.ReflTransGen (Steps orders induced r) (d.places a b).1.node
          (d.places a b).2.node := by
  have hs : (d.graph r).Step (!induced) = Steps orders induced r := by
    funext x y
    rw [eq_iff_iff, h, Bool.not_not]
  rw [reach, Graph.reaches_iff, h.isNode_graph, hs]

/-- On a dimension of names, each level stands at its own name. -/
theorem places_node (hi : d.isInteger = false) (a b : Level) :
    (d.places a b).1.node = a.name ∧ (d.places a b).2.node = b.name := by
  have hp (l : Level) : (d.place l).1.node = l.name ∧ (d.place l).2 = none := by
    have hv : d.integerValue? l = none := by simp [integerValue?, hi]
    unfold place
    rw [hv]
    split
    · exact ⟨Anchor.node_ofNode l.name, rfl⟩
    · exact ⟨rfl, rfl⟩
  unfold places
  rw [(hp a).2]
  exact ⟨(hp a).1, (hp b).1⟩

/-- What a name reaches by declared steps, it reaches by a chain of stated orders. -/
theorem Shows.chain_of_reach (h : d.Shows orders) (hi : d.isInteger = false) {r : Relation}
    {a b : Level} (hr : d.reach r a b false = true) :
    Relation.ReflTransGen (Stated orders r) a.name b.name := by
  have chain := ((h.reach_iff r a b false).mp hr).2
  rwa [(places_node hi a b).1, (places_node hi a b).2, steps_declared] at chain

/-- A stated order leads from the one name to the other. -/
theorem Shows.reach_of_stated (h : d.Shows orders) (hi : d.isInteger = false) {r : Relation}
    {a b : Level} (stated : Stated orders r a.name b.name) : d.reach r a b false = true := by
  rw [h.reach_iff, (places_node hi a b).1, (places_node hi a b).2, steps_declared]
  have ⟨o, ho, _, hl, _⟩ := stated
  exact ⟨⟨o, ho, .inl hl⟩, .single stated⟩

theorem requireRegistered_ok {l : Level} (h : d.requireRegistered l = .ok ()) :
    l.option = d.name ∧ l.name ∈ d.levels := by
  unfold requireRegistered requireOwn at h
  obtain ⟨⟨⟩, ho, hl⟩ := (bind_eq_ok_iff _ _ _).mp h
  constructor
  · by_cases hn : l.option = d.name
    · exact hn
    · simp [hn] at ho
  · by_cases hn : l.name ∈ d.levels
    · exact hn
    · simp [hn] at hl

/-- A declaration that succeeds is one between registered levels, and changes the two graphs
alone. -/
theorem declare_ok {r : Relation} {a b : Level} (h : d.declare r a b = .ok d') :
    (a.option = d.name ∧ a.name ∈ d.levels) ∧ (b.option = d.name ∧ b.name ∈ d.levels) ∧
      d' = { d with soundness := d'.soundness, precision := d'.precision } ∧
      match r with
      | .moreSound =>
        d'.soundness = d.soundness.insert a.name b.name true ∧
          d'.precision = d.precision.insert b.name a.name false
      | .morePrecise =>
        d'.precision = d.precision.insert a.name b.name true ∧
          d'.soundness = (d.soundness.insert a.name b.name false).insert b.name a.name false := by
  unfold declare at h
  obtain ⟨⟨⟩, ha, h⟩ := (bind_eq_ok_iff _ _ _).mp h
  obtain ⟨⟨⟩, hb, h⟩ := (bind_eq_ok_iff _ _ _).mp h
  refine ⟨requireRegistered_ok ha, requireRegistered_ok hb, ?_⟩
  cases r <;> obtain rfl := Except.ok.inj h <;> exact ⟨rfl, rfl, rfl⟩

/-- A declaration adds the steps of its own order to each graph. -/
theorem step_declare {r : Relation} {a b : Level} (h : d.declare r a b = .ok d') (r' : Relation)
    (declaredOnly : Bool) (x y : String) :
    (d'.graph r').Step declaredOnly x y ↔
      (d.graph r').Step declaredOnly x y ∨
        Steps [⟨a, r, b, d.name⟩] (!declaredOnly) r' x y := by
  obtain ⟨-, -, -, hg⟩ := declare_ok h
  cases r <;> obtain ⟨h₁, h₂⟩ := hg <;> cases r' <;>
    simp only [graph, h₁, h₂, Graph.step_insert, Steps, Induced, Stated, List.mem_singleton,
      exists_eq_left] <;> grind

theorem Shows.declare {r : Relation} {a b : Level} (h : d.Shows orders)
    (hd : d.declare r a b = .ok d') : d'.Shows (orders ++ [⟨a, r, b, d.name⟩]) := by
  intro r' declaredOnly x y
  rw [step_declare hd, h, steps_append]

theorem Shows.of_graphs (h : d.Shows orders) (hs : d'.soundness = d.soundness)
    (hp : d'.precision = d.precision) : d'.Shows orders := by
  intro r declaredOnly a b
  rw [← h]
  cases r <;> simp only [graph, hs, hp]

end Dimension
end OrderTrials
