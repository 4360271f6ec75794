import OrderTrials.Proofs.Ranging
/-
# Direct orders that nobody declared

An order is explicit if a chain of declared orders leads from its left level to its right one, and
it is direct if some step does, declared or induced. The two need not speak of the same evidence:
where a longer chain is declared, an induced step between its two ends makes the order of the ends
direct, although no one declared it (`Bridged`). Between names, an order that is explicit and direct
is a declared one in all other cases, and in no bridged case (`Dimension.direct_after`). Feedback on
a bridged order finds nothing to retire (`Generator.undeclared_of_bridge`).

Key definitions: `Bridged`.
Key theorems: `Dimension.Shows.explicit_iff`, `Dimension.Shows.direct_iff`,
`Dimension.Shows.declared_iff`, `Dimension.direct_after`, `Generator.undeclared_of_bridge`.
-/

namespace OrderTrials

/-- A declared chain is bridged: it leads from `a` to `b`, none of the orders states that at once,
but one of them induces a step from `a` to `b`. -/
def Bridged (orders : List Order) (r : Relation) (a b : String) : Prop :=
  ¬ Stated orders r a b ∧ Induced orders r a b ∧ Relation.TransGen (Stated orders r) a b

/-- A step is found as an edge, and nothing else is. -/
theorem Graph.isSome_edge?_iff (g : Graph) (a b : String) :
    (g.edge? a b).isSome = true ↔ g.Step false a b := by
  constructor
  · intro h
    obtain ⟨e, he⟩ := Option.isSome_iff_exists.mp h
    have ends : e.source = a ∧ e.target = b := by simpa [joins] using List.find?_some he
    exact ⟨e, List.mem_of_find?_eq_some he, ends.1, ends.2, by simp⟩
  · exact Step.isSome_edge?

namespace Dimension

variable {d start : Dimension} {orders : List Order} {r : Relation} {l m : Level}

/-! ### What the two marks of an order say -/

/-- **An order between two names is explicit** if a chain of declared orders leads from the one to
the other. -/
theorem Shows.explicit_iff (h : d.Shows orders) (names : d.isInteger = false)
    (ne : l.name ≠ m.name) :
    d.reach r l m false = true ↔ Relation.TransGen (Stated orders r) l.name m.name := by
  constructor
  · intro hr
    rcases Relation.reflTransGen_iff_eq_or_transGen.mp (h.chain_of_reach names hr) with same | chain
    · exact absurd same.symm ne
    · exact chain
  · intro chain
    obtain ⟨n, ⟨o, ho, -, left, -⟩, -⟩ := Relation.TransGen.head'_iff.mp chain
    rw [h.reach_iff, (places_node names l m).1, (places_node names l m).2, steps_declared]
    exact ⟨⟨o, ho, .inl left⟩, chain.to_reflTransGen⟩

/-- **An order between two names is direct** if some step leads from the one to the other. -/
theorem Shows.direct_iff (h : d.Shows orders) (names : d.isInteger = false)
    (ne : l.name ≠ m.name) :
    (d.derived r l m).transitive = false ↔ Steps orders true r l.name m.name := by
  obtain ⟨left, right⟩ := places_node names l m
  have apart : ((d.places l m).1 != (d.places l m).2) = true := by
    rw [bne_iff_ne]
    intro same
    exact ne (left.symm.trans ((congrArg Anchor.node same).trans right))
  have edge : ((d.graph r).edge? l.name m.name).isSome = true ↔ Steps orders true r l.name m.name :=
    ((d.graph r).isSome_edge?_iff l.name m.name).trans (h r false l.name m.name)
  rw [← edge, derived, left, right, apart, Bool.true_and]
  cases (d.graph r).edge? l.name m.name <;> simp

/-- The order between two names is declared if it is stated. -/
theorem Shows.declared_iff (h : d.Shows orders) (hl : l.option = d.name) (hm : m.option = d.name) :
    (d.derived r l m).toOrder ∈ d.declaredOrders ↔ Stated orders r l.name m.name := by
  rw [h.mem_declaredOrders]
  exact ⟨And.left, fun stated => ⟨stated, rfl, hl, hm⟩⟩

/-- An order that is explicit and direct rests on a declared order or on a bridge, and not on
both. -/
theorem stated_iff_not_bridged (chain : Relation.TransGen (Stated orders r) l.name m.name)
    (step : Steps orders true r l.name m.name) :
    Stated orders r l.name m.name ↔ ¬ Bridged orders r l.name m.name := by
  constructor
  · intro stated bridged
    exact bridged.1 stated
  · intro unbridged
    by_contra unstated
    obtain ⟨-, induced⟩ := step.resolve_left unstated
    exact unbridged ⟨unstated, induced, chain⟩

/-- **Which direct orders are declared.** After any history of a dimension of names, and for two
different levels: if the order between them is explicit and direct, then it is one of the declared
orders, unless the declarations bridge a longer chain between the two. In a bridged case the order
between them is explicit and direct, and it is none of the declared ones. -/
theorem direct_after (fresh : start.Fresh) (cs : List Call) (names : start.isInteger = false)
    (ne : l ≠ m) :
    (∀ o, (start.after cs).order? r l m = .ok (some o) → o.explicit = true →
      o.transitive = false → (o.toOrder ∈ (start.after cs).declaredOrders ↔
        ¬ Bridged (start.declarations cs) r l.name m.name)) ∧
    (l.option = start.name → m.option = start.name →
      Bridged (start.declarations cs) r l.name m.name →
      ∃ o, (start.after cs).order? r l m = .ok (some o) ∧ o.explicit = true ∧
        o.transitive = false ∧ o.toOrder ∉ (start.after cs).declaredOrders) := by
  have shows := shows_after fresh cs
  obtain ⟨name, integer⟩ := after_frame start cs
  have names' := integer.trans names
  constructor
  · intro o found explicit direct
    obtain ⟨kl, km, ho⟩ := (order?_eq_ok_iff _ r l m _).mp found
    have apart := name_ne kl km ne
    have chain := (shows.explicit_iff names' apart).mp (reach_of_explicit found explicit)
    split at ho
    · obtain rfl := Option.some.inj ho
      have step := (shows.direct_iff names' apart).mp direct
      rw [shows.declared_iff kl.1 km.1]
      exact stated_iff_not_bridged chain step
    · cases ho
  · rintro hl hm ⟨unstated, induced, chain⟩
    have step : Steps (start.declarations cs) true r l.name m.name := .inr ⟨rfl, induced⟩
    obtain ⟨left, right⟩ := step.named
    have kl : (start.after cs).Knows l := ⟨hl.trans name.symm, .inl ((shows.isNode _).mpr left)⟩
    have km : (start.after cs).Knows m := ⟨hm.trans name.symm, .inl ((shows.isNode _).mpr right)⟩
    have apart := name_ne kl km ne
    have reached := (shows.explicit_iff names' apart).mpr chain
    refine ⟨(start.after cs).derived r l m, ?_, reached, (shows.direct_iff names' apart).mpr step, ?_⟩
    · rw [order?_of_knows kl km, if_pos (shows.reach_of_declared reached)]
    · rw [shows.declared_iff kl.1 km.1]
      exact unstated

/-! ### A chain of soundness, bridged by precision -/

open Comparison in
/-- Three orders, by which each level is sounder than the next and the first is more precise than
the last. -/
def bridgeOrders : List Order :=
  [(orderAt "A" .moreSound "B" true false).toOrder,
    (orderAt "B" .moreSound "C" true false).toOrder,
    (orderAt "A" .morePrecise "C" true false).toOrder]

/-- Declares the three orders. -/
def bridgeCalls : List Call :=
  ["A", "B", "C"].map .register ++ bridgeOrders.map fun o => .declare o.relation o.left o.right

def bridge : Dimension := (enumeration "k").after bridgeCalls

theorem declarations_bridge : (enumeration "k").declarations bridgeCalls = bridgeOrders := by
  decide +kernel

/-- Precision induces the step from the first level to the last, and soundness the chain. -/
theorem bridged_bridge :
    Bridged ((enumeration "k").declarations bridgeCalls) .moreSound "A" "C" := by
  rw [declarations_bridge]
  refine ⟨?_, .inl ⟨_, List.mem_of_getElem? (i := 2) rfl, rfl, rfl, rfl⟩, ?_⟩
  · rintro ⟨o, ho, hr, hl, hm⟩
    simp [bridgeOrders, Comparison.orderAt] at ho
    rcases ho with rfl | rfl | rfl <;> simp at hr hl hm
  · exact .head ⟨_, List.mem_of_getElem? (i := 0) rfl, rfl, rfl, rfl⟩
      (.single ⟨_, List.mem_of_getElem? (i := 1) rfl, rfl, rfl, rfl⟩)

theorem direct_after_bridge :
    (Comparison.orderAt "A" .moreSound "B" true false).toOrder ∈ bridge.declaredOrders ∧
      ∃ o, bridge.order? .moreSound ⟨"k", "A"⟩ ⟨"k", "C"⟩ = .ok (some o) ∧ o.explicit = true ∧
        o.transitive = false ∧ o.toOrder ∉ bridge.declaredOrders := by
  have fresh : (enumeration "k").Fresh := .enumeration "k"
  constructor
  · have found : bridge.order? .moreSound ⟨"k", "A"⟩ ⟨"k", "B"⟩ =
        .ok (some (Comparison.orderAt "A" .moreSound "B" true false)) := by decide +kernel
    have stated : Stated ((enumeration "k").declarations bridgeCalls) .moreSound "A" "B" := by
      rw [declarations_bridge]
      exact ⟨_, List.mem_of_getElem? (i := 0) rfl, rfl, rfl, rfl⟩
    exact ((direct_after fresh bridgeCalls rfl (by decide)).1 _ found rfl rfl).mpr
      fun bridged => bridged.1 stated
  · exact (direct_after fresh bridgeCalls rfl (by decide)).2 rfl rfl bridged_bridge

end Dimension

namespace Generator

open Comparison Dimension

theorem declaredOrders_bridge : (spaceOf bridge).declaredOrders = bridgeOrders := by
  have sound : (bridge.graph .moreSound).declaredPairs = [("A", "B"), ("B", "C")] :=
    declaredPairs_of_ascending (by decide +kernel) (by decide +kernel)
  have precise : (bridge.graph .morePrecise).declaredPairs = [("A", "C")] :=
    declaredPairs_of_ascending (by decide +kernel) (by decide +kernel)
  rw [declaredOrders_spaceOf sound precise]
  decide +kernel

/-- The pair that is reported for the two ends of the chain. -/
def bridgePair : Violation :=
  ⟨jobAt "A", jobAt "C", "k",
    [orderAt "A" .moreSound "C" true false, orderAt "C" .morePrecise "A" false true]⟩

/-- **A direct order that nobody declared.** The order between the two ends of the chain is explicit
and direct, and it is none of the declared ones. The pair that is reported for it counts as direct,
and feedback that confirms it retires nothing, so that the next round tests the same order again. -/
theorem undeclared_of_bridge :
    bridge.order? .moreSound ⟨"k", "A"⟩ ⟨"k", "C"⟩ =
        .ok (some (orderAt "A" .moreSound "C" true false)) ∧
      (orderAt "A" .moreSound "C" true false).toOrder ∉ bridge.declaredOrders ∧
      compare (spaceOf bridge) (jobAt "A") (jobAt "C") = .ok (some bridgePair) ∧
      bridgePair.isTransitive = false ∧
      make (spaceOf bridge) ⟨1, 1⟩ ⟨[]⟩ [⟨"p"⟩] = .ok (startOf (spaceOf bridge) bridgeOrders []) ∧
      ((startOf (spaceOf bridge) bridgeOrders []).feedback (fun _ => true) [bridgePair]).2 = 0 := by
  have shows := shows_after (.enumeration "k") bridgeCalls
  refine ⟨?_, ?_, ?_, rfl, make_startOf declaredOrders_bridge [], ?_⟩
  · decide +kernel
  · exact fun declared => bridged_bridge.1 ((shows.declared_iff rfl rfl).mp declared)
  · decide +kernel
  · decide +kernel

end Generator
end OrderTrials
