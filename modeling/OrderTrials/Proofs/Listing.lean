import OrderTrials.Proofs.Generating
import OrderTrials.Proofs.Registering
/-
# What a space lists

A space lists its declared orders in a fixed order: option by option, soundness before precision,
and then by the names of the two levels. The listing is strictly ascending, because between two
names there is at most one edge in each direction (`Graph.Simple`), so it has no repetitions. It
agrees with what the graphs answer: a listed order is found as an explicit order of one step
(`Dimension.Shows.order?_declared`). A space has the options and the orders of its artifact, all of
them and no others (`Artifact.perm_names`, `Space.mem_declaredOrders_iff`).

Key definitions: `Graph.Simple`, `Order.Before`.
Key theorems: `Graph.ascending_declaredPairs`, `Space.ascending_declaredOrders`,
`Dimension.Shows.order?_declared`, `Artifact.nodup_names`, `Artifact.perm_names`,
`Space.mem_declaredOrders_iff`.
-/

namespace OrderTrials

/-! ### Graphs without parallel edges -/

namespace Graph

variable {g : Graph} {a b source target : String}

/-- No two edges lead from one name to one other. -/
def Simple (g : Graph) : Prop :=
  (g.edges.map fun e => (e.source, e.target)).Nodup

theorem simple_empty : empty.Simple := List.nodup_nil

/-- **Inserting an edge again brings none in.** -/
theorem Simple.insert (h : g.Simple) (source target : String) (declared : Bool) :
    (g.insert source target declared).Simple := by
  unfold Graph.insert
  split
  · -- the edges stay, and their ends do
    have ends : (fun e : Edge => (e.source, e.target)) ∘ (fun e =>
        if joins source target e then { e with declared := e.declared || declared } else e) =
        fun e => (e.source, e.target) := by
      funext e
      dsimp only [Function.comp_apply]
      split <;> rfl
    unfold Simple
    rw [List.map_map, ends]
    exact h
  · rename_i absent
    unfold Simple
    rw [List.map_append]
    refine List.nodup_append.mpr ⟨h, List.nodup_singleton _, fun p hp q hq e => ?_⟩
    obtain rfl : q = (source, target) := by simpa using hq
    obtain ⟨edge, mem, rfl⟩ := List.mem_map.mp hp
    obtain ⟨hs, ht⟩ := Prod.mk.inj e
    exact absent (List.any_eq_true.mpr ⟨edge, mem, by simp [joins, hs, ht]⟩)

/-- A step is found as an edge. -/
theorem Step.isSome_edge? {declaredOnly : Bool} (h : g.Step declaredOnly a b) :
    (g.edge? a b).isSome = true := by
  obtain ⟨e, he, hs, ht, -⟩ := h
  exact List.find?_isSome.mpr ⟨e, he, by simp [joins, hs, ht]⟩

/-! ### Pairs in ascending order -/

/-- Pairs of names, strictly ascending by the first name and then by the second. -/
def PairLt (p q : String × String) : Prop := p.1 < q.1 ∨ (p.1 = q.1 ∧ p.2 < q.2)

theorem pairLe_iff (p q : String × String) :
    pairLe p q = true ↔ p.1 < q.1 ∨ (p.1 = q.1 ∧ p.2 ≤ q.2) := by
  simp [pairLe]

theorem pairLe_trans (p q r : String × String) (h : pairLe p q = true) (h' : pairLe q r = true) :
    pairLe p r = true := by
  rw [pairLe_iff] at h h' ⊢
  rcases h with h | ⟨h₁, h₂⟩
  · rcases h' with h' | ⟨h₁', -⟩
    · exact .inl (String.lt_trans h h')
    · exact .inl (h₁' ▸ h)
  · rcases h' with h' | ⟨h₁', h₂'⟩
    · exact .inl (h₁ ▸ h')
    · exact .inr ⟨h₁.trans h₁', String.le_trans h₂ h₂'⟩

theorem pairLe_total (p q : String × String) : (pairLe p q || pairLe q p) = true := by
  rw [Bool.or_eq_true, pairLe_iff, pairLe_iff]
  by_cases same : p.1 = q.1
  · rcases String.le_total p.2 q.2 with h | h
    · exact .inl (.inr ⟨same, h⟩)
    · exact .inr (.inr ⟨same.symm, h⟩)
  · rcases String.le_total p.1 q.1 with h | h
    · exact .inl (.inl (Std.lt_of_le_of_ne h same))
    · exact .inr (.inl (Std.lt_of_le_of_ne h (Ne.symm same)))

theorem pairLt_of_le_of_ne {p q : String × String} (h : pairLe p q = true) (ne : p ≠ q) :
    PairLt p q := by
  rcases (pairLe_iff p q).mp h with h | ⟨h₁, h₂⟩
  · exact .inl h
  · exact .inr ⟨h₁, Std.lt_of_le_of_ne h₂ fun same => ne (Prod.ext h₁ same)⟩

/-- **The ends of the declared edges are strictly ascending.** -/
theorem ascending_declaredPairs (h : g.Simple) : g.declaredPairs.Pairwise PairLt := by
  have sorted : g.declaredPairs.Pairwise fun p q => pairLe p q = true :=
    List.pairwise_mergeSort pairLe_trans pairLe_total _
  have distinct : g.declaredPairs.Nodup :=
    (List.mergeSort_perm _ _).nodup_iff.mpr (h.sublist (List.filter_sublist.map _))
  exact sorted.imp₂ (fun _ _ => pairLt_of_le_of_ne) distinct

end Graph

/-! ### Orders in ascending order -/

namespace Order

/-- Orders are listed by option, then soundness before precision, then by the names of the left
and of the right level. -/
def Before (o o' : Order) : Prop :=
  o.option < o'.option ∨ (o.option = o'.option ∧
    ((o.relation = .moreSound ∧ o'.relation = .morePrecise) ∨
      (o.relation = o'.relation ∧
        Graph.PairLt (o.left.name, o.right.name) (o'.left.name, o'.right.name))))

theorem not_before_self (o : Order) : ¬ o.Before o := by
  rintro (h | ⟨-, ⟨hs, hp⟩ | ⟨-, h | ⟨-, h⟩⟩⟩)
  · exact String.lt_irrefl _ h
  · rw [hs] at hp
    cases hp
  · exact String.lt_irrefl _ h
  · exact String.lt_irrefl _ h

end Order

namespace Dimension

variable {d d' : Dimension} {orders : List Order} {o : Order}

/-- Both graphs are without parallel edges. -/
def Simple (d : Dimension) : Prop := ∀ r, (d.graph r).Simple

theorem Simple.of_graphs (h : d.Simple) (hs : d'.soundness = d.soundness)
    (hp : d'.precision = d.precision) : d'.Simple := by
  intro r
  have same : d'.graph r = d.graph r := by cases r <;> simp only [graph, hs, hp]
  exact same ▸ h r

/-- A call brings no parallel edges in. -/
theorem Simple.run (h : d.Simple) {c : Call} (hc : c.run d = .ok d') : d'.Simple := by
  cases c with
  | register level =>
    obtain rfl := Except.ok.inj hc
    obtain ⟨-, -, hs, hp⟩ := register_frame d level
    exact h.of_graphs hs hp
  | setDefault raw =>
    obtain ⟨-, -, hs, hp⟩ := setDefault_frame hc
    exact h.of_graphs hs hp
  | declare r a b =>
    obtain ⟨-, -, -, changed⟩ := declare_ok hc
    have sound := h .moreSound
    have precise := h .morePrecise
    intro r'
    cases r <;> obtain ⟨h₁, h₂⟩ := changed <;> cases r' <;> simp only [graph, h₁, h₂]
    · exact sound.insert _ _ _
    · exact precise.insert _ _ _
    · exact (sound.insert _ _ _).insert _ _ _
    · exact precise.insert _ _ _

/-- **The declared orders of a dimension are strictly ascending.** -/
theorem ascending_declaredOrders (h : d.Simple) : d.declaredOrders.Pairwise Order.Before := by
  have ofRelation (r : Relation) : ((d.graph r).declaredPairs.map fun p =>
      (⟨⟨d.name, p.1⟩, r, ⟨d.name, p.2⟩, d.name⟩ : Order)).Pairwise Order.Before := by
    rw [List.pairwise_map]
    exact (Graph.ascending_declaredPairs (h r)).imp fun less => .inr ⟨rfl, .inr ⟨rfl, less⟩⟩
  rw [declaredOrders, List.pairwise_flatMap]
  refine ⟨fun r _ => ofRelation r, ?_⟩
  simp only [List.pairwise_cons, List.mem_singleton, List.not_mem_nil, forall_eq, false_implies,
    implies_true, List.Pairwise.nil, and_true, List.mem_map]
  rintro _ ⟨p, -, rfl⟩ _ ⟨q, -, rfl⟩
  exact .inr ⟨rfl, .inl ⟨rfl, rfl⟩⟩

/-- Nodes stand at their own names. -/
theorem places_of_nodes {a b : Level} (ha : d.isNode a.name = true) (hb : d.isNode b.name = true) :
    d.places a b = (.ofNode a.name, .ofNode b.name) := by
  have place {l : Level} (hl : d.isNode l.name = true) : d.place l = (.ofNode l.name, none) := by
    rw [Dimension.place, if_pos hl]
  rw [places, place ha, place hb]

/-- **A listed order is found** as an explicit order of one step. -/
theorem Shows.order?_declared (h : d.Shows orders) (ho : o ∈ d.declaredOrders) :
    d.reach o.relation o.left o.right false = true ∧
      d.derived o.relation o.left o.right = ⟨o, true, false⟩ ∧
      d.order? o.relation o.left o.right = .ok (some ⟨o, true, false⟩) := by
  obtain ⟨step, option, -, -⟩ := (d.mem_declaredOrders o).mp ho
  have stated : Steps orders false o.relation o.left.name o.right.name := (h _ true _ _).mp step
  obtain ⟨left, right⟩ := stated.named
  have places := places_of_nodes ((h.isNode _).mpr left) ((h.isNode _).mpr right)
  have reached : d.reach o.relation o.left o.right false = true := by
    rw [h.reach_iff, places]
    simp only [Anchor.node_ofNode]
    exact ⟨left, .single stated⟩
  have derived : d.derived o.relation o.left o.right = ⟨o, true, false⟩ := by
    have found := step.isSome_edge?
    simp only [Dimension.derived, reached, places, Anchor.node_ofNode,
      Option.isNone_eq_false_iff.mpr found, Bool.and_false, ← option]
  obtain ⟨ka, kb⟩ := h.knows_sides ho
  refine ⟨reached, derived, ?_⟩
  rw [order?_of_knows ka kb, if_pos (h.reach_of_declared reached), derived]

end Dimension

/-! ### The options of an artifact -/

namespace Artifact

variable {a : Artifact} {s s' : Space}

theorem absent_of_add {d : Dimension} (h : s.add d = .ok s') : s.dimension? d.name = none := by
  unfold Space.add at h
  split at h
  · cases h
  · rename_i absent
    simpa [Table.contains, Space.dimension?] using absent

/-- Options that are added one after the other have different names, and names that are new. -/
theorem names_of_foldlM (es : List OptionEntry) {s s' : Space}
    (h : es.foldlM (fun s e => do s.add (← e.build)) s = .ok s') :
    (es.map (·.name)).Nodup ∧ ∀ e ∈ es, s.dimension? e.name = none := by
  induction es generalizing s with
  | nil => exact ⟨List.nodup_nil, nofun⟩
  | cons e es ih =>
    rw [List.foldlM_cons] at h
    obtain ⟨next, he, h⟩ := (bind_eq_ok_iff _ _ _).mp h
    obtain ⟨d, hbuild, hadd⟩ := (bind_eq_ok_iff _ _ _).mp he
    have hname : d.name = e.name := (OptionEntry.shows_of_build hbuild).2.1
    obtain ⟨nodup, new⟩ := ih h
    constructor
    · refine List.nodup_cons.mpr ⟨fun mem => ?_, nodup⟩
      obtain ⟨e', he', same⟩ := List.mem_map.mp mem
      have there := (add_ok hadd e'.name d).mpr (.inr ⟨hname.trans same.symm, rfl⟩)
      exact absurd (there.symm.trans (new e' he')) (by simp)
    · intro e' he'
      rcases List.mem_cons.mp he' with rfl | he'
      · exact hname ▸ absent_of_add hadd
      · refine Option.eq_none_iff_forall_ne_some.mpr fun d' hd' => ?_
        have there := (add_ok hadd e'.name d').mpr (.inl hd')
        exact absurd (there.symm.trans (new e' he')) (by simp)

/-- **The options of an artifact that builds have different names.** -/
theorem nodup_names (h : a.build = .ok s) : (a.options.map (·.name)).Nodup :=
  (names_of_foldlM a.options h).1

/-- **A space has the options of its artifact,** each once. -/
theorem perm_names (h : a.build = .ok s) : s.dimensions.keys.Perm (a.options.map (·.name)) := by
  rw [List.perm_ext_iff_of_nodup s.dimensions.nodup_keys (nodup_names h)]
  intro k
  have found (d : Dimension) := dimension?_iff h k d
  rw [Table.mem_keys_iff, Option.isSome_iff_exists, List.mem_map]
  constructor
  · rintro ⟨d, hd⟩
    obtain ⟨e, he, hk, -⟩ := (found d).mp hd
    exact ⟨e, he, hk⟩
  · rintro ⟨e, he, hk⟩
    obtain ⟨d, hd⟩ := build_of_mem a.options h he
    exact ⟨d, (found d).mpr ⟨e, he, hk, hd⟩⟩

end Artifact

/-! ### The orders of a space -/

namespace Space

variable {s : Space} {text name : String} {d : Dimension} {a : Artifact} {o : Order}

theorem simple_of_text (accepted : ofText text = .ok s) (h : s.dimension? name = some d) :
    d.Simple := by
  obtain ⟨-, -, e, -, -, built⟩ := exists_build accepted h
  obtain ⟨blank, hblank, hrun⟩ := OptionEntry.run_calls built
  refine invariant_of_foldlM (fun _ _ _ _ simple made => Dimension.Simple.run simple made)
    (fun r => ?_) hrun
  have empty : Dimension.graph { blank with tags := e.tags } r = .empty := by
    rw [← (OptionEntry.blank_ok hblank).1.graph_eq r]
    cases r <;> rfl
  exact empty ▸ Graph.simple_empty

/-- **The declared orders of a space are strictly ascending.** -/
theorem ascending_declaredOrders (accepted : ofText text = .ok s) :
    s.declaredOrders.Pairwise Order.Before := by
  rw [declaredOrders, List.pairwise_flatMap]
  constructor
  · intro d hd
    obtain ⟨k, hk⟩ := (s.mem_values_iff d).mp hd
    exact Dimension.ascending_declaredOrders (simple_of_text accepted hk)
  · have named {e : String × Dimension} (he : e ∈ s.dimensions.entries) : e.2.name = e.1 :=
      wellNamed_of_text accepted e.1 e.2 ((Table.get?_eq_some_iff _).mpr he)
    rw [Table.values, List.pairwise_map]
    refine s.dimensions.ascending.imp_of_mem fun he he' less o ho o' ho' => .inl ?_
    rw [((Dimension.mem_declaredOrders _ o).mp ho).2.1,
      ((Dimension.mem_declaredOrders _ o').mp ho').2.1, named he, named he']
    exact less

/-- The declared orders of the dimension of an option are those that the option declares. -/
theorem mem_declaredOrders_entry {e : OptionEntry} (shows : d.Shows e.declared)
    (hname : d.name = e.name) : o ∈ d.declaredOrders ↔ o ∈ e.declared := by
  rw [shows.mem_declaredOrders, hname]
  constructor
  · rintro ⟨⟨o', ho', relation, left, right⟩, option, leftOption, rightOption⟩
    obtain ⟨entry, he, rfl⟩ := List.mem_map.mp ho'
    obtain ⟨⟨_, _⟩, _, ⟨_, _⟩, _⟩ := o
    dsimp only at relation left right option leftOption rightOption
    subst relation left right option leftOption rightOption
    exact ho'
  · intro ho
    obtain ⟨entry, -, rfl⟩ := List.mem_map.mp ho
    exact ⟨⟨_, ho, rfl, rfl, rfl⟩, rfl, rfl, rfl⟩

/-- **The declared orders of a space** are those that the options of its artifact declare. -/
theorem mem_declaredOrders_iff (built : a.build = .ok s) :
    o ∈ s.declaredOrders ↔ ∃ e ∈ a.options, o ∈ e.declared := by
  rw [s.mem_declaredOrders o]
  constructor
  · rintro ⟨k, d, hd, ho⟩
    obtain ⟨e, he, -, hbuild⟩ := (Artifact.dimension?_iff built k d).mp hd
    obtain ⟨shows, hname, -⟩ := OptionEntry.shows_of_build hbuild
    exact ⟨e, he, (mem_declaredOrders_entry shows hname).mp ho⟩
  · rintro ⟨e, he, ho⟩
    obtain ⟨d, hbuild⟩ := Artifact.build_of_mem a.options built he
    obtain ⟨shows, hname, -⟩ := OptionEntry.shows_of_build hbuild
    exact ⟨e.name, d, (Artifact.dimension?_iff built e.name d).mpr ⟨e, he, rfl, hbuild⟩,
      (mem_declaredOrders_entry shows hname).mpr ho⟩

/-- **The declared orders of a space are without repetitions.** -/
theorem nodup_declaredOrders (accepted : ofText text = .ok s) : s.declaredOrders.Nodup := by
  refine (ascending_declaredOrders accepted).imp fun {o o'} before same => ?_
  obtain rfl : o = o' := same
  exact o.not_before_self before

/-! ### An option of integers -/

/-- An option of integers, with an order from a number to a placeholder. -/
def digits : OptionEntry :=
  ⟨"n", true, [], some 0, some 9, some "5", [], [⟨.moreSound, "7", "i"⟩]⟩

/-- The text of an artifact with that option. -/
def digitsText : String :=
  "\x7b\"name\":\"t\",\"options\":[\x7b\"name\":\"n\",\"type\":\"integer\"," ++
    "\"minValue\":0,\"maxValue\":9,\"default\":5,\"orders\":[" ++
    "\x7b\"order\":\"MST\",\"left\":7,\"right\":\"i\"\x7d]\x7d]\x7d"

/-- The dimension of the option. -/
def digitsDimension : Dimension :=
  Dimension.after ⟨"n", true, some 0, some 9, [], none, [], .empty, .empty⟩ digits.calls

/-- The space that the text describes. -/
def digitsSpace : Space := Comparison.spaceOf digitsDimension

theorem read_digitsText : Artifact.read? digitsText = some ⟨"t", [digits]⟩ := by
  decide +kernel

theorem ofText_digitsText : ofText digitsText = .ok digitsSpace :=
  (ofText_eq_ok_iff _ _).mpr ⟨_, read_digitsText, by decide +kernel⟩

theorem dimension?_digitsSpace : digitsSpace.dimension? "n" = some digitsDimension := by
  decide +kernel

end Space
end OrderTrials
