import OrderTrials.Proofs.History
import OrderTrials.Space.Artifact
/-
# What an artifact declares

An option of an artifact is built by calls, none of which may fail: its names are registered, its
default is chosen, and its orders are declared one after the other. So the graphs of the dimension
show exactly the orders of the option (`OptionEntry.shows_of_build`), and a space has the
dimensions of the options of its artifact, each under its name (`Artifact.dimension?_iff`).

Key definitions: `OptionEntry.declared`, `OptionEntry.calls`.
Key theorems: `OptionEntry.run_calls`, `OptionEntry.shows_of_build`, `Artifact.dimension?_iff`,
`Space.exists_build`, `Space.exists_entry`, `Space.dimension?_of_entry`.
-/

namespace OrderTrials

namespace Dimension

/-- The call that declares an order. -/
def Call.ofOrder (o : Order) : Call := .declare o.relation o.left o.right

variable {d d' start : Dimension}

/-- Where no call fails, each of them counts: they lead to the result, and all their orders are
declared. -/
theorem after_of_ok {cs : List Call} (h : cs.foldlM (fun d c => c.run d) d = .ok d') :
    d.after cs = d' ∧ d.declarations cs = cs.filterMap (Call.order? d.name) := by
  induction cs generalizing d with
  | nil => exact ⟨Except.ok.inj h, rfl⟩
  | cons c cs ih =>
    rw [List.foldlM_cons] at h
    obtain ⟨next, hc, h⟩ := (bind_eq_ok_iff _ _ _).mp h
    obtain ⟨hafter, hdec⟩ := ih h
    have hcall : d.call c = next := call_of_ok hc
    constructor
    · change (d.call c).after cs = d'
      rw [hcall, hafter]
    · rw [declarations, hcall, hdec, (Call.run_frame hc).1, Call.declares, hc]
      simp only [List.filterMap_cons]
      cases Call.order? d.name c <;> rfl

theorem run_registers (d : Dimension) (names : List String) :
    (names.map Call.register).foldlM (fun d c => c.run d) d = .ok (names.foldl register d) := by
  induction names generalizing d with
  | nil => rfl
  | cons n names ih => exact ih (d.register n)

end Dimension

namespace OptionEntry

open Dimension

variable {e : OptionEntry} {d : Dimension}

/-- The orders that an option declares, between levels of its own. -/
def declared (e : OptionEntry) : List Order :=
  e.orders.map fun o => ⟨⟨e.name, o.left⟩, o.relation, ⟨e.name, o.right⟩, e.name⟩

/-- The calls that build the dimension of an option. -/
def calls (e : OptionEntry) : List Call :=
  e.registeredNames.map .register ++
    ((e.default?.map Call.setDefault).toList ++ e.declared.map Call.ofOrder)

theorem orders_calls (e : OptionEntry) : e.calls.filterMap (Call.order? e.name) = e.declared := by
  have registers : (e.registeredNames.map Call.register).filterMap (Call.order? e.name) = [] := by
    simp [List.filterMap_map, Call.order?]
  have default : (e.default?.map Call.setDefault).toList.filterMap (Call.order? e.name) = [] := by
    cases e.default? <;> rfl
  have orders : (e.declared.map Call.ofOrder).filterMap (Call.order? e.name) = e.declared := by
    rw [declared, List.filterMap_map, List.filterMap_map]
    exact congrFun List.filterMap_eq_map e.orders
  rw [calls, List.filterMap_append, List.filterMap_append, registers, default, orders]
  rfl

/-- The dimension of an option before any call. -/
theorem blank_ok (h : e.blank = .ok d) : d.Fresh ∧ d.name = e.name ∧ d.isInteger = e.isInteger := by
  unfold blank at h
  by_cases hi : e.isInteger = true
  · rw [if_pos hi] at h
    split at h
    · rename_i least greatest _ _
      refine ⟨.integer h, ?_⟩
      unfold Dimension.integer at h
      split at h
      · exact absurd h (by simp)
      · obtain rfl := Except.ok.inj h
        exact ⟨rfl, hi.symm⟩
    · exact absurd h (by simp)
  · rw [if_neg hi] at h
    obtain rfl := Except.ok.inj h
    exact ⟨.enumeration e.name, rfl, (Bool.not_eq_true _ ▸ hi).symm⟩

/-- Declaring the orders of an option is making the calls that declare them. -/
theorem run_orders (name : String) (os : List OrderEntry) {start : Dimension}
    (hname : start.name = name) (h : os.foldlM declare start = .ok d) :
    (os.map fun o => Call.declare o.relation ⟨name, o.left⟩ ⟨name, o.right⟩).foldlM
      (fun d c => c.run d) start = .ok d := by
  induction os generalizing start with
  | nil => exact h
  | cons o os ih =>
    rw [List.foldlM_cons] at h
    obtain ⟨next, ho, h⟩ := (bind_eq_ok_iff _ _ _).mp h
    unfold OptionEntry.declare at ho
    rw [hname] at ho
    have run : (Call.declare o.relation ⟨name, o.left⟩ ⟨name, o.right⟩).run start = .ok next := ho
    rw [List.map_cons, List.foldlM_cons, bind_eq_ok_iff]
    exact ⟨next, run, ih ((Call.run_frame run).1.trans hname) h⟩

/-- **An option is built by its calls,** of which none fails. -/
theorem run_calls (h : e.build = .ok d) :
    ∃ blank, e.blank = .ok blank ∧
      e.calls.foldlM (fun d c => c.run d) { blank with tags := e.tags } = .ok d := by
  unfold build at h
  obtain ⟨blank, hblank, h⟩ := (bind_eq_ok_iff _ _ _).mp h
  refine ⟨blank, hblank, ?_⟩
  cases hdefault : e.default? with
  | none => simp [hdefault, throw, throwThe, MonadExceptOf.throw] at h
  | some raw =>
    simp only [hdefault] at h
    obtain ⟨chosen, hset, h⟩ := (bind_eq_ok_iff _ _ _).mp h
    have registers := run_registers { blank with tags := e.tags } e.registeredNames
    have default : [Call.setDefault raw].foldlM (fun d c => c.run d)
        (e.registeredNames.foldl register { blank with tags := e.tags }) = .ok chosen := by
      rw [List.foldlM_cons, bind_eq_ok_iff]
      exact ⟨chosen, hset, rfl⟩
    have hchosen : chosen.name = e.name := by
      rw [(setDefault_frame hset).1, ← (after_of_ok registers).1, (after_frame _ _).1]
      exact (blank_ok hblank).2.1
    have orders := run_orders e.name e.orders hchosen h
    rw [calls, hdefault, List.foldlM_append, bind_eq_ok_iff]
    refine ⟨_, registers, ?_⟩
    rw [List.foldlM_append, bind_eq_ok_iff]
    refine ⟨chosen, default, ?_⟩
    rw [declared, List.map_map]
    exact orders

/-- **The graphs show the orders of the option** and nothing else. -/
theorem shows_of_build (h : e.build = .ok d) :
    d.Shows e.declared ∧ d.name = e.name ∧ d.isInteger = e.isInteger := by
  obtain ⟨blank, hblank, hrun⟩ := run_calls h
  obtain ⟨fresh, hname, hint⟩ := blank_ok hblank
  obtain ⟨hafter, hdec⟩ := after_of_ok hrun
  have hframe := after_frame { blank with tags := e.tags } e.calls
  rw [hafter] at hframe
  have shows : Dimension.Shows { blank with tags := e.tags } [] := fresh.shows.of_graphs rfl rfl
  have hshows := shows.after e.calls
  rw [hafter, hdec, hname, orders_calls, List.nil_append] at hshows
  exact ⟨hshows, hframe.1.trans hname, hframe.2.trans hint⟩

end OptionEntry

namespace Artifact

variable {a : Artifact} {s s' : Space}

theorem add_ok {d : Dimension} (h : s.add d = .ok s') (k : String) (d' : Dimension) :
    s'.dimension? k = some d' ↔ s.dimension? k = some d' ∨ (d.name = k ∧ d = d') := by
  unfold Space.add at h
  by_cases hc : s.dimensions.contains d.name = true
  · rw [if_pos hc] at h
    exact absurd h (by simp)
  · rw [if_neg hc] at h
    obtain rfl := Except.ok.inj h
    have absent : s.dimension? d.name = none := by
      simpa [Table.contains, Space.dimension?] using hc
    by_cases hk : d.name = k
    · subst hk
      rw [absent]
      simp [Space.dimension?]
    · have : (s.dimensions.insert d.name d).get? k = s.dimensions.get? k :=
        Table.get?_insert_of_ne _ d (Ne.symm hk)
      simp [Space.dimension?, this, hk]

theorem foldlM_ok (es : List OptionEntry) {s s' : Space}
    (h : es.foldlM (fun s e => do s.add (← e.build)) s = .ok s') (k : String) (d : Dimension) :
    s'.dimension? k = some d ↔
      s.dimension? k = some d ∨ ∃ e ∈ es, e.name = k ∧ e.build = .ok d := by
  induction es generalizing s with
  | nil =>
    obtain rfl := Except.ok.inj h
    simp
  | cons e es ih =>
    rw [List.foldlM_cons] at h
    obtain ⟨next, he, h⟩ := (bind_eq_ok_iff _ _ _).mp h
    obtain ⟨d₀, hbuild, hadd⟩ := (bind_eq_ok_iff _ _ _).mp he
    rw [ih h, add_ok hadd, (OptionEntry.shows_of_build hbuild).2.1]
    simp only [List.mem_cons, exists_eq_or_imp, hbuild, Except.ok.injEq, or_assoc]

/-- **The dimensions of a space** are those of the options of its artifact, each under its name. -/
theorem dimension?_iff (h : a.build = .ok s) (k : String) (d : Dimension) :
    s.dimension? k = some d ↔ ∃ e ∈ a.options, e.name = k ∧ e.build = .ok d := by
  rw [foldlM_ok a.options h]
  simp [Space.empty, Space.dimension?, Table.empty, Table.get?]

/-- No option of an artifact that builds is at fault. -/
theorem build_of_mem (es : List OptionEntry) {s s' : Space}
    (h : es.foldlM (fun s e => do s.add (← e.build)) s = .ok s') {e : OptionEntry} (he : e ∈ es) :
    ∃ d, e.build = .ok d := by
  induction es generalizing s with
  | nil => exact absurd he List.not_mem_nil
  | cons e' es ih =>
    rw [List.foldlM_cons] at h
    obtain ⟨next, he', h⟩ := (bind_eq_ok_iff _ _ _).mp h
    rcases List.mem_cons.mp he with rfl | he
    · obtain ⟨d, hd, -⟩ := (bind_eq_ok_iff _ _ _).mp he'
      exact ⟨d, hd⟩
    · exact ih h he

end Artifact

namespace Space

variable {s : Space} {text name : String} {d : Dimension}

theorem dimension_eq_ok_iff (s : Space) (name : String) (d : Dimension) :
    s.dimension name = .ok d ↔ s.dimension? name = some d := by
  unfold Space.dimension
  cases s.dimension? name <;> simp

theorem ofText_eq_ok_iff (text : String) (s : Space) :
    ofText text = .ok s ↔ ∃ a, Artifact.read? text = some a ∧ a.build = .ok s := by
  unfold ofText
  cases Artifact.read? text <;> simp

/-- **Each dimension is built from an option** of the artifact. -/
theorem exists_build (accepted : ofText text = .ok s) (h : s.dimension? name = some d) :
    ∃ a, Artifact.read? text = some a ∧ ∃ e ∈ a.options, e.name = name ∧ e.build = .ok d := by
  obtain ⟨a, hread, hbuild⟩ := (ofText_eq_ok_iff text s).mp accepted
  exact ⟨a, hread, (Artifact.dimension?_iff hbuild name d).mp h⟩

/-- **Each dimension shows the orders of an option** of the artifact. -/
theorem exists_entry (accepted : ofText text = .ok s) (h : s.dimension? name = some d) :
    ∃ a, Artifact.read? text = some a ∧ ∃ e ∈ a.options, e.name = name ∧
      d.Shows e.declared ∧ d.name = name ∧ d.isInteger = e.isInteger := by
  obtain ⟨a, hread, e, he, rfl, built⟩ := exists_build accepted h
  exact ⟨a, hread, e, he, rfl, OptionEntry.shows_of_build built⟩

/-- **Each option of the artifact** has a dimension, which shows its orders. -/
theorem dimension?_of_entry (accepted : ofText text = .ok s) {a : Artifact}
    (read : Artifact.read? text = some a) {e : OptionEntry} (he : e ∈ a.options) :
    ∃ d, s.dimension? e.name = some d ∧ d.Shows e.declared ∧ d.name = e.name ∧
      d.isInteger = e.isInteger := by
  obtain ⟨a', hread, hbuild⟩ := (ofText_eq_ok_iff text s).mp accepted
  obtain rfl : a = a' := Option.some.inj (read.symm.trans hread)
  obtain ⟨d, hd⟩ := Artifact.build_of_mem a.options hbuild he
  exact ⟨d, (Artifact.dimension?_iff hbuild e.name d).mpr ⟨e, he, rfl, hd⟩,
    OptionEntry.shows_of_build hd⟩

end Space

end OrderTrials
