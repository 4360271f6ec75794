import OrderTrials.Proofs.Declarations
/-
# The history of a dimension

A dimension is reached from one without levels by calls, in any number and order. A call that
fails leaves it as it was. Each call adds the orders that it declares to those that the graphs
show (`Dimension.shows_call`), so after any history the graphs show exactly the declarations that
succeeded (`Dimension.shows_after`), and an answer depends on which these are alone
(`Dimension.holds_after`).

Key definitions: `Dimension.Call`, `Dimension.after`, `Dimension.declarations`, `Dimension.Fresh`.
Key theorems: `Dimension.shows_call`, `Dimension.shows_after`, `Dimension.holds_after`.
-/

namespace OrderTrials
namespace Dimension

/-- A call that shapes a dimension. -/
inductive Call where
  | register (level : String)
  | setDefault (raw : String)
  | declare (relation : Relation) (left right : Level)
deriving DecidableEq

/-- What a call makes of a dimension. -/
def Call.run : Call → Dimension → Except SpaceError Dimension
  | .register level, d => .ok (d.register level)
  | .setDefault raw, d => d.setDefault raw
  | .declare r a b, d => d.declare r a b

/-- The order that a call states on a dimension of a name, if it is a declaration. -/
def Call.order? (name : String) : Call → Option Order
  | .declare r a b => some ⟨a, r, b, name⟩
  | _ => none

/-- The orders that a call declares: its own, if it succeeds. -/
def Call.declares (c : Call) (d : Dimension) : List Order :=
  match c.run d with
  | .ok _ => (c.order? d.name).toList
  | .error _ => []

/-- The dimension after a call; a call that fails leaves it as it was. -/
def call (d : Dimension) (c : Call) : Dimension :=
  match c.run d with
  | .ok d' => d'
  | .error _ => d

/-- The dimension after a list of calls. -/
def after (d : Dimension) (cs : List Call) : Dimension := cs.foldl call d

/-- The orders that a list of calls declares. -/
def declarations (d : Dimension) : List Call → List Order
  | [] => []
  | c :: cs => c.declares d ++ (d.call c).declarations cs

/-- The calls of a list that succeed. -/
def successes (d : Dimension) : List Call → List Call
  | [] => []
  | c :: cs =>
    match c.run d with
    | .ok d' => c :: d'.successes cs
    | .error _ => d.successes cs

/-- A dimension before any call. -/
inductive Fresh : Dimension → Prop where
  | enumeration (name : String) : Fresh (enumeration name)
  | integer {name : String} {least greatest : Int} {d : Dimension} :
      integer name least greatest = .ok d → Fresh d

variable {d d' start : Dimension} {orders : List Order}

/-! ### What a call keeps -/

theorem register_frame (d : Dimension) (level : String) :
    (d.register level).name = d.name ∧ (d.register level).isInteger = d.isInteger ∧
      (d.register level).soundness = d.soundness ∧ (d.register level).precision = d.precision := by
  unfold register
  split <;> exact ⟨rfl, rfl, rfl, rfl⟩

theorem setDefault_ok {raw : String} (h : d.setDefault raw = .ok d') :
    ∃ l, d.level raw = .ok l ∧ d' = { d.register l.name with default? := some l.name } := by
  unfold setDefault at h
  obtain ⟨l, hl, h⟩ := (bind_eq_ok_iff _ _ _).mp h
  exact ⟨l, hl, (Except.ok.inj h).symm⟩

theorem setDefault_frame {raw : String} (h : d.setDefault raw = .ok d') :
    d'.name = d.name ∧ d'.isInteger = d.isInteger ∧ d'.soundness = d.soundness ∧
      d'.precision = d.precision := by
  obtain ⟨l, -, rfl⟩ := setDefault_ok h
  exact register_frame d l.name

/-- A call keeps the name of the dimension and whether it is one of integers. -/
theorem Call.run_frame {c : Call} (h : c.run d = .ok d') :
    d'.name = d.name ∧ d'.isInteger = d.isInteger := by
  cases c with
  | register level =>
    obtain rfl := Except.ok.inj h
    exact ⟨(register_frame d level).1, (register_frame d level).2.1⟩
  | setDefault raw => exact ⟨(setDefault_frame h).1, (setDefault_frame h).2.1⟩
  | declare r a b =>
    rw [(declare_ok h).2.2.1]
    exact ⟨rfl, rfl⟩

theorem call_of_ok {c : Call} (h : c.run d = .ok d') : d.call c = d' := by
  simp only [call, h]

theorem call_frame (d : Dimension) (c : Call) :
    (d.call c).name = d.name ∧ (d.call c).isInteger = d.isInteger := by
  cases h : c.run d with
  | ok d' => exact call_of_ok h ▸ Call.run_frame h
  | error e => simp only [call, h, and_self]

theorem after_frame (d : Dimension) (cs : List Call) :
    (d.after cs).name = d.name ∧ (d.after cs).isInteger = d.isInteger := by
  induction cs generalizing d with
  | nil => exact ⟨rfl, rfl⟩
  | cons c cs ih => exact ⟨(ih _).1.trans (call_frame d c).1, (ih _).2.trans (call_frame d c).2⟩

/-! ### What the graphs show -/

/-- Before any call the graphs are empty. -/
theorem Fresh.graph_eq (h : start.Fresh) (r : Relation) : start.graph r = .empty := by
  cases h with
  | enumeration name => cases r <;> rfl
  | integer hi =>
    unfold Dimension.integer at hi
    split at hi
    · exact absurd hi (by simp)
    · obtain rfl := Except.ok.inj hi
      cases r <;> rfl

theorem Fresh.shows (h : start.Fresh) : start.Shows [] := by
  have none (i : Bool) (r : Relation) (a b : String) : ¬ Steps [] i r a b := by
    intro hs
    obtain ⟨o, ho, -⟩ := hs.named.1
    exact absurd ho List.not_mem_nil
  intro r o a b
  rw [h.graph_eq r]
  exact ⟨fun hs => absurd hs (Graph.not_step_empty o a b), fun hs => absurd hs (none _ r a b)⟩

/-- **One call.** The graphs show the orders of before and what the call declares. -/
theorem shows_call (h : d.Shows orders) (c : Call) :
    (d.call c).Shows (orders ++ c.declares d) := by
  unfold call Call.declares
  cases hc : c.run d with
  | error e => simpa using h
  | ok d' =>
    cases c with
    | register level =>
      obtain rfl := Except.ok.inj hc
      obtain ⟨-, -, hs, hp⟩ := register_frame d level
      simpa [Call.order?] using h.of_graphs hs hp
    | setDefault raw =>
      obtain ⟨-, -, hs, hp⟩ := setDefault_frame hc
      simpa [Call.order?] using h.of_graphs hs hp
    | declare r a b => exact h.declare hc

/-- **Any history.** The graphs show the orders of before and all that was declared since. -/
theorem Shows.after (h : d.Shows orders) (cs : List Call) :
    (d.after cs).Shows (orders ++ d.declarations cs) := by
  induction cs generalizing d orders with
  | nil => simpa [Dimension.after, declarations] using h
  | cons c cs ih =>
    rw [declarations, ← List.append_assoc]
    exact ih (shows_call h c)

theorem shows_after (fresh : start.Fresh) (cs : List Call) :
    (start.after cs).Shows (start.declarations cs) := by
  simpa using fresh.shows.after cs

/-- Calls that fail leave no trace: without them the dimension is the same. -/
theorem after_successes (d : Dimension) (cs : List Call) :
    d.after (d.successes cs) = d.after cs := by
  induction cs generalizing d with
  | nil => rfl
  | cons c cs ih =>
    have hcall : d.after (c :: cs) = (d.call c).after cs := rfl
    rw [successes, hcall]
    cases hc : c.run d with
    | error e => rw [show d.call c = d by simp only [call, hc], ih]
    | ok d' =>
      rw [call_of_ok hc, ← ih d']
      change (d.call c).after _ = _
      rw [call_of_ok hc]

/-! ### Answers -/

/-- Two dimensions with the same named levels, both of integers or neither, place levels alike. -/
theorem places_congr (hi : d.isInteger = d'.isInteger)
    (hn : ∀ n, d.isNode n = true ↔ d'.isNode n = true) (a b : Level) :
    d.places a b = d'.places a b := by
  have hp (l : Level) : d.place l = d'.place l := by
    have hv : d.integerValue? l = d'.integerValue? l := by rw [integerValue?, integerValue?, hi]
    simp only [place, hv, hn]
  simp only [places, hp]

/-- **The graphs mean the declarations.** After any history, and for levels that have places, a
relation holds if and only if the place of the first level is named by a declaration and a chain
of steps, possibly of none, leads from it to the place of the second: declared steps, or with
`induced` also those that declarations induce. Any other history with the same declarations gives
the same answers, and the calls that fail can be left out. -/
theorem holds_after (fresh : start.Fresh) (cs : List Call) (r : Relation) (a b : Level)
    {ra rb : Anchor} (resolved : (start.after cs).anchors a b = .ok (ra, rb)) :
    (∀ induced, ∃ v, (start.after cs).holds r a b induced = .ok v ∧
      (v = true ↔ Named (start.declarations cs) ra.node ∧
        Relation.ReflTransGen (Steps (start.declarations cs) induced r) ra.node rb.node)) ∧
    (∀ cs', (∀ o, o ∈ start.declarations cs' ↔ o ∈ start.declarations cs) →
      (∃ p, (start.after cs').anchors a b = .ok p) → ∀ induced,
        (start.after cs').holds r a b induced = (start.after cs).holds r a b induced) ∧
    start.after (start.successes cs) = start.after cs := by
  obtain ⟨ka, kb, hp⟩ := (anchors_eq_ok_iff _ a b _).mp resolved
  have shown := shows_after fresh cs
  refine ⟨fun induced => ?_, fun cs' same known induced => ?_, after_successes start cs⟩
  · refine ⟨_, holds_of_knows ka kb r induced, ?_⟩
    rw [shown.reach_iff, ← hp]
  · obtain ⟨p, hp'⟩ := known
    obtain ⟨ka', kb', -⟩ := (anchors_eq_ok_iff _ a b _).mp hp'
    have shown' := shows_after fresh cs'
    have places : (start.after cs').places a b = (start.after cs).places a b := by
      refine places_congr ((after_frame start cs').2.trans (after_frame start cs).2.symm) ?_ a b
      intro n
      rw [shown.isNode, shown'.isNode, Named, Named]
      simp only [same]
    rw [holds_of_knows ka kb, holds_of_knows ka' kb', Except.ok.injEq, Bool.eq_iff_iff,
      shown.reach_iff, shown'.reach_iff, places, steps_congr same, Named, Named]
    simp only [same]

/-- The integers up to ten, before any call. -/
def upToTen : Dimension := ⟨"k", true, some 0, some 10, [], none, [], .empty, .empty⟩

/-- The order that makes larger integers more precise. -/
def shapeOrder : Order := ⟨⟨"k", "i"⟩, .morePrecise, ⟨"k", "i-1"⟩, "k"⟩

/-- Declares the shape of the range, once in vain and twice in fact. -/
def shapeCalls : List Call :=
  let declaration := .declare shapeOrder.relation shapeOrder.left shapeOrder.right
  [.register "i", declaration, .register "i-1", declaration, declaration]

theorem holds_after_shapeCalls :
    (upToTen.after shapeCalls).holds .morePrecise ⟨"k", "5"⟩ ⟨"k", "3"⟩ false = .ok true ∧
      ∀ induced, (upToTen.after (shapeCalls.drop 1 ++ shapeCalls)).holds .morePrecise
          ⟨"k", "5"⟩ ⟨"k", "3"⟩ induced =
        (upToTen.after shapeCalls).holds .morePrecise ⟨"k", "5"⟩ ⟨"k", "3"⟩ induced := by
  have fresh : upToTen.Fresh := .integer (show integer "k" 0 10 = .ok upToTen from rfl)
  have resolved : (upToTen.after shapeCalls).anchors ⟨"k", "5"⟩ ⟨"k", "3"⟩ =
      .ok (.placeholder 0, .placeholder 1) := rfl
  have twice : upToTen.declarations shapeCalls = List.replicate 2 shapeOrder := rfl
  have thrice : upToTen.declarations (shapeCalls.drop 1 ++ shapeCalls) =
      List.replicate 3 shapeOrder := rfl
  obtain ⟨answers, same, -⟩ := holds_after fresh shapeCalls .morePrecise _ _ resolved
  rw [twice] at answers same
  refine ⟨?_, same _ ?_ ⟨(.placeholder 0, .placeholder 1), rfl⟩⟩
  · obtain ⟨v, hv, hiff⟩ := answers false
    have ho : shapeOrder ∈ List.replicate 2 shapeOrder := List.mem_cons_self
    rw [hv, hiff.mpr ⟨⟨_, ho, .inl rfl⟩, .single (.inl ⟨_, ho, rfl, rfl, rfl⟩)⟩]
  · intro o
    rw [thrice, List.mem_replicate, List.mem_replicate]
    simp

end Dimension
end OrderTrials
