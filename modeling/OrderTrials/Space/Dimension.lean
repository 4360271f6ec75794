import OrderTrials.Space.Error
import OrderTrials.Space.Graph
import OrderTrials.Space.Order
/-
# Dimensions

A dimension is one option of an analyzer: its levels, its default, and what is declared about
the soundness and the precision of its levels. A declared soundness order also induces the
reverse precision order, and a declared precision order induces both soundness orders, because a
more precise analysis is taken to be as sound.

A question about two integers that are no nodes themselves is answered at the placeholders, the
larger integer at `i` and the smaller at `i-1`, so that one declared order between the
placeholders covers the whole range.

Key definitions: `Dimension`, `Dimension.level`, `Dimension.declare`, `Dimension.anchors`,
`Dimension.holds`, `Dimension.order?`, `Dimension.declaredOrders`.
-/

namespace OrderTrials

/-- One option of an analyzer. `least` and `greatest` bound the integers that it takes. -/
structure Dimension where
  name : String
  isInteger : Bool
  least : Option Int
  greatest : Option Int
  tags : List String
  default? : Option String
  levels : List String
  soundness : Graph
  precision : Graph
deriving DecidableEq, Inhabited

namespace Dimension

/-- A dimension of named levels, none of them registered yet. -/
def enumeration (name : String) : Dimension :=
  ⟨name, false, none, none, [], none, [], .empty, .empty⟩

/-- A dimension of the integers from `least` to `greatest`. -/
def integer (name : String) (least greatest : Int) : Except SpaceError Dimension :=
  if greatest < least then .error (.invalidRange name least greatest)
  else .ok ⟨name, true, some least, some greatest, [], none, [], .empty, .empty⟩

/-- Registers a level, unless it is registered already. -/
def register (d : Dimension) (level : String) : Dimension :=
  if d.levels.contains level then d else { d with levels := d.levels ++ [level] }

/-- Whether two texts are equal up to the case of ASCII letters. -/
def sameLetters (a b : String) : Bool :=
  a.toList.map Char.toLower == b.toList.map Char.toLower

/-- The bounds of the integers of a dimension; a missing bound is the widest. -/
def range (d : Dimension) : Int × Int :=
  (d.least.getD Text.minWord, d.greatest.getD Text.maxWord)

/-- The registered level that a text names: the one of exactly this name, else the first of this
name up to case. -/
def registered? (d : Dimension) (raw : String) : Option String :=
  (d.levels.find? (· == raw)).or (d.levels.find? (sameLetters · raw))

/-- The level that a text names: a registered level, or an integer of the range in its canonical
numeral. -/
def level (d : Dimension) (raw : String) : Except SpaceError Level :=
  match d.registered? raw with
  | some name => .ok ⟨d.name, name⟩
  | none =>
    if d.isInteger then
      match Text.readSigned raw with
      | some value =>
        if value < d.range.1 || d.range.2 < value then
          .error (.outOfRange d.name value d.range.1 d.range.2)
        else .ok ⟨d.name, Text.showInteger value⟩
      | none =>
        if d.levels.isEmpty then .error (.noLevels d.name)
        else .error (.unregisteredLevel d.name raw)
    else .error (.unregisteredLevel d.name raw)

/-- Makes the level that a text names the default, and registers it. -/
def setDefault (d : Dimension) (raw : String) : Except SpaceError Dimension := do
  let level ← d.level raw
  return { d.register level.name with default? := some level.name }

/-- The default level. -/
def defaultLevel (d : Dimension) : Except SpaceError Level :=
  match d.default? with
  | some name => .ok ⟨d.name, name⟩
  | none => .error (.missingDefault d.name)

/-- Refuses a level of another dimension. -/
def requireOwn (d : Dimension) (l : Level) : Except SpaceError Unit :=
  if l.option = d.name then .ok () else .error (.foreignLevel d.name l.option l.name)

/-- Refuses a level that is not a registered level of the dimension. -/
def requireRegistered (d : Dimension) (l : Level) : Except SpaceError Unit := do
  d.requireOwn l
  if d.levels.contains l.name then .ok () else .error (.unregisteredLevel d.name l.name)

/-- Declares that `a` stands in a relation to `b`, and adds what that induces. -/
def declare (d : Dimension) (relation : Relation) (a b : Level) : Except SpaceError Dimension := do
  d.requireRegistered a
  d.requireRegistered b
  match relation with
  | .moreSound =>
    return { d with
      soundness := d.soundness.insert a.name b.name true
      precision := d.precision.insert b.name a.name false }
  | .morePrecise =>
    return { d with
      precision := d.precision.insert a.name b.name true
      soundness := (d.soundness.insert a.name b.name false).insert b.name a.name false }

/-- The graph of a relation. -/
def graph (d : Dimension) : Relation → Graph
  | .moreSound => d.soundness
  | .morePrecise => d.precision

/-- Whether some declaration names the level. -/
def isNode (d : Dimension) (name : String) : Bool :=
  d.soundness.isNode name || d.precision.isNode name

/-- Where one level stands; for an integer that is no node itself, the integer too. -/
def anchor (d : Dimension) (l : Level) : Except SpaceError (Anchor × Option Int) := do
  d.requireOwn l
  if d.isNode l.name then return (.ofNode l.name, none)
  match if d.isInteger then l.value? else none with
  | some value => return (.placeholder 0, some value)
  | none =>
    if d.levels.contains l.name then return (.exact l.name, none)
    else throw (.unregisteredLevel d.name l.name)

/-- Where two levels stand. Of two different integers that are no nodes, the smaller one stands
at the placeholder for the smaller one. -/
def anchors (d : Dimension) (a b : Level) : Except SpaceError (Anchor × Anchor) := do
  let (ra, va) ← d.anchor a
  let (rb, vb) ← d.anchor b
  match va, vb with
  | some x, some y =>
    return (if x < y then .placeholder 1 else ra, if y < x then .placeholder 1 else rb)
  | _, _ => return (ra, rb)

/-- Whether `a` stands in a relation to `b`; without `induced`, through declared steps alone. -/
def holds (d : Dimension) (relation : Relation) (a b : Level) (induced : Bool) :
    Except SpaceError Bool := do
  let (ra, rb) ← d.anchors a b
  return (d.graph relation).reaches (!induced) ra.node rb.node

/-- The order that `left` stands in a relation to `right`, if it does. -/
def order? (d : Dimension) (relation : Relation) (left right : Level) :
    Except SpaceError (Option DerivedOrder) := do
  let (rl, rr) ← d.anchors left right
  let graph := d.graph relation
  if graph.reaches false rl.node rr.node then
    return some {
      left, relation, right
      option := d.name
      explicit := graph.reaches true rl.node rr.node
      transitive := rl != rr && (graph.edge? rl.node rr.node).isNone }
  else return none

/-- The registered levels that some declaration names, in the order of registration. -/
def orderedLevels (d : Dimension) : List String :=
  d.levels.filter d.isNode

/-- The declared orders: those of soundness first, each kind in ascending order of its ends. -/
def declaredOrders (d : Dimension) : List Order :=
  [Relation.moreSound, .morePrecise].flatMap fun relation =>
    (d.graph relation).declaredPairs.map fun p => ⟨⟨d.name, p.1⟩, relation, ⟨d.name, p.2⟩, d.name⟩

end Dimension
end OrderTrials
