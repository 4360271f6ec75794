import OrderTrials.Text.Numeral
/-
# Levels

A level is one value that one option of an analyzer can take, such as `k=3`. Integer options
have two placeholder levels, `i` and `i-1`, that stand for any two integers of which the first
is the larger; they occur in orders and never in a run. An anchor is the node of an order graph
through which questions about a level are answered.

Key definitions: `Level`, `Level.value?`, `Level.isPlaceholder`, `Anchor`.
Key theorems: `Anchor.node_ofNode`.
-/

namespace OrderTrials

/-- One value of one option. -/
structure Level where
  option : String
  name : String
deriving DecidableEq, Inhabited

namespace Level

/-- A level as it is shown: `option=name`. -/
def text (l : Level) : String := l.option ++ "=" ++ l.name

/-- The number that the name of a level spells, if it fits a signed word of 64 bits. -/
def value? (l : Level) : Option Int := Text.readSigned l.name

/-- Whether the name of a level spells a number. -/
def isNumeric (l : Level) : Bool := l.value?.isSome

/-- Levels are compared by option, then by name. -/
def order (a b : Level) : Ordering :=
  (compare a.option b.option).then (compare a.name b.name)

end Level

/-- Where a level stands in the order graphs: at the node of its own name, or at the placeholder
for an integer (`0`) or for the smaller of two integers (any other offset). -/
inductive Anchor where
  | exact (name : String)
  | placeholder (offset : UInt8)
deriving DecidableEq, Inhabited

namespace Anchor

/-- The node name of the placeholder for an integer. -/
def integerNode : String := "i"

/-- The node name of the placeholder for the smaller of two integers. -/
def smallerNode : String := "i-1"

/-- The anchor that a node name denotes. -/
def ofNode (name : String) : Anchor :=
  if name = integerNode then placeholder 0
  else if name = smallerNode then placeholder 1
  else exact name

/-- The node that an anchor denotes. -/
def node : Anchor → String
  | exact name => name
  | placeholder offset => if offset = 0 then integerNode else smallerNode

/-- Every node name is kept by the anchor that it denotes. -/
theorem node_ofNode (name : String) : (ofNode name).node = name := by
  unfold ofNode
  split
  · next h => simp [node, h]
  · split
    · next h => simp [node, h]
    · rfl

end Anchor

/-- Whether a level is one of the two placeholders. -/
def Level.isPlaceholder (l : Level) : Bool :=
  match Anchor.ofNode l.name with
  | .placeholder _ => true
  | .exact _ => false

end OrderTrials
