import OrderTrials.Toml.Scalar
/-
# Tables of TOML

The tree that the lines of a TOML text build. A table knows how it came to be, because that
decides what may still be added to it: a table with a header of its own is not opened again, one
that dotted keys made is extended by dotted keys only, and one that was only passed on the way to
another may still get its own header. A table that was written as a value is closed.

Key definitions: `Toml.Value`, `Toml.Node`, `Toml.Node.openTable?`, `Toml.Node.openItem?`,
`Toml.Node.assign?`.
-/

namespace OrderTrials
namespace Toml

/-- A value of a TOML text. -/
inductive Value where
  | scalar (s : Scalar)
  | list (items : List Value)
  | table (members : List (String × Value))
deriving Inhabited

/-- How a table came to be. -/
inductive Origin where
  /-- By a header of its own. -/
  | header
  /-- On the way to another table. -/
  | passed
  /-- By a dotted key. -/
  | dotted
deriving DecidableEq, Inhabited

/-- A part of the tree: a closed value, a table, or a list of tables, the last one first. -/
inductive Node where
  | value (v : Value)
  | table (origin : Origin) (members : List (String × Node))
  | tables (items : List (List (String × Node)))
deriving Inhabited

/-- The members of a table. -/
abbrev Members := List (String × Node)

/-- The part under a key. -/
def Members.get? (ms : Members) (k : String) : Option Node :=
  (List.find? (·.1 == k) ms).map (·.2)

/-- The members with a part under a key, in the place of the one that is there. -/
def Members.put (ms : Members) (k : String) (n : Node) : Members :=
  if List.any ms (·.1 == k) then List.map (fun m => if m.1 == k then (k, n) else m) ms
  else ms ++ [(k, n)]

namespace Node

mutual

/-- The value that a part of the tree has in the end. -/
def toValue : Node → Value
  | value v => v
  | table _ ms => .table (membersToValues ms)
  | tables items => .list (itemsToValues items).reverse

/-- The values of members. -/
def membersToValues : List (String × Node) → List (String × Value)
  | [] => []
  | (k, n) :: r => (k, toValue n) :: membersToValues r

/-- The values of the tables of a list. -/
def itemsToValues : List (List (String × Node)) → List Value
  | [] => []
  | ms :: r => .table (membersToValues ms) :: itemsToValues r

end

/-- Follows keys from a table and changes the members found there; `origin` is that of tables
made on the way. Tables with a header are not entered by dotted keys. `change` also learns the
origin of the table that it changes. -/
def changeAt? (origin : Origin) (change : Origin → Members → Option Members) :
    List String → Origin → Members → Option Members
  | [], at_, ms => change at_ ms
  | k :: ks, _, ms =>
    match ms.get? k with
    | none => (changeAt? origin change ks origin []).map fun inner => ms.put k (.table origin inner)
    | some (.value _) => none
    | some (.tables []) => none
    | some (.tables (item :: rest)) =>
      (changeAt? origin change ks .header item).map fun inner => ms.put k (.tables (inner :: rest))
    | some (.table o inner) =>
      if origin = .dotted ∧ o = .header then none
      else (changeAt? origin change ks o inner).map fun inner => ms.put k (.table o inner)

/-- Opens the table with a header. -/
def openTable? (k : String) (_ : Origin) (ms : Members) : Option Members :=
  match ms.get? k with
  | none => some (ms.put k (.table .header []))
  | some (.table .passed inner) => some (ms.put k (.table .header inner))
  | some _ => none

/-- Opens the next table of a list of tables. -/
def openItem? (k : String) (_ : Origin) (ms : Members) : Option Members :=
  match ms.get? k with
  | none => some (ms.put k (.tables [[]]))
  | some (.tables items) => some (ms.put k (.tables ([] :: items)))
  | some _ => none

/-- Gives a key a value. A dotted key must lead into a table that dotted keys made. -/
def assign? (isDotted : Bool) (k : String) (v : Value) (at_ : Origin) (ms : Members) :
    Option Members :=
  if isDotted != (at_ == .dotted) then none
  else if (ms.get? k).isSome then none
  else some (ms.put k (.value v))

/-- Gives the key at the end of a path a value, in the table at the end of another path. -/
def assignAt? (header : List String) (path : List String) (k : String) (v : Value)
    (root : Members) : Option Members :=
  changeAt? .passed
    (fun at_ ms => changeAt? .dotted (assign? (!path.isEmpty) k v) path at_ ms) header .header root

end Node
end Toml
end OrderTrials
