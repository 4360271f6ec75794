import OrderTrials.Json.Shape
import OrderTrials.Space.Basic
/-
# Artifacts

An artifact is a JSON document that describes a configuration space. Reading it fails on any text
of another shape; building the space from it fails on the first option that is at fault, in the
order of the artifact.

Key definitions: `Artifact`, `Artifact.read?`, `Artifact.build`, `Space.ofText`.
-/

namespace OrderTrials

/-- An order as an artifact states it. -/
structure OrderEntry where
  relation : Relation
  left : String
  right : String
deriving DecidableEq, Inhabited

/-- An option as an artifact states it. -/
structure OptionEntry where
  name : String
  isInteger : Bool
  levels : List String
  least : Option Int
  greatest : Option Int
  default? : Option String
  tags : List String
  orders : List OrderEntry
deriving DecidableEq, Inhabited

/-- The contents of an artifact. -/
structure Artifact where
  name : String
  options : List OptionEntry
deriving DecidableEq, Inhabited

open Json

/-- The name of a level: a string, a truth value in capitals, or a number in its canonical
numeral. -/
def levelName? (d : Document) : Option String :=
  match d with
  | .leaf (.bool true) => some "TRUE"
  | .leaf (.bool false) => some "FALSE"
  | .leaf (.text contents) => contents
  | d => d.signed?.map Text.showInteger

namespace OrderEntry

/-- The fields of an order. -/
def fields : List Field :=
  [⟨"order", .required⟩, ⟨"left", .required⟩, ⟨"right", .required⟩]

/-- The order that a document states. -/
def read? (d : Document) : Option OrderEntry := do
  match ← d.fields? fields with
  | [some order, some left, some right] =>
    return ⟨← order.name?.bind Relation.ofCode?, ← levelName? left, ← levelName? right⟩
  | _ => none

end OrderEntry

namespace OptionEntry

/-- The fields of an option. -/
def fields : List Field :=
  [⟨"name", .required⟩, ⟨"type", .required⟩, ⟨"levels", .defaulted⟩, ⟨"minValue", .nullable⟩,
    ⟨"maxValue", .nullable⟩, ⟨"default", .nullable⟩, ⟨"tags", .defaulted⟩, ⟨"orders", .defaulted⟩]

/-- Whether a type of option is that of integers. -/
def isInteger? (kind : String) : Option Bool :=
  if kind = "enum" then some false else if kind = "integer" then some true else none

/-- The option that a document states. -/
def read? (d : Document) : Option OptionEntry := do
  match ← d.fields? fields with
  | [some name, some kind, levels, least, greatest, default?, tags, orders] =>
    return {
      name := ← name.text?
      isInteger := ← kind.name?.bind isInteger?
      levels := ← Document.orElse? [] (Document.list? levelName?) levels
      least := ← Document.maybe? Document.signed? least
      greatest := ← Document.maybe? Document.signed? greatest
      default? := ← Document.maybe? levelName? default?
      tags := ← Document.orElse? [] (Document.list? Document.text?) tags
      orders := ← Document.orElse? [] (Document.list? OrderEntry.read?) orders }
  | _ => none

/-- The dimension of an option before its levels are registered. -/
def blank (e : OptionEntry) : Except SpaceError Dimension :=
  if e.isInteger then
    match e.least, e.greatest with
    | some least, some greatest => Dimension.integer e.name least greatest
    | _, _ =>
      .error (.artifact ("Integer option '" ++ e.name ++ "' needs minValue and maxValue"))
  else .ok (Dimension.enumeration e.name)

/-- The names that an option registers: its levels, and on an integer option also the ends of its
orders, because these describe the shape of the range. -/
def registeredNames (e : OptionEntry) : List String :=
  e.levels ++ if e.isInteger then e.orders.flatMap fun o => [o.left, o.right] else []

/-- Declares an order of an option. -/
def declare (d : Dimension) (o : OrderEntry) : Except SpaceError Dimension :=
  d.declare o.relation ⟨d.name, o.left⟩ ⟨d.name, o.right⟩

/-- The dimension of an option. -/
def build (e : OptionEntry) : Except SpaceError Dimension := do
  let blank ← e.blank
  let named := e.registeredNames.foldl Dimension.register { blank with tags := e.tags }
  match e.default? with
  | none => throw (.missingDefault e.name)
  | some raw => e.orders.foldlM declare (← named.setDefault raw)

end OptionEntry

namespace Artifact

/-- The fields of an artifact. -/
def fields : List Field := [⟨"name", .required⟩, ⟨"options", .required⟩]

/-- The artifact that a document states. -/
def ofDocument? (d : Document) : Option Artifact := do
  match ← d.fields? fields with
  | [some name, some options] =>
    return ⟨← name.text?, ← options.list? OptionEntry.read?⟩
  | _ => none

/-- The artifact that a text states. -/
def read? (text : String) : Option Artifact :=
  (Document.read? text).bind ofDocument?

/-- The space of an artifact. -/
def build (a : Artifact) : Except SpaceError Space :=
  a.options.foldlM (fun s e => do s.add (← e.build)) (Space.empty a.name)

end Artifact

/-- The space that the text of an artifact describes. -/
def Space.ofText (text : String) : Except SpaceError Space :=
  match Artifact.read? text with
  | none => .error (.artifact "Failed to parse artifact")
  | some a => a.build

end OrderTrials
