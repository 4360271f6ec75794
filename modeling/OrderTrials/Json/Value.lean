import OrderTrials.Json.Document
import OrderTrials.Number.Double
import OrderTrials.Table
/-
# JSON values

A value is what a document means. Numbers without fraction and exponent that fit a word of 64
bits are whole numbers, all others are doubles. The members of an object read from a text are in
ascending order of their keys, and of members with one key the last one counts. A text nested
too deeply has no value.

Key definitions: `Json.Value`, `Json.Numeral.value?`, `Json.Document.value?`.
-/

namespace OrderTrials
namespace Json

/-- A JSON value. -/
inductive Value where
  | null
  | bool (b : Bool)
  | whole (n : Int)
  | double (d : Double)
  | text (s : String)
  | list (items : List Value)
  | object (members : List (String × Value))
deriving Inhabited

/-- The greatest unsigned word of 64 bits. -/
def maxUnsigned : Nat := 18446744073709551615

/-- Takes digits into a word as long as it does not overflow, and returns the word, the number of
digits taken and the number left. -/
def takeDigits (acc taken : Nat) : List Char → Nat × Nat × Nat
  | [] => (acc, taken, 0)
  | c :: r =>
    let next := acc * 10 + (c.toNat - 48)
    if maxUnsigned < next then (acc, taken, r.length + 1) else takeDigits next (taken + 1) r

namespace Numeral

/-- The exponent as a number. -/
def exponentValue (n : Numeral) : Int :=
  match n.exponent with
  | none => 0
  | some (negative, ds) =>
    let e : Nat := (Text.digitsValue 0 ds).getD 0
    if negative then -(e : Int) else e

/-- The whole number that a numeral is, if it has neither fraction nor exponent, is no negative
zero and fits a word of 64 bits. -/
def whole? (n : Numeral) : Option Int :=
  if n.fraction.isEmpty && n.exponent.isNone then
    (Text.digitsValue 0 n.whole).bind fun v =>
      if n.negative then
        if v != 0 && Text.isSignedWord (-(v : Int)) then some (-(v : Int)) else none
      else if v ≤ maxUnsigned then some (v : Int) else none
  else none

/-- The double that a numeral is, if it is not too great. The digits that fit a word of 64 bits
count; digits of the whole part beyond them raise the exponent, others are dropped. -/
def double? (n : Numeral) : Option Double :=
  let (acc, _, left) := takeDigits 0 0 n.whole
  if left = 0 then
    let (acc, taken, _) := takeDigits acc 0 n.fraction
    Double.scaled n.negative acc.toUInt64 (n.exponentValue - taken)
  else
    let (acc, taken, _) := takeDigits acc 0 n.fraction
    Double.scaled n.negative acc.toUInt64 (n.exponentValue + left - taken)

/-- The number that a numeral stands for. -/
def value? (n : Numeral) : Option Value :=
  match n.whole? with
  | some v => some (.whole v)
  | none => n.double?.map .double

end Numeral

/-- The value of a leaf. -/
def Scalar.value? : Scalar → Option Value
  | .null => some .null
  | .bool b => some (.bool b)
  | .number n => n.value?
  | .text contents => contents.map .text

namespace Document

mutual

/-- The value of a document with less than `depth` levels of nesting. -/
def valueWithin (depth : Nat) : Document → Option Value
  | .leaf s => s.value?
  | .list items => if depth ≤ 1 then none else (valuesWithin (depth - 1) items).map .list
  | .object members =>
    if depth ≤ 1 then none
    else (membersWithin (depth - 1) members).map fun ms => .object (Table.ofList ms).entries

/-- The values of documents with less than `depth` levels of nesting. -/
def valuesWithin (depth : Nat) : List Document → Option (List Value)
  | [] => some []
  | d :: r =>
    match valueWithin depth d, valuesWithin depth r with
    | some v, some vs => some (v :: vs)
    | _, _ => none

/-- The members of an object with less than `depth` levels of nesting. -/
def membersWithin (depth : Nat) :
    List (Option String × Document) → Option (List (String × Value))
  | [] => some []
  | (k, d) :: r =>
    match k, valueWithin depth d, membersWithin depth r with
    | some k, some v, some ms => some ((k, v) :: ms)
    | _, _, _ => none

end

/-- The depth from which on a nested document is refused. -/
def depthLimit : Nat := 128

/-- The value of a document. -/
def value? (d : Document) : Option Value := d.valueWithin depthLimit

end Document

/-- The value that a text spells. -/
def Value.read? (s : String) : Option Value :=
  (Document.read? s).bind Document.value?

end Json
end OrderTrials
