import OrderTrials.Json.Token
/-
# JSON documents

A document is a JSON text after its tokens have been put into a tree, with members in the order
in which they are written and repeated ones kept. The tree is built by a machine with a stack of
the lists and objects that are still open, so nesting has no bound here.

Key definitions: `Json.Document`, `Json.step`, `Json.Document.read?`.
-/

namespace OrderTrials
namespace Json

/-- A JSON text as a tree. A member whose key holds half of a surrogate pair has no key. -/
inductive Document where
  | leaf (s : Scalar)
  | list (items : List Document)
  | object (members : List (Option String × Document))
deriving Inhabited

/-- A list or an object that is still open, with what is complete in it, the last part first. An
object waits for the value of a key. -/
inductive Frame where
  | list (before : List Document)
  | object (before : List (Option String × Document)) (key : Option String)

/-- What the next token may be. -/
inductive Expectation where
  /-- A value. -/
  | value
  /-- A value or the end of a list that is empty so far. -/
  | item
  /-- A key or the end of an object that is empty so far. -/
  | member
  /-- A key of an object with members. -/
  | key (before : List (Option String × Document))
  /-- The colon after a key. -/
  | colon (before : List (Option String × Document)) (key : Option String)
  /-- A comma or an end, after a value. -/
  | done (d : Document)

/-- What a token does where a value may stand. -/
def stepValue (stack : List Frame) : Token → Option (List Frame × Expectation)
  | .beginList => some (.list [] :: stack, .item)
  | .beginObject => some (stack, .member)
  | .leaf s => some (stack, .done (.leaf s))
  | _ => none

/-- What a token does after a value, in the innermost open list or object. -/
def stepDone (d : Document) : List Frame → Token → Option (List Frame × Expectation)
  | .list before :: rest, .comma => some (.list (d :: before) :: rest, .value)
  | .list before :: rest, .endList => some (rest, .done (.list (d :: before).reverse))
  | .object before k :: rest, .comma => some (rest, .key ((k, d) :: before))
  | .object before k :: rest, .endObject => some (rest, .done (.object ((k, d) :: before).reverse))
  | _, _ => none

/-- One step of the machine that builds the tree. -/
def step (stack : List Frame) (e : Expectation) (t : Token) : Option (List Frame × Expectation) :=
  match e with
  | .value => stepValue stack t
  | .item =>
    match t, stack with
    | .endList, _ :: rest => some (rest, .done (.list []))
    | _, _ => stepValue stack t
  | .member =>
    match t with
    | .endObject => some (stack, .done (.object []))
    | .leaf (.text k) => some (stack, .colon [] k)
    | _ => none
  | .key before =>
    match t with
    | .leaf (.text k) => some (stack, .colon before k)
    | _ => none
  | .colon before k =>
    match t with
    | .colon => some (.object before k :: stack, .value)
    | _ => none
  | .done d => stepDone d stack t

/-- The steps of the machine for a list of tokens. -/
def run (stack : List Frame) (e : Expectation) : List Token → Option (List Frame × Expectation)
  | [] => some (stack, e)
  | t :: ts =>
    match step stack e t with
    | none => none
    | some (stack, e) => run stack e ts

namespace Document

/-- The document that a list of tokens spells. -/
def ofTokens? (ts : List Token) : Option Document :=
  match run [] .value ts with
  | some ([], .done d) => some d
  | _ => none

/-- The document that a text spells. -/
def read? (s : String) : Option Document :=
  (tokens? s.toList).bind ofTokens?

end Document
end Json
end OrderTrials
