import OrderTrials.Toml.Tree
/-
# TOML texts

Reading a TOML text (version 1.0) into a table. Lists and tables inside values nest, so their
readers call each other; each call takes at least one character, and the length of the text bounds
the calls.

Key definitions: `Toml.value?`, `Toml.line?`, `Toml.read?`.
-/

namespace OrderTrials
namespace Toml

/-- What follows a comment, if there is one. -/
def skipComment (s : List Char) : List Char :=
  match s with
  | '#' :: r => r.dropWhile isVisible
  | r => r

/-- What follows the rest of a line that holds nothing but blanks and a comment. -/
def endLine? (s : List Char) : Option (List Char) :=
  match skipComment (skipGap s) with
  | [] => some []
  | r => newline? r

/-- A text without the blanks, comments and line ends at its start. -/
def skipLines : Nat → List Char → List Char
  | 0, s => s
  | fuel + 1, s =>
    let r := skipComment (skipGap s)
    match newline? r with
    | some rest => skipLines fuel rest
    | none => r

/-! ### Keys -/

/-- The characters of keys without quotes. -/
def isKeyChar (c : Char) : Bool := c.isAlphanum || c == '_' || c == '-'

/-- One key. -/
def key? (s : List Char) : Option (String × List Char) :=
  match s with
  | '"' :: r => (basicText? r).map fun p => (String.ofList p.1, p.2)
  | '\'' :: r => (literalText? r).map fun p => (String.ofList p.1, p.2)
  | r =>
    let k := r.takeWhile isKeyChar
    if k.isEmpty then none else some (String.ofList k, r.dropWhile isKeyChar)

/-- How many keys a dotted key must not have, and how deep values must not nest. -/
def depthLimit : Nat := 80

/-- Keys with dots between them: those before the last, and the last. -/
def keys? : Nat → List Char → Option (List String × String × List Char)
  | 0, _ => none
  | fuel + 1, s =>
    match key? (skipGap s) with
    | none => none
    | some (k, r) =>
      match skipGap r with
      | '.' :: rest => (keys? fuel rest).map fun (ks, last, r) => (k :: ks, last, r)
      | r => some ([], k, r)

/-- Keys with dots between them, if they are not too many. -/
def path? (s : List Char) : Option (List String × String × List Char) :=
  (keys? s.length s).filter fun p => decide (p.1.length + 1 < depthLimit)

/-! ### Values -/

mutual

/-- A value. The second number says how deep its parts may nest. -/
def valueWithin? : Nat → Nat → List Char → Option (Value × List Char)
  | 0, _, _ => none
  | fuel + 1, room, s =>
    match s with
    | '[' :: r =>
      if room = 0 then none
      else (itemsWithin? fuel (room - 1) r).map fun p => (.list p.1, p.2)
    | '\x7b' :: r =>
      if room = 0 then none
      else
        match skipGap r with
        | '\x7d' :: rest => some (.table [], rest)
        | r =>
          (membersWithin? fuel (room - 1) [] r).map fun p =>
            (.table (Node.membersToValues p.1), p.2)
    | r => (scalar? r).map fun p => (.scalar p.1, p.2)

/-- The items of a list, after its bracket or a comma. -/
def itemsWithin? : Nat → Nat → List Char → Option (List Value × List Char)
  | 0, _, _ => none
  | fuel + 1, room, s =>
    match skipLines s.length s with
    | ']' :: rest => some ([], rest)
    | r =>
      match valueWithin? fuel room r with
      | none => none
      | some (v, r) =>
        match skipLines r.length r with
        | ']' :: rest => some ([v], rest)
        | ',' :: rest => (itemsWithin? fuel room rest).map fun p => (v :: p.1, p.2)
        | _ => none

/-- The members of a table in one line, on top of those before. -/
def membersWithin? : Nat → Nat → Members → List Char → Option (Members × List Char)
  | 0, _, _, _ => none
  | fuel + 1, room, ms, s =>
    match path? s with
    | none => none
    | some (ks, k, r) =>
      match r with
      | '=' :: r =>
        match valueWithin? fuel room (skipGap r) with
        | none => none
        | some (v, r) =>
          match Node.assignAt? [] ks k v ms with
          | none => none
          | some ms =>
            match skipGap r with
            | '\x7d' :: rest => some (ms, rest)
            | ',' :: rest => membersWithin? fuel room ms rest
            | _ => none
      | _ => none

end

/-- A value. -/
def value? (s : List Char) : Option (Value × List Char) :=
  valueWithin? (2 * s.length + 2) (depthLimit - 1) s

/-! ### Lines -/

/-- What has been read so far: the tree, and the keys of the last header. -/
structure State where
  root : Members
  header : List String

/-- A line with a header of a table, after its bracket. -/
def tableHeader? (st : State) (s : List Char) : Option (State × List Char) := do
  let (ks, k, r) ← path? s
  match r with
  | ']' :: rest =>
    let root ← Node.changeAt? .passed (Node.openTable? k) ks .header st.root
    return (⟨root, ks ++ [k]⟩, ← endLine? rest)
  | _ => none

/-- A line with a header of a list of tables, after its brackets. -/
def itemHeader? (st : State) (s : List Char) : Option (State × List Char) := do
  let (ks, k, r) ← path? s
  match r with
  | ']' :: ']' :: rest =>
    let root ← Node.changeAt? .passed (Node.openItem? k) ks .header st.root
    return (⟨root, ks ++ [k]⟩, ← endLine? rest)
  | _ => none

/-- A line with a key and its value. -/
def assignment? (st : State) (s : List Char) : Option (State × List Char) := do
  let (ks, k, r) ← path? s
  match r with
  | '=' :: r =>
    let (v, r) ← value? (skipGap r)
    let root ← Node.assignAt? st.header ks k v st.root
    return ({ st with root }, ← endLine? r)
  | _ => none

/-- A line that is not blank. -/
def line? (st : State) (s : List Char) : Option (State × List Char) :=
  match s with
  | '[' :: '[' :: r => itemHeader? st r
  | '[' :: r => tableHeader? st r
  | r => assignment? st r

/-- Lines up to the end of a text. -/
def linesWithin? : Nat → State → List Char → Option State
  | 0, st, s => if s.isEmpty then some st else none
  | fuel + 1, st, s =>
    match skipLines s.length s with
    | [] => some st
    | r =>
      match line? st r with
      | none => none
      | some (st, r) => linesWithin? fuel st r

/-- The table that a text describes. A byte order mark at its start is skipped. -/
def read? (text : String) : Option Value :=
  let s := match text.toList with
    | '\ufeff' :: r => r
    | r => r
  (linesWithin? (s.length + 1) ⟨[], []⟩ s).map fun st => .table (Node.membersToValues st.root)

end Toml
end OrderTrials
