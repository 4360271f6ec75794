import OrderTrials.Shell.Script
import OrderTrials.Text.Scan
/-
# Arithmetic of scripts

Expressions over whole numbers of 64 bits, with the operators of scripts and their precedence. An
expression is computed while it is read, so that the first thing that is wrong is what is told;
parts that have no say are read but not computed.

Key definitions: `Shell.Arithmetic.Operation.apply?`, 
`Shell.Arithmetic.value`.
-/

namespace OrderTrials
namespace Shell
namespace Arithmetic

/-- An operation on two numbers. -/
inductive Operation where
  | times | quotient | remainder | plus | minus | shiftLeft | shiftRight | less | atMost | greater
  | atLeast | equal | differs | bitAnd | bitXor | bitOr
deriving DecidableEq, Inhabited

/-- How late an operation is done. -/
def Operation.rank : Operation → Nat
  | times | quotient | remainder => 0
  | plus | minus => 1
  | shiftLeft | shiftRight => 2
  | less | atMost | greater | atLeast => 3
  | equal | differs => 4
  | bitAnd => 5
  | bitXor => 6
  | bitOr => 7

/-- The number of a truth value. -/
def ofBool (b : Bool) : Int64 := if b then 1 else 0

/-- The value of an operation. A division by zero has none. -/
def Operation.apply? (o : Operation) (a b : Int64) : Option Int64 :=
  match o with
  | times => some (a * b)
  | quotient => if b = 0 then none else some (a / b)
  | remainder => if b = 0 then none else some (a % b)
  | plus => some (a + b)
  | minus => some (a - b)
  | shiftLeft => some (a <<< b)
  | shiftRight => some (a >>> b)
  | less => some (ofBool (decide (a < b)))
  | atMost => some (ofBool (decide (a ≤ b)))
  | greater => some (ofBool (decide (b < a)))
  | atLeast => some (ofBool (decide (b ≤ a)))
  | equal => some (ofBool (a == b))
  | differs => some (ofBool (a != b))
  | bitAnd => some (a &&& b)
  | bitXor => some (a ^^^ b)
  | bitOr => some (a ||| b)

/-- A part of an expression. -/
inductive Token where
  | finish
  | bad
  | number (n : Int64)
  | variable (name : Octets)
  | operation (o : Operation)
  /-- A value is given to a variable, perhaps after an operation on the old value. -/
  | assign (o : Option Operation)
  | and | or | not | complement | opening | closing | question | colon
deriving DecidableEq, Inhabited

/-- The values of variables, and how an expression is read. -/
structure State where
  rest : Octets
  /-- The token after those that have been used. -/
  next : Token
  /-- The variables that the expression has set, the last one first. -/
  settings : List (Octets × Int64)
deriving Inhabited

/-- What is wrong with an expression: a text of its own, or one about the whole expression. -/
inductive Fault where
  | number (text : Octets)
  | expression (reason : String)
deriving DecidableEq, Inhabited

/-- A computation that reads an expression. -/
abbrev Compute := StateT State (Except Fault)

/-- The expression cannot be computed. -/
def fail {α : Type} (reason : String) : Compute α := fun _ => .error (.expression reason)

/-- The signs of operations; one that starts another one comes after it. -/
def signs : List (String × Token) :=
  [(">>=", .assign (some .shiftRight)), ("<<=", .assign (some .shiftLeft)),
    (">=", .operation .atLeast), (">>", .operation .shiftRight), ("<=", .operation .atMost),
    ("<<", .operation .shiftLeft), ("==", .operation .equal), ("!=", .operation .differs),
    ("||", .or), ("|=", .assign (some .bitOr)), ("&&", .and), ("&=", .assign (some .bitAnd)),
    ("*=", .assign (some .times)), ("/=", .assign (some .quotient)),
    ("%=", .assign (some .remainder)), ("+=", .assign (some .plus)),
    ("-=", .assign (some .minus)), ("^=", .assign (some .bitXor)), (">", .operation .greater),
    ("<", .operation .less), ("|", .operation .bitOr), ("&", .operation .bitAnd), ("!", .not),
    ("=", .assign none), ("(", .opening), (")", .closing), ("*", .operation .times),
    ("/", .operation .quotient), ("%", .operation .remainder), ("+", .operation .plus),
    ("-", .operation .minus), ("^", .operation .bitXor), ("~", .complement), ("?", .question),
    (":", .colon)]

/-- The next token. -/
def scan : Compute Token := fun st =>
  let s := st.rest.dropWhile fun c => c == ' ' || c == '\t' || c == '\n'
  match s with
  | [] => .ok (.finish, { st with rest := [] })
  | c :: _ =>
    if c.isDigit then
      let (n, r) := Text.Scan.anyDigits s
      .ok (.number (Int64.ofInt (Text.Scan.limited n)), { st with rest := r })
    else if startsName c then
      let name := nameOf s
      .ok (.variable name, { st with rest := s.drop name.length })
    else
      match signs.find? fun p => p.1.toList.isPrefixOf s with
      | some (sign, t) => .ok (t, { st with rest := s.drop sign.length })
      | none => .ok (.bad, { st with rest := s })

/-- The value of a variable. -/
def lookUp (look : Octets → Octets) (name : Octets) : Compute Int64 := fun st =>
  match st.settings.find? (·.1 == name) with
  | some (_, n) => .ok (n, st)
  | none =>
    match Text.Scan.whole? none true (look name) with
    | some n => .ok (Int64.ofInt n, st)
    | none => .error (.number (look name))

/-- The token after those that have been used is `t`. -/
def put (t : Token) : Compute Unit := modify fun st => { st with next := t }

/-- The value of an operation in an expression. -/
def computed (isIdle : Bool) (o : Operation) (a b : Int64) : Compute Int64 :=
  if isIdle then pure b
  else
    match o.apply? a b with
    | some n => pure n
    | none => fail "division by zero"

mutual

/-- A number, a variable, an expression in parentheses, or one of those after a sign. `t` is its
first token and `u` the one after it. An idle expression is not computed. -/
def operand (look : Octets → Octets) : Nat → Token → Token → Bool → Compute Int64
  | 0, _, _, _ => fail "expecting primary"
  | fuel + 1, t, u, isIdle => do
    match t with
    | .opening =>
      let n ← assignment look fuel u isIdle
      if (← get).next ≠ .closing then fail "expecting ')'"
      put (← scan)
      return n
    | .number n =>
      put u
      return n
    | .variable name =>
      put u
      if isIdle then return 0
      lookUp look name
    | .operation .plus => operand look fuel u (← scan) isIdle
    | .operation .minus => return -(← operand look fuel u (← scan) isIdle)
    | .not => return ofBool ((← operand look fuel u (← scan) isIdle) == 0)
    | .complement => return ~~~(← operand look fuel u (← scan) isIdle)
    | _ => fail "expecting primary"

/-- An expression that begins with `a` and an operation, up to one that is done later than `rank`
allows. -/
def operations (look : Octets → Octets) : Nat → Int64 → Operation → Nat → Bool → Compute Int64
  | 0, _, _, _, _ => fail "expecting primary"
  | fuel + 1, a, o, rank, isIdle => do
    let t ← scan
    let b ← operand look fuel t (← scan) isIdle
    let b ← match (← get).next with
      | .operation p => if p.rank < o.rank then operations look fuel b p o.rank isIdle else pure b
      | _ => pure b
    let a ← computed isIdle o a b
    match (← get).next with
    | .operation p => if p.rank < rank then operations look fuel a p rank isIdle else return a
    | _ => return a

/-- An expression of operations on numbers. -/
def binary (look : Octets → Octets) : Nat → Token → Token → Bool → Compute Int64
  | 0, _, _, _ => fail "expecting primary"
  | fuel + 1, t, u, isIdle => do
    let a ← operand look fuel t u isIdle
    match (← get).next with
    | .operation o => operations look fuel a o 8 isIdle
    | _ => return a

/-- Expressions that must all be true. -/
def conjunction (look : Octets → Octets) : Nat → Token → Token → Bool → Compute Int64
  | 0, _, _, _ => fail "expecting primary"
  | fuel + 1, t, u, isIdle => do
    let a ← binary look fuel t u isIdle
    if (← get).next ≠ .and then return a
    let t ← scan
    let b ← conjunction look fuel t (← scan) (isIdle || a == 0)
    return ofBool (a != 0 && b != 0)

/-- Expressions of which one must be true. -/
def disjunction (look : Octets → Octets) : Nat → Token → Token → Bool → Compute Int64
  | 0, _, _, _ => fail "expecting primary"
  | fuel + 1, t, u, isIdle => do
    let a ← conjunction look fuel t u isIdle
    if (← get).next ≠ .or then return a
    let t ← scan
    let b ← disjunction look fuel t (← scan) (isIdle || a != 0)
    return ofBool (a != 0 || b != 0)

/-- One of two expressions, as a third one decides. -/
def conditional (look : Octets → Octets) : Nat → Token → Token → Bool → Compute Int64
  | 0, _, _, _ => fail "expecting primary"
  | fuel + 1, t, u, isIdle => do
    let a ← disjunction look fuel t u isIdle
    if (← get).next ≠ .question then return a
    let b ← assignment look fuel (← scan) (isIdle || a == 0)
    if (← get).next ≠ .colon then fail "expecting ':'"
    let t ← scan
    let c ← conditional look fuel t (← scan) (isIdle || a != 0)
    return if a != 0 then b else c

/-- An expression that may set a variable. -/
def assignment (look : Octets → Octets) : Nat → Token → Bool → Compute Int64
  | 0, _, _ => fail "expecting primary"
  | fuel + 1, t, isIdle => do
    let u ← scan
    match t, u with
    | .variable name, .assign o =>
      let n ← assignment look fuel (← scan) isIdle
      if isIdle then return n
      let n ← match o with
        | none => pure n
        | some o => computed false o (← lookUp look name) n
      modify fun st => { st with settings := (name, n) :: st.settings }
      return n
    | t, u => conditional look fuel t u isIdle

end

/-- The value of an expression, and the variables that it sets, given the values that they have
before it. -/
def value (look : Octets → Octets) (s : Octets) :
    Except Fault (Int × List (Octets × Int64)) :=
  let all : Compute Int64 := do
    let n ← assignment look (8 * s.length + 16) (← scan) false
    if (← get).next ≠ .finish then fail "expecting EOF"
    return n
  match all ⟨s, .finish, []⟩ with
  | .error e => .error e
  | .ok (n, st) => .ok (n.toInt, st.settings)

end Arithmetic
end Shell
end OrderTrials
