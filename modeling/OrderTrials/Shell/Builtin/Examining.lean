import OrderTrials.Shell.Builtin.Words
/-
# The builtin that examines

An expression about texts, numbers and files is true or false. Its operators are words between
other words; with three or four words, their places tell how they are meant.

Key definitions: `Shell.Builtin.Operator`, `Shell.Builtin.examine`.
-/

namespace OrderTrials
namespace Shell
namespace Builtin

open Action
open Machine (Act Program Refusal)

/-- What a word of an expression can be. -/
inductive Operator where
  | unary (c : Char)
  | binary
  | not
  | and
  | or
  | opening
  | closing
deriving DecidableEq, Inhabited

/-- The letters of the operators that come before a word. -/
def unaryLetters : Octets := "rwxefdcbpugkstznhOGLS".toList

/-- The operators that stand between words. -/
def binaryWords : List Octets :=
  ["=", "!=", "<", ">", "-eq", "-ne", "-ge", "-gt", "-le", "-lt", "-nt", "-ot", "-ef"].map
    String.toList

/-- The operator that a word can be. -/
def operator? (word : Octets) : Option Operator :=
  match word with
  | ['!'] => some .not
  | ['('] => some .opening
  | [')'] => some .closing
  | ['-', 'a'] => some .and
  | ['-', 'o'] => some .or
  | word =>
    if binaryWords.contains word then some .binary
    else
      match word with
      | ['-', c] => if unaryLetters.contains c then some (.unary c) else none
      | _ => none

/-- Whether an operator that comes before a word is a word itself, given the words after it. -/
def isOperand (rest : List Octets) : Bool :=
  match rest with
  | [] => true
  | [_] => false
  | word :: _ => operator? word == some .binary

/-- The operator that the first of some words is. -/
def operatorAt (words : List Octets) : Option Operator :=
  match words with
  | [] => none
  | word :: rest =>
    match operator? word with
    | some (.unary c) => if isOperand rest then none else some (.unary c)
    | some .opening => if rest.isEmpty then none else some .opening
    | o => o

/-- Breaks off because of an operator. -/
def failAt {α : Type} (operator : Octets) (reason : String) : Action α :=
  fail (if operator.isEmpty then reason.toList else operator ++ ": ".toList ++ reason.toList)

/-- The number that a word is. -/
def integerOf (word : Octets) : Action Int :=
  match Text.Scan.whole? (some 10) false word with
  | some n => pure n
  | none => failNumber word

/-- Whether a file is as a letter says. All may be read and written by everybody here. -/
def fileIs (c : Char) (path : Octets) : Action Bool := do
  match ← lift fun k => .look path k with
  | .error _ => return false
  | .ok (_, entry) =>
    return match c, entry with
    | 'd', .folder => true
    | 'f', .file _ | 'f', .program _ => true
    | 'c', .void => true
    | 's', .file bytes => bytes.size != 0
    | 's', .folder | 's', .program _ => true
    | 'x', .folder | 'x', .program _ => true
    | c, _ => ['e', 'r', 'w', 'O', 'G'].contains c

/-- Whether two paths lead to the same file. -/
def areSame (first second : Octets) : Action Bool := do
  match ← lift fun k => .look first k with
  | .error _ => return false
  | .ok (p, _) =>
    match ← lift fun k => .look second k with
    | .error _ => return false
    | .ok (q, _) => return p == q

/-- The value of an operator between two words. -/
def compare (first operator second : Octets) : Action Bool := do
  match String.ofList operator with
  | "=" => return first == second
  | "!=" => return first != second
  | "<" => return decide (first < second)
  | ">" => return decide (second < first)
  | "-ef" => areSame first second
  | "-nt" | "-ot" => return false
  | name =>
    let m ← integerOf first
    let n ← integerOf second
    return match name with
    | "-eq" => m == n
    | "-ne" => m != n
    | "-ge" => decide (n ≤ m)
    | "-gt" => decide (n < m)
    | "-le" => decide (m ≤ n)
    | _ => decide (m < n)

mutual

/-- The value of alternatives, and the words from the last one that was used on. `isPlain` says that
the first word is no operator. The first argument bounds the length of the expression. -/
def anyOf : Nat → Bool → List Octets → Action (Bool × List Octets)
  | 0, _, words => return (false, words)
  | fuel + 1, isPlain, words => do
    let (value, here) ← allOf fuel isPlain words
    if operatorAt here.tail = some .or then
      let (more, here) ← anyOf fuel false here.tail.tail
      return (value || more, here)
    else return (value, here)

/-- The value of conditions that must all hold. -/
def allOf : Nat → Bool → List Octets → Action (Bool × List Octets)
  | 0, _, words => return (false, words)
  | fuel + 1, isPlain, words => do
    let (value, here) ← negated fuel isPlain words
    if operatorAt here.tail = some .and then
      let (more, here) ← allOf fuel false here.tail.tail
      return (value && more, here)
    else return (value, here)

/-- The value of a condition that may be denied. -/
def negated : Nat → Bool → List Octets → Action (Bool × List Octets)
  | 0, _, words => return (false, words)
  | fuel + 1, isPlain, words => do
    if !isPlain ∧ operatorAt words = some .not then
      match words.tail with
      | [] => return (true, words)
      | rest =>
        let (value, here) ← negated fuel false rest
        return (!value, here)
    else condition fuel isPlain words

/-- The value of one condition. -/
def condition : Nat → Bool → List Octets → Action (Bool × List Octets)
  | 0, _, words => return (false, words)
  | fuel + 1, isPlain, words => do
    match words with
    | [] => return (false, [])
    | word :: rest =>
      match if isPlain then none else operatorAt words with
      | some .opening =>
        if operatorAt rest = some .closing then return (false, rest)
        let (value, here) ← anyOf fuel false rest
        if operatorAt here.tail ≠ some .closing then failAt [] "closing paren expected"
        return (value, here.tail)
      | some (.unary c) =>
        match rest with
        | [] => failAt word "argument expected"
        | text :: _ =>
          let value ← match c with
            | 'z' => pure text.isEmpty
            | 'n' => pure !text.isEmpty
            | 't' => do
              let _ ← integerOf text
              pure false
            | c => fileIs c text
          return (value, rest)
      | _ =>
        match operatorAt rest, rest with
        | some .binary, operator :: second :: _ =>
          return (← compare word operator second, rest.tail)
        | some .binary, operator :: [] => failAt operator "argument expected"
        | _, _ => return (!word.isEmpty, words)

end

/-- Examines an expression: zero if it is true. The first argument bounds its length. -/
def examineWithin : Nat → Bool → List Octets → Action Nat
  | 0, _, _ => return 1
  | fuel + 1, isDenied, words => do
    let bound := 4 * words.length + 8
    let judged (isPlain : Bool) (words : List Octets) : Action Nat := do
      let (value, here) ← anyOf bound isPlain words
      match here with
      | word :: _ :: _ => failAt word "unexpected operator"
      | _ => return if value != isDenied then 0 else 1
    match words with
    | [] => return if isDenied then 0 else 1
    | first :: rest =>
      let last := words.getLast?.getD []
      if words.length = 3 ∧ (rest.head?.bind operator?) = some .binary then judged true words
      else if words.length = 3 ∨ words.length = 4 then
        if first = ['('] ∧ last = [')'] then judged false rest.dropLast
        else if first = ['!'] then examineWithin fuel true rest
        else judged false words
      else judged false words

/-- Examines an expression, after which there may have to be a word that starts with a bracket. -/
def examine (needsBracket : Bool) (words : List Octets) : Action Nat := do
  if needsBracket then
    if (words.getLast?.bind List.head?) ≠ some ']' then fail "missing ]".toList
    examineWithin (words.length + 1) false words.dropLast
  else examineWithin (words.length + 1) false words

end Builtin
end Shell
end OrderTrials
