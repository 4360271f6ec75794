import OrderTrials.Tools.Words
/-
# Showing files

The tool that shows files one after the other. It may number lines, mark their ends, make visible
what cannot be seen, and leave out empty lines that follow each other.

Key definitions: `Tools.Show.Manner`, `Tools.Show.next`, `Tools.Show.program`.
Key theorems: `Tools.Show.visible_of_plain`.
-/

namespace OrderTrials
namespace Tools
namespace Show

open Machine (Act Program Refusal)

/-- How files are shown. -/
structure Manner where
  hasNumbers : Bool := false
  /-- Whether empty lines get no number. -/
  skipsEmpty : Bool := false
  isSqueezed : Bool := false
  hasEnds : Bool := false
  hasTabs : Bool := false
  hasControls : Bool := false
deriving DecidableEq, Inhabited

/-- The manner that options ask for. -/
def mannerOf (o : Options) : Manner where
  hasNumbers := o.has 'n' || o.has 'b'
  skipsEmpty := o.has 'b'
  isSqueezed := o.has 's'
  hasEnds := o.has 'E' || o.has 'e' || o.has 'A'
  hasTabs := o.has 'T' || o.has 't' || o.has 'A'
  hasControls := o.has 'v' || o.has 'e' || o.has 't' || o.has 'A'

/-- Whether files are shown as they are. -/
def Manner.isSimple (m : Manner) : Bool :=
  !(m.hasNumbers || m.isSqueezed || m.hasEnds || m.hasTabs || m.hasControls)

/-- Where the text stands: how many lines have been numbered, how many line ends have just come
(none yet in the middle of a line), and whether a carriage return is held back. -/
structure Standing where
  line : Nat := 0
  ends : Option Nat := some 0
  isHeld : Bool := false
deriving DecidableEq, Inhabited

/-- The number of a line. -/
def lineNumber (n : Nat) : Octets :=
  let ds := Octets.ofNat n
  List.replicate (6 - ds.length) ' ' ++ ds ++ ['\t']

/-- A character made visible. -/
def visible (m : Manner) (c : Char) : Octets :=
  let n := c.toNat
  if c = '\t' then (if m.hasTabs then ['^', 'I'] else [c])
  else if !m.hasControls then [c]
  else if n < 32 then ['^', Char.ofNat (n + 64)]
  else if n < 127 then [c]
  else if n = 127 then ['^', '?']
  else if n < 160 then ['M', '-', '^', Char.ofNat (n - 64)]
  else if n < 255 then ['M', '-', Char.ofNat (n - 128)]
  else ['M', '-', '^', '?']

/-- A letter is visible as it is. -/
theorem visible_of_plain (m : Manner) {c : Char} (h : 32 ≤ c.toNat ∧ c.toNat < 127) :
    visible m c = [c] := by
  have ht : c ≠ '\t' := by
    rintro rfl
    exact absurd h.1 (by decide)
  have h1 : ¬ c.toNat < 32 := Nat.not_lt.2 h.1
  simp [visible, ht, h1, h.2]

/-- What is shown for the next character, and where the text stands then. -/
def next (m : Manner) (s : Standing) (c : Char) : Octets × Standing :=
  if c = '\n' then
    let ends := match s.ends with
      | some n => min (n + 1) 2
      | none => 0
    if m.isSqueezed && ends == 2 && s.ends.isSome then ([], { s with ends := some ends })
    else
      let isNumbered := 0 < ends ∧ m.hasNumbers ∧ !m.skipsEmpty
      let line := if isNumbered then s.line + 1 else s.line
      let held := if s.isHeld then ['^', 'M'] else []
      (held ++ (if isNumbered then lineNumber line else []) ++ (if m.hasEnds then ['$'] else []) ++
        ['\n'], ⟨line, some ends, false⟩)
  else
    let isNumbered := s.ends.isSome && m.hasNumbers
    let line := if isNumbered then s.line + 1 else s.line
    let start := (if s.isHeld then ['\r'] else []) ++ if isNumbered then lineNumber line else []
    if c = '\r' ∧ m.hasEnds ∧ !m.hasControls then (start, ⟨line, none, true⟩)
    else (start ++ visible m c, ⟨line, none, false⟩)

/-- What is shown for some characters, the last one first, and where the text stands then. -/
def shown (m : Manner) (s : Standing) (text : Octets) : List Octets × Standing :=
  text.foldl (fun (done, s) c => let (o, s) := next m s c; (o :: done, s)) ([], s)

/-- The options of the tool. -/
def known : Known where
  letters := "benstuvAET".toList.map fun c => (c, .nothing)
  names := [("number-nonblank", .nothing, 'b'), ("number", .nothing, 'n'),
    ("squeeze-blank", .nothing, 's'), ("show-nonprinting", .nothing, 'v'),
    ("show-ends", .nothing, 'E'), ("show-tabs", .nothing, 'T'), ("show-all", .nothing, 'A'),
    ("help", .nothing, '?'), ("version", .nothing, '!')]

/-- How the copying of a file has ended. -/
inductive Copied where
  | wholly
  | unreadable (refusal : Refusal)
  | unwritable (refusal : Refusal)

/-- Shows what can be read from a descriptor. The first number bounds how often is read. -/
def copy (m : Manner) (fd : Nat) : Nat → Standing → Act (Copied × Standing)
  | 0, s => return (.wholly, s)
  | fuel + 1, s => do
    match ← fun k => .read fd Act.blockSize k with
    | .error .interrupted => copy m fd fuel s
    | .error refusal => return (.unreadable refusal, s)
    | .ok [] => return (.wholly, s)
    | .ok block =>
      let (blocks, t) := if m.isSimple then ([block], s) else shown m s block
      match ← Act.write 1 blocks.reverse.flatten with
      | .ok _ => copy m fd fuel t
      | .error refusal => return (.unwritable refusal, s)

/-- Whether a descriptor is of the file that is written, and something is left to be read. -/
def isOutput (fd : Nat) : Act Bool := do
  match ← fun k => .lookAt fd k, ← fun k => .lookAt 1 k with
  | .ok (some (p, .file bytes)), .ok (some (q, .file _)) => return p == q && bytes.size != 0
  | _, _ => return false

/-- Shows one file; returns where the text stands then and whether there were no complaints, or
nothing if it is no use to go on. -/
def showFile (tool : Octets) (m : Manner) (s : Standing) (name : Octets) :
    Act (Option (Standing × Bool)) := do
  let isInput := name == ['-']
  match ← if isInput then pure (.ok 0) else fun k => .openFile name { reads := true } k with
  | .error refusal =>
    complain tool (because (fileQuoted name) refusal)
    return some (s, false)
  | .ok fd =>
    if ← isOutput fd then
      complain tool (fileQuoted name ++ ": input file is output file".toList)
      if !isInput then let _ ← fun k => .close fd k
      return some (s, false)
    match ← copy m fd Act.endless s with
    | (.unwritable refusal, _) =>
      complain tool (because "write error".toList refusal)
      return none
    | (.unreadable refusal, s) =>
      complain tool (because (fileQuoted name) refusal)
      if !isInput then let _ ← fun k => .close fd k
      return some (s, false)
    | (.wholly, s) =>
      if !isInput then let _ ← fun k => .close fd k
      return some (s, true)

/-- Shows files; returns the status. -/
def showFiles (tool : Octets) (m : Manner) (s : Standing) : List Octets → Act Nat
  | [] => do
    if s.isHeld then let _ ← Act.write 1 ['\r']
    return 0
  | name :: rest => do
    match ← showFile tool m s name with
    | none => return 1
    | some (s, isFine) =>
      let status ← showFiles tool m s rest
      return if isFine then status else 1

/-- Shows files. -/
def program (words : List Octets) : Act Nat := do
  let tool := words.head?.getD []
  match Options.read known words.tail with
  | .error reason =>
    complain tool reason
    referToHelp tool
    return 1
  | .ok o =>
    if o.has '?' || o.has '!' then return 0
    match ← fun k => .lookAt 1 k with
    | .error refusal =>
      complain tool (because "standard output".toList refusal)
      return 1
    | .ok _ =>
      showFiles tool (mannerOf o) {} (if o.words.isEmpty then [['-']] else o.words)

end Show
end Tools
end OrderTrials
