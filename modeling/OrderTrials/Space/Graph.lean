/-
# Order graphs

A directed graph over level names whose edges are declared or induced. Between two names there
is at most one edge in each direction; inserting it again can make it declared and never undoes
that. The nodes are the end points of the edges.

Key definitions: `Graph`, `Graph.insert`, `Graph.reaches`.
Key theorems: `mem_explore_iff`.
-/

namespace OrderTrials

/-- A step from one level name to another. -/
structure Edge where
  source : String
  target : String
  declared : Bool
deriving DecidableEq, Inhabited

/-- Steps between level names. -/
structure Graph where
  edges : List Edge
deriving DecidableEq, Inhabited

/-- The members of `domain` that chains of `next` reach from those of `pending` in it. A found
member leaves the domain, so cycles and repetitions do no harm. -/
def explore (next : String → List String) (domain pending : List String) : List String :=
  match _found : pending.find? domain.contains with
  | none => []
  | some n => n :: explore next (domain.erase n) (next n ++ pending)
termination_by domain.length
decreasing_by
  have member : n ∈ domain := List.contains_iff_mem.1 (List.find?_some _found)
  have := List.length_erase_of_mem member
  have := List.length_pos_of_mem member
  omega

/-- What a chain of `next` inside `domain` reaches from `pending`. -/
inductive Reached (next : String → List String) (domain pending : List String) : String → Prop where
  | start {n : String} : n ∈ domain → n ∈ pending → Reached next domain pending n
  | hop {m n : String} : Reached next domain pending m → n ∈ domain → n ∈ next m →
      Reached next domain pending n

theorem Reached.mem_domain {next : String → List String} {domain pending : List String}
    {n : String} (h : Reached next domain pending n) : n ∈ domain := by
  cases h with
  | start h _ => exact h
  | hop _ h _ => exact h

theorem Reached.of_erase {next : String → List String} {domain pending : List String}
    {m n : String} (hm : m ∈ domain) (hp : m ∈ pending)
    (h : Reached next (domain.erase m) (next m ++ pending) n) : Reached next domain pending n := by
  induction h with
  | start hd hs =>
    rcases List.mem_append.1 hs with hs | hs
    · exact .hop (.start hm hp) (List.mem_of_mem_erase hd) hs
    · exact .start (List.mem_of_mem_erase hd) hs
  | hop _ hd hn ih => exact .hop ih (List.mem_of_mem_erase hd) hn

theorem Reached.erase {next : String → List String} {domain pending : List String} {m n : String}
    (h : Reached next domain pending n) (hne : n ≠ m) :
    Reached next (domain.erase m) (next m ++ pending) n := by
  induction h with
  | start hd hs => exact .start ((List.mem_erase_of_ne hne).2 hd) (List.mem_append_right _ hs)
  | @hop k n _ hd hn ih =>
    have hd' := (List.mem_erase_of_ne hne).2 hd
    by_cases e : k = m
    · exact .start hd' (List.mem_append_left _ (e ▸ hn))
    · exact .hop (ih e) hd' hn

/-- **Exploring finds what chains reach, and nothing else.** -/
theorem mem_explore_iff (next : String → List String) (domain pending : List String) (n : String) :
    n ∈ explore next domain pending ↔ Reached next domain pending n := by
  fun_induction explore next domain pending with
  | case1 domain pending found =>
    constructor
    · intro h
      simp at h
    · intro h
      have none_in : ∀ m ∈ pending, m ∉ domain := fun m hm => by
        simpa using List.find?_eq_none.1 found m hm
      induction h with
      | start hd hs => exact absurd hd (none_in _ hs)
      | hop _ _ _ ih => simp at ih
  | case2 domain pending m found ih =>
    have hd : m ∈ domain := List.contains_iff_mem.1 (List.find?_some found)
    have hp : m ∈ pending := List.mem_of_find?_eq_some found
    constructor
    · intro h
      rcases List.mem_cons.1 h with e | h
      · exact e ▸ .start hd hp
      · exact .of_erase hd hp (ih.1 h)
    · intro h
      by_cases e : n = m
      · exact List.mem_cons.2 (.inl e)
      · exact List.mem_cons.2 (.inr (ih.2 (h.erase e)))

namespace Graph

/-- The graph without edges. -/
def empty : Graph := ⟨[]⟩

/-- Whether an edge leads from `source` to `target`. -/
def joins (source target : String) (e : Edge) : Bool :=
  e.source == source && e.target == target

/-- Adds an edge; one that is there stays, and becomes declared if the new one is. -/
def insert (g : Graph) (source target : String) (declared : Bool) : Graph :=
  if g.edges.any (joins source target) then
    ⟨g.edges.map fun e =>
      if joins source target e then { e with declared := e.declared || declared } else e⟩
  else ⟨g.edges ++ [⟨source, target, declared⟩]⟩

/-- The edge from one name to another. -/
def edge? (g : Graph) (source target : String) : Option Edge :=
  g.edges.find? (joins source target)

/-- Whether a name is an end point of an edge. -/
def isNode (g : Graph) (name : String) : Bool :=
  g.edges.any fun e => e.source == name || e.target == name

/-- The end points of the edges, each once. -/
def nodes (g : Graph) : List String :=
  (g.edges.flatMap fun e => [e.source, e.target]).eraseDups

/-- The names one step away, by declared steps alone or by all steps. -/
def successors (g : Graph) (declaredOnly : Bool) (name : String) : List String :=
  (g.edges.filter fun e => e.source == name && (e.declared || !declaredOnly)).map (·.target)

/-- Whether a chain of steps, possibly of none, leads from one node to another. -/
def reaches (g : Graph) (declaredOnly : Bool) (source target : String) : Bool :=
  (explore (g.successors declaredOnly) g.nodes [source]).contains target

/-- Pairs of names in ascending order, by the first and then by the second. -/
def pairLe (a b : String × String) : Bool :=
  decide (a.1 < b.1) || (a.1 == b.1 && decide (a.2 ≤ b.2))

/-- The end points of the declared edges, in ascending order. -/
def declaredPairs (g : Graph) : List (String × String) :=
  ((g.edges.filter (·.declared)).map fun e => (e.source, e.target)).mergeSort pairLe

end Graph
end OrderTrials
