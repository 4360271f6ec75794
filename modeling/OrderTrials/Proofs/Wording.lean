import OrderTrials.Proofs.Spelling
/-
# Texts of values

A value has many texts: there may be white space around it and its parts, and a character of a
string may have an escape. All of them are read as the document of the value
(`Json.Value.Spells.read?`), by induction on the text. The compact and the pretty text of a value
are two of its texts, so each of them is read back, and values with the same compact text are the
same (`Json.Value.compact_inj`).

Key definitions: `Json.Value.document`, `Json.Value.Whole`, `Json.Value.Spells`.
Key theorems: `Json.Value.Spells.tokens`, `Json.Value.Spells.read?`, `Json.Value.spells_pretty`,
`Json.Value.spells_compact`, `Json.Value.compact_inj`, `Json.Document.fields?_object`.
-/

namespace OrderTrials
namespace Json

namespace Value

/-- **Induction on a value.** What holds of a list or an object if it holds of its parts, and of all
other values, holds of every value. -/
@[elab_as_elim]
theorem induct {P : Value → Prop} (null : P .null) (bool : ∀ b, P (.bool b))
    (whole : ∀ n, P (.whole n)) (double : ∀ d, P (.double d)) (text : ∀ x, P (.text x))
    (list : ∀ items, (∀ v ∈ items, P v) → P (.list items))
    (object : ∀ members, (∀ m ∈ members, P m.2) → P (.object members)) : ∀ v, P v
  | .null => null
  | .bool b => bool b
  | .whole n => whole n
  | .double d => double d
  | .text x => text x
  | .list items => list items fun v _ => induct null bool whole double text list object v
  | .object members => object members fun m _ =>
    induct null bool whole double text list object m.2
termination_by v => sizeOf v
decreasing_by
  · have smaller := List.sizeOf_lt_of_mem ‹_ ∈ items›
    simp only [Value.list.sizeOf_spec]
    omega
  · have smaller := List.sizeOf_lt_of_mem ‹_ ∈ members›
    have parts : sizeOf m = 1 + sizeOf m.1 + sizeOf m.2 := by
      cases m
      rfl
    simp only [Value.object.sizeOf_spec]
    omega

/-! ### Documents of values -/

mutual

/-- The document of a value. A double counts as null, since its digits are of no concern here. -/
def document : Value → Document
  | null => .leaf .null
  | bool b => .leaf (.bool b)
  | whole n => .leaf (.number (numeralOf n))
  | double _ => .leaf .null
  | text s => .leaf (.text (some s))
  | list items => .list (documents items)
  | object members => .object (memberDocuments members)

/-- The documents of items. -/
def documents : List Value → List Document
  | [] => []
  | v :: r => v.document :: documents r

/-- The documents of members. -/
def memberDocuments : List (String × Value) → List (Option String × Document)
  | [] => []
  | (k, v) :: r => (some k, v.document) :: memberDocuments r

end

mutual

/-- A value without doubles. -/
def Whole : Value → Prop
  | double _ => False
  | list items => AllWhole items
  | object members => MembersWhole members
  | _ => True

/-- Items without doubles. -/
def AllWhole : List Value → Prop
  | [] => True
  | v :: r => v.Whole ∧ AllWhole r

/-- Members without doubles. -/
def MembersWhole : List (String × Value) → Prop
  | [] => True
  | (_, v) :: r => v.Whole ∧ MembersWhole r

end

theorem allWhole_iff {items : List Value} : AllWhole items ↔ ∀ v ∈ items, v.Whole := by
  induction items with
  | nil => simp [AllWhole]
  | cons v items ih => simp [AllWhole, ih]

theorem membersWhole_iff {members : List (String × Value)} :
    MembersWhole members ↔ ∀ m ∈ members, m.2.Whole := by
  induction members with
  | nil => simp [MembersWhole]
  | cons m members ih => simp [MembersWhole, ih]

/-! ### The texts of a value -/

mutual

/-- The texts of a value in which all numbers are whole, with white space around it or without. -/
inductive Spells : Value → List Char → Prop where
  | null : Spells .null ['n', 'u', 'l', 'l']
  | yes : Spells (.bool true) ['t', 'r', 'u', 'e']
  | no : Spells (.bool false) ['f', 'a', 'l', 's', 'e']
  | whole (n : Int) : Spells (.whole n) (Text.showInteger n).toList
  | text {x : String} {s : List Char} : Escapes x.toList s → Spells (.text x) ('"' :: s ++ ['"'])
  | emptyList {s : List Char} : s.all isSpace = true → Spells (.list []) ('[' :: s ++ [']'])
  | list {v : Value} {r : List Value} {s : List Char} : SpellsItems v r s →
      Spells (.list (v :: r)) ('[' :: s ++ [']'])
  | emptyObject {s : List Char} : s.all isSpace = true →
      Spells (.object []) ('\x7b' :: s ++ ['\x7d'])
  | object {m : String × Value} {r : List (String × Value)} {s : List Char} :
      SpellsMembers m r s → Spells (.object (m :: r)) ('\x7b' :: s ++ ['\x7d'])
  | before {c : Char} {v : Value} {s : List Char} : isSpace c = true → Spells v s →
      Spells v (c :: s)
  | after {c : Char} {v : Value} {s : List Char} : isSpace c = true → Spells v s →
      Spells v (s ++ [c])

/-- The texts of a first item and of those behind it, with commas between them. -/
inductive SpellsItems : Value → List Value → List Char → Prop where
  | last {v : Value} {s : List Char} : Spells v s → SpellsItems v [] s
  | more {v w : Value} {r : List Value} {s t : List Char} : Spells v s → SpellsItems w r t →
      SpellsItems v (w :: r) (s ++ ',' :: t)

/-- The texts of a first member and of those behind it. A key is written like a string. -/
inductive SpellsMembers : String × Value → List (String × Value) → List Char → Prop where
  | last {k : String} {v : Value} {s t : List Char} : Spells (.text k) s → Spells v t →
      SpellsMembers (k, v) [] (s ++ ':' :: t)
  | more {k : String} {v : Value} {m : String × Value} {r : List (String × Value)}
      {s t u : List Char} : Spells (.text k) s → Spells v t → SpellsMembers m r u →
      SpellsMembers (k, v) (m :: r) (s ++ ':' :: (t ++ ',' :: u))

end

theorem tokens?_spaces {w : List Char} (spaces : w.all isSpace = true) (rest : List Char) :
    tokens? (w ++ rest) = tokens? rest := by
  induction w with
  | nil => rfl
  | cons c w ih =>
    rw [List.all_cons, Bool.and_eq_true] at spaces
    rw [List.cons_append, tokens?_space spaces.1, ih spaces.2]

/-- White space ends a numeral and a word. -/
theorem stops_space {c : Char} (space : isSpace c = true) (rest : List Char) :
    Stops (c :: rest) := by
  refine stops_cons ?_ rest
  simp only [isSpace, Bool.or_eq_true, beq_iff_eq] at space
  rcases space with ((rfl | rfl) | rfl) | rfl <;> decide

theorem tokens?_cons {c : Char} {t : Token} {rest : List Char} {ts : List Token}
    (h : isSpace c = false ∧ mark? c = some t) (read : tokens? rest = some ts) :
    tokens? (c :: rest) = some (t :: ts) := by
  rw [tokens?_mark h.1 h.2, read, Option.map_some]

mutual

/-- **Every text of a value is read as the tokens of its document,** whatever stands behind it, if
that does not go on with a letter or a digit. -/
theorem Spells.tokens : ∀ {v : Value} {s : List Char}, v.Spells s → ∀ {rest : List Char}
    {ts : List Token}, Stops rest → tokens? rest = some ts →
    tokens? (s ++ rest) = some (v.document.tokens ++ ts)
  | _, _, .null, rest, ts, stops, read => by
    rw [tokens?_word (s := .null) (by decide) (by decide) (by decide) (by decide) (by decide) rfl
      stops, read]
    rfl
  | _, _, .yes, rest, ts, stops, read => by
    rw [tokens?_word (s := .bool true) (by decide) (by decide) (by decide) (by decide) (by decide)
      rfl stops, read]
    rfl
  | _, _, .no, rest, ts, stops, read => by
    rw [tokens?_word (s := .bool false) (by decide) (by decide) (by decide) (by decide) (by decide)
      rfl stops, read]
    rfl
  | _, _, .whole n, rest, ts, stops, read => by
    rw [tokens?_number n stops, read]
    rfl
  | _, _, .text escapes, rest, ts, _, read => by
    rw [tokens?_string escapes rest, read]
    rfl
  | _, _, .emptyList spaces, rest, ts, _, read => by
    have close := tokens?_cons (c := ']') (t := .endList) (by decide) read
    rw [List.append_assoc]
    exact tokens?_cons (by decide) ((tokens?_spaces spaces _).trans close)
  | _, _, .list (v := v) h, rest, ts, _, read => by
    rw [List.append_assoc]
    refine (tokens?_cons (t := .beginList) (by decide) (h.tokens read)).trans ?_
    rw [← List.append_assoc v.document.tokens]
    rfl
  | _, _, .emptyObject spaces, rest, ts, _, read => by
    have close := tokens?_cons (c := '\x7d') (t := .endObject) (by decide) read
    rw [List.append_assoc]
    exact tokens?_cons (by decide) ((tokens?_spaces spaces _).trans close)
  | _, _, .object (m := m) h, rest, ts, _, read => by
    rw [List.append_assoc]
    refine (tokens?_cons (t := .beginObject) (by decide) (h.tokens read)).trans ?_
    rw [← List.append_assoc m.2.document.tokens]
    rfl
  | _, _, .before space h, rest, ts, stops, read =>
    (tokens?_space space _).trans (h.tokens stops read)
  | _, _, .after space h, rest, ts, _, read => by
    rw [List.append_assoc]
    exact h.tokens (stops_space space rest) ((tokens?_space space rest).trans read)

theorem SpellsItems.tokens : ∀ {v : Value} {r : List Value} {s : List Char}, SpellsItems v r s →
    ∀ {rest : List Char} {ts : List Token}, tokens? rest = some ts →
    tokens? (s ++ ']' :: rest) =
      some (v.document.tokens ++ (Document.itemTokens (documents r) ++ ts))
  | _, _, _, .last h, rest, ts, read =>
    h.tokens (stops_cons (by decide) rest) (tokens?_cons (by decide) read)
  | _, _, _, .more (w := w) h hr, rest, ts, read => by
    have comma := tokens?_cons (c := ',') (t := .comma) (by decide) (hr.tokens read)
    rw [List.append_assoc]
    refine (h.tokens (stops_cons (by decide) _) comma).trans ?_
    rw [← List.append_assoc w.document.tokens]
    rfl

theorem SpellsMembers.tokens : ∀ {m : String × Value} {r : List (String × Value)} {s : List Char},
    SpellsMembers m r s → ∀ {rest : List Char} {ts : List Token}, tokens? rest = some ts →
    tokens? (s ++ '\x7d' :: rest) = some (.leaf (.text (some m.1)) :: .colon ::
      (m.2.document.tokens ++ (Document.memberTokens (memberDocuments r) ++ ts)))
  | _, _, _, .last hk h, rest, ts, read => by
    have close := tokens?_cons (c := '\x7d') (t := .endObject) (by decide) read
    have value := h.tokens (stops_cons (by decide) rest) close
    have colon := tokens?_cons (c := ':') (t := .colon) (by decide) value
    rw [List.append_assoc]
    exact hk.tokens (stops_cons (by decide) _) colon
  | _, _, _, .more (m := m) hk h hr, rest, ts, read => by
    have comma := tokens?_cons (c := ',') (t := .comma) (by decide) (hr.tokens read)
    have value := h.tokens (stops_cons (by decide) _) comma
    have colon := tokens?_cons (c := ':') (t := .colon) (by decide) value
    rw [List.append_assoc, List.cons_append, List.append_assoc]
    refine (hk.tokens (stops_cons (by decide) _) colon).trans ?_
    rw [← List.append_assoc m.2.document.tokens]
    rfl

end

/-- **Every text of a value is read as its document.** -/
theorem Spells.read? {v : Value} {text : String} (h : v.Spells text.toList) :
    Document.read? text = some v.document := by
  have read := h.tokens stops_nil (by rw [tokens?])
  rw [List.append_nil, List.append_nil] at read
  rw [Document.read?, read]
  exact Document.ofTokens?_tokens v.document

/-! ### The two layouts -/

theorem Spells.spaces {v : Value} {s w : List Char} (h : v.Spells s)
    (spaces : w.all isSpace = true) : v.Spells (w ++ s) := by
  induction w with
  | nil => exact h
  | cons c w ih =>
    rw [List.all_cons, Bool.and_eq_true] at spaces
    exact .before spaces.1 (ih spaces.2)

theorem Spells.append_spaces {v : Value} {s w : List Char} (h : v.Spells s)
    (spaces : w.all isSpace = true) : v.Spells (s ++ w) := by
  induction w generalizing s with
  | nil => rwa [List.append_nil]
  | cons c w ih =>
    rw [List.all_cons, Bool.and_eq_true] at spaces
    have next := ih (h.after spaces.1) spaces.2
    rwa [List.append_assoc, List.singleton_append] at next

theorem spaces_newLine (level : Nat) : (newLine level).all isSpace = true := by
  rw [newLine, List.all_cons, Bool.and_eq_true, List.all_eq_true]
  refine ⟨rfl, fun c hc => ?_⟩
  rw [List.eq_of_mem_replicate hc]
  rfl

/-- A value that is neither a list nor an object is printed as a text of it. -/
theorem spells_leafText {v : Value} (plain : v.Whole) (leaf : ∃ s, v.document = .leaf s) :
    v.Spells v.leafText := by
  cases v with
  | null => exact .null
  | bool b =>
    cases b
    · exact .no
    · exact .yes
  | whole n => exact .whole n
  | double d => exact plain.elim
  | text s => exact .text (escapes_flatMap s.toList)
  | list items =>
    obtain ⟨s, h⟩ := leaf
    cases h
  | object members =>
    obtain ⟨s, h⟩ := leaf
    cases h

theorem spells_quoted (k : String) : Spells (.text k) (quoted k) :=
  .text (escapes_flatMap k.toList)

section

variable {v : Value} {r : List Value} {m : String × Value} {rest : List (String × Value)}
  {w : List Char}

theorem spellsItems_pretty (level : Nat) (spaces : w.all isSpace = true)
    (h : ∀ x ∈ v :: r, x.Spells (x.prettyChars level)) :
    SpellsItems v r (prettyItems level (v :: r) ++ w) := by
  induction r generalizing v with
  | nil =>
    exact .last (((h v List.mem_cons_self).spaces (spaces_newLine level)).append_spaces spaces)
  | cons v' r ih =>
    obtain ⟨first, others⟩ := List.forall_mem_cons.mp h
    have items := SpellsItems.more (first.spaces (spaces_newLine level)) (ih others)
    rwa [← List.cons_append, ← List.append_assoc] at items

theorem spellsMembers_pretty (level : Nat) (spaces : w.all isSpace = true)
    (h : ∀ x ∈ m :: rest, x.2.Spells (x.2.prettyChars level)) :
    SpellsMembers m rest (prettyMembers level (m :: rest) ++ w) := by
  induction rest generalizing m with
  | nil =>
    have key := (spells_quoted m.1).spaces (spaces_newLine level)
    have value := ((h m List.mem_cons_self).before (c := ' ') (by decide)).append_spaces spaces
    have member := SpellsMembers.last key value
    rwa [List.cons_append, ← List.cons_append, ← List.cons_append, ← List.append_assoc] at member
  | cons m' rest ih =>
    obtain ⟨first, others⟩ := List.forall_mem_cons.mp h
    have key := (spells_quoted m.1).spaces (spaces_newLine level)
    have members := SpellsMembers.more key (first.before (c := ' ') (by decide)) (ih others)
    change SpellsMembers m (m' :: rest) (newLine level ++ quoted m.1 ++
      ':' :: ' ' :: m.2.prettyChars level ++ ',' :: prettyMembers level (m' :: rest) ++ w)
    simpa only [List.append_assoc, List.cons_append] using members

/-- **The pretty text of a value is one of its texts.** -/
theorem spells_pretty (v : Value) (level : Nat) (plain : v.Whole) :
    v.Spells (v.prettyChars level) := by
  induction v using induct generalizing level with
  | list items ih =>
    have whole := allWhole_iff.mp plain
    cases items with
    | nil => exact .emptyList (s := []) rfl
    | cons v r =>
      exact .list (spellsItems_pretty (level + 1) (spaces_newLine level)
        fun x hx => ih x hx (level + 1) (whole x hx))
  | object members ih =>
    have whole := membersWhole_iff.mp plain
    cases members with
    | nil => exact .emptyObject (s := []) rfl
    | cons m r =>
      exact .object (spellsMembers_pretty (level + 1) (spaces_newLine level)
        fun x hx => ih x hx (level + 1) (whole x hx))
  | double d => exact plain.elim
  | null => exact spells_leafText plain ⟨_, rfl⟩
  | bool b => exact spells_leafText plain ⟨_, rfl⟩
  | whole n => exact spells_leafText plain ⟨_, rfl⟩
  | text x => exact spells_leafText plain ⟨_, rfl⟩

theorem spellsItems_compact (h : ∀ x ∈ v :: r, x.Spells x.compactChars) :
    SpellsItems v r (compactItems (v :: r)) := by
  induction r generalizing v with
  | nil => exact .last (h v List.mem_cons_self)
  | cons v' r ih =>
    obtain ⟨first, others⟩ := List.forall_mem_cons.mp h
    exact .more first (ih others)

theorem spellsMembers_compact (h : ∀ x ∈ m :: rest, x.2.Spells x.2.compactChars) :
    SpellsMembers m rest (compactMembers (m :: rest)) := by
  induction rest generalizing m with
  | nil => exact .last (spells_quoted m.1) (h m List.mem_cons_self)
  | cons m' rest ih =>
    obtain ⟨first, others⟩ := List.forall_mem_cons.mp h
    have members := SpellsMembers.more (spells_quoted m.1) first (ih others)
    rwa [← List.cons_append, ← List.append_assoc] at members

end

/-- **The compact text of a value is one of its texts.** -/
theorem spells_compact (v : Value) (plain : v.Whole) : v.Spells v.compactChars := by
  induction v using induct with
  | list items ih =>
    have whole := allWhole_iff.mp plain
    cases items with
    | nil => exact .emptyList (s := []) rfl
    | cons v r => exact .list (spellsItems_compact fun x hx => ih x hx (whole x hx))
  | object members ih =>
    have whole := membersWhole_iff.mp plain
    cases members with
    | nil => exact .emptyObject (s := []) rfl
    | cons m r => exact .object (spellsMembers_compact fun x hx => ih x hx (whole x hx))
  | double d => exact plain.elim
  | null => exact spells_leafText plain ⟨_, rfl⟩
  | bool b => exact spells_leafText plain ⟨_, rfl⟩
  | whole n => exact spells_leafText plain ⟨_, rfl⟩
  | text x => exact spells_leafText plain ⟨_, rfl⟩

/-- **What is printed is read back.** -/
theorem read?_pretty (v : Value) (plain : v.Whole) :
    Document.read? v.pretty = some v.document :=
  Spells.read? (by rw [pretty, String.toList_ofList]; exact spells_pretty v 0 plain)

theorem read?_compact (v : Value) (plain : v.Whole) :
    Document.read? v.compact = some v.document :=
  Spells.read? (by rw [compact, String.toList_ofList]; exact spells_compact v plain)

theorem documents_inj {items items' : List Value} (plain : AllWhole items')
    (h : documents items = documents items')
    (inj : ∀ v ∈ items, ∀ w : Value, w.Whole → v.document = w.document → v = w) :
    items = items' := by
  induction items generalizing items' with
  | nil =>
    cases items' with
    | nil => rfl
    | cons w r' => cases h
  | cons v r ih =>
    cases items' with
    | nil => cases h
    | cons w r' =>
      obtain ⟨first, others⟩ := List.cons.inj h
      rw [inj v List.mem_cons_self w plain.1 first,
        ih plain.2 others fun x hx => inj x (List.mem_cons_of_mem v hx)]

theorem memberDocuments_inj {members members' : List (String × Value)}
    (plain : MembersWhole members') (h : memberDocuments members = memberDocuments members')
    (inj : ∀ m ∈ members, ∀ w : Value, w.Whole → m.2.document = w.document → m.2 = w) :
    members = members' := by
  induction members generalizing members' with
  | nil =>
    cases members' with
    | nil => rfl
    | cons m r' => cases h
  | cons m r ih =>
    cases members' with
    | nil => cases h
    | cons m' r' =>
      obtain ⟨first, others⟩ := List.cons.inj h
      obtain ⟨key, value⟩ := Prod.mk.inj first
      have same : m = m' := Prod.ext (Option.some.inj key)
        (inj m List.mem_cons_self m'.2 plain.1 value)
      rw [same, ih plain.2 others fun x hx => inj x (List.mem_cons_of_mem m hx)]

/-- Values with the same document are the same, as long as no number is a double. -/
theorem document_inj {v w : Value} (plain : v.Whole) (plain' : w.Whole)
    (h : v.document = w.document) : v = w := by
  induction v using induct generalizing w with
  | double d => exact plain.elim
  | null =>
    cases w with
    | null => rfl
    | double d => exact plain'.elim
    | _ => cases h
  | bool b =>
    cases w with
    | bool b' =>
      cases h
      rfl
    | _ => cases h
  | whole n =>
    cases w with
    | whole m => rw [numeralOf_inj (Scalar.number.inj (Document.leaf.inj h))]
    | _ => cases h
  | text x =>
    cases w with
    | text y =>
      cases h
      rfl
    | _ => cases h
  | list items ih =>
    have whole := allWhole_iff.mp plain
    cases w with
    | list items' =>
      rw [documents_inj plain' (Document.list.inj h) fun v hv w => ih v hv (whole v hv)]
    | _ => cases h
  | object members ih =>
    have whole := membersWhole_iff.mp plain
    cases w with
    | object members' =>
      rw [memberDocuments_inj plain' (Document.object.inj h) fun m hm w => ih m hm (whole m hm)]
    | _ => cases h

/-- **Values with the same compact text are the same,** as long as no number is a double. -/
theorem compact_inj {v w : Value} (plain : v.Whole) (plain' : w.Whole)
    (h : v.compact = w.compact) : v = w := by
  have read := read?_compact v plain
  rw [h, read?_compact w plain'] at read
  exact (document_inj plain' plain (Option.some.inj read)).symm

end Value

/-! ### Records and lists that are read back -/

namespace Document

open Value

/-- The only member of a name is the one that is found. -/
theorem filter_name {named : List (String × Document)} {m : String × Document}
    (nodup : (named.map (·.1)).Nodup) (hm : m ∈ named) :
    named.filter (·.1 == m.1) = [m] := by
  induction named with
  | nil => cases hm
  | cons a named ih =>
    obtain ⟨new, nodup⟩ := List.nodup_cons.mp nodup
    rcases List.mem_cons.mp hm with rfl | hm
    · have nothing : named.filter (·.1 == m.1) = [] := by
        refine List.filter_eq_nil_iff.mpr fun x hx same => new ?_
        exact List.mem_map.mpr ⟨x, hx, eq_of_beq same⟩
      rw [List.filter_cons, if_pos (beq_self_eq_true _), nothing]
    · have other : (a.1 == m.1) = false := by
        refine beq_eq_false_iff_ne.mpr fun same => new ?_
        exact List.mem_map.mpr ⟨m, hm, same.symm⟩
      rw [List.filter_cons, other, if_neg Bool.false_ne_true, ih nodup hm]

/-- Fields are found under their names. -/
theorem mapM_memberOf? {named : List (String × Document)} (nodup : (named.map (·.1)).Nodup)
    {fs : List Field} {ms : List (String × Document)} (names : fs.map (·.name) = ms.map (·.1))
    (part : ms ⊆ named) : fs.mapM (memberOf? named) = some (ms.map fun m => some m.2) := by
  induction fs generalizing ms with
  | nil =>
    obtain rfl : ms = [] := List.map_eq_nil_iff.mp names.symm
    rfl
  | cons f fs ih =>
    cases ms with
    | nil => cases names
    | cons m ms =>
      obtain ⟨name, names⟩ := List.cons.inj names
      have found : memberOf? named f = some (some m.2) := by
        rw [memberOf?, show f.name = m.1 from name, filter_name nodup (part List.mem_cons_self)]
      rw [List.mapM_cons, found, ih names fun x hx => part (List.mem_cons_of_mem m hx)]
      rfl

theorem mapM_memberDocuments (members : List (String × Value)) :
    ((memberDocuments members).mapM fun m => m.1.map (·, m.2)) =
      some (members.map fun m => (m.1, m.2.document)) := by
  induction members with
  | nil => rfl
  | cons m members ih =>
    rw [memberDocuments, List.mapM_cons, ih]
    rfl

/-- **A record is read back field by field,** if its fields have different names. -/
theorem fields?_object {fs : List Field} {members : List (String × Value)}
    (nodup : (fs.map (·.name)).Nodup) (names : fs.map (·.name) = members.map (·.1)) :
    (Value.object members).document.fields? fs =
      some (members.map fun m => some m.2.document) := by
  have same : (members.map fun m => (m.1, m.2.document)).map (·.1) = members.map (·.1) := by
    rw [List.map_map]
    rfl
  rw [names, ← same] at nodup
  have read := mapM_memberOf? nodup (names.trans same.symm) (List.Subset.refl _)
  rw [List.map_map] at read
  rw [document, fields?, mapM_memberDocuments]
  exact read

/-- A list is read item by item. -/
theorem list?_map {α β : Type} {read : Document → Option α} {write : β → Value} {f : β → α}
    {xs : List β} (h : ∀ x ∈ xs, read (write x).document = some (f x)) :
    (Value.list (xs.map write)).document.list? read = some (xs.map f) := by
  rw [document, list?]
  induction xs with
  | nil => rfl
  | cons x xs ih =>
    rw [List.map_cons, documents, List.mapM_cons, h x List.mem_cons_self,
      ih fun y hy => h y (List.mem_cons_of_mem x hy)]
    rfl

/-- **A list is read back item by item.** -/
theorem list?_list {α : Type} {read : Document → Option α} {write : α → Value} {xs : List α}
    (h : ∀ x ∈ xs, read (write x).document = some x) :
    (Value.list (xs.map write)).document.list? read = some xs := by
  have all := list?_map (f := id) h
  rwa [List.map_id] at all

/-- A word is read back from its numeral. -/
theorem unsigned?_whole {n : Nat} (word : n ≤ maxUnsigned) :
    (Value.whole n).document.unsigned? = some n := by
  have value : (numeralOf n).whole? = some (n : Int) :=
    whole?_numeralOf (Int.le_trans (by decide) (Int.natCast_nonneg n)) (by omega)
  rw [document, unsigned?, whole?, value]
  rfl

end Document

end Json
end OrderTrials
