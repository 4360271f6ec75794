import OrderTrials.Proofs.Reading
import OrderTrials.Proofs.Wording
import OrderTrials.Space.Artifact
/-
# What an artifact states

An artifact writes a level as a truth value, a whole number or a string, and orders and options as
records. What a document states is described here without its reader, as a raw artifact in which
levels are kept as they are written. Each reader finds what is stated and nothing else, whatever the
document is: what it returns is the raw thing with the levels under their normal names.

Key definitions: `RawLevel.normal`, `RawLevel.StatedBy`, `RawOrder.StatedBy`, `RawOption.StatedBy`,
`RawArtifact.StatedBy`, `RawArtifact.StatedIn`.
Key theorems: `levelName?_eq_some_iff`, `OrderEntry.read?_eq_some_iff`,
`OptionEntry.read?_eq_some_iff`, `Artifact.read?_eq_some_iff`, `RawArtifact.StatedIn.bounds`.
-/

namespace OrderTrials

open Json Document

/-! ### Levels -/

/-- The canonical numeral of a number writes it. -/
theorem Json.writes_numeralOf (v : Int) : (numeralOf v).Writes v := by
  have value := (Text.digitsValue_eq_some_iff 0 _ _).mp (Text.digitsValue_digits v.natAbs)
  exact ⟨value.1, value.2, rfl, rfl, rfl⟩

/-- A level as an artifact writes it. -/
inductive RawLevel where
  | truth (b : Bool)
  | whole (v : Int)
  | name (s : String)
deriving DecidableEq

namespace RawLevel

/-- The name of a level: a truth value in capitals, a number in its canonical numeral. -/
def normal : RawLevel → String
  | truth true => "TRUE"
  | truth false => "FALSE"
  | whole v => Text.showInteger v
  | name s => s

/-- The document that writes a level. -/
def StatedBy : RawLevel → Document → Prop
  | truth b, d => d = .leaf (.bool b)
  | whole v, d => d.IsWord v
  | name s, d => d.IsText s

end RawLevel

/-- **A level is read by its normal name.** -/
theorem levelName?_eq_some_iff (d : Document) (n : String) :
    levelName? d = some n ↔ ∃ l : RawLevel, l.StatedBy d ∧ l.normal = n := by
  constructor
  · intro h
    unfold levelName? at h
    split at h
    · exact ⟨.truth true, rfl, Option.some.inj h⟩
    · exact ⟨.truth false, rfl, Option.some.inj h⟩
    · obtain rfl := h
      exact ⟨.name n, rfl, rfl⟩
    · obtain ⟨v, hv, rfl⟩ := Option.map_eq_some_iff.mp h
      exact ⟨.whole v, (signed?_eq_some_iff d v).mp hv, rfl⟩
  · rintro ⟨l, stated, rfl⟩
    cases l with
    | truth b =>
      obtain rfl := stated
      cases b <;> rfl
    | name s =>
      obtain rfl := stated
      rfl
    | whole v =>
      have read := (signed?_eq_some_iff d v).mpr stated
      obtain ⟨n, rfl, -⟩ := stated
      rw [levelName?, read]
      · rfl
      all_goals exact nofun

theorem RawLevel.not_statedBy_null (l : RawLevel) : ¬ l.StatedBy (.leaf .null) := by
  cases l with
  | truth b => exact nofun
  | name s => exact nofun
  | whole v => exact not_isWord_null v

/-! ### Orders -/

/-- An order as an artifact writes it. -/
structure RawOrder where
  relation : Relation
  left : RawLevel
  right : RawLevel
deriving DecidableEq

namespace RawOrder

/-- A document is a record of an order: the relation in three letters, and both levels. -/
def StatedBy (o : RawOrder) (d : Document) : Prop :=
  ∃ relation left right,
    d.IsRecord [⟨"order", .required⟩, ⟨"left", .required⟩, ⟨"right", .required⟩]
      [some relation, some left, some right] ∧
    relation.IsName o.relation.code ∧ o.left.StatedBy left ∧ o.right.StatedBy right

/-- The order between normal names. -/
def entry (o : RawOrder) : OrderEntry := ⟨o.relation, o.left.normal, o.right.normal⟩

end RawOrder

theorem Relation.ofCode?_eq_some_iff (s : String) (r : Relation) :
    ofCode? s = some r ↔ s = r.code := by
  unfold ofCode?
  constructor
  · intro h
    split at h
    · rename_i sound
      obtain rfl := Option.some.inj h
      exact sound
    · rw [Option.ite_none_right_eq_some] at h
      obtain ⟨precise, h⟩ := h
      obtain rfl := Option.some.inj h
      exact precise
  · rintro rfl
    cases r <;> decide

/-- **An order is read as it is stated.** -/
theorem OrderEntry.read?_eq_some_iff (d : Document) (e : OrderEntry) :
    OrderEntry.read? d = some e ↔ ∃ o : RawOrder, o.StatedBy d ∧ o.entry = e := by
  have code (d : Document) (r : Relation) :
      d.name?.bind Relation.ofCode? = some r ↔ d.IsName r.code := by
    simp only [Option.bind_eq_some_iff, Relation.ofCode?_eq_some_iff, name?_eq_some_iff,
      exists_eq_right]
  constructor
  · intro h
    unfold OrderEntry.read? at h
    obtain ⟨values, hv, h⟩ := Option.bind_eq_some_iff.mp h
    have record := (fields?_eq_some_iff _ d values).mp hv
    split at h
    · rename_i relation left right
      simp only [Option.bind_eq_bind, Option.bind_eq_some_iff, Option.pure_def, Option.some.injEq,
        code, levelName?_eq_some_iff] at h
      obtain ⟨r, hr, _, ⟨l, hl, rfl⟩, _, ⟨l', hl', rfl⟩, rfl⟩ := h
      exact ⟨⟨r, l, l'⟩, ⟨relation, left, right, record, hr, hl, hl'⟩, rfl⟩
    · cases h
  · rintro ⟨o, ⟨relation, left, right, record, hr, hl, hl'⟩, rfl⟩
    have fields := (fields?_eq_some_iff OrderEntry.fields d _).mpr record
    have first := (levelName?_eq_some_iff left _).mpr ⟨o.left, hl, rfl⟩
    have second := (levelName?_eq_some_iff right _).mpr ⟨o.right, hl', rfl⟩
    rw [OrderEntry.read?, fields]
    dsimp only [Option.bind_eq_bind, Option.bind_some]
    rw [(code relation _).mpr hr, first, second]
    rfl

/-! ### Options -/

/-- An option as an artifact writes it. -/
structure RawOption where
  name : String
  isInteger : Bool
  levels : List RawLevel
  least : Option Int
  greatest : Option Int
  default? : Option RawLevel
  tags : List String
  orders : List RawOrder
deriving DecidableEq

namespace RawOption

/-- A document is a record of an option: its name and type, its levels, the bounds of its integers,
its default, its tags and its orders. All but the name and the type may be missing, and bounds and
default may be null. -/
def StatedBy (o : RawOption) (d : Document) : Prop :=
  ∃ name kind levels least greatest default? tags orders,
    d.IsRecord [⟨"name", .required⟩, ⟨"type", .required⟩, ⟨"levels", .defaulted⟩,
        ⟨"minValue", .nullable⟩, ⟨"maxValue", .nullable⟩, ⟨"default", .nullable⟩,
        ⟨"tags", .defaulted⟩, ⟨"orders", .defaulted⟩]
      [some name, some kind, levels, least, greatest, default?, tags, orders] ∧
    name.IsText o.name ∧ kind.IsName (if o.isInteger then "integer" else "enum") ∧
    AreItems RawLevel.StatedBy o.levels levels ∧
    IsMaybe IsWord o.least least ∧ IsMaybe IsWord o.greatest greatest ∧
    IsMaybe RawLevel.StatedBy o.default? default? ∧
    AreItems IsText o.tags tags ∧ AreItems RawOrder.StatedBy o.orders orders

/-- The normal names of the levels that an option lists and, on an option of integers, of the ends
of its orders. -/
def names (o : RawOption) : List String :=
  o.levels.map RawLevel.normal ++
    if o.isInteger then o.orders.flatMap fun w => [w.left.normal, w.right.normal] else []

/-- An order of an option, between the levels of the normal names. -/
def order (o : RawOption) (w : RawOrder) : Order :=
  ⟨⟨o.name, w.left.normal⟩, w.relation, ⟨o.name, w.right.normal⟩, o.name⟩

/-- The option with normal names. -/
def entry (o : RawOption) : OptionEntry where
  name := o.name
  isInteger := o.isInteger
  levels := o.levels.map RawLevel.normal
  least := o.least
  greatest := o.greatest
  default? := o.default?.map RawLevel.normal
  tags := o.tags
  orders := o.orders.map RawOrder.entry

end RawOption

theorem OptionEntry.isInteger?_eq_some_iff (s : String) (b : Bool) :
    isInteger? s = some b ↔ s = if b then "integer" else "enum" := by
  unfold isInteger?
  constructor
  · intro h
    split at h
    · rename_i kind
      obtain rfl := Option.some.inj h
      exact kind
    · rw [Option.ite_none_right_eq_some] at h
      obtain ⟨kind, h⟩ := h
      obtain rfl := Option.some.inj h
      exact kind
  · rintro rfl
    cases b <;> decide

/-- **An option is read as it is stated.** -/
theorem OptionEntry.read?_eq_some_iff (d : Document) (e : OptionEntry) :
    OptionEntry.read? d = some e ↔ ∃ o : RawOption, o.StatedBy d ∧ o.entry = e := by
  have kind (d : Document) (b : Bool) : d.name?.bind isInteger? = some b ↔
      d.IsName (if b then "integer" else "enum") := by
    simp only [Option.bind_eq_some_iff, isInteger?_eq_some_iff, name?_eq_some_iff, exists_eq_right]
  have levelsRead := orElse?_list?_eq_some_iff levelName?_eq_some_iff
  have defaultRead := maybe?_eq_some_iff levelName?_eq_some_iff RawLevel.not_statedBy_null
  have boundRead := maybe?_eq_some_iff_of_exact signed?_eq_some_iff not_isWord_null
  have tagsRead := orElse?_list?_eq_some_iff_of_exact text?_eq_some_iff
  have ordersRead := orElse?_list?_eq_some_iff OrderEntry.read?_eq_some_iff
  constructor
  · intro h
    unfold OptionEntry.read? at h
    obtain ⟨values, hv, h⟩ := Option.bind_eq_some_iff.mp h
    have record := (fields?_eq_some_iff _ d values).mp hv
    split at h
    · simp only [Option.bind_eq_bind, Option.bind_eq_some_iff, Option.pure_def, Option.some.injEq,
        text?_eq_some_iff, kind, levelsRead, boundRead, defaultRead, tagsRead, ordersRead] at h
      obtain ⟨name, hname, b, hkind, _, ⟨levels, hlevels, rfl⟩, least, hleast, greatest, hgreatest,
        _, ⟨default?, hdefault, rfl⟩, tags, htags, _, ⟨orders, horders, rfl⟩, rfl⟩ := h
      exact ⟨⟨name, b, levels, least, greatest, default?, tags, orders⟩, ⟨_, _, _, _, _, _, _, _,
        record, hname, hkind, hlevels, hleast, hgreatest, hdefault, htags, horders⟩, rfl⟩
    · cases h
  · rintro ⟨o, ⟨name, type, levels, least, greatest, default?, tags, orders, record, hname, hkind,
      hlevels, hleast, hgreatest, hdefault, htags, horders⟩, rfl⟩
    have fields := (fields?_eq_some_iff OptionEntry.fields d _).mpr record
    rw [OptionEntry.read?, fields]
    dsimp only [Option.bind_eq_bind, Option.bind_some]
    rw [(text?_eq_some_iff name _).mpr hname, (kind type _).mpr hkind,
      (levelsRead levels _).mpr ⟨o.levels, hlevels, rfl⟩, (boundRead least _).mpr hleast,
      (boundRead greatest _).mpr hgreatest, (defaultRead default? _).mpr ⟨_, hdefault, rfl⟩,
      (tagsRead tags _).mpr htags, (ordersRead orders _).mpr ⟨o.orders, horders, rfl⟩]
    rfl

/-- The bounds of an option are stated as words. -/
theorem RawOption.StatedBy.bounds {o : RawOption} {d : Document} (h : o.StatedBy d) :
    (∀ v, o.least = some v → Text.minWord ≤ v ∧ v ≤ Text.maxWord) ∧
      ∀ v, o.greatest = some v → Text.minWord ≤ v ∧ v ≤ Text.maxWord := by
  have word {v : Int} {bound : Option Document} (stated : IsMaybe IsWord (some v) bound) :
      Text.minWord ≤ v ∧ v ≤ Text.maxWord := by
    obtain _ | _ | ⟨_, -, -, word⟩ := stated
    exact word
  obtain ⟨_, _, _, _, _, _, _, _, -, -, -, -, least, greatest, -⟩ := h
  exact ⟨fun v hv => word (hv ▸ least), fun v hv => word (hv ▸ greatest)⟩

/-! ### Artifacts -/

/-- The contents of an artifact as they are written. -/
structure RawArtifact where
  name : String
  options : List RawOption
deriving DecidableEq

namespace RawArtifact

/-- A document is a record of an artifact: its name and the list of its options. -/
def StatedBy (a : RawArtifact) (d : Document) : Prop :=
  ∃ name items,
    d.IsRecord [⟨"name", .required⟩, ⟨"options", .required⟩] [some name, some (.list items)] ∧
    name.IsText a.name ∧ List.Forall₂ RawOption.StatedBy a.options items

/-- A text is that of a document which states an artifact. -/
def StatedIn (a : RawArtifact) (text : String) : Prop :=
  ∃ d, Document.read? text = some d ∧ a.StatedBy d

/-- The artifact with normal names. -/
def entries (a : RawArtifact) : Artifact := ⟨a.name, a.options.map RawOption.entry⟩

end RawArtifact

theorem Artifact.ofDocument?_eq_some_iff (d : Document) (a : Artifact) :
    Artifact.ofDocument? d = some a ↔ ∃ r : RawArtifact, r.StatedBy d ∧ r.entries = a := by
  have optionsRead := list?_eq_some_iff OptionEntry.read?_eq_some_iff
  constructor
  · intro h
    unfold Artifact.ofDocument? at h
    obtain ⟨values, hv, h⟩ := Option.bind_eq_some_iff.mp h
    have record := (fields?_eq_some_iff _ d values).mp hv
    split at h
    · simp only [Option.bind_eq_bind, Option.bind_eq_some_iff, Option.pure_def, Option.some.injEq,
        text?_eq_some_iff, optionsRead] at h
      obtain ⟨name, hname, _, ⟨options, items, rfl, hoptions, rfl⟩, rfl⟩ := h
      exact ⟨⟨name, options⟩, ⟨_, items, record, hname, hoptions⟩, rfl⟩
    · cases h
  · rintro ⟨r, ⟨name, items, record, hname, hoptions⟩, rfl⟩
    have fields := (fields?_eq_some_iff Artifact.fields d _).mpr record
    rw [Artifact.ofDocument?, fields]
    dsimp only [Option.bind_eq_bind, Option.bind_some]
    rw [(text?_eq_some_iff name _).mpr hname,
      (optionsRead (.list items) _).mpr ⟨r.options, items, rfl, hoptions, rfl⟩]
    rfl

/-- However the text of a document is written, it states what the document states. -/
theorem RawArtifact.StatedBy.statedIn {a : RawArtifact} {v : Value} (stated : a.StatedBy v.document)
    {text : String} (spells : v.Spells text.toList) : a.StatedIn text :=
  ⟨v.document, spells.read?, stated⟩

/-- The bounds of all options are stated as words. -/
theorem RawArtifact.StatedIn.bounds {a : RawArtifact} {text : String} (h : a.StatedIn text)
    {o : RawOption} (ho : o ∈ a.options) :
    (∀ v, o.least = some v → Text.minWord ≤ v ∧ v ≤ Text.maxWord) ∧
      ∀ v, o.greatest = some v → Text.minWord ≤ v ∧ v ≤ Text.maxWord := by
  obtain ⟨_, -, _, items, -, -, options⟩ := h
  -- the items and the options correspond by their places
  obtain ⟨i, hi, rfl⟩ := List.getElem_of_mem ho
  exact (options.get hi (options.length_eq ▸ hi)).bounds

/-- **An artifact is read as it is stated.** -/
theorem Artifact.read?_eq_some_iff (text : String) (a : Artifact) :
    Artifact.read? text = some a ↔ ∃ r : RawArtifact, r.StatedIn text ∧ r.entries = a := by
  simp only [Artifact.read?, Option.bind_eq_some_iff, ofDocument?_eq_some_iff, RawArtifact.StatedIn]
  constructor
  · rintro ⟨d, hd, r, stated, rfl⟩
    exact ⟨r, ⟨d, hd, stated⟩, rfl⟩
  · rintro ⟨r, ⟨d, hd, stated⟩, rfl⟩
    exact ⟨d, hd, r, stated, rfl⟩

end OrderTrials
