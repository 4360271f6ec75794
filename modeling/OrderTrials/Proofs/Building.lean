import OrderTrials.Proofs.Endpoints
/-
# What is built of an artifact

The default of an option is the level that the stated default names, and its levels are the
registered names and the default, each once and where it came first (`OptionEntry.build_ok`):
registering keeps all but the levels, declaring all but the graphs, and the level that a text names
stays the same when it is registered (`Dimension.level_register`). With what is read of an artifact
(`Artifact.read?_eq_some_iff`) the space of a text can be told from what the text states: its
options with their levels, bounds, tags and defaults, and its orders between normal names
(`Space.lists_artifact`).

Key theorems: `Dimension.level_register`, `OptionEntry.build_ok`, `OptionEntry.bounds_ok`,
`Space.lists_artifact`.
-/

namespace OrderTrials

open Json Document

namespace Dimension

variable {d d' : Dimension} {registered : List String} {raw : String} {l : Level}

theorem levels_foldl_register (h : d.levels = registered.eraseDups) (names : List String) :
    (names.foldl register d).levels = (registered ++ names).eraseDups := by
  induction names generalizing d registered with
  | nil => rw [List.append_nil]; exact h
  | cons n names ih =>
    rw [List.foldl_cons, ih (levels_register h n), List.append_assoc, List.singleton_append]

/-- Registering changes the levels alone. -/
theorem register_eq (d : Dimension) (n : String) :
    d.register n = { d with levels := (d.register n).levels } := by
  unfold register
  split <;> rfl

theorem foldl_register (names : List String) (d : Dimension) :
    names.foldl register d = { d with levels := (names.foldl register d).levels } := by
  induction names generalizing d with
  | nil => rfl
  | cons n names ih => rw [List.foldl_cons, ih (d.register n), register_eq d n]

/-- Declaring changes the graphs alone. -/
theorem foldlM_declare {os : List OrderEntry} (h : os.foldlM OptionEntry.declare d = .ok d') :
    d' = { d with soundness := d'.soundness, precision := d'.precision } := by
  refine invariant_of_foldlM (p := fun c => c = { d with
    soundness := c.soundness, precision := c.precision }) (fun o _ c c' kept made => ?_) rfl h
  rw [(declare_ok made).2.2.1, kept]

theorem sameLetters_of_registered?_none (h : d.registered? raw = none) {name : String}
    (hn : name ∈ d.levels) : sameLetters name raw = false := by
  obtain ⟨-, none⟩ := Option.or_eq_none_iff.mp h
  exact Bool.eq_false_iff.mpr (List.find?_eq_none.mp none name hn)

/-- **A text names the same level once this is registered.** -/
theorem level_register (h : d.level raw = .ok l) : (d.register l.name).level raw = .ok l := by
  have known (hl : l.name ∈ d.levels) : d.register l.name = d :=
    if_pos (List.contains_iff_mem.mpr hl)
  by_cases hl : l.name ∈ d.levels
  · rw [known hl]
    exact h
  rw [level_eq_ok_iff] at h ⊢
  obtain ⟨own, found | ⟨none, integer, v, denotes, covers, numeral⟩⟩ := h
  · exact absurd (mem_of_registered? found) hl
  have frame := register_eq d l.name
  refine ⟨by rw [frame]; exact own, ?_⟩
  cases found : (d.register l.name).registered? raw with
  | none => exact .inr ⟨rfl, by rw [frame]; exact integer, v, denotes, by rw [frame]; exact covers,
      numeral⟩
  | some name =>
    -- nothing registered before is the text, so it is the new level
    have same := sameLetters_of_registered? found
    rcases (mem_register d l.name name).mp (mem_of_registered? found) with old | rfl
    · rw [sameLetters_of_registered?_none none old] at same
      cases same
    · exact .inl rfl

end Dimension

namespace OptionEntry

variable {e : OptionEntry} {d : Dimension}

theorem blank_bounds (h : e.blank = .ok d) :
    d.levels = [] ∧ d.least = (if e.isInteger then e.least else none) ∧
      d.greatest = if e.isInteger then e.greatest else none := by
  unfold blank at h
  cases integer : e.isInteger with
  | false =>
    rw [integer, if_neg Bool.false_ne_true] at h
    obtain rfl := Except.ok.inj h
    exact ⟨rfl, rfl, rfl⟩
  | true =>
    rw [integer, if_pos rfl] at h
    split at h
    · rename_i least greatest
      unfold Dimension.integer at h
      split at h
      · cases h
      · obtain rfl := Except.ok.inj h
        exact ⟨rfl, least.symm, greatest.symm⟩
    · cases h

/-- **What is built of an option:** its default is the level that the stated default names, its
levels are the registered names and the default, each once and where it came first, and its tags are
those of the option. -/
theorem build_ok (h : e.build = .ok d) :
    ∃ raw l, e.default? = some raw ∧ d.level raw = .ok l ∧ d.default? = some l.name ∧
      d.levels = (e.registeredNames ++ [l.name]).eraseDups ∧ d.tags = e.tags := by
  unfold build at h
  obtain ⟨blank, hblank, h⟩ := (bind_eq_ok_iff _ _ _).mp h
  have fresh : ({ blank with tags := e.tags } : Dimension).levels = [].eraseDups :=
    (blank_bounds hblank).1
  have registered := Dimension.levels_foldl_register fresh e.registeredNames
  have named := Dimension.foldl_register e.registeredNames { blank with tags := e.tags }
  rw [List.nil_append] at registered
  generalize e.registeredNames.foldl Dimension.register { blank with tags := e.tags } = full
    at h named registered
  cases hdefault : e.default? with
  | none =>
    rw [hdefault] at h
    cases h
  | some raw =>
    rw [hdefault] at h
    obtain ⟨chosen, hset, h⟩ := (bind_eq_ok_iff _ _ _).mp h
    obtain ⟨l, hl, rfl⟩ := Dimension.setDefault_ok hset
    -- the default was looked up before it was registered and before the orders were declared
    have declared := Dimension.foldlM_declare h
    have levels := Dimension.levels_register registered l.name
    have tags : (full.register l.name).tags = e.tags :=
      (congrArg Dimension.tags (Dimension.register_eq full l.name)).trans
        (congrArg Dimension.tags named)
    exact ⟨raw, l, rfl, (congrArg (·.level raw) declared).trans (Dimension.level_register hl),
      congrArg Dimension.default? declared, (congrArg Dimension.levels declared).trans levels,
      (congrArg Dimension.tags declared).trans tags⟩

/-- The bounds of an option are kept if it is one of integers. -/
theorem bounds_ok (h : e.build = .ok d) :
    d.least = (if e.isInteger then e.least else none) ∧
      d.greatest = if e.isInteger then e.greatest else none := by
  obtain ⟨blank, hblank, hrun⟩ := run_calls h
  have kept := Dimension.extends_of_foldlM hrun
  obtain ⟨-, least, greatest⟩ := blank_bounds hblank
  exact ⟨kept.least.trans least, kept.greatest.trans greatest⟩

end OptionEntry

namespace RawOption

theorem registeredNames_entry (o : RawOption) : o.entry.registeredNames = o.names := by
  rw [OptionEntry.registeredNames, names, entry]
  dsimp only
  rw [List.flatMap_map]
  rfl

theorem declared_entry (o : RawOption) : o.entry.declared = o.orders.map o.order := by
  rw [OptionEntry.declared, entry, List.map_map]
  rfl

end RawOption

/-- A space has the name of its artifact. -/
theorem Artifact.name_of_build {a : Artifact} {s : Space} (h : a.build = .ok s) :
    s.name = a.name := by
  refine invariant_of_foldlM (p := fun c : Space => c.name = a.name) (fun e _ c c' kept added => ?_)
    rfl h
  obtain ⟨d, -, added⟩ := (bind_eq_ok_iff _ _ _).mp added
  unfold Space.add at added
  split at added
  · cases added
  · obtain rfl := Except.ok.inj added
    exact kept

/-! ### Spaces of texts -/

namespace Space

variable {s : Space} {text : String}

/-- **A space is what its artifact says.** A text that is accepted states an artifact. Whatever it
states, the space has its name and its options: these have different names, and there are no others.
The dimension of an option is of the type, the tags and, with integers, the bounds that are stated.
Its default is the level that the stated default names. Its levels are those that are listed, under
their normal names, on an option of integers also the ends of the orders, and the default, each once
and in this order. So there is a default configuration. The declared orders are those that are
stated, between normal names, and no others; they are ascending by option, relation and levels, and
so without repetitions. Each of them is found as an explicit order of one step. -/
theorem lists_artifact (accepted : ofText text = .ok s) :
    (∃ a : RawArtifact, a.StatedIn text) ∧ ∀ a : RawArtifact, a.StatedIn text →
      s.name = a.name ∧
      ((a.options.map (·.name)).Nodup ∧ s.dimensions.keys.Perm (a.options.map (·.name))) ∧
      (∀ o ∈ a.options, ∃ d stated l, s.dimension? o.name = some d ∧
        d.name = o.name ∧ d.isInteger = o.isInteger ∧ d.tags = o.tags ∧
        (d.least = (if o.isInteger then o.least else none) ∧
          d.greatest = if o.isInteger then o.greatest else none) ∧
        (o.default? = some stated ∧ d.level stated.normal = .ok l ∧ d.defaultLevel = .ok l) ∧
        (l.option = o.name ∧ l.name ∈ d.levels ∧ d.levels = (o.names ++ [l.name]).eraseDups)) ∧
      (∃ c, Configuration.default s = .ok c) ∧
      (s.declaredOrders.Nodup ∧ s.declaredOrders.Pairwise Order.Before ∧
        ∀ p, p ∈ s.declaredOrders ↔ ∃ o ∈ a.options, ∃ w ∈ o.orders, p = o.order w) ∧
      ∀ o ∈ a.options, ∀ w ∈ o.orders, ∃ d, s.dimension? o.name = some d ∧
        d.order? w.relation ⟨o.name, w.left.normal⟩ ⟨o.name, w.right.normal⟩ =
          .ok (some ⟨o.order w, true, false⟩) := by
  obtain ⟨entries, hread, built⟩ := (ofText_eq_ok_iff text s).mp accepted
  refine ⟨?_, fun a stated => ?_⟩
  · obtain ⟨a, stated, -⟩ := (Artifact.read?_eq_some_iff text entries).mp hread
    exact ⟨a, stated⟩
  -- a text is read in one way, so whatever it states is what the space was built of
  have read := (Artifact.read?_eq_some_iff text _).mpr ⟨a, stated, rfl⟩
  obtain rfl : a.entries = entries := Option.some.inj (read.symm.trans hread)
  have mem {e : OptionEntry} : e ∈ a.entries.options ↔ ∃ o ∈ a.options, o.entry = e := List.mem_map
  have names : a.entries.options.map (·.name) = a.options.map (·.name) := List.map_map
  have orders (p : Order) :
      p ∈ s.declaredOrders ↔ ∃ o ∈ a.options, ∃ w ∈ o.orders, p = o.order w := by
    rw [mem_declaredOrders_iff built]
    constructor
    · rintro ⟨_, he, hp⟩
      obtain ⟨o, ho, rfl⟩ := mem.mp he
      rw [o.declared_entry] at hp
      obtain ⟨w, hw, rfl⟩ := List.mem_map.mp hp
      exact ⟨o, ho, w, hw, rfl⟩
    · rintro ⟨o, ho, w, hw, rfl⟩
      exact ⟨o.entry, mem.mpr ⟨o, ho, rfl⟩, o.declared_entry ▸ List.mem_map_of_mem hw⟩
  refine ⟨Artifact.name_of_build built, ⟨names ▸ Artifact.nodup_names built,
      names ▸ Artifact.perm_names built⟩, fun o ho => ?_, Configuration.default_defined accepted,
    ⟨nodup_declaredOrders accepted, ascending_declaredOrders accepted, orders⟩, fun o ho w hw => ?_⟩
  · obtain ⟨d, hd⟩ := Artifact.build_of_mem a.entries.options built (mem.mpr ⟨o, ho, rfl⟩)
    have found := (Artifact.dimension?_iff built o.name d).mpr
      ⟨o.entry, mem.mpr ⟨o, ho, rfl⟩, rfl, hd⟩
    obtain ⟨-, name, integer⟩ := OptionEntry.shows_of_build hd
    obtain ⟨raw, l, hraw, hl, default, levels, tags⟩ := OptionEntry.build_ok hd
    obtain ⟨stated, hstated, rfl⟩ := Option.map_eq_some_iff.mp hraw
    have own := ((d.level_eq_ok_iff _ l).mp hl).1
    have chosen := (d.defaultLevel_eq_ok_iff l).mpr ⟨own, default⟩
    rw [o.registeredNames_entry] at levels
    exact ⟨d, stated, l, found, name, integer, tags, OptionEntry.bounds_ok hd,
      ⟨hstated, hl, chosen⟩, own.trans name,
      ((wellFormed_of_text accepted found).default_registered chosen).2, levels⟩
  · obtain ⟨d, hd, shows, name, -⟩ := dimension?_of_entry accepted read (mem.mpr ⟨o, ho, rfl⟩)
    have declared : o.order w ∈ o.entry.declared := o.declared_entry ▸ List.mem_map_of_mem hw
    exact ⟨d, hd, (shows.order?_declared ((mem_declaredOrders_entry shows name).mpr declared)).2.2⟩

/-! ### An option with levels of every kind -/

/-- An order between a truth value and a number. -/
def switchesOrder : RawOrder := ⟨.moreSound, .truth true, .whole (-3)⟩

/-- An option whose levels are truth values, a number and a string. -/
def switches : RawOption :=
  ⟨"k", false, [.truth true, .truth false, .whole (-3), .name "off"], none, none,
    some (.truth false), [], [switchesOrder]⟩

/-- A document with this option. The type is written before the name, and the order as a list. -/
def switchesDocument : Document :=
  let text (s : String) : Document := .leaf (.text (some s))
  let truth (b : Bool) : Document := .leaf (.bool b)
  let number (v : Int) : Document := .leaf (.number (numeralOf v))
  .object [(some "name", text "t"), (some "options", .list [
    .object [(some "type", text "enum"), (some "name", text "k"),
      (some "levels", .list [truth true, truth false, number (-3), text "off"]),
      (some "default", truth false),
      (some "orders", .list [.list [text "MST", truth true, number (-3)]])]])]

/-- A text of that document. -/
def switchesText : String :=
  "\x7b\"name\":\"t\",\"options\":[\x7b\"type\":\"enum\",\"name\":\"k\"," ++
    "\"levels\":[true,false,-3,\"off\"],\"default\":false,\"orders\":[[\"MST\",true,-3]]\x7d]\x7d"

/-- The artifact with the option states that text. -/
theorem switches_statedIn : RawArtifact.StatedIn ⟨"t", [switches]⟩ switchesText := by
  have tokens : tokens? switchesText.toList = some switchesDocument.tokens := by decide +kernel
  have read : Document.read? switchesText = some switchesDocument := by
    rw [Document.read?, tokens]
    exact ofTokens?_tokens switchesDocument
  have number : IsWord (-3) (.leaf (.number (numeralOf (-3)))) :=
    ⟨_, rfl, writes_numeralOf (-3), by decide⟩
  have record {fs : List Field} {d : Document} {values : List (Option Document)}
      (read : d.fields? fs = some values) : d.IsRecord fs values :=
    (fields?_eq_some_iff fs d values).mp read
  refine ⟨_, read, _, _, record rfl, rfl, .cons ?_ .nil⟩
  refine ⟨_, _, _, _, _, _, _, _, record rfl, rfl, .inl rfl, .list ?levels, .missing, .missing,
    .given rfl, .missing, .list (.cons ?order .nil)⟩
  case levels => exact .cons rfl (.cons rfl (.cons number (.cons rfl .nil)))
  case order => exact ⟨_, _, _, record rfl, .inl rfl, rfl, number⟩

/-- The space that the text describes. -/
def switchesSpace : Space := (Artifact.build ⟨"t", [switches.entry]⟩).toOption.getD (.empty "t")

theorem ofText_switchesText : ofText switchesText = .ok switchesSpace :=
  (ofText_eq_ok_iff _ _).mpr ⟨⟨"t", [switches.entry]⟩,
    (Artifact.read?_eq_some_iff _ _).mpr ⟨_, switches_statedIn, rfl⟩, by decide +kernel⟩

theorem lists_artifact_switches :
    ofText switchesText = .ok switchesSpace ∧ RawArtifact.StatedIn ⟨"t", [switches]⟩ switchesText ∧
      switchesSpace.dimensions.keys.Perm ["k"] ∧
      (∃ d, switchesSpace.dimension? "k" = some d ∧ d.defaultLevel = .ok ⟨"k", "FALSE"⟩ ∧
        d.levels = ["TRUE", "FALSE", "-3", "off"]) ∧
      (∀ p, p ∈ switchesSpace.declaredOrders ↔
        p = ⟨⟨"k", "TRUE"⟩, .moreSound, ⟨"k", "-3"⟩, "k"⟩) ∧
      ∃ d, switchesSpace.dimension? "k" = some d ∧
        d.order? .moreSound ⟨"k", "TRUE"⟩ ⟨"k", "-3"⟩ =
          .ok (some ⟨⟨⟨"k", "TRUE"⟩, .moreSound, ⟨"k", "-3"⟩, "k"⟩, true, false⟩) := by
  have left : switchesOrder.left.normal = "TRUE" := rfl
  have right : switchesOrder.right.normal = "-3" := by decide +kernel
  have order : switches.order switchesOrder = ⟨⟨"k", "TRUE"⟩, .moreSound, ⟨"k", "-3"⟩, "k"⟩ := by
    rw [RawOption.order, left, right]
    rfl
  have names : switches.names = ["TRUE", "FALSE", "-3", "off"] := by decide +kernel
  have chosen : (switchesSpace.dimension? "k").map (·.defaultLevel) =
      some (.ok ⟨"k", "FALSE"⟩) := by decide +kernel
  obtain ⟨-, ⟨-, keys⟩, options, -, ⟨-, -, orders⟩, found⟩ :=
    (lists_artifact ofText_switchesText).2 _ switches_statedIn
  obtain ⟨d, -, l, hd, -, -, -, -, ⟨-, -, default⟩, -, -, levels⟩ := options _ (.head _)
  obtain ⟨_, hd', default'⟩ := Option.map_eq_some_iff.mp chosen
  obtain rfl := Option.some.inj (hd.symm.trans hd')
  obtain rfl := Except.ok.inj (default.symm.trans default')
  refine ⟨ofText_switchesText, switches_statedIn, keys, ⟨d, hd, default, ?_⟩, fun p => ?_, ?_⟩
  · rw [levels, names]
    decide
  · have only : switches.orders = [switchesOrder] := rfl
    rw [orders]
    simp only [List.mem_singleton, exists_eq_left, only, order]
  · have explicit := found _ (.head _) _ (.head _)
    rw [left, right, order] at explicit
    exact explicit

end Space

end OrderTrials
