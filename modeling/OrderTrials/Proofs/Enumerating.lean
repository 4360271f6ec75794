import OrderTrials.Proofs.Endpoints
import OrderTrials.Proofs.Keeping
import OrderTrials.Proofs.Verdicts
/-
# Differences in any enumeration

A set of results has no order, so it may be enumerated in one order today and in another one
tomorrow. Records do not show it. Which results differ, and what follows for the pair, depends on
the sets alone: that they are the same up to order (`Judge.Rearranged`) is carried from the results
of a job through those that count to the differences. And a difference is listed in ascending order
of the JSON texts: as different strings have different JSON texts
(`Json.Value.compact_text_inj`), there is one such list for each set (`Record.eq_of_ascending`). So
the record of a pair is the same however the sets are enumerated (`Record.differences_canonical`).

The order of the JSON texts is that of the strings as long as these have no escapes and nothing that
comes before the closing quote (`Json.Value.compact_text_lt_iff`).

Key definitions: `Judge.Rearranged`.
Key theorems: `Json.Value.compact_text_inj`, `Json.Value.compact_text_lt_iff`,
`Judge.Rearranged.onlyFirst`, `Judge.rearranged_ofFiles`, `Record.eq_of_ascending`,
`Record.ascending_sortedValues`, `Record.ofViolation_eq_of_rearranged`,
`Record.differences_canonical`.
-/

namespace OrderTrials

/-! ### Strings and their JSON texts -/

namespace Json

variable {s t : String} {x y : List Char}

/-- A quote behind two texts does not change their order if it comes before all that is in them. -/
theorem append_quote_lt_iff (above : ∀ c ∈ x, '"' < c) (above' : ∀ c ∈ y, '"' < c) :
    x ++ ['"'] < y ++ ['"'] ↔ x < y := by
  induction x generalizing y with
  | nil =>
    cases y with
    | nil => simp
    | cons d y => simp [List.cons_lt_cons_iff, above' d List.mem_cons_self]
  | cons c x ih =>
    obtain ⟨first, others⟩ := List.forall_mem_cons.mp above
    cases y with
    | nil =>
      have after : ¬ c < '"' := Char.lt_asymm first
      simp [List.cons_lt_cons_iff, after]
    | cons d y =>
      obtain ⟨-, others'⟩ := List.forall_mem_cons.mp above'
      rw [List.cons_append, List.cons_append, List.cons_lt_cons_iff, List.cons_lt_cons_iff,
        ih others others']

/-- A character that comes after the quote and is no backslash needs no escape. -/
theorem escape_plain {c : Char} (above : '"' < c) (plain : c ≠ '\\') : escape c = [c] := by
  have code : '"'.toNat < c.toNat := above
  have quote : '"'.toNat = 34 := rfl
  have other {d : Char} (h : d.toNat ≤ 34) : c ≠ d := by
    rintro rfl
    omega
  rw [escape, if_neg (other (by decide)), if_neg plain, if_neg (other (by decide)),
    if_neg (other (by decide)), if_neg (other (by decide)), if_neg (other (by decide)),
    if_neg (other (by decide)), if_neg (by omega)]

theorem flatMap_escape_plain (plain : ∀ c ∈ x, '"' < c ∧ c ≠ '\\') : x.flatMap escape = x := by
  induction x with
  | nil => rfl
  | cons c x ih =>
    obtain ⟨first, others⟩ := List.forall_mem_cons.mp plain
    rw [List.flatMap_cons, escape_plain first.1 first.2, ih others]
    rfl

namespace Value

/-- **Different strings have different JSON texts.** -/
theorem compact_text_inj (same : (text s).compact = (text t).compact) : s = t :=
  text.inj (compact_inj trivial trivial same)

/-- **Plain strings come in the order of their JSON texts.** They are plain if all their characters
come after the quote and none is a backslash: what is escaped begins with a backslash instead, and a
blank or an exclamation mark comes before the quote that ends a shorter string. -/
theorem compact_text_lt_iff (plain : ∀ c ∈ s.toList, '"' < c ∧ c ≠ '\\')
    (plain' : ∀ c ∈ t.toList, '"' < c ∧ c ≠ '\\') :
    (text s).compact < (text t).compact ↔ s < t := by
  change (String.ofList (quoted s)).toList < (String.ofList (quoted t)).toList ↔
    s.toList < t.toList
  rw [String.toList_ofList, String.toList_ofList, quoted, quoted, flatMap_escape_plain plain,
    flatMap_escape_plain plain', List.cons_append, List.cons_append, List.cons_lt_cons_iff,
    append_quote_lt_iff (fun c hc => (plain c hc).1) fun c hc => (plain' c hc).1]
  simp

/-- Other strings may come in another order. -/
example : "b" < "b!" ∧ (text "b!").compact < (text "b").compact ∧
    "\n" < "\"" ∧ (text "\"").compact < (text "\n").compact := by decide

end Value
end Json

/-! ### Sets in another order -/

namespace Reader

variable {R : Type} [DecidableEq R] {reader : Reader R} {files : FileTree} {path : String}
  {found : List R}

/-- **What is read from a file is a set:** it has no repetitions. -/
theorem nodup_of_read (h : reader.read files path = .ok found) : found.Nodup := by
  unfold read at h
  split at h
  · cases h
  · cases h
    exact List.nodup_nil
  · split at h
    · cases h
    · cases h
      exact nodup_eraseDups _

theorem nodup_readOrEmpty (reader : Reader R) (files : FileTree) (path : String) :
    (reader.readOrEmpty files path).Nodup := by
  unfold readOrEmpty
  cases h : reader.read files path with
  | ok found => exact nodup_of_read h
  | error fault => exact List.nodup_nil

end Reader

namespace Judge

variable {R : Type} {j j' : Judge R}

/-- Two judges know the same sets of results and of true results, enumerated in different orders. -/
structure Rearranged (j j' : Judge R) : Prop where
  results : ∀ path, (j.results path).Perm (j'.results path)
  truth : ∀ target, Option.Rel List.Perm (j.known? target) (j'.known? target)

theorem Rearranged.resultsOf (h : j.Rearranged j') (f : FinishedJob) :
    (j.resultsOf f).Perm (j'.resultsOf f) := by
  unfold Judge.resultsOf
  cases f.result with
  | none => exact .refl _
  | some path => exact h.results path

theorem nodup_resultsOf (distinct : ∀ path, (j.results path).Nodup) (f : FinishedJob) :
    (j.resultsOf f).Nodup := by
  unfold resultsOf
  cases f.result with
  | none => exact List.nodup_nil
  | some path => exact distinct path

variable [DecidableEq R]

/-- What one list has and another has not is the same, up to order, for rearranged lists. -/
theorem perm_without {l l' m m' : List R} (first : l.Perm l') (second : m.Perm m') :
    (l.filter fun a => !m.contains a).Perm (l'.filter fun a => !m'.contains a) := by
  have same : (fun a => !m.contains a) = fun a => !m'.contains a :=
    funext fun _ => congrArg not second.contains_eq
  rw [same]
  exact first.filter _

namespace Rearranged

theorem counts (h : j.Rearranged j') (v : Violation) : j.counts v = j'.counts v := by
  have same := h.truth v.target
  funext x
  unfold Judge.counts
  generalize j.known? v.target = known at same
  generalize j'.known? v.target = known' at same
  cases same with
  | none => rfl
  | some same => simp only [same.contains_eq]

theorem counted (h : j.Rearranged j') (v : Violation) (f : FinishedJob) :
    (j.counted v f).Perm (j'.counted v f) := by
  rw [counted_eq_filter, counted_eq_filter, h.counts v]
  exact (h.resultsOf f).filter _

/-- **The differences are the same sets.** -/
theorem onlyFirst (h : j.Rearranged j') (v : Violation) : (j.onlyFirst v).Perm (j'.onlyFirst v) :=
  perm_without (h.counted v v.first) (h.counted v v.second)

theorem onlySecond (h : j.Rearranged j') (v : Violation) :
    (j.onlySecond v).Perm (j'.onlySecond v) :=
  perm_without (h.counted v v.second) (h.counted v v.first)

/-- **The verdict is the same.** -/
theorem violated (h : j.Rearranged j') (v : Violation) : j.violated v = j'.violated v := by
  unfold Judge.violated
  rw [(h.onlyFirst v).isEmpty_eq, (h.onlySecond v).isEmpty_eq]

end Rearranged

/-- A result that counts is listed once if it was found once. -/
theorem nodup_counted (distinct : ∀ path, (j.results path).Nodup) (v : Violation)
    (f : FinishedJob) : (j.counted v f).Nodup := by
  rw [counted_eq_filter]
  exact (nodup_resultsOf distinct f).sublist List.filter_sublist

theorem nodup_onlyFirst (distinct : ∀ path, (j.results path).Nodup) (v : Violation) :
    (j.onlyFirst v).Nodup :=
  (nodup_counted distinct v v.first).sublist List.filter_sublist

theorem nodup_onlySecond (distinct : ∀ path, (j.results path).Nodup) (v : Violation) :
    (j.onlySecond v).Nodup :=
  (nodup_counted distinct v v.second).sublist List.filter_sublist

/-- **Files with the same results in them** make rearranged judges, in whatever order and however
often the results stand there. -/
theorem rearranged_ofFiles {reader reader' : Reader R} {files files' : FileTree}
    (same : ∀ path x, x ∈ reader.readOrEmpty files path ↔ x ∈ reader'.readOrEmpty files' path)
    (truth : Option (GroundTruth R)) :
    (Judge.ofFiles reader files truth).Rearranged (Judge.ofFiles reader' files' truth) := by
  refine ⟨fun path => ?_, fun target => ?_⟩
  · exact (List.perm_ext_iff_of_nodup (reader.nodup_readOrEmpty files path)
      (reader'.nodup_readOrEmpty files' path)).mpr (same path)
  · change Option.Rel List.Perm (truth.bind (·.known? target)) (truth.bind (·.known? target))
    cases truth.bind (·.known? target) with
    | none => exact .none
    | some truths => exact .some (.refl truths)

end Judge

/-! ### Lists of differences -/

namespace Record

open Json Comparison

variable {results results' : List String} {vs ws : List Value}

/-- **There is one list only** of certain values in ascending order of their JSON texts. -/
theorem eq_of_ascending (same : ∀ v, v ∈ vs ↔ v ∈ ws)
    (ascending : vs.Pairwise fun v w => v.compact < w.compact)
    (ascending' : ws.Pairwise fun v w => v.compact < w.compact) : vs = ws := by
  have distinct {l : List Value} (h : l.Pairwise fun v w => v.compact < w.compact) : l.Nodup := by
    refine h.imp fun less => ?_
    rintro rfl
    exact String.lt_irrefl _ less
  have perm := (List.perm_ext_iff_of_nodup (distinct ascending) (distinct ascending')).mpr same
  refine perm.eq_of_pairwise (fun v w _ _ less greater => ?_) ascending ascending'
  exact absurd greater (String.lt_asymm less)

/-- The list of a set has a string for each member of the set and nothing else. -/
theorem mem_sortedValues_iff (v : Value) :
    v ∈ sortedValues results ↔ ∃ x ∈ results, v = .text x := by
  rw [sortedValues, List.mem_mergeSort, List.mem_map]
  simp only [eq_comm]

theorem nodup_sortedValues (distinct : results.Nodup) : (sortedValues results).Nodup := by
  refine (List.mergeSort_perm _ _).nodup_iff.mpr (List.Pairwise.map _ (fun x y ne => ?_) distinct)
  exact fun same => ne (Value.text.inj same)

theorem sorted_sortedValues (results : List String) :
    (sortedValues results).Pairwise fun v w => v.compact ≤ w.compact := by
  have transitive (u v w : Value) (h : decide (u.compact ≤ v.compact) = true)
      (h' : decide (v.compact ≤ w.compact) = true) : decide (u.compact ≤ w.compact) = true :=
    decide_eq_true (String.le_trans (of_decide_eq_true h) (of_decide_eq_true h'))
  have total (v w : Value) :
      (decide (v.compact ≤ w.compact) || decide (w.compact ≤ v.compact)) = true := by
    rw [Bool.or_eq_true, decide_eq_true_eq, decide_eq_true_eq]
    exact String.le_total v.compact w.compact
  rw [sortedValues]
  exact (List.pairwise_mergeSort transitive total _).imp of_decide_eq_true

/-- **A difference is listed in strictly ascending order of the JSON texts.** -/
theorem ascending_sortedValues (distinct : results.Nodup) :
    (sortedValues results).Pairwise fun v w => v.compact < w.compact := by
  have both := (sorted_sortedValues results).and (nodup_sortedValues distinct)
  refine both.imp_of_mem fun hv hw ⟨le, ne⟩ => ?_
  obtain ⟨x, rfl⟩ := exists_text_of_mem_sortedValues hv
  obtain ⟨y, rfl⟩ := exists_text_of_mem_sortedValues hw
  exact Std.lt_of_le_of_ne le fun same => ne (congrArg Value.text (Value.compact_text_inj same))

/-- **The order of enumeration does not show.** -/
theorem sortedValues_eq_of_perm (same : results'.Perm results) :
    sortedValues results' = sortedValues results := by
  have perm : (sortedValues results').Perm (sortedValues results) :=
    (List.mergeSort_perm _ _).trans ((same.map _).trans (List.mergeSort_perm _ _).symm)
  refine perm.eq_of_pairwise (fun v w hv hw le ge => ?_) (sorted_sortedValues results')
    (sorted_sortedValues results)
  obtain ⟨x, rfl⟩ := exists_text_of_mem_sortedValues hv
  obtain ⟨y, rfl⟩ := exists_text_of_mem_sortedValues hw
  rw [Value.compact_text_inj (String.le_antisymm le ge)]

/-- **Records are the same for the same sets,** in whatever order these are enumerated. -/
theorem ofViolation_eq_of_rearranged {j j' : Judge String} (h : j'.Rearranged j) (v : Violation) :
    ofViolation j' v = ofViolation j v := by
  unfold ofViolation
  rw [h.violated v, sortedValues_eq_of_perm (h.onlyFirst v),
    sortedValues_eq_of_perm (h.onlySecond v)]

/-- **Lists of differences are canonical.** However a set of results is enumerated, the list made of
it is the same. It has a string for each result in the set and nothing else, none of them twice, in
strictly ascending order of the JSON texts; and there is no other list like that.

The differences between the results that are read from files are such sets. And if two judges know
the same sets, enumerated in different orders, and the differences that follow for a pair are
enumerated in any order too, the same record is made of them. -/
theorem differences_canonical :
    (∀ results results' : List String, results.Nodup → results'.Perm results →
      sortedValues results' = sortedValues results ∧
      (∀ v, v ∈ sortedValues results ↔ ∃ x ∈ results, v = .text x) ∧
      (sortedValues results).Nodup ∧
      ((sortedValues results).Pairwise fun v w => v.compact < w.compact) ∧
      ∀ vs : List Value, (∀ v, v ∈ vs ↔ ∃ x ∈ results, v = .text x) →
        (vs.Pairwise fun v w => v.compact < w.compact) → vs = sortedValues results) ∧
    (∀ (reader : Reader String) files truth v,
      ((Judge.ofFiles reader files truth).onlyFirst v).Nodup ∧
      ((Judge.ofFiles reader files truth).onlySecond v).Nodup) ∧
    ∀ (j j' : Judge String) (v : Violation) (first second : List String), j'.Rearranged j →
      first.Perm (j'.onlyFirst v) → second.Perm (j'.onlySecond v) →
      { ofViolation j' v with
        onlyFirst := sortedValues first
        onlySecond := sortedValues second } = ofViolation j v := by
  refine ⟨fun results results' distinct same => ?_, fun reader files truth v => ?_,
    fun j j' v first second rearranged first' second' => ?_⟩
  · have ascending := ascending_sortedValues distinct
    refine ⟨sortedValues_eq_of_perm same, mem_sortedValues_iff, nodup_sortedValues distinct,
      ascending, fun vs members ascending' => eq_of_ascending (fun v => ?_) ascending' ascending⟩
    rw [members, mem_sortedValues_iff]
  · have distinct : ∀ path, ((Judge.ofFiles reader files truth).results path).Nodup :=
      reader.nodup_readOrEmpty files
    exact ⟨Judge.nodup_onlyFirst distinct v, Judge.nodup_onlySecond distinct v⟩
  · rw [sortedValues_eq_of_perm first', sortedValues_eq_of_perm second',
      ← ofViolation_eq_of_rearranged rearranged]
    rfl

/-- Results with and without escapes, and two that differ in an exclamation mark. -/
def markedResults : List String := ["b", "\"", "b!", "]", "\n", "é", "\\"]

/-- A judge for whom these results are found at one level and others at all other levels. -/
def markedJudge (found truths : List String) : Judge String :=
  ⟨fun level => if level = "A" then found else ["b", "+"], some ⟨[(⟨"p"⟩, truths)]⟩⟩

/-- Both enumerations make the list in which escaped results come first and the longer one of two
comes before the other one. -/
theorem differences_canonical_marks :
    markedResults.Nodup ∧ markedResults.reverse.Perm markedResults ∧
      sortedValues markedResults.reverse = sortedValues markedResults ∧
      ["\"", "\\", "\n", "]", "b!", "b", "é"].map .text = sortedValues markedResults ∧
      (markedJudge markedResults.reverse ["x", "]"]).Rearranged
        (markedJudge markedResults ["]", "x"]) ∧
      { ofViolation (markedJudge markedResults.reverse ["x", "]"]) (stairsPair "A" "C" true) with
        onlyFirst := sortedValues ["é", "\\", "b!", "\n", "\""]
        onlySecond := sortedValues ["+"] } =
        ofViolation (markedJudge markedResults ["]", "x"]) (stairsPair "A" "C" true) := by
  have distinct : markedResults.Nodup := by decide
  have turned : markedResults.reverse.Perm markedResults := List.reverse_perm _
  obtain ⟨lists, -, records⟩ := differences_canonical
  obtain ⟨same, -, -, -, only⟩ := lists _ _ distinct turned
  have rearranged : (markedJudge markedResults.reverse ["x", "]"]).Rearranged
      (markedJudge markedResults ["]", "x"]) := by
    constructor
    · intro path
      unfold markedJudge
      dsimp only
      split
      · exact turned
      · exact .refl _
    · intro target
      unfold Judge.known? GroundTruth.known? markedJudge
      dsimp only [Option.bind_some, List.find?]
      split
      · exact .some (.swap _ _ _)
      · exact .none
  have members : ["\"", "\\", "\n", "]", "b!", "b", "é"].Perm markedResults := by decide
  refine ⟨distinct, turned, same, only _ (fun v => ?_) (by decide), rearranged,
    records _ _ _ _ _ rearranged (by decide +kernel) (by decide +kernel)⟩
  simp only [List.mem_map, members.mem_iff, eq_comm]

end Record
end OrderTrials
