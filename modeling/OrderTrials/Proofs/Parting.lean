import OrderTrials.Proofs.Shelving
/-
# Targets that share a folder

The slug of a target shows its name with every unsafe character masked, and behind that the first
digits of the digest of the name. So two targets have one slug if their names differ in unsafe
characters only and their digests begin alike (`Target.slug_eq_iff`). Then their outputs, their
known results and their records lie at the same places, and otherwise these lie apart
(`Target.sharing`). A name without unsafe characters is told from every other name. The digits that
are shown do not tell all others apart (`Target.slug_shared`).

Key definitions: `Target.Lookalike`, `Target.shownDigest`.
Key theorems: `Path.place_join`, `Target.slug_eq_iff`, `Target.sharing`, `Target.slug_shared`.
-/

namespace OrderTrials

/-- A name that is joined to a path leads on from the place of the path. -/
theorem Path.place_join (base : String) {name : String} (leads : Leads name.toList) :
    place (join base name) = place base ++ [name] := by
  rw [place_eq_foldl_steps, steps_join base leads, origin_join base leads, List.foldl_append,
    ← place_eq_foldl_steps, List.foldl_cons, List.foldl_nil, leads.follow, String.ofList_toList]

theorem Digest.length_lowBytes (count n : Nat) : (lowBytes count n).length = count := by
  induction count generalizing n with
  | zero => rfl
  | succ count ih => rw [lowBytes, List.length_cons, ih]

/-- A row of pieces of one length. -/
theorem Digest.length_flatMap {α β : Type} {f : α → List β} {n : Nat}
    (each : ∀ a, (f a).length = n) (l : List α) : (l.flatMap f).length = n * l.length := by
  induction l with
  | nil => rfl
  | cons a l ih =>
    rw [List.flatMap_cons, List.length_append, each, ih, List.length_cons, Nat.mul_succ,
      Nat.add_comm]

/-- A digest has 32 digits. -/
theorem Digest.length_hex (text : String) : (hex text).toList.length = 32 := by
  rw [hex, String.toList_ofList, length_flatMap fun b : UInt8 => Text.length_hexDigits 2 b.toNat,
    bytes, length_flatMap fun w : UInt32 => length_lowBytes 4 w.toNat]
  rfl

namespace Target

open Path

variable {t t' : Target}

/-! ### Slugs -/

/-- A character as a slug shows it. -/
def masked (c : Char) : Char := if isSafe c then c else '_'

/-- The digits of its digest that the slug of a target shows. -/
def shownDigest (t : Target) : List Char := (Digest.hex t.name).toList.take 8

/-- Two targets have names of one length that differ only where both have an unsafe character. -/
def Lookalike (t t' : Target) : Prop :=
  List.Forall₂ (fun c c' => c = c' ∨ isSafe c = false ∧ isSafe c' = false)
    t.name.toList t'.name.toList

theorem toList_slug (t : Target) :
    t.slug.toList = t.name.toList.map masked ++ '-' :: t.shownDigest := by
  rw [slug, String.toList_append, String.toList_append, String.toList_ofList, String.toList_ofList,
    String.toList_ofList, List.append_assoc, List.singleton_append, shownDigest]
  rfl

/-- What is unsafe is masked by a character that is unsafe itself, so nothing safe looks like it. -/
theorem masked_eq_iff (c c' : Char) :
    masked c = masked c' ↔ c = c' ∨ isSafe c = false ∧ isSafe c' = false := by
  have mask : isSafe '_' = false := by decide
  unfold masked
  constructor
  · intro same
    cases safe : isSafe c with
    | true =>
      cases safe' : isSafe c' with
      | true =>
        rw [safe, safe', if_pos rfl, if_pos rfl] at same
        exact .inl same
      | false =>
        rw [safe, safe', if_pos rfl, if_neg Bool.false_ne_true] at same
        rw [same, mask] at safe
        cases safe
    | false =>
      cases safe' : isSafe c' with
      | true =>
        rw [safe, safe', if_pos rfl, if_neg Bool.false_ne_true] at same
        rw [← same, mask] at safe'
        cases safe'
      | false => exact .inr ⟨rfl, rfl⟩
  · rintro (rfl | ⟨here, there⟩)
    · rfl
    · rw [here, there, if_neg Bool.false_ne_true, if_neg Bool.false_ne_true]

theorem lookalike_iff : Lookalike t t' ↔ t.name.toList.map masked = t'.name.toList.map masked := by
  rw [Lookalike, ← List.forall₂_eq_eq_eq, List.forall₂_map_left_iff, List.forall₂_map_right_iff]
  simp only [masked_eq_iff]

/-- **Two targets have one slug** if and only if their names look alike and their digests begin
alike. -/
theorem slug_eq_iff : t.slug = t'.slug ↔ Lookalike t t' ∧ t.shownDigest = t'.shownDigest := by
  have length (t : Target) : ('-' :: t.shownDigest).length = 9 := by
    rw [List.length_cons, shownDigest, List.length_take, Digest.length_hex]
    rfl
  rw [← String.toList_inj, toList_slug, toList_slug, lookalike_iff]
  constructor
  · intro same
    obtain ⟨names, digests⟩ := List.append_inj' same ((length t).trans (length t').symm)
    exact ⟨names, (List.cons.inj digests).2⟩
  · rintro ⟨names, digests⟩
    rw [names, digests]

/-- A name of safe characters looks like no other. -/
theorem Lookalike.eq_of_safe (h : Lookalike t t') (safe : ∀ c ∈ t.name.toList, isSafe c = true) :
    t = t' := by
  have equal : ∀ c c', isSafe c = true ∧ (c = c' ∨ isSafe c = false ∧ isSafe c' = false) →
      c = c' := by
    rintro c c' ⟨safe, same | ⟨other, -⟩⟩
    · exact same
    · rw [safe] at other
      cases other
  have same : t.name.toList = t'.name.toList := by
    rw [← List.forall₂_eq_eq_eq]
    exact ((List.forall₂_and_left _ _).mpr ⟨safe, h⟩).imp equal
  obtain ⟨name⟩ := t
  exact congrArg Target.mk (String.toList_inj.mp same)

/-! ### What lies in the folder of a target -/

theorem place_outputPath (c : Configuration) (t : Target) (folder : String) :
    place ((⟨c, t⟩ : Job).outputPath folder) =
      place folder ++ [t.slug, c.fingerprint ++ ".out"] := by
  have name : Leads (c.fingerprint ++ ".out").toList := by
    rw [← Job.leaf_outputPath ⟨c, t⟩ folder]
    exact Execution.leads_leaf ⟨c, t⟩ folder
  rw [Job.outputPath, place_join _ name, place_join _ t.leads_slug, List.append_assoc]
  rfl

theorem place_truthPath (t : Target) (folder : String) :
    place (GroundTruth.pathOf folder t) = place folder ++ [t.slug ++ ".truth"] := by
  refine place_join folder (leads_of_mem (c := '-') ?_ ?_ (by decide))
  · have ending : '/' ∉ ".truth".toList := by simp
    rw [String.toList_append, List.mem_append, not_or]
    exact ⟨t.leads_slug.1, ending⟩
  · rw [String.toList_append, toList_slug]
    simp

theorem place_recordPath (s : RecordStore) (v : Violation) :
    place (s.pathOf v) =
      place (join s.root v.option) ++ [v.target.slug, RecordStore.recordName v] := by
  rw [RecordStore.pathOf_eq, place_join _ (RecordStore.leads_recordName v), RecordStore.folderOf,
    place_join _ v.target.leads_slug, List.append_assoc]
  rfl

/-- **Targets share what lies in their folders if their slugs are equal, and else nothing.** Two
targets have one slug if and only if their names look alike and the digits of their digests that are
shown are the same; a name of safe characters has the slug of no other. Their outputs below a
folder, for any two configurations, their known results, and their records in a store, for any two
pairs on one option, lie at the same place only if the slugs are equal. If they are, then so are the
places of the known results, of the outputs of one configuration, and of the records of pairs whose
configurations have the same fingerprints. -/
theorem sharing (t t' : Target) :
    (t.slug = t'.slug ↔ Lookalike t t' ∧ t.shownDigest = t'.shownDigest) ∧
    ((∀ c ∈ t.name.toList, isSafe c = true) → t.slug = t'.slug → t = t') ∧
    (∀ folder (c c' : Configuration),
      place ((⟨c, t⟩ : Job).outputPath folder) = place ((⟨c', t'⟩ : Job).outputPath folder) ↔
        t.slug = t'.slug ∧ c.fingerprint = c'.fingerprint) ∧
    (∀ folder, place (GroundTruth.pathOf folder t) = place (GroundTruth.pathOf folder t') ↔
      t.slug = t'.slug) ∧
    ∀ (s : RecordStore) (v v' : Violation), v.target = t → v'.target = t' → v.option = v'.option →
      (place (s.pathOf v) = place (s.pathOf v') ↔
        t.slug = t'.slug ∧ RecordStore.recordName v = RecordStore.recordName v') := by
  refine ⟨slug_eq_iff, fun safe same => (slug_eq_iff.mp same).1.eq_of_safe safe, ?_, ?_, ?_⟩
  · intro folder c c'
    rw [place_outputPath, place_outputPath, List.append_cancel_left_eq]
    simp
  · intro folder
    rw [place_truthPath, place_truthPath, List.append_cancel_left_eq]
    simp
  · rintro s v v' rfl rfl option
    rw [place_recordPath, place_recordPath, option, List.append_cancel_left_eq]
    simp

/-- Two names that look alike and are told apart by their digests, a name of safe characters, and
the record of a pair. -/
theorem sharing_similar :
    Lookalike ⟨"dacapo/avrora"⟩ ⟨"dacapo_avrora"⟩ ∧
      (∀ folder (c c' : Configuration),
        place ((⟨c, ⟨"dacapo/avrora"⟩⟩ : Job).outputPath folder) ≠
          place ((⟨c', ⟨"dacapo_avrora"⟩⟩ : Job).outputPath folder)) ∧
      (⟨"app-one"⟩ : Target).slug ≠ (⟨"app_one"⟩ : Target).slug ∧
      ∀ s : RecordStore, place (s.pathOf (Comparison.stairsPair "A" "C" true)) ≠
        place (s.pathOf (Comparison.stairsPair "B" "C" true)) := by
  have alike : Lookalike ⟨"dacapo/avrora"⟩ ⟨"dacapo_avrora"⟩ :=
    lookalike_iff.mpr (by decide +kernel)
  have digests : shownDigest ⟨"dacapo/avrora"⟩ ≠ shownDigest ⟨"dacapo_avrora"⟩ := by decide +kernel
  have names : RecordStore.recordName (Comparison.stairsPair "A" "C" true) ≠
      RecordStore.recordName (Comparison.stairsPair "B" "C" true) := by decide +kernel
  obtain ⟨slugs, -, outputs, -⟩ := sharing ⟨"dacapo/avrora"⟩ ⟨"dacapo_avrora"⟩
  obtain ⟨-, safe, -⟩ := sharing ⟨"app-one"⟩ ⟨"app_one"⟩
  obtain ⟨-, -, -, -, records⟩ := sharing ⟨"p"⟩ ⟨"p"⟩
  refine ⟨alike, fun folder c c' same => ?_, fun same => ?_, fun s same => ?_⟩
  · exact digests (slugs.mp ((outputs folder c c').mp same).1).2
  · have all : "app-one".toList.all isSafe = true := by decide +kernel
    exact absurd (safe (List.all_eq_true.mp all) same) (by decide)
  · have told := records s (Comparison.stairsPair "A" "C" true) (Comparison.stairsPair "B" "C" true)
      rfl rfl rfl
    exact names (told.mp same).2

/-! ### Slugs that do not tell targets apart -/

/-- Two targets whose names look alike. -/
def lookalikes : Target × Target :=
  (⟨"dacapo_avrora@jdk,17,main@all,x"⟩, ⟨"dacapo avrora/jdk@17@main/all_x"⟩)

/-- **Two targets with one slug.** The names differ in four unsafe characters, and the digests of
both begin with the digits that are shown. The results that are known of the one are taken for those
of the other. -/
theorem slug_shared :
    lookalikes.1 ≠ lookalikes.2 ∧ lookalikes.1.slug = lookalikes.2.slug ∧
      ∀ folder,
        GroundTruth.pathOf folder lookalikes.1 = GroundTruth.pathOf folder lookalikes.2 := by
  have names : lookalikes.1 ≠ lookalikes.2 := by decide
  have slugs : lookalikes.1.slug = lookalikes.2.slug := by
    refine slug_eq_iff.mpr ⟨lookalike_iff.mpr ?_, ?_⟩ <;> decide +kernel
  exact ⟨names, slugs, fun folder => by rw [GroundTruth.pathOf, GroundTruth.pathOf, slugs]⟩

end Target
end OrderTrials
