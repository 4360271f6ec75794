import OrderTrials.Proofs.Checking
/-
# What loading registers

A call takes nothing back: what is registered stays registered, a default can be replaced but not
removed, and the bounds never change (`Dimension.Extends`). So whatever a call of an option brings
about is there when the option is built (`Dimension.exists_run_of_mem`): its default, the sides of
its orders and, on an option of integers, both bounds. Hence a space that is read from a text has a
default configuration.

Key definitions: `Dimension.Extends`.
Key theorems: `Dimension.exists_run_of_mem`, `OptionEntry.sides_of_build`,
`OptionEntry.default_of_build`, `OptionEntry.bounds_of_build`, `Configuration.default_defined`.
-/

namespace OrderTrials

namespace Dimension

variable {d d' d'' : Dimension} {c : Call} {cs : List Call}

/-- A later dimension has the levels and the bounds of an earlier one, and a default if that has
one. -/
structure Extends (d d' : Dimension) : Prop where
  levels : ∀ name ∈ d.levels, name ∈ d'.levels
  least : d'.least = d.least
  greatest : d'.greatest = d.greatest
  default : d.default?.isSome = true → d'.default?.isSome = true

theorem Extends.refl (d : Dimension) : d.Extends d :=
  ⟨fun _ => id, rfl, rfl, id⟩

theorem Extends.trans (h : d.Extends d') (h' : d'.Extends d'') : d.Extends d'' :=
  ⟨fun name hn => h'.levels name (h.levels name hn), h'.least.trans h.least,
    h'.greatest.trans h.greatest, fun hd => h'.default (h.default hd)⟩

theorem extends_register (d : Dimension) (level : String) : d.Extends (d.register level) := by
  refine ⟨fun name hn => (mem_register d level name).mpr (.inl hn), ?_, ?_, ?_⟩ <;>
    unfold register <;> split <;> simp

/-- **A call takes nothing back.** -/
theorem Call.extends_of_run (h : c.run d = .ok d') : d.Extends d' := by
  cases c with
  | register level =>
    obtain rfl := Except.ok.inj h
    exact extends_register d level
  | setDefault raw =>
    obtain ⟨l, -, rfl⟩ := setDefault_ok h
    have kept := extends_register d l.name
    exact ⟨kept.levels, kept.least, kept.greatest, fun _ => rfl⟩
  | declare r a b =>
    rw [(declare_ok h).2.2.1]
    exact ⟨fun _ => id, rfl, rfl, id⟩

/-- A list of calls keeps what each of them keeps. -/
theorem extends_of_foldlM (h : cs.foldlM (fun d c => c.run d) d = .ok d') : d.Extends d' :=
  invariant_of_foldlM (fun _ _ _ _ kept hc => kept.trans (Call.extends_of_run hc)) (.refl d) h

/-- **Where no call fails, each of them was made,** and what it brought about was kept. -/
theorem exists_run_of_mem (h : cs.foldlM (fun d c => c.run d) d = .ok d') (hc : c ∈ cs) :
    ∃ before after, c.run before = .ok after ∧ after.Extends d' := by
  induction cs generalizing d with
  | nil => exact absurd hc List.not_mem_nil
  | cons c' cs ih =>
    rw [List.foldlM_cons] at h
    obtain ⟨next, hrun, hrest⟩ := (bind_eq_ok_iff _ _ _).mp h
    rcases List.mem_cons.mp hc with rfl | hc
    · exact ⟨d, next, hrun, extends_of_foldlM hrest⟩
    · exact ih hrest hc

end Dimension

/-! ### Options that are built -/

namespace OptionEntry

open Dimension

variable {e : OptionEntry} {d : Dimension} {o : Order}

/-- **The sides of the orders of an option are registered.** -/
theorem sides_of_build (h : e.build = .ok d) (ho : o ∈ e.declared) :
    o.left.name ∈ d.levels ∧ o.right.name ∈ d.levels := by
  obtain ⟨blank, -, hrun⟩ := run_calls h
  have call : Call.ofOrder o ∈ e.calls :=
    List.mem_append_right _ (List.mem_append_right _ (List.mem_map.mpr ⟨o, ho, rfl⟩))
  obtain ⟨before, after, made, kept⟩ := exists_run_of_mem hrun call
  obtain ⟨⟨-, left⟩, ⟨-, right⟩, -⟩ := declare_ok made
  have grown := Call.extends_of_run made
  exact ⟨kept.levels _ (grown.levels _ left), kept.levels _ (grown.levels _ right)⟩

/-- **An option that is built has a default.** -/
theorem default_of_build (h : e.build = .ok d) : ∃ l, d.defaultLevel = .ok l := by
  have chosen : ∃ raw, e.default? = some raw := by
    unfold build at h
    obtain ⟨blank, -, h⟩ := (bind_eq_ok_iff _ _ _).mp h
    cases hdefault : e.default? with
    | none => simp [hdefault, throw, throwThe, MonadExceptOf.throw] at h
    | some raw => exact ⟨raw, rfl⟩
  obtain ⟨raw, hraw⟩ := chosen
  obtain ⟨blank, -, hrun⟩ := run_calls h
  have call : Call.setDefault raw ∈ e.calls :=
    List.mem_append_right _ (List.mem_append_left _ (by rw [hraw]; exact List.mem_cons_self))
  obtain ⟨before, after, made, kept⟩ := exists_run_of_mem hrun call
  obtain ⟨l, -, rfl⟩ := setDefault_ok made
  obtain ⟨name, hname⟩ := Option.isSome_iff_exists.mp (kept.default rfl)
  exact ⟨⟨d.name, name⟩, (d.defaultLevel_eq_ok_iff _).mpr ⟨rfl, hname⟩⟩

/-- **An option of integers that is built has both bounds.** -/
theorem bounds_of_build (h : e.build = .ok d) (integer : d.isInteger = true) :
    ∃ least greatest, d.least = some least ∧ d.greatest = some greatest := by
  obtain ⟨blank, hblank, hrun⟩ := run_calls h
  have kept := extends_of_foldlM hrun
  rw [kept.least, kept.greatest]
  rw [(shows_of_build h).2.2] at integer
  rw [OptionEntry.blank, if_pos integer] at hblank
  split at hblank
  · unfold Dimension.integer at hblank
    split at hblank
    · cases hblank
    · obtain rfl := Except.ok.inj hblank
      exact ⟨_, _, rfl, rfl⟩
  · cases hblank

end OptionEntry

/-! ### Spaces that are read from a text -/

namespace Space

variable {s : Space} {text name : String} {d : Dimension}

theorem exists_defaultLevel (accepted : ofText text = .ok s) (h : s.dimension? name = some d) :
    ∃ l, d.defaultLevel = .ok l := by
  obtain ⟨-, -, e, -, -, built⟩ := exists_build accepted h
  exact OptionEntry.default_of_build built

end Space

/-- What can be added step by step can be added from a list. -/
theorem foldlM_defined {α β ε : Type} {f : β → α → Except ε β} {xs : List α}
    (h : ∀ x ∈ xs, ∀ b, ∃ b', f b x = .ok b') (b : β) : ∃ b', xs.foldlM f b = .ok b' := by
  induction xs generalizing b with
  | nil => exact ⟨b, rfl⟩
  | cons x xs ih =>
    obtain ⟨next, hnext⟩ := h x List.mem_cons_self b
    obtain ⟨b', hb'⟩ := ih (fun x' hx' => h x' (List.mem_cons_of_mem x hx')) next
    exact ⟨b', by rw [List.foldlM_cons, hnext]; exact hb'⟩

namespace Configuration

variable {s : Space}

/-- Every assignment is completed if each dimension has a default. -/
theorem complete_defined (defaults : ∀ k d, s.dimension? k = some d → ∃ l, d.defaultLevel = .ok l)
    (given : Assignment) : ∃ c, complete s given = .ok c := by
  have steps : ∀ d ∈ s.dimensions.values, ∀ a : Assignment, ∃ a',
      (do if a.contains d.name then return a
          else return a.insert d.name (← d.defaultLevel) : Except SpaceError Assignment) =
        .ok a' := by
    intro d hd a
    obtain ⟨k, hk⟩ := (s.mem_values_iff d).mp hd
    obtain ⟨l, hl⟩ := defaults k d hk
    rw [hl]
    split <;> exact ⟨_, rfl⟩
  obtain ⟨full, hfull⟩ := foldlM_defined steps given
  exact ⟨⟨full, none⟩, by rw [complete, hfull]; rfl⟩

/-- **A space that is read from a text has a default configuration.** -/
theorem default_defined {text : String} (accepted : Space.ofText text = .ok s) :
    ∃ c, default s = .ok c :=
  complete_defined (fun _ _ => Space.exists_defaultLevel accepted) .empty

end Configuration
end OrderTrials
