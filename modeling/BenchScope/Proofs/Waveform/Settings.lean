import Mathlib.Data.List.Induction
import BenchScope.Proofs.Number.Rational
import BenchScope.Proofs.Selection
import BenchScope.Waveform.Settings

namespace BenchScope

theorem Output.index_injective {left right : Output} (equal : left.index = right.index) :
    left = right := by
  cases left <;> cases right <;> first | rfl | exact absurd equal (by decide)

namespace Waveform

open Scalar

/-! The settings that can be made. Each quantity is checked before it is set, so that no sequence of
calls leads out of the ranges. -/

inductive Setter (α : Type)
  | frequency (hertz : α)
  | duty (name : String) (percent : α)
  | phase (name : String) (degrees : α)

def Setter.Acceptable {α : Type} [Scalar α] : Setter α → Prop
  | .frequency hertz => ofNat 10 ≤ hertz ∧ hertz ≤ ofNat 10000000
  | .duty name percent =>
      (ofNat 0 ≤ percent ∧ percent ≤ ofNat 100) ∧ ∃ output : Output, output.name = name
  | .phase name degrees =>
      (ofNat 0 ≤ degrees ∧ degrees ≤ ofNat 360) ∧ ∃ output : Output, output.name = name

namespace Settings

section

variable {α : Type} [Scalar α]

def set (settings : Settings α) : Setter α → Except (Error α) (Settings α)
  | .frequency hertz => settings.setFrequency hertz
  | .duty name percent => settings.setDuty name percent
  | .phase name degrees => settings.setPhase name degrees

def adjust (settings : Settings α) (setter : Setter α) : Settings α :=
  match settings.set setter with
  | .ok after => after
  | .error _ => settings

def adjusted (setters : List (Setter α)) : Settings α := setters.foldl adjust initial

omit [Scalar α] in
theorem pulse_modify (settings : Settings α) (output other : Output)
    (change : Pulse α → Pulse α) :
    (settings.modify output change).pulse other =
      if output = other then change (settings.pulse output) else settings.pulse other := by
  by_cases same : output = other
  · subst same
    simp [modify, pulse]
  · have apart : output.index.val ≠ other.index.val := fun equal =>
      same (Output.index_injective (Fin.ext equal))
    simp [modify, pulse, same, apart]

private theorem checkRange_eq_ok_iff {quantity : Quantity} {value : α} {checked : Unit} :
    checkRange quantity value = .ok checked ↔
      ofNat quantity.least ≤ value ∧ value ≤ ofNat quantity.greatest := by
  rw [checkRange]
  split <;> simp [*]

omit [Scalar α] in
private theorem findOutput_eq_ok_iff {name : String} {output : Output} :
    findOutput (α := α) name = .ok output ↔ output.name = name := by
  constructor
  · intro found
    rw [findOutput] at found
    split at found
    case h_1 => cases found
    case h_2 channel located =>
      cases channel with
      | analog input => cases found
      | logic other =>
          cases found
          exact Channel.name_of_lookup located
  · rintro rfl
    have located : Channel.lookup output.name = .ok (.logic output) :=
      Channel.lookup_name (.logic output)
    rw [findOutput, located]
    rfl

theorem set_eq_ok_iff {settings after : Settings α} {setter : Setter α} :
    settings.set setter = .ok after ↔
      match setter with
      | .frequency hertz =>
          (ofNat 10 ≤ hertz ∧ hertz ≤ ofNat 10000000) ∧
            { settings with frequency := some hertz } = after
      | .duty name percent =>
          (ofNat 0 ≤ percent ∧ percent ≤ ofNat 100) ∧ ∃ output : Output, output.name = name ∧
            (settings.modify output fun pulse => { pulse with duty := percent / ofNat 100 }) =
              after
      | .phase name degrees =>
          (ofNat 0 ≤ degrees ∧ degrees ≤ ofNat 360) ∧ ∃ output : Output, output.name = name ∧
            (settings.modify output fun pulse => { pulse with phase := degrees / ofNat 360 }) =
              after := by
  cases setter <;>
    simp only [set, setFrequency, setDuty, setPhase, except_bind_eq_ok_iff, checkRange_eq_ok_iff,
      findOutput_eq_ok_iff, exists_const, pure, Except.pure, Except.ok.injEq] <;>
    rfl

/-! What a call can do to any settings. -/

/-- What a call is to change: one quantity, and no pulse but that of the named output. -/
def Changes (before after : Settings α) : Setter α → Prop
  | .frequency hertz =>
      after.frequency = some hertz ∧ ∀ output, after.pulse output = before.pulse output
  | .duty name percent =>
      after.frequency = before.frequency ∧ ∀ output, after.pulse output =
        if output.name = name then { before.pulse output with duty := percent / ofNat 100 }
        else before.pulse output
  | .phase name degrees =>
      after.frequency = before.frequency ∧ ∀ output, after.pulse output =
        if output.name = name then { before.pulse output with phase := degrees / ofNat 360 }
        else before.pulse output

structure Obeys (settings : Settings α) (setter : Setter α) : Prop where
  accepted_iff : (∃ after, settings.set setter = .ok after) ↔ setter.Acceptable
  changed : ∀ after, settings.set setter = .ok after →
    settings.adjust setter = after ∧ settings.Changes after setter
  kept : ∀ error, settings.set setter = .error error → settings.adjust setter = settings

theorem adjust_of_ok {settings after : Settings α} {setter : Setter α}
    (done : settings.set setter = .ok after) : settings.adjust setter = after := by
  rw [adjust, done]

theorem adjust_of_error {settings : Settings α} {setter : Setter α} {error : Error α}
    (refused : settings.set setter = .error error) : settings.adjust setter = settings := by
  rw [adjust, refused]

omit [Scalar α] in
private theorem pulse_modify_name (settings : Settings α) (output other : Output)
    (change : Pulse α → Pulse α) : (settings.modify output change).pulse other =
      if other.name = output.name then change (settings.pulse other)
      else settings.pulse other := by
  rw [pulse_modify]
  by_cases same : output = other
  · rw [if_pos same, same, if_pos rfl]
  · rw [if_neg same, if_neg fun equal => same (Output.name_injective equal).symm]

theorem changes_of_ok {settings after : Settings α} {setter : Setter α}
    (done : settings.set setter = .ok after) : settings.Changes after setter := by
  rw [set_eq_ok_iff] at done
  cases setter with
  | frequency hertz =>
      rcases done with ⟨-, rfl⟩
      exact ⟨rfl, fun _ => rfl⟩
  | duty name percent =>
      rcases done with ⟨-, output, rfl, rfl⟩
      exact ⟨rfl, fun other => settings.pulse_modify_name output other _⟩
  | phase name degrees =>
      rcases done with ⟨-, output, rfl, rfl⟩
      exact ⟨rfl, fun other => settings.pulse_modify_name output other _⟩

theorem exists_set_eq_ok_iff (settings : Settings α) (setter : Setter α) :
    (∃ after, settings.set setter = .ok after) ↔ setter.Acceptable := by
  cases setter <;> simp [set_eq_ok_iff, Setter.Acceptable]

theorem obeys (settings : Settings α) (setter : Setter α) : settings.Obeys setter where
  accepted_iff := settings.exists_set_eq_ok_iff setter
  changed _ done := ⟨adjust_of_ok done, changes_of_ok done⟩
  kept _ := adjust_of_error

/-! When there is a frequency. -/

def SetsFrequency (setters : List (Setter α)) : Prop :=
  ∃ before hertz after, before ++ [.frequency hertz] <+: setters ∧
    (adjusted before).set (.frequency hertz) = .ok after

private theorem adjusted_append (setters : List (Setter α)) (setter : Setter α) :
    adjusted (setters ++ [setter]) = (adjusted setters).adjust setter :=
  List.foldl_concat ..

theorem frequency_adjust (settings : Settings α) (setter : Setter α) :
    (settings.adjust setter).frequency ≠ none ↔ settings.frequency ≠ none ∨
      ∃ hertz after, setter = .frequency hertz ∧ settings.set setter = .ok after := by
  cases done : settings.set setter with
  | error error => simp [adjust_of_error done]
  | ok after =>
      have changes := changes_of_ok done
      rw [adjust_of_ok done]
      cases setter with
      | frequency hertz => simp [changes.1]
      | duty name percent => simp [changes.1]
      | phase name degrees => simp [changes.1]

private theorem setsFrequency_append (setters : List (Setter α)) (setter : Setter α) :
    SetsFrequency (setters ++ [setter]) ↔ SetsFrequency setters ∨
      ∃ hertz after, setter = .frequency hertz ∧ (adjusted setters).set setter = .ok after := by
  constructor
  · rintro ⟨before, hertz, after, starts, done⟩
    rcases List.prefix_concat_iff.mp starts with whole | earlier
    · rcases List.append_singleton_inj.mp whole with ⟨rfl, rfl⟩
      exact .inr ⟨hertz, after, rfl, done⟩
    · exact .inl ⟨before, hertz, after, earlier, done⟩
  · rintro (⟨before, hertz, after, starts, done⟩ | ⟨hertz, after, rfl, done⟩)
    · exact ⟨before, hertz, after, List.prefix_concat_iff.mpr (.inr starts), done⟩
    · exact ⟨setters, hertz, after, List.prefix_rfl, done⟩

theorem frequency_adjusted_iff (setters : List (Setter α)) :
    (adjusted setters).frequency ≠ none ↔ SetsFrequency setters := by
  induction setters using List.reverseRecOn with
  | nil => simp [adjusted, initial, SetsFrequency]
  | append_singleton setters setter induction =>
      rw [adjusted_append, frequency_adjust, setsFrequency_append, induction]

end

structure InRange (settings : Settings Rat) : Prop where
  frequency : ∀ hertz, settings.frequency = some hertz → 10 ≤ hertz ∧ hertz ≤ 10000000
  duty : ∀ output, 0 ≤ (settings.pulse output).duty ∧ (settings.pulse output).duty ≤ 1
  phase : ∀ output, 0 ≤ (settings.pulse output).phase ∧ (settings.pulse output).phase ≤ 1

theorem inRange_initial : InRange initial where
  frequency := nofun
  duty output := by cases output <;> exact ⟨by decide, by decide⟩
  phase output := by cases output <;> exact ⟨by decide, by decide⟩

private theorem fraction_mem {value whole : Rat} (positive : 0 < whole) (nonneg : 0 ≤ value)
    (within : value ≤ whole) : 0 ≤ value / whole ∧ value / whole ≤ 1 :=
  ⟨div_nonneg nonneg (le_of_lt positive), (div_le_one positive).mpr within⟩

private theorem inRange_set {settings after : Settings Rat} {setter : Setter Rat}
    (inRange : settings.InRange) (done : settings.set setter = .ok after) : after.InRange := by
  have known := set_eq_ok_iff.mp done
  cases setter with
  | frequency hertz =>
      rcases known with ⟨⟨lower, upper⟩, rfl⟩
      refine ⟨?_, inRange.duty, inRange.phase⟩
      intro _ same
      cases same
      exact ⟨by exact_mod_cast lower, by exact_mod_cast upper⟩
  | duty name percent =>
      rcases known with ⟨⟨lower, upper⟩, output, -, rfl⟩
      have fraction : 0 ≤ percent / 100 ∧ percent / 100 ≤ 1 :=
        fraction_mem (by norm_num) (by exact_mod_cast lower) (by exact_mod_cast upper)
      refine ⟨inRange.frequency, fun other => ?_, fun other => ?_⟩ <;> rw [pulse_modify] <;> split
      · exact fraction
      · exact inRange.duty other
      · exact inRange.phase output
      · exact inRange.phase other
  | phase name degrees =>
      rcases known with ⟨⟨lower, upper⟩, output, -, rfl⟩
      have fraction : 0 ≤ degrees / 360 ∧ degrees / 360 ≤ 1 :=
        fraction_mem (by norm_num) (by exact_mod_cast lower) (by exact_mod_cast upper)
      refine ⟨inRange.frequency, fun other => ?_, fun other => ?_⟩ <;> rw [pulse_modify] <;> split
      · exact inRange.duty output
      · exact inRange.duty other
      · exact fraction
      · exact inRange.phase other

theorem inRange_adjust {settings : Settings Rat} (inRange : settings.InRange)
    (setter : Setter Rat) : (settings.adjust setter).InRange := by
  rw [adjust]
  split
  case h_1 after done => exact inRange_set inRange done
  case h_2 => exact inRange

theorem inRange_adjusted (setters : List (Setter Rat)) : (adjusted setters).InRange := by
  have keeps (settings : Settings Rat) (inRange : settings.InRange) :
      (setters.foldl adjust settings).InRange := by
    induction setters generalizing settings with
    | nil => exact inRange
    | cons setter setters induction => exact induction _ (inRange_adjust inRange setter)
  exact keeps initial inRange_initial

end Settings

end Waveform

end BenchScope
