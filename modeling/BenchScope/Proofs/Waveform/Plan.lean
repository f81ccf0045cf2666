import BenchScope.Proofs.Waveform.Prescaling
import BenchScope.Proofs.Waveform.Quantization
import BenchScope.Proofs.Waveform.Settings
import BenchScope.Waveform.Plan

namespace BenchScope.Waveform

/-! The plans for the settings that can be made. The range of the frequencies lies within what the
prescalers have room for, and no position of a pulse reaches the end of the period, so that every
plan is one that the device can follow. -/

theorem Timing.exists_of_range {frequency : Rat} (least : 10 ≤ frequency)
    (greatest : frequency ≤ 10000000) :
    ∃ timing, ofFrequency frequency 1 = .ok timing ∧ 6 ≤ timing.wavelength.toNat := by
  have positive : 0 < frequency := by linarith
  rcases ofFrequency_of_range least greatest with ⟨timing, timed, -⟩
  have lasts : ((6 : Nat) : Rat) ≤ duration frequency 1 := by
    rw [duration_one, le_div_iff₀ positive]
    push_cast
    linarith
  exact ⟨timing, timed, (best_of_ok positive (by decide) timed).le_wavelength (by decide) lasts⟩

/-! The words, as the device reads them. -/

def period (words : List UInt16) : Nat := (words.getD 0 0).toNat + 1

def risesAt (words : List UInt16) : Output → Nat
  | .sq1 => 0
  | .sq2 => (words.getD 2 0).toNat
  | .sq3 => (words.getD 4 0).toNat
  | .sq4 => (words.getD 6 0).toNat

def fallsAt (words : List UInt16) : Output → Nat
  | .sq1 => (words.getD 1 0).toNat
  | .sq2 => (words.getD 3 0).toNat
  | .sq3 => (words.getD 5 0).toNat
  | .sq4 => (words.getD 7 0).toNat

section

variable {α : Type} (plan : Plan α)

theorem fallsAt_words (output : Output) :
    fallsAt plan.words output = (plan.duty.get output.index).toNat := by
  cases output <;> rfl

theorem risesAt_words {output : Output} (other : output ≠ .sq1) :
    risesAt plan.words output = (plan.phase.get output.index).toNat := by
  cases output with
  | sq1 => exact absurd rfl other
  | _ => rfl

theorem period_words (nonzero : plan.wavelength ≠ 0) :
    period plan.words = plan.wavelength.toNat := by
  change (plan.wavelength - 1).toNat + 1 = plan.wavelength.toNat
  rw [toNat_sub_one nonzero]
  exact Nat.sub_add_cancel (one_le_toNat nonzero)

end

namespace Plan

structure Follows (plan : Plan Rat) (settings : Settings Rat) (timing : Timing) : Prop where
  frequency : settings.frequency = some plan.frequency
  wavelength : plan.wavelength = timing.wavelength
  prescaler : plan.prescaler = UInt32.ofNat timing.prescaler.divisor
  prescalerIndex : plan.prescalerIndex = timing.prescaler.index
  duty : ∀ output, plan.duty.get output.index =
    ((settings.pulse output).quantize plan.wavelength).duty
  phase : ∀ output, plan.phase.get output.index =
    ((settings.pulse output).quantize plan.wavelength).phase

theorem follows_of_timing {settings : Settings Rat} {frequency : Rat} {timing : Timing}
    (chosen : settings.frequency = some frequency)
    (timed : Timing.ofFrequency frequency 1 = .ok timing) :
    ∃ plan, ofSettings settings = .ok plan ∧ plan.Follows settings timing := by
  rw [ofSettings, chosen]
  simp only [timed]
  refine ⟨_, rfl, chosen, rfl, rfl, rfl, fun output => ?duty, fun output => ?phase⟩
  case duty => simp [Settings.pulse, Vector.get]
  case phase => simp [Settings.pulse, Vector.get]

structure Suits (plan : Plan Rat) (settings : Settings Rat) : Prop where
  frequency : settings.frequency = some plan.frequency
  wavelength : 6 ≤ plan.wavelength.toNat ∧ plan.wavelength.toNat ≤ 65535
  prescaler : [1, 8, 64, 256][plan.prescalerIndex.toNat]? = some plan.prescaler.toNat
  duty : ∀ output : Output, plan.duty.get output.index < plan.wavelength
  /-- A pulse that is to be seen does not end where the period begins. -/
  seen : ∀ output : Output, 0 < (settings.pulse output).duty → 1 ≤ plan.duty.get output.index
  phase : ∀ output : Output, plan.phase.get output.index < plan.wavelength
  period : period plan.words = plan.wavelength.toNat

theorem Follows.suits {plan : Plan Rat} {settings : Settings Rat} {timing : Timing}
    (follows : plan.Follows settings timing) (long : 6 ≤ timing.wavelength.toNat) :
    plan.Suits settings := by
  rw [← follows.wavelength] at long
  have width := plan.wavelength.toNat_lt
  have two : 2 ≤ plan.wavelength :=
    UInt16.le_iff_toNat_le.mpr (show 2 ≤ plan.wavelength.toNat by omega)
  have nonzero := Pulse.ne_zero_of_long two
  refine ⟨follows.frequency, ⟨long, by omega⟩, ?prescaler, fun output => ?duty,
    fun output seen => ?seen, fun output => ?phase, ?period⟩
  case prescaler =>
    rw [follows.prescaler, follows.prescalerIndex]
    cases timing.prescaler <;> rfl
  case duty =>
    rw [follows.duty, UInt16.lt_iff_toNat_lt]
    exact Pulse.duty_lt _ (by omega)
  case seen =>
    have later := Pulse.toNat_duty_eq two seen
    rw [follows.duty, UInt16.le_iff_toNat_le, UInt16.toNat_one]
    omega
  case phase =>
    rw [follows.phase, UInt16.lt_iff_toNat_lt]
    exact Pulse.phase_lt _ nonzero
  case period => exact period_words plan nonzero

theorem exists_of_inRange {settings : Settings Rat} (inRange : settings.InRange)
    (chosen : settings.frequency ≠ none) :
    ∃ plan, ofSettings settings = .ok plan ∧ plan.Suits settings := by
  rcases Option.ne_none_iff_exists'.mp chosen with ⟨frequency, found⟩
  rcases inRange.frequency frequency found with ⟨least, greatest⟩
  rcases Timing.exists_of_range least greatest with ⟨timing, timed, long⟩
  rcases follows_of_timing found timed with ⟨plan, planned, follows⟩
  exact ⟨plan, planned, follows.suits long⟩

end Plan

end BenchScope.Waveform
