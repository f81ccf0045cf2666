import BenchScope.Proofs.Waveform.Plan

namespace BenchScope.Waveform

/-! For how long the outputs are high. The device counts the ticks of a period and knows of each
output where its pulse ends and, except for the first output, where it begins. The end of a pulse is
a position in the period and so has the phase in it; for the first output there is no beginning that
it could be weighed against. -/

/-! What was asked for, in ticks. -/

def wantedTicks (settings : Settings Rat) (words : List UInt16) (output : Output) : Rat :=
  min (settings.pulse output).duty (1 - 1 / period words) * period words

def wantedStart (settings : Settings Rat) (words : List UInt16) (output : Output) : Rat :=
  (settings.pulse output).phase * period words

def KeepsDuty (settings : Settings Rat) (words : List UInt16) (output : Output) : Prop :=
  ∃ ticks : Int, (fallsAt words output : Int) - risesAt words output ≡ ticks [ZMOD period words] ∧
    wantedTicks settings words output - 3 < ticks ∧ ticks < wantedTicks settings words output + 3

/-- Of the first output the phase decides whether it keeps its duty. -/
structure KeepsDuties (settings : Settings Rat) (words : List UInt16) : Prop where
  others : ∀ output, output ≠ .sq1 → KeepsDuty settings words output
  falls : ∃ moment : Int, (fallsAt words .sq1 : Int) ≡ moment [ZMOD period words] ∧
    wantedTicks settings words .sq1 + wantedStart settings words .sq1 - 2 < moment ∧
    moment ≤ wantedTicks settings words .sq1 + wantedStart settings words .sq1 + 1
  /-- A beginning close to that of a period makes no difference. -/
  close : wantedStart settings words .sq1 < 2 ∨
    period words - 1 ≤ wantedStart settings words .sq1 → KeepsDuty settings words .sq1
  apart : 5 ≤ wantedStart settings words .sq1 →
    wantedStart settings words .sq1 ≤ period words - 4 → ¬ KeepsDuty settings words .sq1

structure Encodes (settings : Settings Rat) (words : List UInt16) (wavelength : UInt16) : Prop where
  period : period words = wavelength.toNat
  falls : ∀ output,
    fallsAt words output = ((settings.pulse output).quantize wavelength).duty.toNat
  rises : ∀ output, output ≠ .sq1 →
    risesAt words output = ((settings.pulse output).quantize wavelength).phase.toNat

private theorem encodes_of_timing {settings : Settings Rat} {frequency : Rat} {timing : Timing}
    (chosen : settings.frequency = some frequency)
    (timed : Timing.ofFrequency frequency 1 = .ok timing) (nonzero : timing.wavelength ≠ 0) :
    ∃ plan, Plan.ofSettings settings = .ok plan ∧
      Encodes settings plan.words timing.wavelength := by
  rcases Plan.follows_of_timing chosen timed with ⟨plan, planned, follows⟩
  rw [← follows.wavelength] at nonzero
  refine ⟨plan, planned, ?period, fun output => ?falls, fun output other => ?rises⟩
  case period => rw [period_words plan nonzero, follows.wavelength]
  case falls => rw [fallsAt_words, follows.duty, follows.wavelength]
  case rises => rw [risesAt_words plan other, follows.phase, follows.wavelength]

section

variable {settings : Settings Rat} {words : List UInt16} {wavelength : UInt16}

private theorem share_eq_wanted (inRange : settings.InRange) (nonzero : wavelength ≠ 0)
    (encodes : Encodes settings words wavelength) (output : Output) :
    (settings.pulse output).share wavelength * wavelength.toNat =
      wantedTicks settings words output := by
  rw [Pulse.share_eq nonzero (inRange.duty output).1, wantedTicks, encodes.period]

private theorem start_eq_wanted (inRange : settings.InRange)
    (encodes : Encodes settings words wavelength) (output : Output) :
    (settings.pulse output).start * wavelength.toNat = wantedStart settings words output := by
  rw [Pulse.start_eq (inRange.phase output).1 (inRange.phase output).2, wantedStart,
    encodes.period]

private theorem keepsDuty_of_phase (inRange : settings.InRange) (nonzero : wavelength ≠ 0)
    (encodes : Encodes settings words wavelength) {output : Output} (other : output ≠ .sq1) :
    KeepsDuty settings words output := by
  rcases (settings.pulse output).high_modEq wavelength with ⟨ticks, same, lower, upper⟩
  rw [share_eq_wanted inRange nonzero encodes] at lower upper
  rw [← encodes.period, ← encodes.falls, ← encodes.rises output other] at same
  exact ⟨ticks, same, by linarith, upper⟩

theorem keepsDuties_of_encodes (inRange : settings.InRange) (nonzero : wavelength ≠ 0)
    (encodes : Encodes settings words wavelength) : KeepsDuties settings words := by
  rcases (settings.pulse .sq1).duty_modEq wavelength with ⟨moment, same, early, late⟩
  rw [add_mul, share_eq_wanted inRange nonzero encodes, start_eq_wanted inRange encodes]
    at early late
  rw [← encodes.period, ← encodes.falls] at same
  have begins : 0 ≤ wantedStart settings words .sq1 :=
    mul_nonneg (inRange.phase .sq1).1 (Nat.cast_nonneg _)
  have inside : wantedStart settings words .sq1 ≤ 1 * period words :=
    mul_le_mul_of_nonneg_right (inRange.phase .sq1).2 (Nat.cast_nonneg _)
  have rises : (fallsAt words .sq1 : Int) - risesAt words .sq1 = fallsAt words .sq1 := sub_zero _
  refine ⟨fun output => keepsDuty_of_phase inRange nonzero encodes, ⟨moment, same, early, late⟩,
    ?close, ?apart⟩
  case close =>
    rw [KeepsDuty, rises]
    rintro (soon | nearly)
    · exact ⟨moment, same, by linarith, by linarith⟩
    · refine ⟨moment - period words, Int.modEq_sub_modulus_iff.mpr same, ?_, ?_⟩ <;>
      · push_cast
        linarith
  case apart =>
    intro later before
    rw [KeepsDuty, rises]
    rintro ⟨ticks, equal, lower, upper⟩
    -- The two counts differ by less than a period, and yet the counter shows the same.
    have ahead : 0 < moment - ticks := by
      have apart : (0 : Rat) < moment - ticks := by linarith
      exact_mod_cast apart
    have short : moment - ticks < period words := by
      have apart : (moment : Rat) - ticks < period words := by linarith
      exact_mod_cast apart
    have whole := Int.le_of_dvd ahead (equal.symm.trans same).dvd
    omega

end

/-- Whatever has been set, and in whatever order: once there is a frequency there is a plan, and the
outputs other than the first one keep their duties at any phase. -/
theorem keepsDuties_adjusted (setters : List (Setter Rat))
    (chosen : (Settings.adjusted setters).frequency ≠ none) :
    ∃ plan, Plan.ofSettings (Settings.adjusted setters) = .ok plan ∧
      KeepsDuties (Settings.adjusted setters) plan.words := by
  have inRange := Settings.inRange_adjusted setters
  rcases Option.ne_none_iff_exists'.mp chosen with ⟨frequency, found⟩
  rcases inRange.frequency frequency found with ⟨least, greatest⟩
  rcases Timing.ofFrequency_of_range least greatest with ⟨timing, timed, nonzero⟩
  rcases encodes_of_timing found timed nonzero with ⟨plan, planned, encodes⟩
  exact ⟨plan, planned, keepsDuties_of_encodes inRange nonzero encodes⟩

def fastSetters : List (Setter Rat) :=
  [.frequency 10000000, .duty "SQ2" 50, .phase "SQ2" 270]

theorem keepsDuties_fast :
    (Settings.adjusted fastSetters).frequency ≠ none ∧
      ∃ plan, Plan.ofSettings (Settings.adjusted fastSetters) = .ok plan ∧
        KeepsDuties (Settings.adjusted fastSetters) plan.words := by
  have chosen : (Settings.adjusted fastSetters).frequency ≠ none :=
    Option.isSome_iff_ne_none.mp (by decide +kernel)
  exact ⟨chosen, keepsDuties_adjusted fastSetters chosen⟩

def quarterLate : Settings Rat :=
  .adjusted [.frequency 1000, .duty "SQ1" 50, .phase "SQ1" 90]

/-- The first output is high for three quarters of the period. -/
theorem not_keepsDuty_quarterLate :
    (Plan.ofSettings quarterLate).toOption.map Plan.words =
        some [63999, 47999, 0, 0, 0, 0, 0, 0] ∧
      wantedTicks quarterLate [63999, 47999, 0, 0, 0, 0, 0, 0] .sq1 = 32000 ∧
      ¬ KeepsDuty quarterLate [63999, 47999, 0, 0, 0, 0, 0, 0] .sq1 := by
  have wanted : wantedTicks quarterLate [63999, 47999, 0, 0, 0, 0, 0, 0] .sq1 = 32000 := by
    decide +kernel
  refine ⟨by decide +kernel, wanted, ?_⟩
  rintro ⟨ticks, same, lower, upper⟩
  rw [wanted] at lower upper
  have above : 31997 < ticks := by
    have above : (31997 : Rat) < ticks := by linarith
    exact_mod_cast above
  have below : ticks < 32003 := by
    have below : (ticks : Rat) < 32003 := by linarith
    exact_mod_cast below
  have counted : (47999 : Int) ≡ ticks [ZMOD 64000] := same
  rw [Int.ModEq] at counted
  omega

end BenchScope.Waveform
