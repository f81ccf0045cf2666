import BenchScope.Proofs.Capture.Parameters
import BenchScope.Proofs.Number.DoubleArithmetic

namespace BenchScope

open Double

/-! The interval between samples that an accepted rate comes to, in doubles. The check on the
interval has an upper end only. That it is not zero follows from the highest rate, as long as the
limits ask for a tick between samples at all. -/

section Quotient

variable {rate : Float} {significand : Nat} {exponent : Int}

private theorem isNormal_clock : IsNormal (.ofNat timerClock) (8000000 <<< 30) (-30) :=
  isNormal_ofNat (by decide) (by decide)

private theorem isNormal_twiceClock : IsNormal (.ofNat (2 * timerClock)) (8000000 <<< 30) (-29) :=
  isNormal_ofNat (by decide) (by decide)

private theorem isNormal_minRate :
    ∃ significand, IsNormal (Limits.minRate : Float) significand (-46) :=
  isNormal_clock.div (by decide) (isNormal_ofNat (by decide) (by decide)) (by decide) (by decide)

/-- The interval comes to less than half a tick exactly at the rates above twice the clock. -/
private theorem round_quotient (normal : IsNormal rate significand exponent)
    (slowest : -46 ≤ exponent) :
    ∃ ticks, (Scalar.round (.ofNat timerClock / rate) : Float) = .ofNat ticks ∧
      ticks < 2 ^ 53 ∧ (ticks = 0 ↔ .ofNat (2 * timerClock) < rate) := by
  have top := normal.top
  have extra := extraDigit_le (8000000 <<< 30) significand
  rcases isNormal_clock.div (by decide) normal (by omega) (by omega) with ⟨quotient, divided⟩
  refine ⟨_, divided.round_eq (by omega), roundQuotient_lt divided.high (by omega), ?_⟩
  -- The quotient has an exponent of at most -54 from the rate of exponent -29 on whose significand
  -- is greater than that of the clock.
  rw [roundQuotient_eq_zero_iff divided.low divided.high, isNormal_twiceClock.lt_iff normal,
    extraDigit]
  split <;> omega

private theorem not_twiceClock_lt {limits : Limits} {mode : Mode} {triggered : Bool}
    (nonzero : limits.minInterval mode triggered ≠ 0) (normal : IsNormal rate significand exponent)
    (fastest : ¬ limits.maxRate mode triggered < rate) : ¬ .ofNat (2 * timerClock) < rate := by
  have pos : 0 < (limits.minInterval mode triggered).toNat :=
    Nat.pos_of_ne_zero fun zero => nonzero (UInt16.toNat_inj.mp zero)
  have word := (limits.minInterval mode triggered).toNat_lt
  have digits : (limits.minInterval mode triggered).toNat.log2 < 16 :=
    (Nat.log2_lt (Nat.ne_of_gt pos)).mpr word
  have ticks := isNormal_ofNat pos (Nat.lt_trans word (by decide))
  have extra := extraDigit_le (8000000 <<< 30) ((limits.minInterval mode triggered).toNat <<<
    (52 - (limits.minInterval mode triggered).toNat.log2))
  rcases isNormal_clock.div (by decide) ticks (by omega) (by omega) with ⟨quotient, divided⟩
  -- The highest rate has an exponent of at most -30, and twice the clock has -29.
  intro beyond
  rw [isNormal_twiceClock.lt_iff normal] at beyond
  exact fastest ((divided.lt_iff normal).mpr (.inl (by omega)))

end Quotient

namespace Parameters

private theorem toNat_interval {rate : Float} {ticks : Nat} {word : UInt16}
    (rounds : (Scalar.round (.ofNat timerClock / rate) : Float) = .ofNat ticks)
    (small : ticks < 2 ^ 53) (timed : interval rate = .ok word) : word.toNat = ticks := by
  have ticked : interval rate = if Float.ofNat ticks ≤ .ofNat 65535
      then .ok (Float.ofNat ticks).toUInt16 else .error (.interval (.ofNat ticks)) := by
    rw [← rounds]
    rfl
  rw [ticked] at timed
  split at timed
  case isFalse => cases timed
  case isTrue fits =>
    injection timed with equal
    rw [← equal]
    refine toNat_toUInt16_ofNat ?_
    rcases Nat.eq_zero_or_pos ticks with rfl | pos
    · exact Nat.zero_le _
    · exact (ofNat_le_ofNat_iff pos small (by decide) (by decide)).mp fits

def instantLimits : Limits := { untriggered := ⟨0, 7, 14⟩ }

def instantParameters : Parameters Float where
  channels := [.analog .ch1]
  sampleCount := 10
  rate := 20000000

/-- The word that an accepted rate comes to is the rounded quotient. It is zero only where the
limits ask for no tick between samples, and there at the rates above twice the clock. -/
theorem validate_interval {parameters : Parameters Float} {panel : Panel} {limits : Limits}
    {sampling : Sampling} (valid : parameters.validate panel limits = .ok sampling) :
    (Scalar.round (.ofNat timerClock / parameters.rate) : Float) = .ofNat sampling.interval.toNat ∧
      (sampling.interval = 0 ↔
        limits.minInterval sampling.mode parameters.isTriggered = 0 ∧
          .ofNat (2 * timerClock) < parameters.rate) := by
  rcases (parameters.validate_eq_ok_iff panel limits sampling).mp valid with ⟨sampled, -⟩
  rcases (parameters.sampling_eq_ok_iff limits sampling).mp sampled with ⟨-, -, -, allowed, timed⟩
  rw [checkRate] at allowed
  split at allowed
  case isTrue => cases allowed
  case isFalse within =>
    simp only [not_or, Bool.not_eq_false] at within
    rcases within with ⟨bounded, notSlower, notFaster⟩
    rcases isNormal_minRate with ⟨least, normalLeast⟩
    rcases normalLeast.exists_of_not_lt bounded notSlower with ⟨significand, exponent, normal⟩
    have slowest : -46 ≤ exponent := by
      rw [normal.lt_iff normalLeast] at notSlower
      omega
    rcases round_quotient normal slowest with ⟨ticks, rounds, small, instant⟩
    have word := toNat_interval rounds small timed
    have zero : sampling.interval = 0 ↔ ticks = 0 := by
      rw [← UInt16.toNat_inj, word]
      rfl
    rw [word, zero, instant]
    refine ⟨rounds, fun beyond => ⟨?_, beyond⟩, fun both => both.2⟩
    by_contra some
    exact not_twiceClock_lt some normal notFaster beyond

theorem validate_interval_instant :
    instantParameters.validate {} instantLimits = .ok ⟨.one, 0⟩ ∧
      (Scalar.round (.ofNat timerClock / 20000000) : Float) = .ofNat 0 ∧
      instantLimits.minInterval .one false = 0 ∧ .ofNat (2 * timerClock) < (20000000 : Float) := by
  have valid : instantParameters.validate {} instantLimits = .ok ⟨.one, 0⟩ := by rfl
  exact ⟨valid, (validate_interval valid).1, (validate_interval valid).2.mp rfl⟩

/-- An accepted word can be too small to time anything. -/
theorem validate_instant : ∃ sampling,
    instantParameters.validate {} instantLimits = .ok sampling ∧
      ¬ (1 ≤ sampling.interval.toNat ∧ sampling.interval.toNat ≤ 65535) :=
  ⟨⟨.one, 0⟩, by rfl, by decide⟩

end Parameters

end BenchScope
