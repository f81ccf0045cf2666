import BenchScope.Calibration
import BenchScope.Proofs.Number.Rational
import BenchScope.Proofs.Selection

namespace BenchScope

open Scalar hiding round

/-! Reading the line of an input backwards. A voltage has a place among the codes, in general
between two of them. It is rounded to the nearest code, and what lies beyond the first or the last
code is brought back to it. All of this is about places, so that rising and falling lines differ
only in the order of their voltages. -/

private theorem abs_clamp_sub_le {whole highest other : Int} {value : Rat}
    (near : |(whole : Rat) - value| ≤ 1 / 2) (nonneg : 0 ≤ other) (within : other ≤ highest) :
    |((max 0 (min whole highest) : Int) : Rat) - value| ≤ |(other : Rat) - value| := by
  rcases abs_le.mp near with ⟨lower, upper⟩
  have start : (0 : Rat) ≤ other := by exact_mod_cast nonneg
  have finish : (other : Rat) ≤ highest := by exact_mod_cast within
  rcases lt_or_ge whole 0 with before | started
  · have early : (whole : Rat) ≤ -1 := by exact_mod_cast (by omega)
    rw [show max 0 (min whole highest) = 0 by omega, Int.cast_zero, abs_of_nonneg (by linarith)]
    exact le_abs.mpr (.inl (by linarith))
  · rcases lt_or_ge highest whole with behind | inside
    · have late : (highest : Rat) + 1 ≤ whole := by exact_mod_cast behind
      rw [show max 0 (min whole highest) = highest by omega, abs_of_nonpos (by linarith)]
      exact le_abs.mpr (.inr (by linarith))
    · rw [show max 0 (min whole highest) = whole by omega]
      rcases lt_trichotomy other whole with less | same | more
      · have step : (other : Rat) + 1 ≤ whole := by exact_mod_cast less
        exact near.trans (le_abs.mpr (.inr (by linarith)))
      · rw [same]
      · have step : (whole : Rat) + 1 ≤ other := by exact_mod_cast more
        exact near.trans (le_abs.mpr (.inl (by linarith)))

namespace Calibration

variable {calibration : Calibration Rat}

def place (calibration : Calibration Rat) (volts : Rat) : Rat :=
  (volts - calibration.intercept) / calibration.slope

/-- No code stands for a voltage that is nearer. -/
structure IsNearest (calibration : Calibration Rat) (volts : Rat) (code : UInt16) : Prop where
  within : code ≤ calibration.fullScale
  nearest : ∀ other ≤ calibration.fullScale,
    |calibration.scale code - volts| ≤ |calibration.scale other - volts|

structure Rises (calibration : Calibration Rat) : Prop where
  monotone : ∀ low high, low ≤ high → calibration.unscale low ≤ calibration.unscale high
  below : ∀ volts ≤ calibration.scale 0, calibration.unscale volts = 0
  above : ∀ volts, calibration.scale calibration.fullScale ≤ volts →
    calibration.unscale volts = calibration.fullScale

structure Falls (calibration : Calibration Rat) : Prop where
  antitone : ∀ low high, low ≤ high → calibration.unscale high ≤ calibration.unscale low
  above : ∀ volts, calibration.scale 0 ≤ volts → calibration.unscale volts = 0
  below : ∀ volts ≤ calibration.scale calibration.fullScale,
    calibration.unscale volts = calibration.fullScale

structure Inverts (calibration : Calibration Rat) : Prop where
  tilted : calibration.slope ≠ 0
  nearest : ∀ volts, calibration.IsNearest volts (calibration.unscale volts)
  roundTrip : ∀ code ≤ calibration.fullScale, calibration.unscale (calibration.scale code) = code
  rises : 0 < calibration.slope → calibration.Rises
  falls : calibration.slope < 0 → calibration.Falls

private theorem exists_unscale (calibration : Calibration Rat) (volts : Rat) : ∃ whole : Int,
    |(whole : Rat) - calibration.place volts| ≤ 1 / 2 ∧
      ((calibration.unscale volts).toNat : Int) =
        max 0 (min whole calibration.fullScale.toNat) := by
  rcases exists_round (calibration.place volts) with ⟨whole, rounded, near⟩
  have width := calibration.fullScale.toNat_lt
  have code : calibration.unscale volts =
      toWord (clamp zero (ofNat calibration.fullScale.toNat)
        (Scalar.round (calibration.place volts))) :=
    rfl
  have clamped : clamp zero (ofNat calibration.fullScale.toNat) (whole : Rat) =
      ((max 0 (min whole calibration.fullScale.toNat) : Int) : Rat) := by
    rw [zero_eq, ofNat_eq_cast, clamp_eq (Nat.cast_nonneg _)]
    push_cast
    rfl
  refine ⟨whole, near, ?_⟩
  rw [code, rounded, clamped, toNat_toWord, Int.floor_intCast]
  · exact_mod_cast le_max_left _ _
  · exact_mod_cast (by omega)

theorem unscale_le_unscale {low high : Rat}
    (ordered : calibration.place low ≤ calibration.place high) :
    calibration.unscale low ≤ calibration.unscale high := by
  rcases ordered.lt_or_eq with before | same
  · rcases calibration.exists_unscale low with ⟨lower, lowNear, lowCode⟩
    rcases calibration.exists_unscale high with ⟨upper, highNear, highCode⟩
    -- Two places that differ are not rounded past each other.
    have apart : (lower : Rat) < upper + 1 := by
      linarith [(abs_le.mp lowNear).2, (abs_le.mp highNear).1]
    have ordered : lower < upper + 1 := by exact_mod_cast apart
    rw [UInt16.le_iff_toNat_le]
    omega
  · have code (volts : Rat) : calibration.unscale volts = toWord (clamp zero
      (ofNat calibration.fullScale.toNat) (Scalar.round (calibration.place volts))) := rfl
    rw [code, code, same]
    exact UInt16.le_refl _

section

variable (tilted : calibration.slope ≠ 0)

include tilted

private theorem place_scale (code : UInt16) :
    calibration.place (calibration.scale code) = code.toNat := by
  rw [place, scale, add_sub_cancel_right, mul_div_cancel_left₀ _ tilted, ofNat_eq_cast]

private theorem abs_scale_sub (code : UInt16) (volts : Rat) :
    |calibration.scale code - volts| =
      |calibration.slope| * |(code.toNat : Rat) - calibration.place volts| := by
  rw [← abs_mul, mul_sub, place, mul_div_cancel₀ _ tilted, scale, ofNat_eq_cast]
  congr 1
  ring

theorem isNearest_unscale (volts : Rat) :
    calibration.IsNearest volts (calibration.unscale volts) := by
  rcases calibration.exists_unscale volts with ⟨whole, near, code⟩
  refine ⟨UInt16.le_iff_toNat_le.mpr (by omega), fun other within => ?_⟩
  have nearest := abs_clamp_sub_le near (Int.natCast_nonneg other.toNat)
    (Int.ofNat_le.mpr (UInt16.le_iff_toNat_le.mp within))
  rw [← code] at nearest
  rw [abs_scale_sub tilted, abs_scale_sub tilted]
  exact mul_le_mul_of_nonneg_left (by exact_mod_cast nearest) (abs_nonneg _)

theorem unscale_scale {code : UInt16} (within : code ≤ calibration.fullScale) :
    calibration.unscale (calibration.scale code) = code := by
  have nearest := (isNearest_unscale tilted (calibration.scale code)).nearest code within
  rw [sub_self, abs_zero, abs_scale_sub tilted, place_scale tilted] at nearest
  have errorless :
      |((calibration.unscale (calibration.scale code)).toNat : Rat) - code.toNat| = 0 :=
    (mul_eq_zero_iff_left (abs_ne_zero.mpr tilted)).mp (le_antisymm nearest (by positivity))
  exact UInt16.toNat_inj.mp (by exact_mod_cast sub_eq_zero.mp (abs_eq_zero.mp errorless))

theorem unscale_of_place_le {volts : Rat}
    (before : calibration.place volts ≤ calibration.place (calibration.scale 0)) :
    calibration.unscale volts = 0 := by
  have least := unscale_le_unscale before
  rw [unscale_scale tilted UInt16.zero_le] at least
  exact UInt16.le_zero_iff.mp least

theorem unscale_of_le_place {volts : Rat}
    (behind : calibration.place (calibration.scale calibration.fullScale) ≤
      calibration.place volts) :
    calibration.unscale volts = calibration.fullScale := by
  have greatest := unscale_le_unscale behind
  rw [unscale_scale tilted (UInt16.le_refl _)] at greatest
  exact UInt16.le_antisymm (isNearest_unscale tilted volts).within greatest

end

private theorem rises_of_slope (rising : 0 < calibration.slope) : calibration.Rises := by
  have ordered {low high : Rat} (before : low ≤ high) :
      calibration.place low ≤ calibration.place high :=
    div_le_div_of_nonneg_right (sub_le_sub_right before _) rising.le
  exact {
    monotone := fun _ _ before => unscale_le_unscale (ordered before)
    below := fun _ before => unscale_of_place_le rising.ne' (ordered before)
    above := fun _ behind => unscale_of_le_place rising.ne' (ordered behind) }

private theorem falls_of_slope (falling : calibration.slope < 0) : calibration.Falls := by
  have ordered {low high : Rat} (before : low ≤ high) :
      calibration.place high ≤ calibration.place low :=
    div_le_div_of_nonpos_of_le falling.le (sub_le_sub_right before _)
  exact {
    antitone := fun _ _ before => unscale_le_unscale (ordered before)
    above := fun _ behind => unscale_of_place_le falling.ne (ordered behind)
    below := fun _ before => unscale_of_le_place falling.ne (ordered before) }

theorem inverts_of_slope (tilted : calibration.slope ≠ 0) : calibration.Inverts where
  tilted := tilted
  nearest := isNearest_unscale tilted
  roundTrip _ := unscale_scale tilted
  rises := rises_of_slope
  falls := falls_of_slope

theorem slope_between_ne_zero {voltsAtZero voltsAtFullScale : Rat}
    (apart : voltsAtZero ≠ voltsAtFullScale) {gain : UInt8} (amplified : gain ≠ 0)
    {fullScale : UInt16} (coded : fullScale ≠ 0) :
    (between voltsAtZero voltsAtFullScale gain fullScale).slope ≠ 0 := by
  have factor : (gain.toNat : Rat) ≠ 0 :=
    Nat.cast_ne_zero.mpr fun zero => amplified (UInt8.toNat_inj.mp zero)
  have codes : (fullScale.toNat : Rat) ≠ 0 :=
    Nat.cast_ne_zero.mpr fun zero => coded (UInt16.toNat_inj.mp zero)
  exact div_ne_zero (div_ne_zero (sub_ne_zero.mpr apart.symm) codes) factor

theorem inverts_ofPanel (panel : Panel) (input : Input) :
    (ofPanel panel input : Calibration Rat).Inverts := by
  have apart : (input.voltsAtZero : Rat) ≠ input.voltsAtFullScale := by
    cases input <;> decide +kernel
  exact inverts_of_slope (slope_between_ne_zero apart (Gain.factor_ne_zero _)
    (Resolution.fullScale_ne_zero _))

/-- Whatever voltages the ends of the codes stand for: as long as they differ, and there is a gain
and more than one code, the line between them can be read backwards. -/
theorem inverts_between {voltsAtZero voltsAtFullScale : Rat}
    (apart : voltsAtZero ≠ voltsAtFullScale)
    {gain : UInt8} (amplified : 1 ≤ gain) {fullScale : UInt16} (coded : 1 ≤ fullScale) :
    (between voltsAtZero voltsAtFullScale gain fullScale).Inverts := by
  have gained : gain ≠ 0 := by
    rintro rfl
    exact absurd amplified (by decide)
  have codes : fullScale ≠ 0 := by
    rintro rfl
    exact absurd coded (by decide)
  exact inverts_of_slope (slope_between_ne_zero apart gained codes)

theorem inverts_between_inverted :
    (16.5 : Rat) ≠ -16.5 ∧ (1 : UInt8) ≤ 16 ∧ (1 : UInt16) ≤ 4095 ∧
      (between (16.5 : Rat) (-16.5) 16 4095).Inverts := by
  have apart : (16.5 : Rat) ≠ -16.5 := by norm_num
  have amplified : (1 : UInt8) ≤ 16 := by decide
  have coded : (1 : UInt16) ≤ 4095 := by decide
  exact ⟨apart, amplified, coded, inverts_between apart amplified coded⟩

end Calibration

end BenchScope
