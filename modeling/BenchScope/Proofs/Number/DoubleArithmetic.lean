import BenchScope.Proofs.Number.Double

namespace BenchScope.Double

open Float.Model Float.Model.UnpackedFloat

/-! Arithmetic on normal doubles. The exponent of a quotient is known up to one digit, which the
comparison of the significands decides; whole numbers of at most 53 digits are doubles. -/

/-! Rounding to 53 digits. -/

private theorem mantissa_shift (mantissa : ExtendedMantissa) (count : Nat) :
    (mantissa >>> count).mantissa = mantissa.mantissa / 2 ^ count := by
  induction count with
  | zero => exact (Nat.div_one _).symm
  | succ count ih =>
      change (mantissa >>> count).mantissa / 2 = _
      rw [ih, Nat.div_div_eq_div_mul, Nat.pow_succ]

private theorem shift_zeros (whole count : Nat) :
    (⟨whole * 2 ^ count, false, false⟩ : ExtendedMantissa) >>> count = ⟨whole, false, false⟩ := by
  induction count generalizing whole with
  | zero => simp [HShiftRight.hShiftRight, Nat.repeat]
  | succ count ih =>
      change ExtendedMantissa.shiftRightOne
        ((⟨whole * 2 ^ (count + 1), false, false⟩ : ExtendedMantissa) >>> count) = _
      rw [Nat.pow_succ', ← Nat.mul_assoc, ih (whole * 2)]
      simp [ExtendedMantissa.shiftRightOne]

private theorem roundedMantissa_bounds (mantissa : ExtendedMantissa) :
    mantissa.mantissa ≤ mantissa.roundedMantissa ∧
      mantissa.roundedMantissa ≤ mantissa.mantissa + 1 := by
  obtain ⟨whole, half, rest⟩ := mantissa
  cases half <;> cases rest <;>
    simp only [ExtendedMantissa.roundedMantissa, ExtendedMantissa.accuracy,
      Accuracy.roundToNearestEven] <;> omega

section Rounding

variable {mantissa count : Nat} {exponent : Int} {accuracy : Accuracy}

private theorem targetExponent_eq (total : Int) :
    Format.binary64.targetExponent total = max (total - 53) (-1074) := rfl

private theorem shiftToTargetExponent_eq (low : 2 ^ (52 + count) ≤ mantissa)
    (high : mantissa < 2 ^ (53 + count)) (bottom : -1074 ≤ exponent + count) :
    shiftToTargetExponent Format.binary64 mantissa exponent accuracy =
      (ExtendedMantissa.ofMantissaAndAccuracy mantissa accuracy >>> count, exponent + count) := by
  have digits : mantissa.log2 = 52 + count :=
    (Nat.log2_eq_iff (Nat.ne_of_gt (Nat.lt_of_lt_of_le (Nat.two_pow_pos _) low))).mpr
      ⟨low, by rwa [Nat.add_right_comm]⟩
  have target : Format.binary64.targetExponent (totalExponent mantissa exponent) =
      exponent + count := by
    rw [targetExponent_eq, totalExponent, digits]
    omega
  have amount : (exponent + count - exponent).toNat = count := by omega
  simp only [shiftToTargetExponent, target, shiftToExponent, amount]

private theorem roundWithAccuracy_eq {rounded : Nat} (sign : Sign)
    (low : 2 ^ (52 + count) ≤ mantissa) (high : mantissa < 2 ^ (53 + count))
    (bottom : -1074 ≤ exponent + count)
    (nearest : (ExtendedMantissa.ofMantissaAndAccuracy mantissa accuracy >>>
      count).roundedMantissa = rounded)
    (roundedLow : 2 ^ 52 ≤ rounded) (roundedHigh : rounded < 2 ^ 53) :
    roundWithAccuracy Format.binary64 sign mantissa exponent accuracy =
      .finite sign rounded (exponent + count) (Nat.lt_of_lt_of_le (by decide) roundedLow) := by
  -- The rounded significand has 53 digits already, so that the second shift does nothing.
  have again : shiftToTargetExponent Format.binary64 rounded (exponent + count) .exact =
      (⟨rounded, false, false⟩, exponent + count) := by
    rw [@shiftToTargetExponent_eq rounded 0 (exponent + count) .exact roundedLow roundedHigh
      (by omega), Nat.cast_zero, Int.add_zero]
    rfl
  have nonzero : rounded ≠ 0 := Nat.ne_of_gt (Nat.lt_of_lt_of_le (by decide) roundedLow)
  rw [roundWithAccuracy, shiftToTargetExponent_eq low high bottom]
  dsimp only
  rw [nearest, again]
  exact dif_neg nonzero

theorem roundWithAccuracy_zeros {whole : Nat} (sign : Sign) (low : 2 ^ 52 ≤ whole)
    (high : whole < 2 ^ 53) (bottom : -1074 ≤ exponent + count) :
    roundWithAccuracy Format.binary64 sign (whole * 2 ^ count) exponent .exact =
      .finite sign whole (exponent + count) (Nat.lt_of_lt_of_le (by decide) low) := by
  refine roundWithAccuracy_eq sign ?_ ?_ bottom ?_ low high
  · rw [Nat.pow_add]
    exact Nat.mul_le_mul_right _ low
  · rw [Nat.pow_add]
    exact Nat.mul_lt_mul_of_pos_right high (Nat.two_pow_pos count)
  · exact congrArg ExtendedMantissa.roundedMantissa (shift_zeros whole count)

private theorem roundWithAccuracy_clear (sign : Sign) (low : 2 ^ 52 ≤ mantissa / 2 ^ count)
    (high : mantissa / 2 ^ count < 2 ^ 53 - 1) (bottom : -1074 ≤ exponent + count) :
    ∃ rounded pos, 2 ^ 52 ≤ rounded ∧ rounded < 2 ^ 53 ∧
      roundWithAccuracy Format.binary64 sign mantissa exponent accuracy =
        .finite sign rounded (exponent + count) pos := by
  have lowest : 2 ^ (52 + count) ≤ mantissa := by
    rw [Nat.pow_add]
    exact (Nat.le_div_iff_mul_le (Nat.two_pow_pos count)).mp low
  have highest : mantissa < 2 ^ (53 + count) := by
    rw [Nat.pow_add]
    exact (Nat.div_lt_iff_lt_mul (Nat.two_pow_pos count)).mp (by omega)
  have same : (ExtendedMantissa.ofMantissaAndAccuracy mantissa accuracy).mantissa = mantissa := by
    obtain _ | _ | _ | _ := accuracy <;> rfl
  have bounds := roundedMantissa_bounds
    (ExtendedMantissa.ofMantissaAndAccuracy mantissa accuracy >>> count)
  rw [mantissa_shift, same] at bounds
  exact ⟨_, _, by omega, by omega,
    roundWithAccuracy_eq sign lowest highest bottom rfl (by omega) (by omega)⟩

end Rounding

section Arithmetic

variable {value other : Float} {significand otherSignificand : Nat} {exponent otherExponent : Int}

/-- A quotient of significands has one more digit if the first is not the smaller. -/
def extraDigit (significand otherSignificand : Nat) : Nat :=
  if otherSignificand ≤ significand then 1 else 0

theorem extraDigit_le (significand otherSignificand : Nat) :
    extraDigit significand otherSignificand ≤ 1 := by
  rw [extraDigit]
  split <;> decide

private theorem quotient_digits (low : 2 ^ 52 ≤ significand) (high : significand < 2 ^ 53 - 1)
    (otherLow : 2 ^ 52 ≤ otherSignificand) (otherHigh : otherSignificand < 2 ^ 53) :
    2 ^ 52 ≤ (significand <<< 53) / otherSignificand / 2 ^ extraDigit significand otherSignificand ∧
      (significand <<< 53) / otherSignificand / 2 ^ extraDigit significand otherSignificand <
        2 ^ 53 - 1 := by
  rw [Nat.shiftLeft_eq, Nat.div_div_eq_div_mul, extraDigit]
  split
  all_goals
    rw [Nat.le_div_iff_mul_le (by omega), Nat.div_lt_iff_lt_mul (by omega)]
    omega

private theorem divCore_eq (low : 2 ^ 52 ≤ significand) (high : significand < 2 ^ 53)
    (otherLow : 2 ^ 52 ≤ otherSignificand) (otherHigh : otherSignificand < 2 ^ 53)
    (bottom : -1021 ≤ exponent - otherExponent) :
    divCore Format.binary64 significand exponent otherSignificand otherExponent =
      ((significand <<< 53) / otherSignificand, exponent - otherExponent - 53,
        accuracyOfFraction ((significand <<< 53) % otherSignificand) otherSignificand) := by
  have target : min (exponent - otherExponent) (Format.binary64.targetExponent
      (totalExponent significand exponent - totalExponent otherSignificand otherExponent)) =
      exponent - otherExponent - 53 := by
    rw [targetExponent_eq, totalExponent, totalExponent, log2_eq low high,
      log2_eq otherLow otherHigh]
    omega
  have amount : (exponent - otherExponent - (exponent - otherExponent - 53)).toNat = 53 := by
    omega
  simp only [divCore, target, amount]

private theorem div_finite (pos : 0 < significand) (otherPos : 0 < otherSignificand) :
    UnpackedFloat.div Format.binary64 (.finite .positive significand exponent pos)
        (.finite .positive otherSignificand otherExponent otherPos) =
      let quotient := divCore Format.binary64 significand exponent otherSignificand otherExponent
      roundWithAccuracy Format.binary64 .positive quotient.1 quotient.2.1 quotient.2.2 :=
  rfl

namespace IsNormal

theorem div (normal : IsNormal value significand exponent) (spare : significand < 2 ^ 53 - 1)
    (otherNormal : IsNormal other otherSignificand otherExponent)
    (bottom : -1021 ≤ exponent - otherExponent) (top : exponent - otherExponent ≤ 1023) :
    ∃ quotient, IsNormal (value / other) quotient
      (exponent - otherExponent - 53 + extraDigit significand otherSignificand) := by
  obtain ⟨low, high, -, -, fields⟩ := normal
  obtain ⟨otherLow, otherHigh, -, -, otherFields⟩ := otherNormal
  have extra := extraDigit_le significand otherSignificand
  obtain ⟨digitsLow, digitsHigh⟩ := quotient_digits low spare otherLow otherHigh
  obtain ⟨rounded, pos, roundedLow, roundedHigh, rounds⟩ :=
    @roundWithAccuracy_clear _ _ (exponent - otherExponent - 53)
      (accuracyOfFraction ((significand <<< 53) % otherSignificand) otherSignificand)
      .positive digitsLow digitsHigh (by omega)
  have quotient : value / other = .ofModel (.pack (roundWithAccuracy Format.binary64 .positive
      ((significand <<< 53) / otherSignificand) (exponent - otherExponent - 53)
      (accuracyOfFraction ((significand <<< 53) % otherSignificand) otherSignificand))) := by
    change Float.ofModel (.pack (UnpackedFloat.div Format.binary64 value.toModel.unpack
      other.toModel.unpack)) = _
    rw [fields, otherFields, div_finite, divCore_eq low high otherLow otherHigh bottom]
  rw [quotient, rounds]
  exact ⟨rounded, isNormal_pack roundedLow roundedHigh (by omega) (by omega) pos⟩

private theorem mul_two_pow (normal : IsNormal value significand exponent)
    (otherNormal : IsNormal other (2 ^ 52) otherExponent)
    (bottom : -1074 ≤ exponent + otherExponent + 52)
    (top : exponent + otherExponent + 52 ≤ 971) :
    IsNormal (value * other) significand (exponent + otherExponent + 52) := by
  obtain ⟨low, high, -, -, fields⟩ := normal
  have product : value * other = .ofModel (.pack (roundWithAccuracy Format.binary64 .positive
      (significand * 2 ^ 52) (exponent + otherExponent) .exact)) := by
    change Float.ofModel (.pack (UnpackedFloat.mul Format.binary64 value.toModel.unpack
      other.toModel.unpack)) = _
    rw [fields, otherNormal.fields]
    rfl
  rw [product, roundWithAccuracy_zeros .positive low high bottom]
  exact isNormal_pack low high bottom top _

theorem toUInt16 (normal : IsNormal value significand exponent) (fraction : exponent ≤ 0) :
    value.toUInt16 = UInt16.ofNatClamp (significand / 2 ^ (-exponent).toNat) := by
  have left : (exponent - 0).toNat = 0 := by omega
  have right : (0 - (exponent - (0 : Nat))).toNat = (-exponent).toNat := by omega
  have cut : UnpackedFloat.toInt 0 (UInt16.size - 1) value.toModel.unpack =
      (significand / 2 ^ (-exponent).toNat : Nat) := by
    rw [normal.fields]
    change roundToInt .positive significand exponent = _
    simp only [roundToInt, decreaseExponent, left, shiftToExponent, right,
      Sign.apply, mantissa_shift, ExtendedMantissa.ofMantissaAndAccuracy, Nat.shiftLeft_zero]
  change UInt16.ofNatClamp (UnpackedFloat.toInt _ _ _).toNat = _
  rw [cut, Int.toNat_natCast]

end IsNormal

end Arithmetic

/-! Whole numbers. -/

section Whole

variable {whole other : Nat}

private theorem log2_le_log2 (pos : 0 < whole) (le : whole ≤ other) : whole.log2 ≤ other.log2 :=
  (Nat.le_log2 (by omega)).mpr (Nat.le_trans (Nat.log2_self_le (Nat.ne_of_gt pos)) le)

theorem log2_lt (pos : 0 < whole) (small : whole < 2 ^ 53) : whole.log2 < 53 :=
  (Nat.log2_lt (Nat.ne_of_gt pos)).mpr small

private theorem shiftLeft_digits (pos : 0 < whole) (small : whole < 2 ^ 53) :
    2 ^ 52 ≤ whole <<< (52 - whole.log2) ∧ whole <<< (52 - whole.log2) < 2 ^ 53 := by
  have digits := log2_lt pos small
  have full : whole.log2 + (52 - whole.log2) = 52 := by omega
  have low : 2 ^ 52 = 2 ^ whole.log2 * 2 ^ (52 - whole.log2) := by rw [← Nat.pow_add, full]
  have high : 2 ^ 53 = 2 ^ (whole.log2 + 1) * 2 ^ (52 - whole.log2) := by
    rw [← Nat.pow_add, Nat.add_right_comm, full]
  rw [Nat.shiftLeft_eq, low, high]
  exact ⟨Nat.mul_le_mul_right _ (Nat.log2_self_le (Nat.ne_of_gt pos)),
    Nat.mul_lt_mul_of_pos_right Nat.lt_log2_self (Nat.two_pow_pos _)⟩

theorem isNormal_toFloat {word : UInt64} (pos : 0 < word.toNat) (small : word.toNat < 2 ^ 53) :
    IsNormal word.toFloat (word.toNat <<< (52 - word.toNat.log2)) (word.toNat.log2 - 52) := by
  have digits := log2_lt pos small
  obtain ⟨low, high⟩ := shiftLeft_digits pos small
  have target : Format.binary64.targetExponent (totalExponent word.toNat 0) =
      word.toNat.log2 - 52 := by
    rw [targetExponent_eq, totalExponent]
    omega
  have amount : (0 - ((word.toNat.log2 : Int) - 52)).toNat = 52 - word.toNat.log2 := by omega
  have left : (0 : Int) - (52 - word.toNat.log2 : Nat) = word.toNat.log2 - 52 := by omega
  have decreased : decreaseExponent word.toNat 0 (word.toNat.log2 - 52) =
      (word.toNat <<< (52 - word.toNat.log2), (word.toNat.log2 - 52 : Int)) := by
    simp only [decreaseExponent, amount, left]
  have rounds : UnpackedFloat.round Format.binary64 .positive word.toNat 0 =
      .finite .positive (word.toNat <<< (52 - word.toNat.log2)) (word.toNat.log2 - 52)
        (Nat.lt_of_lt_of_le (by decide) low) := by
    have scaled :=
      @roundWithAccuracy_zeros 0 (word.toNat.log2 - 52) _ .positive low high (by omega)
    rw [Nat.pow_zero, Nat.mul_one, Nat.cast_zero, Int.add_zero] at scaled
    rw [UnpackedFloat.round, target, decreased]
    exact scaled
  have converted : word.toFloat =
      .ofModel (.pack (UnpackedFloat.round Format.binary64 .positive word.toNat 0)) := by
    change Float.ofModel
      (.pack (UnpackedFloat.normalize Format.binary64 word.toNat 0 .positive)) = _
    rw [UnpackedFloat.normalize, Int.compare_eq_gt.mpr (by omega)]
    rfl
  rw [converted, rounds]
  exact isNormal_pack low high (by omega) (by omega) _

theorem isNormal_one : IsNormal (.ofBits 0x3FF0000000000000) (2 ^ 52) (-52) :=
  ⟨by decide, by decide, by decide, by decide, by rfl⟩

theorem isNormal_ofNat (pos : 0 < whole) (small : whole < 2 ^ 53) :
    IsNormal (.ofNat whole) (whole <<< (52 - whole.log2)) (whole.log2 - 52) := by
  have digits := log2_lt pos small
  have word : whole.toUInt64.toNat = whole := Nat.mod_eq_of_lt (by omega)
  have converted := @isNormal_toFloat whole.toUInt64 (by omega) (by omega)
  rw [word] at converted
  have scaled : Float.ofNat whole = whole.toUInt64.toFloat * .ofBits 0x3FF0000000000000 :=
    dif_pos ⟨small, Nat.zero_le 22⟩
  -- The factor is one, 2 ^ 52 × 2 ^ -52.
  have place : (whole.log2 : Int) - 52 + -52 + 52 = whole.log2 - 52 := by omega
  rw [scaled, ← place]
  exact converted.mul_two_pow isNormal_one (by omega) (by omega)

theorem toNat_toUInt16_ofNat (small : whole ≤ 65535) :
    (Float.ofNat whole).toUInt16.toNat = whole := by
  obtain rfl | pos := Nat.eq_zero_or_pos whole
  · rfl
  have digits := log2_lt pos (by omega)
  have amount : (-((whole.log2 : Int) - 52)).toNat = 52 - whole.log2 := by omega
  rw [(isNormal_ofNat pos (by omega)).toUInt16 (by omega), amount, Nat.shiftLeft_eq,
    Nat.mul_div_cancel _ (Nat.two_pow_pos _)]
  exact UInt16.toNat_ofNatClamp_of_lt (Nat.lt_succ_of_le small)

theorem ofNat_le_ofNat_iff (pos : 0 < whole) (small : whole < 2 ^ 53)
    (otherPos : 0 < other) (otherSmall : other < 2 ^ 53) :
    Float.ofNat whole ≤ .ofNat other ↔ whole ≤ other := by
  rw [(isNormal_ofNat pos small).le_iff (isNormal_ofNat otherPos otherSmall)]
  constructor
  · rintro (shorter | ⟨same, le⟩)
    · by_contra greater
      have := log2_le_log2 otherPos (Nat.le_of_not_le greater)
      omega
    · have digits : whole.log2 = other.log2 := by omega
      rw [digits, Nat.shiftLeft_eq, Nat.shiftLeft_eq] at le
      exact Nat.le_of_mul_le_mul_right le (Nat.two_pow_pos _)
  · intro le
    obtain shorter | digits := Nat.lt_or_eq_of_le (log2_le_log2 pos le)
    · exact .inl (by omega)
    · refine .inr ⟨by omega, ?_⟩
      rw [digits, Nat.shiftLeft_eq, Nat.shiftLeft_eq]
      exact Nat.mul_le_mul_right _ le

end Whole

end BenchScope.Double
