import Mathlib.Order.Compare
import Mathlib.Tactic.Ring
import BenchScope.Number.Scalar

namespace BenchScope.Double

open Float.Model Float.Model.UnpackedFloat

/-! Positive doubles that use all 53 digits of their significand. Their order is the order of the
exponents and then of the significands, and the whole number nearest to one is a quotient of natural
numbers. -/

/-- The value is `significand` × 2 ^ `exponent`. -/
structure IsNormal (value : Float) (significand : Nat) (exponent : Int) : Prop where
  low : 2 ^ 52 ≤ significand
  high : significand < 2 ^ 53
  bottom : -1074 ≤ exponent
  top : exponent ≤ 971
  fields : value.toModel.unpack = .finite .positive significand exponent
    (Nat.lt_of_lt_of_le (by decide) low)

/-! The encoding. The first digit of the significand is not stored. -/

private theorem toNat_leadingDigit (digits : BitVec 52) :
    (1#1 ++ digits).toNat = 2 ^ 52 + digits.toNat := by
  rw [BitVec.toNat_append]
  exact (Nat.two_pow_add_eq_or_of_lt digits.isLt 1).symm

private theorem toNat_eq_fields (bits : BitVec Format.binary64.numBits) :
    bits.toNat = (unpackSign bits).toNat * 2 ^ 63 + (unpackExponent bits).toNat * 2 ^ 52 +
      (unpackMantissa bits).toNat := by
  have small : bits.toNat < 2 ^ 64 := bits.isLt
  have first : (unpackSign bits).toNat = (bits.toNat >>> 63) % 2 :=
    BitVec.extractLsb_toNat 63 63 bits
  have middle : (unpackExponent bits).toNat = (bits.toNat >>> 52) % 2 ^ 11 :=
    BitVec.extractLsb_toNat 62 52 bits
  have last : (unpackMantissa bits).toNat = (bits.toNat >>> 0) % 2 ^ 52 :=
    BitVec.extractLsb_toNat 51 0 bits
  rw [first, middle, last, Nat.shiftRight_eq_div_pow, Nat.shiftRight_eq_div_pow,
    Nat.shiftRight_zero]
  omega

private theorem toNat_packed (field : BitVec 11) (digits : BitVec 52) :
    (packComponents Format.binary64 .positive field digits).toNat =
      field.toNat * 2 ^ 52 + digits.toNat := by
  have front : (Sign.positive.toBitVec ++ field).toNat = field.toNat := by
    rw [BitVec.toNat_append]
    exact Nat.zero_or _
  rw [packComponents, BitVec.toNat_append, front, Nat.shiftLeft_eq, Nat.mul_comm,
    Nat.two_pow_add_eq_or_of_lt digits.isLt]

private theorem unpackSign_packed (field : BitVec 11) (digits : BitVec 52) :
    unpackSign (packComponents Format.binary64 .positive field digits) = 0#1 := by
  have parts := toNat_eq_fields (packComponents Format.binary64 .positive field digits)
  rw [toNat_packed, unpackExponent_packComponents, unpackMantissa_packComponents] at parts
  refine BitVec.eq_of_toNat_eq ?_
  rw [BitVec.toNat_ofNat]
  omega

private theorem bias_eq : (Format.binary64.exponentBias : Int) + (52 : Nat) = 1075 := rfl

theorem log2_eq {significand : Nat} (low : 2 ^ 52 ≤ significand) (high : significand < 2 ^ 53) :
    significand.log2 = 52 :=
  (Nat.log2_eq_iff (by omega)).mpr ⟨low, high⟩

section Encoding

variable {significand : Nat} {exponent : Int}

private theorem toNat_biased (bottom : -1074 ≤ exponent) (top : exponent ≤ 971) :
    (BitVec.ofNat 11 (exponent + 1075).toNat).toNat = (exponent + 1075).toNat := by
  rw [BitVec.toNat_ofNat]
  omega

private theorem toNat_stored (low : 2 ^ 52 ≤ significand) (high : significand < 2 ^ 53) :
    (BitVec.ofNat 52 significand).toNat = significand - 2 ^ 52 := by
  rw [BitVec.toNat_ofNat]
  omega

private theorem pack_finite (low : 2 ^ 52 ≤ significand) (high : significand < 2 ^ 53)
    (bottom : -1074 ≤ exponent) (top : exponent ≤ 971) (pos : 0 < significand) :
    UnpackedFloat.pack Format.binary64 (.finite .positive significand exponent pos) =
      packComponents Format.binary64 .positive (BitVec.ofNat 11 (exponent + 1075).toNat)
        (BitVec.ofNat 52 significand) := by
  have biased : exponent + (Format.binary64.exponentBias : Int) + (52 : Nat) = exponent + 1075 := by
    rw [Int.add_assoc, bias_eq]
  have notSpecial : ¬ 2 ^ 11 ≤ (exponent + 1075).toNat + 1 := by omega
  have allDigits : significand.log2 + 1 = 53 := by rw [log2_eq low high]
  rw [← biased] at notSpecial ⊢
  exact (if_neg notSpecial).trans (if_pos allDigits)

private theorem unpack_of_fields {bits : BitVec Format.binary64.numBits} {sign : Sign}
    (first : Sign.ofBitVec (unpackSign bits) = sign) (notSpecial : unpackExponent bits ≠ -1#11)
    (notSubnormal : unpackExponent bits ≠ 0#11)
    (place : (unpackExponent bits).toNat - (Format.binary64.exponentBias + (52 : Nat)) = exponent)
    (digits : (1#1 ++ unpackMantissa bits).toNat = significand) (pos : 0 < significand) :
    UnpackedFloat.unpack Format.binary64 bits = .finite sign significand exponent pos := by
  subst first place digits
  exact (if_neg notSpecial).trans (if_neg notSubnormal)

private theorem unpack_pack_finite (low : 2 ^ 52 ≤ significand) (high : significand < 2 ^ 53)
    (bottom : -1074 ≤ exponent) (top : exponent ≤ 971) (pos : 0 < significand) :
    (Float.Model.pack (.finite .positive significand exponent pos)).unpack =
      .finite .positive significand exponent pos := by
  have notSpecial : BitVec.ofNat 11 (exponent + 1075).toNat ≠ -1#11 := by
    refine mt (congrArg BitVec.toNat) ?_
    rw [toNat_biased bottom top]
    exact Nat.ne_of_lt (show _ < 2047 by omega)
  have notSubnormal : BitVec.ofNat 11 (exponent + 1075).toNat ≠ 0#11 := by
    refine mt (congrArg BitVec.toNat) ?_
    rw [toNat_biased bottom top]
    exact Nat.ne_of_gt (show 0 < _ by omega)
  change UnpackedFloat.unpack _ (UnpackedFloat.pack _ _) = _
  rw [pack_finite low high bottom top]
  refine unpack_of_fields (congrArg Sign.ofBitVec (unpackSign_packed _ _)) ?_ ?_ ?_ ?_ pos
  · rwa [unpackExponent_packComponents]
  · rwa [unpackExponent_packComponents]
  · rw [unpackExponent_packComponents, toNat_biased bottom top, bias_eq]
    omega
  · rw [unpackMantissa_packComponents, toNat_leadingDigit, toNat_stored low high]
    omega

theorem isNormal_pack (low : 2 ^ 52 ≤ significand) (high : significand < 2 ^ 53)
    (bottom : -1074 ≤ exponent) (top : exponent ≤ 971) (pos : 0 < significand) :
    IsNormal (.ofModel (.pack (.finite .positive significand exponent pos))) significand
      exponent :=
  ⟨low, high, bottom, top, unpack_pack_finite low high bottom top pos⟩

/-- Which fields a finite double comes from. At the least exponent the first digit is not there. -/
theorem fields_of_unpack {value : Float} {sign : Sign} {pos : 0 < significand}
    (fields : value.toModel.unpack = .finite sign significand exponent pos) :
    let bits : BitVec Format.binary64.numBits := value.toModel.toBits.toBitVec
    Sign.ofBitVec (unpackSign bits) = sign ∧
      ((unpackExponent bits).toNat = 0 ∧ exponent = -1074 ∧
          significand = (unpackMantissa bits).toNat ∨
        0 < (unpackExponent bits).toNat ∧ (unpackExponent bits).toNat < 2047 ∧
          exponent = (unpackExponent bits).toNat - 1075 ∧
          significand = 2 ^ 52 + (unpackMantissa bits).toNat) := by
  intro bits
  have fieldSmall : (unpackExponent bits).toNat < 2 ^ 11 := BitVec.isLt _
  change UnpackedFloat.unpack Format.binary64 bits = _ at fields
  delta UnpackedFloat.unpack at fields
  dsimp only at fields
  by_cases special : unpackExponent bits = -1#11
  · by_cases empty : unpackMantissa bits = 0#52
    · rw [if_pos special, if_pos empty] at fields
      cases fields
    · rw [if_pos special, if_neg empty] at fields
      cases fields
  rw [if_neg special] at fields
  by_cases subnormal : unpackExponent bits = 0#11
  · by_cases empty : unpackMantissa bits = 0#52
    · rw [if_pos subnormal, dif_pos empty] at fields
      cases fields
    · rw [if_pos subnormal, dif_neg empty] at fields
      cases fields
      have first : (unpackExponent bits).toNat = 0 := congrArg BitVec.toNat subnormal
      rw [bias_eq, first]
      exact ⟨rfl, .inl ⟨rfl, rfl, rfl⟩⟩
  · rw [if_neg subnormal] at fields
    cases fields
    have notFirst : (unpackExponent bits).toNat ≠ 0 :=
      fun first => subnormal (BitVec.eq_of_toNat_eq first)
    have notLast : (unpackExponent bits).toNat ≠ 2047 :=
      fun last => special (BitVec.eq_of_toNat_eq last)
    rw [bias_eq, toNat_leadingDigit]
    exact ⟨rfl, .inr ⟨by omega, by omega, rfl, rfl⟩⟩

/-- A finite double has at most 53 digits. It has fewer only at the least exponent. -/
theorem unpack_shape {value : Float} {sign : Sign} {pos : 0 < significand}
    (fields : value.toModel.unpack = .finite sign significand exponent pos) :
    significand < 2 ^ 53 ∧ -1074 ≤ exponent ∧ exponent ≤ 971 ∧
      (significand < 2 ^ 52 → exponent = -1074) := by
  have small : (@unpackMantissa Format.binary64 value.toModel.toBits.toBitVec).toNat < 2 ^ 52 :=
    BitVec.isLt _
  have shape := (fields_of_unpack fields).2
  omega

end Encoding

section Order

variable {value other : Float} {significand otherSignificand : Nat} {exponent otherExponent : Int}

private theorem lt_iff_unpack_lt : value < other ↔ value.toModel.unpack.lt other.toModel.unpack :=
  decide_eq_true_iff

private theorem le_iff_unpack_le : value ≤ other ↔ value.toModel.unpack.le other.toModel.unpack :=
  decide_eq_true_iff

namespace IsNormal

private theorem compare_finite (pos : 0 < significand) (otherPos : 0 < otherSignificand) :
    UnpackedFloat.compare (.finite .positive significand exponent pos)
        (.finite .positive otherSignificand otherExponent otherPos) =
      some ((compare exponent otherExponent).then (compare significand otherSignificand)) :=
  rfl

private theorem compare_eq (normal : IsNormal value significand exponent)
    (otherNormal : IsNormal other otherSignificand otherExponent) :
    value.toModel.unpack.compare other.toModel.unpack =
      some ((compare exponent otherExponent).then (compare significand otherSignificand)) := by
  rw [normal.fields, otherNormal.fields, compare_finite]

theorem lt_iff (normal : IsNormal value significand exponent)
    (otherNormal : IsNormal other otherSignificand otherExponent) :
    value < other ↔
      exponent < otherExponent ∨ exponent = otherExponent ∧ significand < otherSignificand := by
  rw [lt_iff_unpack_lt, UnpackedFloat.lt, normal.compare_eq otherNormal, beq_iff_eq,
    Option.some_inj, Ordering.then_eq_lt, compare_lt_iff_lt, compare_eq_iff_eq, compare_lt_iff_lt]

theorem le_iff (normal : IsNormal value significand exponent)
    (otherNormal : IsNormal other otherSignificand otherExponent) :
    value ≤ other ↔
      exponent < otherExponent ∨ exponent = otherExponent ∧ significand ≤ otherSignificand := by
  rw [le_iff_unpack_le, UnpackedFloat.le, normal.compare_eq otherNormal, Option.any_some,
    Ordering.isLE_then_iff_or, compare_lt_iff_lt, compare_eq_iff_eq, Nat.isLE_compare]

theorem exists_of_not_lt (otherNormal : IsNormal other otherSignificand otherExponent)
    (bounded : value.isFinite) (notBelow : ¬ value < other) :
    ∃ significand exponent, IsNormal value significand exponent := by
  rw [lt_iff_unpack_lt, UnpackedFloat.lt, otherNormal.fields] at notBelow
  change value.toModel.unpack.isFinite = true at bounded
  cases fields : value.toModel.unpack with
  | notANumber =>
      rw [fields] at bounded
      cases bounded
  | infinity sign =>
      rw [fields] at bounded
      cases bounded
  | zero sign =>
      rw [fields] at notBelow
      exact absurd rfl notBelow
  | finite sign significand exponent pos =>
      cases sign with
      | negative =>
          rw [fields] at notBelow
          exact absurd rfl notBelow
      | positive =>
          obtain ⟨high, bottom, top, subnormal⟩ := unpack_shape fields
          refine ⟨significand, exponent, ?_, high, bottom, top, fields⟩
          by_contra small
          apply notBelow
          rw [fields, compare_finite, beq_iff_eq, Option.some_inj, Ordering.then_eq_lt,
            compare_lt_iff_lt, compare_eq_iff_eq, compare_lt_iff_lt]
          have := otherNormal.low
          have := otherNormal.bottom
          omega

end IsNormal

end Order

/-! The nearest whole number. A half goes away from zero. -/

private theorem roundQuotient_awayFromZero {denominator : Nat} (numerator : Nat)
    (pos : 0 < denominator) : roundQuotient .awayFromZero numerator denominator =
      (2 * numerator + denominator) / (2 * denominator) := by
  have rest := Nat.mod_lt numerator pos
  have whole : 2 * numerator + denominator =
      2 * (numerator % denominator) + denominator +
        2 * denominator * (numerator / denominator) := by
    conv_lhs => rw [← Nat.mod_add_div numerator denominator]
    ring
  rw [whole, Nat.add_mul_div_left _ _ (by omega)]
  obtain below | half | above := lt_trichotomy (2 * (numerator % denominator)) denominator
  · rw [Nat.div_eq_of_lt (by omega), Nat.zero_add]
    simp only [roundQuotient, compare_lt_iff_lt.mpr below]
  · rw [Nat.div_eq_of_lt_le (show 1 * (2 * denominator) ≤ _ by omega) (by omega), Nat.add_comm]
    simp only [roundQuotient, compare_eq_iff_eq.mpr half]
  · rw [Nat.div_eq_of_lt_le (show 1 * (2 * denominator) ≤ _ by omega) (by omega), Nat.add_comm]
    simp only [roundQuotient, compare_gt_iff_gt.mpr above]

section Nearest

variable {value : Float} {significand : Nat} {exponent : Int}

theorem roundQuotient_eq_zero_iff (low : 2 ^ 52 ≤ significand) (high : significand < 2 ^ 53)
    (places : Nat) :
    roundQuotient .awayFromZero significand (2 ^ places) = 0 ↔ 54 ≤ places := by
  rw [roundQuotient_awayFromZero significand (Nat.two_pow_pos places), Nat.div_eq_zero_iff]
  constructor
  · intro less
    by_contra few
    have := Nat.pow_le_pow_right Nat.two_pos (show places ≤ 53 by omega)
    have := Nat.two_pow_pos places
    omega
  · intro many
    have := Nat.pow_le_pow_right Nat.two_pos many
    omega

theorem roundQuotient_lt (high : significand < 2 ^ 53) {places : Nat} (shifted : 1 ≤ places) :
    roundQuotient .awayFromZero significand (2 ^ places) < 2 ^ 53 := by
  have := Nat.pow_le_pow_right Nat.two_pos shifted
  rw [roundQuotient_awayFromZero significand (Nat.two_pow_pos places),
    Nat.div_lt_iff_lt_mul (by omega)]
  omega

namespace IsNormal

theorem toNat_toBits (normal : IsNormal value significand exponent) :
    value.toBits.toNat = (exponent + 1074).toNat * 2 ^ 52 + significand := by
  obtain ⟨low, high, bottom, top, fields⟩ := normal
  rcases fields_of_unpack fields with ⟨sign, shape⟩
  have parts := toNat_eq_fields value.toModel.toBits.toBitVec
  have positive : (@unpackSign Format.binary64 value.toModel.toBits.toBitVec).toNat = 0 := by
    rw [Sign.ofBitVec] at sign
    split at sign
    case isTrue clear => exact congrArg BitVec.toNat clear
    case isFalse => cases sign
  have same : value.toBits.toNat = value.toModel.toBits.toBitVec.toNat := rfl
  rw [same, parts, positive]
  omega

theorem ofFloat (normal : IsNormal value significand exponent) :
    (Binary.ofFloat value).negative = false ∧ (Binary.ofFloat value).significand = significand ∧
      (Binary.ofFloat value).exponent = exponent := by
  have bits := normal.toNat_toBits
  obtain ⟨low, high, bottom, top, -⟩ := normal
  have field : ((value.toBits >>> 52) &&& 0x7FF).toNat = (exponent + 1075).toNat := by
    rw [UInt64.toNat_and, UInt64.toNat_shiftRight, bits]
    change (_ >>> 52) &&& 2 ^ 11 - 1 = _
    rw [Nat.and_two_pow_sub_one_eq_mod, Nat.shiftRight_eq_div_pow]
    omega
  have digits : (value.toBits &&& 0xFFFFFFFFFFFFF).toNat = significand - 2 ^ 52 := by
    rw [UInt64.toNat_and, bits]
    change _ &&& 2 ^ 52 - 1 = _
    rw [Nat.and_two_pow_sub_one_eq_mod]
    omega
  have sign : value.toBits >>> 63 ≠ 1 := by
    refine mt (congrArg UInt64.toNat) ?_
    rw [UInt64.toNat_shiftRight, bits]
    change (_ >>> 63) ≠ 1
    rw [Nat.shiftRight_eq_div_pow]
    omega
  have notZero : (exponent + 1075).toNat ≠ 0 := by omega
  simp only [Binary.ofFloat, Binary.ofBits, field, digits, notZero, if_false, sign, decide_false]
  exact ⟨trivial, by omega, by omega⟩

theorem round_eq (normal : IsNormal value significand exponent) (fraction : exponent < 0) :
    (Scalar.round value : Float) =
      .ofNat (roundQuotient .awayFromZero significand (2 ^ (-exponent).toNat)) := by
  obtain ⟨sign, digits, place⟩ := normal.ofFloat
  have bounded : value.isFinite = true := by
    change value.toModel.unpack.isFinite = true
    rw [normal.fields]
    rfl
  have numerator : (Binary.ofFloat value).numerator = significand := by
    rw [Binary.numerator, digits, place, Int.toNat_of_nonpos (by omega)]
    exact Nat.mul_one _
  have denominator : (Binary.ofFloat value).denominator = 2 ^ (-exponent).toNat := by
    rw [Binary.denominator, place]
    rfl
  change (if value.isFinite && !(Binary.ofFloat value).isWhole then _ else value) = _
  rw [bounded, Binary.isWhole, place, decide_eq_false (by omega), Bool.not_false, Bool.and_true,
    if_pos rfl, Binary.signedWhole, sign, if_neg Bool.false_ne_true, Binary.nearestWhole, numerator,
    denominator]

end IsNormal

end Nearest

end BenchScope.Double
