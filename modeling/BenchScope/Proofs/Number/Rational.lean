import Mathlib.Data.Rat.Floor
import Mathlib.Tactic.Linarith
import BenchScope.Number.Rational

namespace BenchScope.Scalar

/-! The operations of a scalar on exact rationals, in the terms of the order and of floors. -/

@[simp] theorem ofNat_eq_cast (whole : Nat) : (ofNat whole : Rat) = whole := rfl

@[simp] theorem zero_eq : (zero : Rat) = 0 := Nat.cast_zero

@[simp] theorem one_eq : (one : Rat) = 1 := Nat.cast_one

theorem round_eq_floor {value : Rat} (nonneg : 0 ≤ value) :
    round value = (⌊value + 1 / 2⌋ : Rat) := if_pos nonneg

/-- A rounded number is whole and at most a half away, whichever way a half is rounded. -/
theorem exists_round (value : Rat) :
    ∃ whole : Int, round value = whole ∧ |(whole : Rat) - value| ≤ 1 / 2 := by
  rcases le_or_gt 0 value with nonneg | negative
  · have below := Int.floor_le (value + 1 / 2)
    have above := Int.lt_floor_add_one (value + 1 / 2)
    refine ⟨⌊value + 1 / 2⌋, round_eq_floor nonneg, abs_le.mpr ⟨?_, ?_⟩⟩ <;> linarith
  · have below := Int.floor_le (-value + 1 / 2)
    have above := Int.lt_floor_add_one (-value + 1 / 2)
    have rounded : round value = -(⌊-value + 1 / 2⌋ : Rat) := if_neg (not_le_of_gt negative)
    refine ⟨-⌊-value + 1 / 2⌋, by rw [rounded, Int.cast_neg], abs_le.mpr ?_⟩
    rw [Int.cast_neg]
    exact ⟨by linarith, by linarith⟩

theorem toNat_toWord {value : Rat} (nonneg : 0 ≤ value) (small : value < 65536) :
    ((toWord value).toNat : Int) = ⌊value⌋ := by
  have lower : 0 ≤ ⌊value⌋ := Int.floor_nonneg.mpr nonneg
  have upper : ⌊value⌋ < 65536 := Int.floor_lt.mpr (by exact_mod_cast small)
  have word : toWord value = UInt16.ofNat (min ⌊value⌋.toNat 65535) := rfl
  rw [word, UInt16.toNat_ofNat']
  omega

theorem clamp_of_le {low value : Rat} (above : low ≤ value) (high : Rat) :
    clamp low high value = min value high := by
  rw [clamp, if_neg (not_lt_of_ge above)]
  split
  case isTrue beyond => exact (min_eq_right (le_of_lt beyond)).symm
  case isFalse within => exact (min_eq_left (le_of_not_gt within)).symm

theorem clamp_eq {low high : Rat} (ordered : low ≤ high) (value : Rat) :
    clamp low high value = max low (min value high) := by
  rcases le_or_gt low value with above | below
  · rw [clamp_of_le above, max_eq_right (le_min above ordered)]
  · rw [clamp, if_pos below, min_eq_left (le_of_lt (lt_of_lt_of_le below ordered)),
      max_eq_left (le_of_lt below)]

end BenchScope.Scalar
