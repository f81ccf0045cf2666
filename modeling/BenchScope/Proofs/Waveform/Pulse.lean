import Mathlib.Data.Int.ModEq
import Mathlib.Tactic.Ring
import BenchScope.Proofs.Number.Rational
import BenchScope.Waveform.Pulse

namespace BenchScope.Waveform

open Scalar

/-! How exact the ticks of a pulse are. Each of them loses less than two ticks of the position that
it stands for, and is counted modulo the period. -/

theorem one_le_toNat {word : UInt16} (nonzero : word ≠ 0) : 1 ≤ word.toNat :=
  Nat.one_le_iff_ne_zero.mpr fun zero => nonzero (UInt16.toNat_inj.mp zero)

theorem toNat_sub_one {word : UInt16} (nonzero : word ≠ 0) : (word - 1).toNat = word.toNat - 1 :=
  UInt16.toNat_sub_of_le _ _ (UInt16.le_iff_toNat_le.mpr (one_le_toNat nonzero))

private theorem toNat_lessOne (position : UInt16) :
    (lessOne position).toNat = position.toNat - 1 := by
  rw [lessOne]
  split
  case isTrue first =>
    rw [first]
    rfl
  case isFalse further => exact toNat_sub_one further

namespace Pulse

variable (pulse : Pulse Rat) (wavelength : UInt16)

def share : Rat := clamp zero (longestDuty wavelength) pulse.duty

def start : Rat := clamp zero one pulse.phase

private theorem longestDuty_eq (nonzero : wavelength ≠ 0) :
    (longestDuty wavelength : Rat) = 1 - 1 / wavelength.toNat := by
  have longest : (longestDuty wavelength : Rat) = one - one / ofNat (max wavelength.toNat 1) := rfl
  rw [longest, max_eq_left (one_le_toNat nonzero), one_eq, ofNat_eq_cast]

theorem share_eq {pulse : Pulse Rat} {wavelength : UInt16} (nonzero : wavelength ≠ 0)
    (nonneg : 0 ≤ pulse.duty) :
    pulse.share wavelength = min pulse.duty (1 - 1 / wavelength.toNat) := by
  rw [share, clamp_of_le (zero_eq ▸ nonneg), longestDuty_eq wavelength nonzero]

theorem start_eq {pulse : Pulse Rat} (nonneg : 0 ≤ pulse.phase) (within : pulse.phase ≤ 1) :
    pulse.start = pulse.phase := by
  rw [start, clamp_of_le (zero_eq ▸ nonneg), one_eq, min_eq_left within]

def ticksOf (part : Rat) : UInt16 := lessOne (toWord (Int.fract part * wavelength.toNat))

theorem quantize_phase : (pulse.quantize wavelength).phase = ticksOf wavelength pulse.start := rfl

theorem quantize_duty :
    (pulse.quantize wavelength).duty =
      if zero < pulse.share wavelength ∧
          ticksOf wavelength (pulse.share wavelength + pulse.start) = 0 then 1
      else ticksOf wavelength (pulse.share wavelength + pulse.start) := rfl

theorem position_nonneg (part : Rat) : 0 ≤ Int.fract part * wavelength.toNat :=
  mul_nonneg (Int.fract_nonneg part) (Nat.cast_nonneg _)

theorem position_lt {wavelength : UInt16} (nonzero : wavelength ≠ 0) (part : Rat) :
    Int.fract part * wavelength.toNat < (wavelength.toNat : Int) := by
  rw [Int.cast_natCast]
  exact mul_lt_of_lt_one_left (by exact_mod_cast one_le_toNat nonzero) (Int.fract_lt_one part)

theorem toNat_ticksOf (part : Rat) :
    ((ticksOf wavelength part).toNat : Int) = max 0 (⌊Int.fract part * wavelength.toNat⌋ - 1) := by
  have period : (wavelength.toNat : Rat) < 65536 := by exact_mod_cast wavelength.toNat_lt
  have nonneg := position_nonneg wavelength part
  have within : Int.fract part * (wavelength.toNat : Rat) ≤ wavelength.toNat :=
    mul_le_of_le_one_left (Nat.cast_nonneg _) (Int.fract_lt_one part).le
  have whole := toNat_toWord nonneg (by linarith)
  rw [ticksOf, toNat_lessOne]
  omega

theorem ticksOf_lt {wavelength : UInt16} (nonzero : wavelength ≠ 0) (part : Rat) :
    (ticksOf wavelength part).toNat < wavelength.toNat := by
  have inside := Int.floor_lt.mpr (position_lt nonzero part)
  have counted := toNat_ticksOf wavelength part
  have ticks := one_le_toNat nonzero
  omega

theorem ticksOf_bounds (part : Rat) :
    Int.fract part * wavelength.toNat - 2 < (ticksOf wavelength part).toNat ∧
      ((ticksOf wavelength part).toNat : Rat) ≤ Int.fract part * wavelength.toNat := by
  have counted : ((ticksOf wavelength part).toNat : Rat) =
      max 0 ((⌊Int.fract part * wavelength.toNat⌋ : Rat) - 1) := by
    exact_mod_cast congrArg (Int.cast (R := Rat)) (toNat_ticksOf wavelength part)
  have below := Int.floor_le (Int.fract part * wavelength.toNat)
  have above := Int.lt_floor_add_one (Int.fract part * wavelength.toNat)
  rw [counted]
  exact ⟨lt_max_of_lt_right (by linarith),
    max_le (position_nonneg wavelength part) (by linarith)⟩

theorem phase_lt {wavelength : UInt16} (nonzero : wavelength ≠ 0) :
    (pulse.quantize wavelength).phase.toNat < wavelength.toNat := ticksOf_lt nonzero pulse.start

theorem duty_lt {wavelength : UInt16} (long : 2 ≤ wavelength.toNat) :
    (pulse.quantize wavelength).duty.toNat < wavelength.toNat := by
  rw [quantize_duty]
  split
  case isTrue => exact long
  case isFalse =>
    refine ticksOf_lt ?_ (pulse.share wavelength + pulse.start)
    rintro rfl
    exact absurd long (by decide)

/-- The end of a pulse that is to be seen at all is put off to the first tick. -/
private theorem duty_bounds :
    Int.fract (pulse.share wavelength + pulse.start) * wavelength.toNat - 2 <
        (pulse.quantize wavelength).duty.toNat ∧
      ((pulse.quantize wavelength).duty.toNat : Rat) ≤
        Int.fract (pulse.share wavelength + pulse.start) * wavelength.toNat + 1 := by
  rcases ticksOf_bounds wavelength (pulse.share wavelength + pulse.start) with ⟨lower, upper⟩
  rw [quantize_duty]
  split
  case isTrue vanishes =>
    rw [vanishes.2] at lower upper
    simp only [UInt16.toNat_zero, Nat.cast_zero, UInt16.toNat_one, Nat.cast_one] at lower upper ⊢
    exact ⟨by linarith, by linarith⟩
  case isFalse => exact ⟨lower, by linarith⟩

/-- A counter shows the same for moments that are whole periods apart. -/
private theorem exists_modEq (ticks : Nat) (part : Rat) :
    ∃ moment : Int, ticks ≡ moment [ZMOD wavelength.toNat] ∧
      (moment : Rat) - part * wavelength.toNat = ticks - Int.fract part * wavelength.toNat := by
  refine ⟨ticks + wavelength.toNat * ⌊part⌋, Int.modEq_add_fac_self.symm, ?_⟩
  rw [← Int.self_sub_floor]
  push_cast
  ring

theorem duty_modEq :
    ∃ moment : Int, (pulse.quantize wavelength).duty.toNat ≡ moment [ZMOD wavelength.toNat] ∧
      (pulse.share wavelength + pulse.start) * wavelength.toNat - 2 < moment ∧
      moment ≤ (pulse.share wavelength + pulse.start) * wavelength.toNat + 1 := by
  rcases pulse.duty_bounds wavelength with ⟨lower, upper⟩
  rcases exists_modEq wavelength (pulse.quantize wavelength).duty.toNat
    (pulse.share wavelength + pulse.start) with ⟨moment, same, apart⟩
  exact ⟨moment, same, by linarith, by linarith⟩

private theorem phase_modEq :
    ∃ moment : Int, (pulse.quantize wavelength).phase.toNat ≡ moment [ZMOD wavelength.toNat] ∧
      pulse.start * wavelength.toNat - 2 < moment ∧ moment ≤ pulse.start * wavelength.toNat := by
  rcases ticksOf_bounds wavelength pulse.start with ⟨lower, upper⟩
  rcases exists_modEq wavelength (pulse.quantize wavelength).phase.toNat pulse.start with
    ⟨moment, same, apart⟩
  rw [quantize_phase] at same apart ⊢
  exact ⟨moment, same, by linarith, by linarith⟩

theorem high_modEq :
    ∃ ticks : Int,
      ((pulse.quantize wavelength).duty.toNat : Int) - (pulse.quantize wavelength).phase.toNat ≡
        ticks [ZMOD wavelength.toNat] ∧
      pulse.share wavelength * wavelength.toNat - 2 < ticks ∧
      ticks < pulse.share wavelength * wavelength.toNat + 3 := by
  rcases pulse.duty_modEq wavelength with ⟨finish, ends, early, late⟩
  rcases pulse.phase_modEq wavelength with ⟨begin, begins, soon, after⟩
  rw [add_mul] at early late
  refine ⟨finish - begin, ends.sub begins, ?_, ?_⟩ <;>
  · push_cast
    linarith

end Pulse

end BenchScope.Waveform
