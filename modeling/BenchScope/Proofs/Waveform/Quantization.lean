import Mathlib.Tactic.MkIffOfInductiveProp
import BenchScope.Proofs.Waveform.Pulse

namespace BenchScope.Waveform.Pulse

open Scalar

/-! What becomes of a pulse that is put into ticks. Its beginning, its end and how long it lasts are
right within a few ticks. That is little of a long pulse and may be all of a short one: the end of a
pulse is kept off the first tick of the period, not off the beginning of the pulse. -/

variable (pulse : Pulse Rat) (wavelength : UInt16)

def length : Rat := min pulse.duty (1 - 1 / wavelength.toNat) * wavelength.toNat

def beginning : Rat := Int.fract pulse.phase * wavelength.toNat

structure Accurate : Prop where
  lasts : ∃ ticks : Int,
    ((pulse.quantize wavelength).duty.toNat : Int) - (pulse.quantize wavelength).phase.toNat ≡
      ticks [ZMOD wavelength.toNat] ∧
    pulse.length wavelength - 2 < ticks ∧ ticks < pulse.length wavelength + 3
  empty : pulse.duty = 0 → (pulse.quantize wavelength).duty = (pulse.quantize wavelength).phase
  begins : pulse.beginning wavelength - 2 < (pulse.quantize wavelength).phase.toNat ∧
    ((pulse.quantize wavelength).phase.toNat : Rat) ≤ pulse.beginning wavelength

def highTicks : Int :=
  ((pulse.quantize wavelength).duty.toNat - (pulse.quantize wavelength).phase.toNat) %
    wavelength.toNat

def firstTick : Int := ⌊pulse.beginning wavelength⌋

/-- The tick in which the pulse is to end. The ticks are counted on into the next period. -/
def lastTick : Int := ⌊pulse.beginning wavelength + pulse.length wavelength⌋

@[mk_iff] inductive Vanishes : Prop
  /-- It ends in the tick in which it begins. In the first two ticks of the period it would be saved
  by the end being put off. -/
  | within : 2 ≤ pulse.firstTick wavelength →
      pulse.lastTick wavelength = pulse.firstTick wavelength → Vanishes
  /-- It lasts into the next period and ends in the first tick or in the second one. Both are put
  off to where it begins. -/
  | around : pulse.firstTick wavelength = 2 →
      wavelength.toNat ≤ pulse.lastTick wavelength → Vanishes

variable {pulse wavelength}

section

variable (nonzero : wavelength ≠ 0) (nonneg : 0 ≤ pulse.duty)

include nonzero

private theorem inverse_le_one : 1 / (wavelength.toNat : Rat) ≤ 1 := by
  have ticks : (1 : Rat) ≤ wavelength.toNat := by exact_mod_cast one_le_toNat nonzero
  exact (div_le_one (by linarith)).mpr ticks

include nonneg

private theorem share_mul_eq :
    pulse.share wavelength * wavelength.toNat = pulse.length wavelength := by
  rw [share_eq nonzero nonneg, length]

private theorem share_mem : 0 ≤ pulse.share wavelength ∧ pulse.share wavelength < 1 := by
  have ticks : (0 : Rat) < wavelength.toNat := by exact_mod_cast one_le_toNat nonzero
  rw [share_eq nonzero nonneg]
  exact ⟨le_min nonneg (sub_nonneg.mpr (inverse_le_one nonzero)),
    (min_le_right _ _).trans_lt (sub_lt_self _ (by positivity))⟩

private theorem finish_eq (begins : 0 ≤ pulse.phase) (within : pulse.phase ≤ 1) :
    Int.fract (pulse.share wavelength + pulse.start) * wavelength.toNat =
      if pulse.beginning wavelength + pulse.length wavelength < wavelength.toNat then
        pulse.beginning wavelength + pulse.length wavelength
      else pulse.beginning wavelength + pulse.length wavelength - wavelength.toNat := by
  have ticks : (0 : Rat) < wavelength.toNat := by exact_mod_cast one_le_toNat nonzero
  have lower := Int.fract_nonneg pulse.phase
  have upper := Int.fract_lt_one pulse.phase
  rcases share_mem nonzero nonneg with ⟨least, greatest⟩
  -- Only what the phase has behind the point matters.
  have same : Int.fract (pulse.share wavelength + pulse.phase) =
      Int.fract (pulse.share wavelength + Int.fract pulse.phase) := by
    conv_lhs => rw [← Int.fract_add_floor pulse.phase, ← add_assoc, Int.fract_add_intCast]
  have total : pulse.beginning wavelength + pulse.length wavelength =
      (pulse.share wavelength + Int.fract pulse.phase) * wavelength.toNat := by
    rw [beginning, ← share_mul_eq nonzero nonneg]
    ring
  rw [start_eq begins within, same, total]
  split
  case isTrue inside =>
    rw [mul_lt_iff_lt_one_left ticks] at inside
    rw [Int.fract_eq_self.mpr ⟨by linarith, inside⟩]
  case isFalse outside =>
    rw [mul_lt_iff_lt_one_left ticks, not_lt] at outside
    have turned := Int.fract_sub_one (pulse.share wavelength + Int.fract pulse.phase)
    rw [← turned, Int.fract_eq_self.mpr ⟨by linarith, by linarith⟩]
    ring

end

/-! How far off the words are. -/

theorem ne_zero_of_long (long : 2 ≤ wavelength) : wavelength ≠ 0 := by
  rintro rfl
  exact absurd long (by decide)

/-- The pulse that the words encode is the one that was asked for, up to a few ticks. -/
theorem accurate_quantize (long : 2 ≤ wavelength) (duty : 0 ≤ pulse.duty ∧ pulse.duty ≤ 1)
    (phase : 0 ≤ pulse.phase ∧ pulse.phase ≤ 1) : pulse.Accurate wavelength := by
  have nonzero := ne_zero_of_long long
  refine ⟨?lasts, ?empty, ?begins⟩
  case lasts =>
    rcases pulse.high_modEq wavelength with ⟨ticks, same, lower, upper⟩
    rw [share_mul_eq nonzero duty.1] at lower upper
    exact ⟨ticks, same, lower, upper⟩
  case empty =>
    intro silent
    have shareless : pulse.share wavelength = 0 := by
      rw [share_eq nonzero duty.1, silent]
      exact min_eq_left (sub_nonneg.mpr (inverse_le_one nonzero))
    rw [quantize_duty, quantize_phase, shareless, zero_add, if_neg]
    rintro ⟨shown, -⟩
    exact absurd shown (zero_eq ▸ lt_irrefl 0)
  case begins =>
    have bounds := ticksOf_bounds wavelength pulse.start
    rwa [← quantize_phase, start_eq phase.1 phase.2] at bounds

theorem accurate_quantize_late :
    (2 : UInt16) ≤ 100 ∧ (0 ≤ (1 / 2 : Rat) ∧ (1 / 2 : Rat) ≤ 1) ∧
      (0 ≤ (3 / 4 : Rat) ∧ (3 / 4 : Rat) ≤ 1) ∧ Accurate ⟨1 / 2, 3 / 4⟩ 100 := by
  have long : (2 : UInt16) ≤ 100 := by decide
  have duty : 0 ≤ (1 / 2 : Rat) ∧ (1 / 2 : Rat) ≤ 1 := by norm_num
  have phase : 0 ≤ (3 / 4 : Rat) ∧ (3 / 4 : Rat) ≤ 1 := by norm_num
  exact ⟨long, duty, phase, accurate_quantize long duty phase⟩

example : Pulse.quantize (⟨1 / 2, 3 / 4⟩ : Pulse Rat) 100 = ⟨24, 74⟩ := by decide +kernel

/-! Which pulses are lost. -/

theorem length_pos (long : 2 ≤ wavelength) (seen : 0 < pulse.duty) :
    0 < pulse.length wavelength := by
  have ticks : (2 : Rat) ≤ wavelength.toNat := by
    exact_mod_cast UInt16.le_iff_toNat_le.mp long
  refine mul_pos (lt_min seen ?_) (by linarith)
  rw [sub_pos, div_lt_one (by linarith)]
  linarith

theorem length_le (pulse : Pulse Rat) (nonzero : wavelength ≠ 0) :
    pulse.length wavelength ≤ wavelength.toNat - 1 := by
  have ticks : (0 : Rat) < wavelength.toNat := by exact_mod_cast one_le_toNat nonzero
  calc pulse.length wavelength
      ≤ (1 - 1 / wavelength.toNat) * wavelength.toNat :=
        mul_le_mul_of_nonneg_right (min_le_right _ _) ticks.le
    _ = wavelength.toNat - 1 := by rw [sub_mul, one_mul, div_mul_cancel₀ _ ticks.ne']

private theorem firstTick_lt (pulse : Pulse Rat) (nonzero : wavelength ≠ 0) :
    pulse.firstTick wavelength < wavelength.toNat :=
  Int.floor_lt.mpr (position_lt nonzero pulse.phase)

private theorem lastTick_bounds (long : 2 ≤ wavelength) (seen : 0 < pulse.duty) :
    pulse.firstTick wavelength ≤ pulse.lastTick wavelength ∧
      pulse.lastTick wavelength < pulse.firstTick wavelength + wavelength.toNat := by
  have shortest := length_pos long seen
  have longest := pulse.length_le (ne_zero_of_long long)
  have begins := Int.lt_floor_add_one (pulse.beginning wavelength)
  constructor
  · exact Int.floor_le_floor (by linarith)
  · rw [lastTick, Int.floor_lt, firstTick]
    push_cast
    linarith

theorem toNat_duty_eq (long : 2 ≤ wavelength) (seen : 0 < pulse.duty) :
    ((pulse.quantize wavelength).duty.toNat : Int) =
      max 1 (⌊Int.fract (pulse.share wavelength + pulse.start) * wavelength.toNat⌋ - 1) := by
  have counted := toNat_ticksOf wavelength (pulse.share wavelength + pulse.start)
  have shared : zero < pulse.share wavelength := by
    have positive := length_pos long seen
    rw [← share_mul_eq (ne_zero_of_long long) seen.le] at positive
    exact zero_eq ▸ pos_of_mul_pos_left positive (Nat.cast_nonneg _)
  rw [quantize_duty]
  split
  case isTrue vanishes =>
    rw [vanishes.2, UInt16.toNat_zero] at counted
    rw [UInt16.toNat_one]
    omega
  case isFalse remains =>
    have later : ticksOf wavelength (pulse.share wavelength + pulse.start) ≠ 0 := fun absent =>
      remains ⟨shared, absent⟩
    have positive := one_le_toNat later
    omega

theorem toNat_duty (long : 2 ≤ wavelength) (seen : 0 < pulse.duty) (begins : 0 ≤ pulse.phase)
    (within : pulse.phase ≤ 1) :
    ((pulse.quantize wavelength).duty.toNat : Int) =
      max 1 ((if pulse.lastTick wavelength < wavelength.toNat then pulse.lastTick wavelength
        else pulse.lastTick wavelength - wavelength.toNat) - 1) := by
  have inside_iff : pulse.lastTick wavelength < wavelength.toNat ↔
      pulse.beginning wavelength + pulse.length wavelength < wavelength.toNat := Int.floor_lt
  rw [toNat_duty_eq long seen, finish_eq (ne_zero_of_long long) seen.le begins within]
  by_cases inside : pulse.lastTick wavelength < wavelength.toNat
  · rw [if_pos inside, if_pos (inside_iff.mp inside), lastTick]
  · rw [if_neg inside, if_neg (inside_iff.not.mp inside), Int.floor_sub_natCast, lastTick]

theorem toNat_phase (wavelength : UInt16) (begins : 0 ≤ pulse.phase) (within : pulse.phase ≤ 1) :
    ((pulse.quantize wavelength).phase.toNat : Int) =
      max 0 (pulse.firstTick wavelength - 1) := by
  rw [quantize_phase, toNat_ticksOf, start_eq begins within, firstTick, beginning]

/-- Both words are positions in the period, so that nothing is high only if they are equal. -/
private theorem highTicks_pos_iff_ne (long : 2 ≤ wavelength) : 1 ≤ pulse.highTicks wavelength ↔
    (pulse.quantize wavelength).duty.toNat ≠ (pulse.quantize wavelength).phase.toNat := by
  have duty := pulse.duty_lt (UInt16.le_iff_toNat_le.mp long)
  have phase := pulse.phase_lt (ne_zero_of_long long)
  have nonneg : 0 ≤ pulse.highTicks wavelength := Int.emod_nonneg _ (by omega)
  have equal_iff : pulse.highTicks wavelength = 0 ↔
      (pulse.quantize wavelength).duty.toNat = (pulse.quantize wavelength).phase.toNat := by
    rw [highTicks, ← Int.emod_eq_emod_iff_emod_sub_eq_zero,
      Int.emod_eq_of_lt (by omega) (by omega), Int.emod_eq_of_lt (by omega) (by omega)]
    omega
  rw [ne_eq, ← equal_iff]
  omega

/-- A pulse that is to be seen is high for a tick or more unless it is lost in one of the two
ways. -/
theorem highTicks_pos_iff (long : 2 ≤ wavelength) (seen : 0 < pulse.duty)
    (phase : 0 ≤ pulse.phase ∧ pulse.phase ≤ 1) :
    1 ≤ pulse.highTicks wavelength ↔ ¬ pulse.Vanishes wavelength := by
  have finish := toNat_duty long seen phase.1 phase.2
  have start := toNat_phase wavelength phase.1 phase.2
  have early := pulse.firstTick_lt (ne_zero_of_long long)
  rcases lastTick_bounds long seen with ⟨ordered, short⟩
  rw [highTicks_pos_iff_ne long, vanishes_iff]
  split at finish <;> omega

theorem highTicks_pos_iff_longest :
    (2 : UInt16) ≤ 10 ∧ 0 < (1 : Rat) ∧ (0 ≤ (1 / 5 : Rat) ∧ (1 / 5 : Rat) ≤ 1) ∧
      (1 ≤ highTicks ⟨1, 1 / 5⟩ 10 ↔ ¬ Vanishes ⟨1, 1 / 5⟩ 10) ∧ Vanishes ⟨1, 1 / 5⟩ 10 := by
  have long : (2 : UInt16) ≤ 10 := by decide
  have seen : 0 < (1 : Rat) := by norm_num
  have phase : 0 ≤ (1 / 5 : Rat) ∧ (1 / 5 : Rat) ≤ 1 := by norm_num
  exact ⟨long, seen, phase, highTicks_pos_iff long seen phase,
    .around (by decide +kernel) (by decide +kernel)⟩

theorem highTicks_halfTick :
    (2 : UInt16) ≤ 10 ∧ 0 < (1 / 20 : Rat) ∧ (0 ≤ (1 / 2 : Rat) ∧ (1 / 2 : Rat) ≤ 1) ∧
      Pulse.quantize (⟨1 / 20, 1 / 2⟩ : Pulse Rat) 10 = ⟨4, 4⟩ ∧
      highTicks ⟨1 / 20, 1 / 2⟩ 10 = 0 := by
  decide +kernel

end BenchScope.Waveform.Pulse
