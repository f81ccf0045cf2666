import BenchScope.Proofs.Waveform.Timing

namespace BenchScope.Waveform

/-! The timing of a wave is the best one that there is: the least prescaler that has room for the
duration, and the whole number of ticks that comes nearest to it. -/

namespace Prescaler

private theorem mem_of_lt {before behind : List Prescaler} {prescaler other : Prescaler}
    (split : all = before ++ prescaler :: behind) (smaller : other.divisor < prescaler.divisor) :
    other ∈ before := by
  have sorted : all.Pairwise fun first second => first.divisor < second.divisor := by decide
  have member := other.mem_all
  rw [split] at sorted member
  rcases List.pairwise_append.mp sorted with ⟨-, ascending, -⟩
  rcases List.mem_append.mp member with inside | inside
  · exact inside
  · rcases List.mem_cons.mp inside with rfl | later
    · omega
    · have greater := List.rel_of_pairwise_cons ascending later
      omega

private theorem divisor_injective {left right : Prescaler} (same : left.divisor = right.divisor) :
    left = right := by
  cases left <;> cases right <;> first | rfl | cases same

private theorem exists_of_mem_divisors {divisor : Nat} (member : divisor ∈ [1, 8, 64, 256]) :
    ∃ prescaler : Prescaler, prescaler.divisor = divisor := by
  rcases List.mem_map.mp (show divisor ∈ all.map Prescaler.divisor from member) with
    ⟨prescaler, -, same⟩
  exact ⟨prescaler, same⟩

private theorem divisor_mem (prescaler : Prescaler) : prescaler.divisor ∈ [1, 8, 64, 256] := by
  cases prescaler <;> decide

end Prescaler

namespace Timing

/-- The best timing for what lasts so many ticks of the clock. For a positive number rounding a half
up is rounding it away from zero. -/
structure Best (duration : Rat) (timing : Timing) : Prop where
  least : IsLeast {divisor : Nat | divisor ∈ [1, 8, 64, 256] ∧ round (duration / divisor) ≤ 65535}
    timing.prescaler.divisor
  nearest : (timing.wavelength.toNat : Int) = round (duration / timing.prescaler.divisor)
  bounds : timing.wavelength.toNat ∈ Set.Icc 1 65535
  error : |duration - timing.wavelength.toNat * timing.prescaler.divisor| ≤
    timing.prescaler.divisor / 2

theorem error_of_nearest {duration : Rat} {wavelength : Nat} {prescaler : Prescaler}
    (nearest : (wavelength : Int) = round (duration / prescaler.divisor)) :
    |duration - wavelength * prescaler.divisor| ≤ prescaler.divisor / 2 := by
  have positive : (0 : Rat) < prescaler.divisor := by exact_mod_cast prescaler.divisor_pos
  have whole : (wavelength : Rat) = round (duration / prescaler.divisor) := by
    exact_mod_cast congrArg (Int.cast (R := Rat)) nearest
  calc |duration - wavelength * prescaler.divisor|
      = |duration / prescaler.divisor - wavelength| * prescaler.divisor := by
        rw [← abs_of_pos positive, ← abs_mul, abs_of_pos positive, sub_mul,
          div_mul_cancel₀ _ positive.ne']
    _ ≤ 1 / 2 * prescaler.divisor := by
        rw [whole]
        exact mul_le_mul_of_nonneg_right (abs_sub_round _) positive.le
    _ = prescaler.divisor / 2 := by ring

theorem Best.unique {duration : Rat} {timing other : Timing} (best : Best duration timing)
    (otherBest : Best duration other) : timing = other := by
  have prescaler := Prescaler.divisor_injective (best.least.unique otherBest.least)
  have wavelength : timing.wavelength.toNat = other.wavelength.toNat := by
    have nearest := best.nearest
    rw [prescaler, ← otherBest.nearest] at nearest
    exact_mod_cast nearest
  rcases timing with ⟨ticks, _⟩
  rcases other with ⟨otherTicks, _⟩
  cases prescaler
  exact congrArg (Timing.mk · _) (UInt16.toNat_inj.mp wavelength)

/-- A prescaler is not taken before the ticks are too many, and then it leaves a few hundred of
them. -/
theorem Best.le_wavelength {duration : Rat} {timing : Timing} (best : Best duration timing)
    {ticks : Nat} (few : ticks ≤ 255) (lasts : ticks ≤ duration) :
    ticks ≤ timing.wavelength.toNat := by
  suffices longer : (ticks : Rat) ≤ duration / timing.prescaler.divisor by
    have rounded := round_le_round longer
    rw [round_natCast, ← best.nearest] at rounded
    exact_mod_cast rounded
  have positive : (0 : Rat) < timing.prescaler.divisor := by
    exact_mod_cast timing.prescaler.divisor_pos
  by_cases room : round duration ≤ 65535
  case pos =>
    have single : timing.prescaler.divisor ≤ 1 := best.least.2 ⟨by decide, by simpa using room⟩
    have divisor : timing.prescaler.divisor = 1 :=
      Nat.le_antisymm single timing.prescaler.divisor_pos
    rwa [divisor, Nat.cast_one, div_one]
  case neg =>
    have many : (65536 : Rat) ≤ round duration := by exact_mod_cast not_le.mp room
    have near := round_le_add_half duration
    have bound : (ticks : Rat) ≤ 255 := by exact_mod_cast few
    have greatest : (timing.prescaler.divisor : Rat) ≤ 256 := by
      exact_mod_cast timing.prescaler.divisor_le
    rw [le_div_iff₀ positive]
    calc ticks * (timing.prescaler.divisor : Rat)
        ≤ 255 * 256 := mul_le_mul bound greatest positive.le (by norm_num)
      _ ≤ duration := by linarith

variable {frequency : Rat} {entries : UInt32}

theorem best_of_ok (positive : 0 < frequency) (filled : 1 ≤ entries) {timing : Timing}
    (timed : ofFrequency frequency entries = .ok timing) :
    Best (duration frequency entries) timing := by
  have nonneg := duration_nonneg entries positive
  have width := timing.wavelength.toNat_lt
  have found := (ofFrequency_eq_ok_iff positive filled).mp timed
  rcases List.findSome?_eq_some_iff.mp found with ⟨before, prescaler, _, split, within, passed⟩
  rcases (within?_eq_some_iff positive).mp within with ⟨rfl, nearest, ticking⟩
  refine ⟨⟨⟨timing.prescaler.divisor_mem, by omega⟩, ?_⟩, nearest, ⟨ticking, by omega⟩,
    error_of_nearest nearest⟩
  rintro divisor ⟨member, room⟩
  rcases Prescaler.exists_of_mem_divisors member with ⟨other, rfl⟩
  by_contra smaller
  rw [not_le] at smaller
  -- The smaller one was tried before. It has room, and no fewer ticks.
  have tried := passed other (Prescaler.mem_of_lt split smaller)
  have more := round_div_le_round_div nonneg other.divisor_pos smaller.le
  exact (within?_eq_none_iff positive).mp tried ⟨by omega, room⟩

def Timed (frequency : Rat) (entries : UInt32) : Prop :=
  ∃ timing, ofFrequency frequency entries = .ok timing

theorem timed_iff (positive : 0 < frequency) (filled : 1 ≤ entries) :
    Timed frequency entries ↔ 1 ≤ round (duration frequency entries) ∧
      round (duration frequency entries / 256) ≤ 65535 := by
  have whole : 0 ≤ round (duration frequency entries) := by
    simpa using round_le_round (duration_nonneg entries positive)
  have refused (error : Error Rat) := ofFrequency_eq_error_iff positive filled error
  rw [Timed]
  cases timed : ofFrequency frequency entries with
  | ok timing =>
      have inside := (refused (.outOfRange frequency)).not.mp (by simp [timed])
      simp only [true_and, not_or, not_lt] at inside
      exact iff_of_true ⟨timing, rfl⟩ ⟨by omega, inside.2⟩
  | error error =>
      rcases (refused error).mp timed with ⟨-, outside⟩
      exact iff_of_false nofun (by omega)

theorem ok_of_best (positive : 0 < frequency) (filled : 1 ≤ entries) {timing : Timing}
    (best : Best (duration frequency entries) timing) :
    ofFrequency frequency entries = .ok timing := by
  have nonneg := duration_nonneg entries positive
  have unscaled := round_div_le_round_div nonneg Nat.one_pos timing.prescaler.divisor_pos
  have scaled := round_div_le_round_div nonneg timing.prescaler.divisor_pos
    timing.prescaler.divisor_le
  rw [Nat.cast_one, div_one] at unscaled
  rw [Nat.cast_ofNat] at scaled
  rcases best.bounds with ⟨ticking, -⟩
  have nearest := best.nearest
  have room := best.least.1.2
  rcases (timed_iff positive filled).mpr ⟨by omega, by omega⟩ with ⟨found, timed⟩
  rw [timed, best.unique (best_of_ok positive filled timed)]

private theorem duration_le (entries : UInt32) {slower : Rat} (positive : 0 < slower)
    (faster : slower ≤ frequency) : duration frequency entries ≤ duration slower entries := by
  rw [duration, duration, ← div_div, ← div_div]
  exact div_le_div_of_nonneg_right (div_le_div_of_nonneg_left (by norm_num) positive faster)
    (Nat.cast_nonneg _)

private theorem timed_of_between {slower faster : Rat} (positive : 0 < slower)
    (filled : 1 ≤ entries) (lower : slower ≤ frequency) (upper : frequency ≤ faster)
    (slowest : Timed slower entries) (fastest : Timed faster entries) :
    Timed frequency entries := by
  have between : 0 < frequency := by linarith
  rcases (timed_iff positive filled).mp slowest with ⟨-, room⟩
  rcases (timed_iff (by linarith) filled).mp fastest with ⟨ticking, -⟩
  have longer := round_le_round (duration_le entries between upper)
  have shorter := round_le_round (div_le_div_of_nonneg_right
    (duration_le entries positive lower) (by norm_num : (0 : Rat) ≤ 256))
  exact (timed_iff between filled).mpr ⟨by omega, by omega⟩

theorem Best.divisor_le {shorter longer : Rat} {timing other : Timing}
    (best : Best longer timing) (otherBest : Best shorter other) (ordered : shorter ≤ longer) :
    other.prescaler.divisor ≤ timing.prescaler.divisor := by
  rcases best.least.1 with ⟨member, room⟩
  have scaled := round_le_round (div_le_div_of_nonneg_right ordered
    (Nat.cast_nonneg timing.prescaler.divisor))
  exact otherBest.least.2 ⟨member, by omega⟩

/-- A frequency has a timing unless a table entry is too short for any prescaler or too long for all
of them, and the timing that is computed is the best one. The frequencies that have a timing are an
interval, and the higher one of two never gets the greater prescaler. -/
theorem ofFrequency_best (positive : 0 < frequency) (filled : 1 ≤ entries) :
    (∀ error, ofFrequency frequency entries = .error error ↔ error = .outOfRange frequency ∧
      (round (duration frequency entries) = 0 ∨
        65535 < round (duration frequency entries / 256))) ∧
    (∀ timing, ofFrequency frequency entries = .ok timing ↔
      Best (duration frequency entries) timing) ∧
    (∀ slower faster, 0 < slower → slower ≤ frequency → frequency ≤ faster →
      Timed slower entries → Timed faster entries → Timed frequency entries) ∧
    (∀ faster timing other, frequency ≤ faster → ofFrequency frequency entries = .ok timing →
      ofFrequency faster entries = .ok other →
        other.prescaler.divisor ≤ timing.prescaler.divisor) := by
  refine ⟨ofFrequency_eq_error_iff positive filled, fun timing => ?_, ?_, ?_⟩
  · exact ⟨best_of_ok positive filled, ok_of_best positive filled⟩
  · intro slower faster slow lower upper
    exact timed_of_between slow filled lower upper
  · intro faster timing other upper timed otherTimed
    have best := best_of_ok positive filled timed
    have otherBest := best_of_ok (by linarith) filled otherTimed
    exact best.divisor_le otherBest (duration_le entries positive upper)

theorem ofFrequency_best_hundred :
    (0 : Rat) < 100 ∧ (1 : UInt32) ≤ 1 ∧ ofFrequency (100 : Rat) 1 = .ok ⟨10000, .by64⟩ ∧
      Best (duration 100 1) ⟨10000, .by64⟩ := by
  have positive : (0 : Rat) < 100 := by norm_num
  have filled : (1 : UInt32) ≤ 1 := by decide
  have timed : ofFrequency (100 : Rat) 1 = .ok ⟨10000, .by64⟩ :=
    (ofFrequency_eq_ok_iff positive filled).mpr (by decide +kernel)
  rcases ofFrequency_best positive filled with ⟨-, best, -⟩
  exact ⟨positive, filled, timed, (best _).mp timed⟩

example : (ofFrequency (128000000 / 131071 : Rat) 1).toOption = some ⟨8192, .by8⟩ := by
  decide +kernel

end Timing

end BenchScope.Waveform
