import BenchScope.Proofs.Number.Rational
import BenchScope.Waveform.Timing

namespace BenchScope.Waveform

open Scalar hiding round

/-! Which frequencies have a timing. The greatest prescaler has room for the slowest waves, and the
least one for the fastest, and there is nothing between them that no prescaler has room for. -/

namespace Prescaler

theorem mem_all (prescaler : Prescaler) : prescaler ∈ all := by cases prescaler <;> decide

theorem divisor_pos (prescaler : Prescaler) : 0 < prescaler.divisor := by
  cases prescaler <;> decide

theorem divisor_le (prescaler : Prescaler) : prescaler.divisor ≤ 256 := by
  cases prescaler <;> decide

end Prescaler

theorem round_le_round {low high : Rat} (ordered : low ≤ high) : round low ≤ round high := by
  rw [round_eq, round_eq]
  exact Int.floor_le_floor (by linarith)

theorem round_div_le_round_div {value : Rat} (nonneg : 0 ≤ value) {small large : Nat}
    (positive : 0 < small) (ordered : small ≤ large) :
    round (value / large) ≤ round (value / small) := by
  refine round_le_round (div_le_div_of_nonneg_left nonneg ?_ ?_)
  · exact_mod_cast positive
  · exact_mod_cast ordered

namespace Timing

def duration (frequency : Rat) (entries : UInt32) : Rat :=
  64000000 / (frequency * entries.toNat)

/-- In ticks of the prescaled clock the duration is a whole number that a word has room for, and not
zero. -/
def Fits (duration : Rat) (prescaler : Prescaler) : Prop :=
  1 ≤ round (duration / prescaler.divisor) ∧ round (duration / prescaler.divisor) ≤ 65535

instance (duration : Rat) (prescaler : Prescaler) : Decidable (Fits duration prescaler) :=
  inferInstanceAs (Decidable (_ ∧ _))

section

variable {frequency : Rat} {entries : UInt32} {prescaler : Prescaler}

theorem duration_nonneg (entries : UInt32) (positive : 0 < frequency) :
    0 ≤ duration frequency entries := by
  rw [duration]
  positivity

theorem duration_one (frequency : Rat) : duration frequency 1 = 64000000 / frequency := by
  simp [duration]

private theorem ticks_eq (positive : 0 < frequency) : ticks frequency entries prescaler =
    (round (duration frequency entries / prescaler.divisor) : Rat) := by
  have quotient : ofNat clockRate / frequency / ofNat prescaler.divisor / ofNat entries.toNat =
      duration frequency entries / prescaler.divisor := by
    simp only [ofNat_eq_cast, duration, clockRate]
    push_cast
    rw [div_right_comm _ (prescaler.divisor : Rat), div_div _ frequency]
  have nonneg := duration_nonneg entries positive
  rw [ticks, quotient, round_eq_floor (by positivity), round_eq]

theorem fits_iff (positive : 0 < frequency) :
    zero < ticks frequency entries prescaler ∧ ticks frequency entries prescaler < ofNat 65536 ↔
      Fits (duration frequency entries) prescaler := by
  rw [ticks_eq positive, zero_eq, ofNat_eq_cast, Fits]
  norm_cast
  omega

private theorem within?_eq (positive : 0 < frequency) : within? frequency entries prescaler =
    if Fits (duration frequency entries) prescaler then
      some { wavelength := toWord (ticks frequency entries prescaler), prescaler }
    else none :=
  if_congr (fits_iff positive) rfl rfl

theorem within?_eq_none_iff (positive : 0 < frequency) :
    within? frequency entries prescaler = none ↔
      ¬ Fits (duration frequency entries) prescaler := by
  simp [within?_eq positive]

theorem within?_eq_some_iff (positive : 0 < frequency) {timing : Timing} :
    within? frequency entries prescaler = some timing ↔ timing.prescaler = prescaler ∧
      (timing.wavelength.toNat : Int) = round (duration frequency entries / prescaler.divisor) ∧
      1 ≤ timing.wavelength.toNat := by
  have width := timing.wavelength.toNat_lt
  rw [within?_eq positive]
  split
  case isFalse unfit =>
    refine ⟨nofun, ?_⟩
    rintro ⟨-, rounded, lower⟩
    exact absurd ⟨by omega, by omega⟩ unfit
  case isTrue fits =>
    rcases fits with ⟨lower, upper⟩
    have whole : ((toWord (ticks frequency entries prescaler)).toNat : Int) =
        round (duration frequency entries / prescaler.divisor) := by
      rw [ticks_eq positive, toNat_toWord, Int.floor_intCast]
      · exact_mod_cast (by omega)
      · exact_mod_cast (by omega)
    have ticking : 1 ≤ (toWord (ticks frequency entries prescaler)).toNat := by omega
    constructor
    · intro same
      cases same
      exact ⟨rfl, whole, ticking⟩
    · rintro ⟨rfl, rounded, -⟩
      have same : toWord (ticks frequency entries timing.prescaler) = timing.wavelength :=
        UInt16.toNat_inj.mp (by omega)
      rw [same]

theorem ofFrequency_eq (positive : 0 < frequency) (filled : 1 ≤ entries) :
    ofFrequency frequency entries =
      match Prescaler.all.findSome? (within? frequency entries) with
      | some timing => .ok timing
      | none => .error (.outOfRange frequency) := by
  have finite : isFinite frequency = true := rfl
  have nonempty : entries ≠ 0 := by
    rintro rfl
    exact absurd filled (by decide)
  exact if_neg (by simp [finite, positive, nonempty])

theorem ofFrequency_eq_ok_iff (positive : 0 < frequency) (filled : 1 ≤ entries) {timing : Timing} :
    ofFrequency frequency entries = .ok timing ↔
      Prescaler.all.findSome? (within? frequency entries) = some timing := by
  rw [ofFrequency_eq positive filled]
  split <;> simp [*]

end

/-! The two ends. -/

section

variable {duration : Rat}

/-- What is too long for the least prescaler is long enough for the greatest. -/
private theorem fits_or_fits (ticking : 1 ≤ round duration)
    (room : round (duration / 256) ≤ 65535) : Fits duration .by1 ∨ Fits duration .by256 := by
  simp only [Fits, Prescaler.divisor, Nat.cast_one, div_one, Nat.cast_ofNat]
  by_cases short : round duration ≤ 65535
  case pos => exact .inl ⟨ticking, short⟩
  case neg =>
    have long : (65536 : Rat) ≤ round duration := by exact_mod_cast (by omega)
    have near := round_le_add_half duration
    have scaled : (1 : Rat) ≤ duration / 256 := by linarith
    exact .inr ⟨by simpa using round_le_round scaled, room⟩

private theorem not_fits_of_outside (nonneg : 0 ≤ duration)
    (outside : round duration = 0 ∨ 65535 < round (duration / 256)) (prescaler : Prescaler) :
    ¬ Fits duration prescaler := by
  rintro ⟨lower, upper⟩
  have least := round_div_le_round_div nonneg Nat.one_pos prescaler.divisor_pos
  have greatest := round_div_le_round_div nonneg prescaler.divisor_pos prescaler.divisor_le
  rw [Nat.cast_one, div_one] at least
  rw [Nat.cast_ofNat] at greatest
  omega

end

section

variable {frequency : Rat} {entries : UInt32}

theorem ofFrequency_eq_error_iff (positive : 0 < frequency) (filled : 1 ≤ entries)
    (error : Error Rat) :
    ofFrequency frequency entries = .error error ↔ error = .outOfRange frequency ∧
      (round (duration frequency entries) = 0 ∨
        65535 < round (duration frequency entries / 256)) := by
  have nonneg := duration_nonneg entries positive
  rw [ofFrequency_eq positive filled]
  constructor
  · intro refused
    split at refused
    case h_1 => cases refused
    case h_2 nowhere =>
      cases refused
      have unfit (prescaler : Prescaler) : ¬ Fits (duration frequency entries) prescaler :=
        (within?_eq_none_iff positive).mp
          (List.findSome?_eq_none_iff.mp nowhere prescaler prescaler.mem_all)
      have whole : 0 ≤ round (duration frequency entries) := by
        simpa using round_le_round nonneg
      refine ⟨rfl, ?_⟩
      by_contra inside
      rw [not_or, not_lt] at inside
      rcases inside with ⟨ticking, room⟩
      rcases fits_or_fits (by omega) room with fits | fits
      · exact unfit _ fits
      · exact unfit _ fits
  · rintro ⟨rfl, outside⟩
    have nowhere : Prescaler.all.findSome? (within? frequency entries) = none :=
      List.findSome?_eq_none_iff.mpr fun prescaler _ =>
        (within?_eq_none_iff positive).mpr (not_fits_of_outside nonneg outside prescaler)
    rw [nowhere]

end

theorem ofFrequency_of_range {frequency : Rat} (least : 10 ≤ frequency)
    (greatest : frequency ≤ 10000000) :
    ∃ timing, ofFrequency frequency 1 = .ok timing ∧ timing.wavelength ≠ 0 := by
  have positive : 0 < frequency := by linarith
  have fast : 1 ≤ duration frequency 1 := by
    rw [duration_one, le_div_iff₀ positive]
    linarith
  have slow : duration frequency 1 / 256 ≤ 65535 := by
    rw [duration_one, div_le_iff₀ (by norm_num), div_le_iff₀ positive]
    linarith
  cases timed : ofFrequency frequency 1 with
  | error error =>
      have lower : round (1 : Rat) ≤ _ := round_le_round fast
      have upper : _ ≤ round (65535 : Rat) := round_le_round slow
      rw [round_one] at lower
      rw [round_ofNat] at upper
      rcases (ofFrequency_eq_error_iff positive (by decide) error).mp timed with ⟨-, short | long⟩
      · omega
      · omega
  | ok timing =>
      have found := (ofFrequency_eq_ok_iff positive (by decide)).mp timed
      rcases List.exists_of_findSome?_eq_some found with ⟨prescaler, -, within⟩
      rcases (within?_eq_some_iff positive).mp within with ⟨-, -, ticking⟩
      refine ⟨timing, rfl, fun stopped => ?_⟩
      simp [stopped] at ticking

end Timing

end BenchScope.Waveform
