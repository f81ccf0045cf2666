import Mathlib.Algebra.Order.Round
import Mathlib.Data.Set.List
import BenchScope.Proofs.Capture.Parameters
import BenchScope.Proofs.Number.Rational

namespace BenchScope

/-! Which parameters are accepted, exactly. With rates as exact numbers the checks in their order
come to one set of conditions, and the sampling is a formula. -/

/-- Three channels are sampled as four are. -/
def Mode.forCount (count : Nat) : Mode :=
  if count = 1 then .one else if count = 2 then .two else .four

theorem Mode.ofCount?_eq_some_iff (count : Nat) (mode : Mode) :
    ofCount? count = some mode ↔ (1 ≤ count ∧ count ≤ 4) ∧ forCount count = mode := by
  rcases count with _ | _ | _ | _ | _ | count <;> simp [ofCount?, forCount]

namespace Parameters

def leastTicks {α : Type} (parameters : Parameters α) (limits : Limits) : UInt16 :=
  limits.minInterval (Mode.forCount parameters.channels.length) parameters.isTriggered

structure Fits (parameters : Parameters Rat) (limits : Limits) : Prop where
  count : 1 ≤ parameters.channels.length ∧ parameters.channels.length ≤ 4
  analog : ∀ channel ∈ parameters.channels, ∃ input, channel = .analog input
  distinct : parameters.channels.Nodup
  enough : limits.minSamples.toNat ≤ parameters.sampleCount.toNat
  room : parameters.channels.length * parameters.sampleCount.toNat ≤ limits.capacity.toNat
  slowest : 8000000 / 65535 ≤ parameters.rate
  fastest : parameters.rate ≤ 8000000 / (parameters.leastTicks limits).toNat

def TriggerFits (parameters : Parameters Rat) : Prop :=
  ∀ trigger, parameters.trigger = some trigger → trigger.channel ∈ parameters.channels ∧
    (parameters.channels.head? = some trigger.channel ∨
      ∃ input : Input, trigger.channel = .analog input ∧ input.index.val < 4)

/-! The checks, one by one. -/

private theorem checkChannels_nil_eq_ok_iff {α : Type} (channels : List Channel) :
    (checkChannels [] channels : Except (ParameterError α) Unit) = .ok () ↔
      (∀ channel ∈ channels, ∃ input, channel = .analog input) ∧ channels.Nodup := by
  rw [checkChannels_eq_ok_iff]
  constructor
  · intro found
    rcases found with ⟨inputs, rfl, distinct, -⟩
    refine ⟨fun channel member => ?_, distinct.map fun _ _ => Channel.analog.inj⟩
    rcases List.mem_map.mp member with ⟨input, -, rfl⟩
    exact ⟨input, rfl⟩
  · intro conditions
    rcases conditions with ⟨analog, distinct⟩
    have listed : channels ∈ Set.range (List.map Channel.analog) := by
      rw [Set.range_list_map]
      exact fun channel member => (analog channel member).imp fun _ => Eq.symm
    rcases listed with ⟨inputs, rfl⟩
    exact ⟨inputs, rfl, distinct.of_map, by simp⟩

theorem checkSampleCount_eq_ok_iff {α : Type} (parameters : Parameters α) (limits : Limits)
    (count : 1 ≤ parameters.channels.length ∧ parameters.channels.length ≤ 4) :
    parameters.checkSampleCount limits = .ok () ↔
      limits.minSamples.toNat ≤ parameters.sampleCount.toNat ∧
        parameters.channels.length * parameters.sampleCount.toNat ≤ limits.capacity.toNat := by
  have shared : limits.maxSampleCount parameters.channels.length =
      limits.capacity.toNat / parameters.channels.length := by
    rw [Limits.maxSampleCount, UInt32.toNat_div, UInt32.toNat_ofNat', Nat.max_eq_left count.1,
      Nat.mod_eq_of_lt (by omega)]
  rw [checkSampleCount, shared]
  constructor
  · intro checked
    split at checked
    case isTrue => cases checked
    case isFalse within =>
      rcases not_or.mp within with ⟨enough, few⟩
      rw [Nat.not_lt, Nat.le_div_iff_mul_le count.1, Nat.mul_comm] at few
      exact ⟨Nat.le_of_not_lt enough, few⟩
  · intro conditions
    rcases conditions with ⟨enough, room⟩
    refine if_neg (not_or.mpr ⟨Nat.not_lt.mpr enough, ?_⟩)
    rwa [Nat.not_lt, Nat.le_div_iff_mul_le count.1, Nat.mul_comm]

theorem checkRate_eq_ok_iff (parameters : Parameters Rat) (limits : Limits) (mode : Mode) :
    parameters.checkRate limits mode = .ok () ↔ 8000000 / 65535 ≤ parameters.rate ∧
      parameters.rate ≤ 8000000 / (limits.minInterval mode parameters.isTriggered).toNat := by
  have slowest : (Limits.minRate : Rat) = 8000000 / 65535 := rfl
  have fastest : (limits.maxRate mode parameters.isTriggered : Rat) =
      8000000 / (limits.minInterval mode parameters.isTriggered).toNat := rfl
  have finite : ¬ Scalar.isFinite parameters.rate = false := nofun
  rw [checkRate, slowest, fastest]
  constructor
  · intro checked
    split at checked
    case isTrue => cases checked
    case isFalse within =>
      rcases not_or.mp (not_or.mp within).2 with ⟨slow, fast⟩
      exact ⟨le_of_not_gt slow, le_of_not_gt fast⟩
  · intro conditions
    rcases conditions with ⟨slow, fast⟩
    exact if_neg (not_or.mpr ⟨finite, not_or.mpr ⟨not_lt_of_ge slow, not_lt_of_ge fast⟩⟩)

section Timing

variable {rate : Rat} {ticks : Nat}

private theorem ticks_of_rate (slowest : 8000000 / 65535 ≤ rate) (ticking : 1 ≤ ticks)
    (fastest : rate ≤ 8000000 / ticks) : ticks ≤ 8000000 / rate ∧ 8000000 / rate ≤ 65535 := by
  have positive : 0 < rate := lt_of_lt_of_le (by norm_num) slowest
  have ticksPositive : (0 : Rat) < ticks := by exact_mod_cast ticking
  constructor
  · rw [le_div_iff₀ positive, mul_comm, ← le_div_iff₀ ticksPositive]
    exact fastest
  · rw [div_le_iff₀ positive, mul_comm, ← div_le_iff₀ (by norm_num)]
    exact slowest

private theorem round_within {low high : Nat} {value : Rat} (above : low ≤ value)
    (below : value ≤ high) : (low : Int) ≤ round value ∧ round value ≤ high := by
  rw [round_eq]
  constructor
  · rw [Int.le_floor]
    push_cast
    linarith
  · rw [← Int.lt_add_one_iff, Int.floor_lt]
    push_cast
    linarith

/-- The check of the interval itself never fails. -/
theorem interval_eq_ok (slowest : 8000000 / 65535 ≤ rate) (ticking : 1 ≤ ticks)
    (fastest : rate ≤ 8000000 / ticks) :
    ∃ word : UInt16, interval rate = .ok word ∧ (word.toNat : Int) = round (8000000 / rate) ∧
      ticks ≤ word.toNat := by
  rcases ticks_of_rate slowest ticking fastest with ⟨least, greatest⟩
  rcases round_within least (by exact_mod_cast greatest : _ ≤ ((65535 : Nat) : Rat)) with
    ⟨above, below⟩
  have nonneg : (0 : Rat) ≤ round (8000000 / rate : Rat) := by exact_mod_cast by omega
  have rounded : Scalar.round (Scalar.ofNat timerClock / rate) =
      (round (8000000 / rate) : Rat) := by
    rw [round_eq]
    exact Scalar.round_eq_floor (le_trans (Nat.cast_nonneg _) least)
  have word := Scalar.toNat_toWord nonneg (by exact_mod_cast Int.lt_add_one_of_le below)
  rw [Int.floor_intCast] at word
  have fitting : ((round (8000000 / rate) : Int) : Rat) ≤ Scalar.ofNat 65535 := by
    rw [Scalar.ofNat_eq_cast]
    exact_mod_cast below
  refine ⟨Scalar.toWord (round (8000000 / rate) : Rat), ?_, word, by omega⟩
  rw [interval, rounded]
  exact if_pos fitting

end Timing

/-! The parts together. -/

theorem fits_of_checks {parameters : Parameters Rat} {limits : Limits} {mode : Mode}
    (chosen : Mode.ofCount? parameters.channels.length = some mode)
    (channels : checkChannels (α := Rat) [] parameters.channels = .ok ())
    (counted : parameters.checkSampleCount limits = .ok ())
    (timed : parameters.checkRate limits mode = .ok ()) : parameters.Fits limits := by
  rcases (Mode.ofCount?_eq_some_iff _ _).mp chosen with ⟨count, rfl⟩
  rcases (checkChannels_nil_eq_ok_iff _).mp channels with ⟨analog, distinct⟩
  rcases (parameters.checkSampleCount_eq_ok_iff limits count).mp counted with ⟨enough, room⟩
  rcases (parameters.checkRate_eq_ok_iff limits _).mp timed with ⟨slowest, fastest⟩
  exact ⟨count, analog, distinct, enough, room, slowest, fastest⟩

theorem sampling_eq_ok_iff_fits (parameters : Parameters Rat) {limits : Limits}
    (ticking : 1 ≤ (parameters.leastTicks limits).toNat) :
    (∃ sampling, parameters.sampling limits = .ok sampling) ↔ parameters.Fits limits := by
  constructor
  · intro accepted
    rcases accepted with ⟨sampling, accepted⟩
    rcases (parameters.sampling_eq_ok_iff limits sampling).mp accepted with
      ⟨chosen, channels, counted, timed, -⟩
    exact fits_of_checks chosen channels counted timed
  · intro fits
    rcases interval_eq_ok fits.slowest ticking fits.fastest with ⟨word, timed, -⟩
    refine ⟨⟨Mode.forCount parameters.channels.length, word⟩, ?_⟩
    rw [sampling_eq_ok_iff]
    exact ⟨(Mode.ofCount?_eq_some_iff _ _).mpr ⟨fits.count, rfl⟩,
      (checkChannels_nil_eq_ok_iff _).mpr ⟨fits.analog, fits.distinct⟩,
      (parameters.checkSampleCount_eq_ok_iff limits fits.count).mpr ⟨fits.enough, fits.room⟩,
      (parameters.checkRate_eq_ok_iff limits _).mpr ⟨fits.slowest, fits.fastest⟩, timed⟩

private theorem sourceBit_lt_four_iff (input : Input) (first : Channel) :
    Trigger.sourceBit input first < 4 ↔ first = .analog input ∨ input.index.val < 4 := by
  rw [Trigger.sourceBit]
  split
  case isTrue same => simp [same]
  case isFalse apart =>
    have other : first ≠ .analog input := fun same => apart same.symm
    simp [other]

theorem fields_eq_ok_iff {trigger : Trigger Rat} {input : Input} (panel : Panel) (first : Channel)
    (source : trigger.channel = .analog input) :
    (∃ fields, trigger.fields panel first = .ok fields) ↔
      first = .analog input ∨ input.index.val < 4 := by
  rw [← sourceBit_lt_four_iff, Trigger.fields, source]
  constructor
  · rintro ⟨fields, encoded⟩
    by_contra beyond
    exact absurd ((if_neg beyond).symm.trans encoded) nofun
  · exact fun bit => ⟨_, if_pos bit⟩

theorem checkTrigger_eq_ok_iff {parameters : Parameters Rat} {limits : Limits}
    (fits : parameters.Fits limits) (panel : Panel) :
    parameters.checkTrigger panel = .ok () ↔ parameters.TriggerFits := by
  rw [checkTrigger, TriggerFits]
  cases wanted : parameters.trigger with
  | none => simp
  | some trigger =>
      cases channels : parameters.channels with
      | nil =>
          have count := fits.count.1
          simp [channels] at count
      | cons first rest =>
          simp only [Option.some.injEq, forall_eq', List.head?_cons]
          split
          case isFalse absent => simp [absent]
          case isTrue enabled =>
            rcases fits.analog _ (channels ▸ enabled) with ⟨input, same⟩
            have encodes := fields_eq_ok_iff panel first same
            simp only [except_bind_eq_ok_iff, exists_and_right]
            rw [encodes, same]
            constructor
            · intro passed
              exact ⟨same ▸ enabled, passed.1.imp_right fun low => ⟨input, rfl, low⟩⟩
            · intro conditions
              refine ⟨conditions.2.imp_right ?_, rfl⟩
              rintro ⟨other, equal, low⟩
              exact Channel.analog.inj equal ▸ low

/-! The error of the interval is only met with where nothing else is wrong. -/

section Refusals

variable {α : Type} (parameters : Parameters α)

private theorem checkChannels_ne_interval (before channels : List Channel) (ticks : α) :
    checkChannels before channels ≠ .error (.interval ticks) := by
  induction channels generalizing before with
  | nil => simp [checkChannels]
  | cons channel rest induction =>
      cases channel with
      | logic output => simp [checkChannels]
      | analog input =>
          rw [checkChannels]
          split
          · simp
          · exact induction _

private theorem checkSampleCount_ne_interval (limits : Limits) (ticks : α) :
    parameters.checkSampleCount limits ≠ .error (.interval ticks) := by
  rw [checkSampleCount]
  split <;> simp

variable [Scalar α]

private theorem checkRate_ne_interval (limits : Limits) (mode : Mode) (ticks : α) :
    parameters.checkRate limits mode ≠ .error (.interval ticks) := by
  rw [checkRate]
  split <;> simp

theorem checked_of_interval {limits : Limits} {ticks : α}
    (failed : parameters.sampling limits = .error (.interval ticks)) :
    ∃ mode, Mode.ofCount? parameters.channels.length = some mode ∧
      checkChannels (α := α) [] parameters.channels = .ok () ∧
      parameters.checkSampleCount limits = .ok () ∧ parameters.checkRate limits mode = .ok () := by
  rw [Parameters.sampling] at failed
  cases chosen : Mode.ofCount? parameters.channels.length with
  | none =>
      rw [chosen] at failed
      cases failed
  | some mode =>
      simp only [chosen, except_bind_eq_error_iff] at failed
      rcases failed with channels | ⟨_, channels, counted | ⟨_, counted, timed | ⟨_, timed, -⟩⟩⟩
      · exact absurd channels (checkChannels_ne_interval _ _ _)
      · exact absurd counted (parameters.checkSampleCount_ne_interval _ _)
      · exact absurd timed (parameters.checkRate_ne_interval _ _ _)
      · exact ⟨mode, rfl, channels, counted, timed⟩

private theorem refused_of_not_finite (panel : Panel) (limits : Limits)
    (odd : Scalar.isFinite parameters.rate = false) :
    ∃ error, parameters.validate panel limits = .error (.parameters error) := by
  rcases sampled : parameters.sampling limits with error | sampling
  · exact ⟨error, (validate_eq_error_iff ..).mpr (.inl ⟨error, rfl, sampled⟩)⟩
  · rcases (parameters.sampling_eq_ok_iff limits sampling).mp sampled with ⟨-, -, -, timed, -⟩
    rw [checkRate, if_pos (.inl odd)] at timed
    cases timed

end Refusals

/-! What the check comes to. -/

structure Foretold (parameters : Parameters Rat) (panel : Panel) (limits : Limits) : Prop where
  accepted : (∃ sampling, parameters.validate panel limits = .ok sampling) ↔
    parameters.Fits limits ∧ parameters.TriggerFits
  sampled : ∀ sampling, parameters.validate panel limits = .ok sampling →
    sampling.mode = Mode.forCount parameters.channels.length ∧
      (sampling.interval.toNat : Int) = round (8000000 / parameters.rate) ∧
      (parameters.leastTicks limits).toNat ≤ sampling.interval.toNat ∧
      sampling.interval.toNat ≤ 65535
  untriggered : (∃ error, parameters.validate panel limits = .error (.trigger error)) ↔
    parameters.Fits limits ∧ ¬ parameters.TriggerFits
  refused : (∃ error, parameters.validate panel limits = .error (.parameters error)) ↔
    ¬ parameters.Fits limits
  /-- The check of the interval finds nothing that the others have not found. -/
  timed : ∀ ticks, parameters.validate panel limits ≠ .error (.parameters (.interval ticks))

section Exact

variable {parameters : Parameters Rat} {limits : Limits}

theorem sampled_of_fits (ticking : 1 ≤ (parameters.leastTicks limits).toNat)
    (fits : parameters.Fits limits) {sampling : Sampling}
    (accepted : parameters.sampling limits = .ok sampling) :
    sampling.mode = Mode.forCount parameters.channels.length ∧
      (sampling.interval.toNat : Int) = round (8000000 / parameters.rate) ∧
      (parameters.leastTicks limits).toNat ≤ sampling.interval.toNat := by
  rcases (parameters.sampling_eq_ok_iff limits sampling).mp accepted with ⟨chosen, -, -, -, timed⟩
  rcases interval_eq_ok fits.slowest ticking fits.fastest with ⟨word, same, nearest, least⟩
  obtain rfl : word = sampling.interval := Except.ok.inj (same.symm.trans timed)
  exact ⟨((Mode.ofCount?_eq_some_iff _ _).mp chosen).2.symm, nearest, least⟩

private theorem sampling_ne_interval (ticking : 1 ≤ (parameters.leastTicks limits).toNat)
    (ticks : Rat) : parameters.sampling limits ≠ .error (.interval ticks) := by
  intro failed
  rcases parameters.checked_of_interval failed with ⟨mode, chosen, channels, counted, timed⟩
  have fits := fits_of_checks chosen channels counted timed
  rcases (sampling_eq_ok_iff_fits parameters ticking).mpr fits with ⟨sampling, accepted⟩
  rw [accepted] at failed
  cases failed

theorem foretold (ticking : 1 ≤ (parameters.leastTicks limits).toNat) (panel : Panel) :
    Foretold parameters panel limits := by
  have fits_iff := sampling_eq_ok_iff_fits parameters ticking
  refine {
    accepted := ?accepted, sampled := ?sampled, untriggered := ?untriggered, refused := ?refused
    timed := ?timed }
  case accepted =>
    simp only [validate_eq_ok_iff, exists_and_right, fits_iff]
    exact and_congr_right fun fits => checkTrigger_eq_ok_iff fits panel
  case sampled =>
    intro sampling valid
    have accepted := ((parameters.validate_eq_ok_iff panel limits sampling).mp valid).1
    rcases sampled_of_fits ticking (fits_iff.mp ⟨_, accepted⟩) accepted with ⟨mode, nearest, least⟩
    exact ⟨mode, nearest, least, Nat.le_of_lt_succ sampling.interval.toNat_lt⟩
  case untriggered =>
    constructor
    · rintro ⟨error, refused⟩
      rcases (validate_eq_error_iff ..).mp refused with ⟨reason, other, -⟩ |
        ⟨reason, sampling, -, accepted, failed⟩
      · cases other
      · have fits := fits_iff.mp ⟨_, accepted⟩
        refine ⟨fits, fun enabled => ?_⟩
        rw [(checkTrigger_eq_ok_iff fits panel).mpr enabled] at failed
        cases failed
    · rintro ⟨fits, unfit⟩
      rcases fits_iff.mpr fits with ⟨sampling, accepted⟩
      rcases failed : parameters.checkTrigger panel with error | _
      · exact ⟨error, (validate_eq_error_iff ..).mpr
          (.inr ⟨error, sampling, rfl, accepted, failed⟩)⟩
      · exact absurd ((checkTrigger_eq_ok_iff fits panel).mp failed) unfit
  case refused =>
    constructor
    · rintro ⟨error, refused⟩ fits
      rcases fits_iff.mpr fits with ⟨sampling, accepted⟩
      rcases (validate_eq_error_iff ..).mp refused with ⟨reason, -, failed⟩ | ⟨reason, _, other, -⟩
      · rw [accepted] at failed
        cases failed
      · cases other
    · intro unfit
      rcases sampled : parameters.sampling limits with error | sampling
      · exact ⟨error, (validate_eq_error_iff ..).mpr (.inl ⟨error, rfl, sampled⟩)⟩
      · exact absurd (fits_iff.mp ⟨sampling, sampled⟩) unfit
  case timed =>
    intro ticks refused
    rcases (validate_eq_error_iff ..).mp refused with ⟨reason, same, failed⟩ | ⟨_, _, other, -⟩
    · cases same
      exact sampling_ne_interval ticking ticks failed
    · cases other

end Exact

/-- With limits that ask for some time between samples, the check accepts exactly what fits. -/
theorem validate_foretold (limits : Limits) (panel : Panel)
    (ticking : ∀ mode triggered, 1 ≤ limits.minInterval mode triggered) :
    (∀ parameters : Parameters Rat, Foretold parameters panel limits) ∧
      ∀ parameters : Parameters Float, parameters.rate.isFinite = false →
        ∃ error, parameters.validate panel limits = .error (.parameters error) :=
  ⟨fun _ => foretold (UInt16.le_iff_toNat_le.mp (ticking _ _)) panel,
    fun parameters odd => parameters.refused_of_not_finite panel limits odd⟩

theorem validate_foretold_default :
    (∀ mode triggered, 1 ≤ ({} : Limits).minInterval mode triggered) ∧
      (∀ parameters : Parameters Rat, Foretold parameters {} {}) := by
  have ticking (mode : Mode) (triggered : Bool) : 1 ≤ ({} : Limits).minInterval mode triggered := by
    cases mode <;> cases triggered <;> decide
  exact ⟨ticking, (validate_foretold {} {} ticking).1⟩

end Parameters

end BenchScope
