import BenchScope.Panel

namespace BenchScope

/-! What names, factors and numbers of bits select, and what they do not. -/

theorem except_bind_eq_ok_iff {ε β γ : Type} {first : Except ε β} {next : β → Except ε γ}
    {value : γ} :
    (first >>= next) = .ok value ↔ ∃ middle, first = .ok middle ∧ next middle = .ok value := by
  cases first <;> simp [bind, Except.bind]

theorem except_bind_eq_error_iff {ε β γ : Type} {first : Except ε β} {next : β → Except ε γ}
    {error : ε} :
    (first >>= next) = .error error ↔
      first = .error error ∨ ∃ middle, first = .ok middle ∧ next middle = .error error := by
  cases first <;> simp [bind, Except.bind]

namespace Channel

theorem lookup_name (channel : Channel) : lookup channel.name = .ok channel := by
  cases channel with
  | analog input => cases input <;> rfl
  | logic output => cases output <;> rfl

theorem name_injective {left right : Channel} (equal : left.name = right.name) : left = right := by
  have found := left.lookup_name
  rw [equal, right.lookup_name] at found
  exact (Except.ok.inj found).symm

theorem name_of_lookup {name : String} {channel : Channel}
    (found : Channel.lookup name = .ok channel) : channel.name = name := by
  rw [Channel.lookup] at found
  split at found
  case h_1 other located =>
    obtain rfl : other = channel := Except.ok.inj found
    have matched := List.find?_some located
    exact eq_of_beq matched
  case h_2 => cases found

theorem lookup_eq_error {name : String} {error : Error} (missed : lookup name = .error error) :
    (∀ channel : Channel, channel.name ≠ name) ∧ error = .notFound name := by
  constructor
  · rintro channel rfl
    rw [lookup_name] at missed
    cases missed
  · rw [lookup] at missed
    split at missed <;> cases missed
    rfl

end Channel

theorem Input.name_injective {left right : Input} (equal : left.name = right.name) : left = right :=
  Channel.analog.inj (Channel.name_injective equal)

theorem Output.name_injective {left right : Output} (equal : left.name = right.name) :
    left = right :=
  Channel.logic.inj (Channel.name_injective equal)

/-! Gains. -/

namespace Gain

def factors : List UInt8 := [1, 2, 4, 5, 8, 10, 16, 32]

theorem mem_all (gain : Gain) : gain ∈ all := by cases gain <;> decide

theorem mem_factors_iff (factor : UInt8) :
    factor ∈ factors ↔ ∃ gain : Gain, gain.factor = factor := by
  have same : factors = all.map Gain.factor := rfl
  simp [same, mem_all]

theorem factor_mem_factors (gain : Gain) : gain.factor ∈ factors :=
  (mem_factors_iff _).mpr ⟨gain, rfl⟩

theorem factor_ne_zero (gain : Gain) : gain.factor ≠ 0 := by cases gain <;> decide

theorem getElem?_factors (gain : Gain) : factors[gain.index.toNat]? = some gain.factor := by
  cases gain <;> rfl

end Gain

theorem Resolution.fullScale_ne_zero (resolution : Resolution) : resolution.fullScale ≠ 0 := by
  cases resolution <;> decide

namespace Panel

private theorem factor_of_gainOf {factor : UInt8} {gain : Gain}
    (chosen : gainOf factor = .ok gain) : gain.factor = factor := by
  rw [gainOf, Gain.ofFactor?] at chosen
  split at chosen
  case h_1 other located =>
    obtain rfl : other = gain := Except.ok.inj chosen
    have matched := List.find?_some located
    exact of_decide_eq_true matched
  case h_2 => cases chosen

private theorem gainOf_eq_error {factor : UInt8} {error : SettingError}
    (refused : gainOf factor = .error error) : factor ∉ Gain.factors ∧ error = .gain factor := by
  rw [gainOf, Gain.ofFactor?] at refused
  split at refused
  case h_1 => cases refused
  case h_2 nowhere =>
    cases refused
    refine ⟨fun listed => ?_, rfl⟩
    rcases (Gain.mem_factors_iff factor).mp listed with ⟨gain, same⟩
    have other := List.find?_eq_none.mp nowhere gain gain.mem_all
    simp [same] at other

theorem name_of_amplifier {input : Input} {amplifier : UInt8}
    (amplified : input.amplifier? = some amplifier) : input.name ∈ ["CH1", "CH2"] := by
  cases input <;> first | decide | cases amplified

theorem amplifiedInput_eq_ok {channel : Channel} {input : Input} {amplifier : UInt8}
    (found : amplifiedInput channel = .ok (input, amplifier)) :
    channel = .analog input ∧ input.amplifier? = some amplifier := by
  cases channel with
  | logic output => cases found
  | analog other =>
      rw [amplifiedInput] at found
      split at found
      case h_1 number located =>
        cases found
        exact ⟨rfl, located⟩
      case h_2 => cases found

private theorem amplifiedInput_eq_error {channel : Channel} {error : SettingError}
    (missed : amplifiedInput channel = .error error) :
    channel.name ∉ ["CH1", "CH2"] ∧ error = .noAmplifier channel := by
  cases channel with
  | logic output =>
      cases missed
      exact ⟨by cases output <;> decide, rfl⟩
  | analog input =>
      rw [amplifiedInput] at missed
      cases input <;> cases missed <;> exact ⟨by decide, rfl⟩

theorem selectGain_eq_ok {channel : Channel} {factor : UInt8} {change : GainChange}
    (selected : selectGain channel factor = .ok change) :
    channel = .analog change.input ∧ change.input.amplifier? = some change.amplifier ∧
      change.gain.factor = factor := by
  simp only [selectGain, except_bind_eq_ok_iff] at selected
  rcases selected with ⟨gain, chosen, ⟨input, amplifier⟩, found, made⟩
  cases made
  rcases amplifiedInput_eq_ok found with ⟨channel_eq, amplified⟩
  exact ⟨channel_eq, amplified, factor_of_gainOf chosen⟩

/-- A gain that does not exist counts before an input that has none. -/
theorem selectGain_eq_error {channel : Channel} {factor : UInt8} {error : SettingError}
    (refused : selectGain channel factor = .error error) :
    ¬ (channel.name ∈ ["CH1", "CH2"] ∧ factor ∈ Gain.factors) ∧
      error = if factor ∈ Gain.factors then .noAmplifier channel else .gain factor := by
  simp only [selectGain, except_bind_eq_error_iff] at refused
  rcases refused with chosen | ⟨gain, chosen, found | ⟨_, -, made⟩⟩
  · rcases gainOf_eq_error chosen with ⟨unlisted, rfl⟩
    exact ⟨fun both => unlisted both.2, (if_neg unlisted).symm⟩
  · have listed := (Gain.mem_factors_iff factor).mpr ⟨gain, factor_of_gainOf chosen⟩
    rcases amplifiedInput_eq_error found with ⟨plain, rfl⟩
    exact ⟨fun both => plain both.1, (if_pos listed).symm⟩
  · cases made

theorem recordGain_of_selected (panel : Panel) {channel : Channel} {factor : UInt8}
    {change : GainChange} (selected : selectGain channel factor = .ok change) :
    panel.recordGain channel factor = .ok (panel.applyGain change) := by
  rcases selectGain_eq_ok selected with ⟨rfl, -, -⟩
  rw [recordGain, selected]
  rfl

/-! Resolutions. -/

theorem selectResolution_eq_ok {panel after : Panel} {channel : Channel} {bits : UInt8}
    (selected : panel.selectResolution channel bits = .ok after) :
    ∃ input resolution, channel = .analog input ∧ input.amplifier?.isSome ∧
      resolution.bits = bits ∧
        after = panel.modify input fun state => { state with resolution } := by
  rw [selectResolution] at selected
  rcases chosen : Resolution.ofBits? bits with _ | resolution
  · rw [chosen] at selected
    cases selected
  · rcases found : amplifiedInput channel with error | ⟨input, amplifier⟩
    · rw [chosen, found] at selected
      cases selected
    · rw [chosen, found] at selected
      cases selected
      rcases amplifiedInput_eq_ok found with ⟨channel_eq, amplified⟩
      rw [Resolution.ofBits?] at chosen
      have matched := List.find?_some chosen
      exact ⟨input, resolution, channel_eq, by rw [amplified]; rfl, of_decide_eq_true matched, rfl⟩

end Panel

end BenchScope
