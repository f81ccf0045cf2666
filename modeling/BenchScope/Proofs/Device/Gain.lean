import BenchScope.Proofs.Device.Reuse
import BenchScope.Proofs.Wire.Transactions

namespace BenchScope

open LinkCall

/-! Setting a gain is a transaction. The gain is checked before anything is said, it is told to the
device byte by byte, and it is kept on the panel once the device has acknowledged it. If this breaks
off anywhere before the acknowledgement the panel is as it was; behind the acknowledgement nothing
breaks off. -/

namespace Device

def Adjustable (name : String) (factor : UInt8) : Prop :=
  name ∈ ["CH1", "CH2"] ∧ factor ∈ Gain.factors

structure Means (change : Panel.GainChange) (name : String) (factor : UInt8) : Prop where
  name : change.input.name = name
  factor : change.gain.factor = factor
  amplifier : change.input.amplifier? = some change.amplifier

def payload (change : Panel.GainChange) : List (List UInt8) :=
  [[0x02], [0x08], [change.amplifier], [change.gain.index]]

private theorem chooseGain_eq_ok {name : String} {factor : UInt8} {change : Panel.GainChange}
    (chosen : chooseGain name factor = .ok change) :
    Adjustable name factor ∧ Means change name factor := by
  rw [chooseGain] at chosen
  cases found : Channel.lookup name with
  | error error => simp [found] at chosen
  | ok channel =>
      cases selected : Panel.selectGain channel factor with
      | error error => simp [found, selected, Except.mapError] at chosen
      | ok selection =>
          obtain rfl : selection = change := by
            simpa [found, selected, Except.mapError] using chosen
          rcases Panel.selectGain_eq_ok selected with ⟨rfl, amplified, rfl⟩
          obtain rfl := Channel.name_of_lookup found
          exact ⟨⟨Panel.name_of_amplifier amplified, (Gain.mem_factors_iff _).mpr ⟨_, rfl⟩⟩,
            rfl, rfl, amplified⟩

/-- An unknown name counts before anything else, and a gain that does not exist before an input that
has no amplifier. -/
private theorem chooseGain_eq_error {name : String} {factor : UInt8} {error : GainError}
    (refused : chooseGain name factor = .error error) : ¬ Adjustable name factor ∧
      ((∀ channel : Channel, channel.name ≠ name) → error = .lookup (.notFound name)) ∧
      ∀ channel : Channel, channel.name = name → error = .setting
        (if factor ∈ Gain.factors then .noAmplifier channel else .gain factor) := by
  rw [chooseGain] at refused
  cases found : Channel.lookup name with
  | error missing =>
      rcases Channel.lookup_eq_error found with ⟨nowhere, rfl⟩
      obtain rfl : .lookup (.notFound name) = error := by simpa [found] using refused
      refine ⟨fun fit => ?_, fun _ => rfl, fun channel same => absurd same (nowhere channel)⟩
      rcases List.mem_pair.mp fit.1 with rfl | rfl
      · exact nowhere (.analog .ch1) rfl
      · exact nowhere (.analog .ch2) rfl
  | ok channel =>
      obtain rfl := Channel.name_of_lookup found
      cases selected : Panel.selectGain channel factor with
      | ok selection => simp [found, selected, Except.mapError] at refused
      | error reason =>
          rcases Panel.selectGain_eq_error selected with ⟨unfit, rfl⟩
          obtain rfl : .setting _ = error := by
            simpa [found, selected, Except.mapError] using refused
          refine ⟨unfit, fun nowhere => absurd rfl (nowhere channel), fun other same => ?_⟩
          rw [Channel.name_injective same]

variable {σ : Type}

structure GainTransaction (name : String) (factor : UInt8) (device : Device (Traced σ))
    (outcome : Except GainError Unit × Device (Traced σ)) (calls : List LinkCall) : Prop where
  recorded : outcome.2.host.calls = device.host.calls ++ calls
  /-- Four write calls that do not fail, and an odd byte. -/
  succeeds_iff : outcome.1 = .ok () ↔ Adjustable name factor ∧
    ∃ said heard, calls = said ++ [heard] ∧ said.length = 4 ∧
      (∀ call ∈ said, call.accepted?.isSome = true) ∧ heard.isAcknowledged = true
  changed : outcome.1 = .ok () → ∃ change, Means change name factor ∧
    outcome.2 = { device with
      host := outcome.2.host
      panel := device.panel.modify change.input fun state => { state with gain := change.gain } }
  kept : outcome.1 ≠ .ok () → outcome.2 = { device with host := outcome.2.host }
  unknown : (∀ channel : Channel, channel.name ≠ name) →
    calls = [] ∧ outcome.1 = .error (.lookup (.notFound name))
  refused : ∀ channel : Channel, channel.name = name → ¬ Adjustable name factor →
    calls = [] ∧ outcome.1 = .error (.setting
      (if factor ∈ Gain.factors then .noAmplifier channel else .gain factor))
  told : Adjustable name factor → ∃ change, Means change name factor ∧
    Gain.factors[change.gain.index.toNat]? = some factor ∧ written calls <+: payload change ∧
    ((∀ call ∈ calls, call.isBroken = false) →
      ∃ said heard, calls = said ++ [.read 1 heard] ∧ written said = payload change)
  settled : ∀ call ∈ calls, call.isAcknowledged = true → outcome.1 = .ok ()

variable {name : String} {factor : UInt8} {device : Device (Traced σ)}

private theorem transaction_of_refused {error : GainError}
    (refused : chooseGain name factor = .error error) :
    GainTransaction name factor device (.error error, device) [] := by
  rcases chooseGain_eq_error refused with ⟨unfit, unknown, known⟩
  exact {
    recorded := (List.append_nil _).symm
    succeeds_iff := by simp
    changed := nofun
    kept := fun _ => rfl
    unknown := fun nowhere => ⟨rfl, congrArg _ (unknown nowhere)⟩
    refused := fun channel same _ => ⟨rfl, congrArg _ (known channel same)⟩
    told := fun fit => absurd fit unfit
    settled := nofun }

private theorem transaction_of_performed {change : Panel.GainChange}
    (chosen : chooseGain name factor = .ok change) {result : Except ProtocolError Unit}
    {host : Host (Traced σ)} {calls : List LinkCall}
    (recorded : host.calls = device.host.calls ++ calls)
    (performed : Exchange.Performed (payload change) result calls) :
    GainTransaction name factor device (device.changed change (result, host)) calls := by
  rcases chooseGain_eq_ok chosen with ⟨fit, means⟩
  have same : (device.changed change (result, host)).1 = .ok () ↔ result = .ok () := by
    cases result <;> simp [changed]
  exact {
    recorded := by cases result <;> exact recorded
    succeeds_iff := by
      rw [same, performed.succeeds_iff]
      simp [fit, payload]
    changed := by
      intro succeeded
      obtain rfl := same.mp succeeded
      exact ⟨change, means, rfl⟩
    kept := by
      intro failed
      cases result with
      | ok => exact absurd rfl failed
      | error => rfl
    unknown := fun nowhere => absurd means.name (nowhere (.analog change.input))
    refused := fun _ _ unfit => absurd fit unfit
    told := by
      intro _
      refine ⟨change, means, means.factor ▸ change.gain.getElem?_factors, performed.written_prefix,
        fun unbroken => ?_⟩
      rcases performed.complete unbroken with ⟨said, heard, rfl, offer⟩
      exact ⟨said, heard, rfl, offer.written⟩
    settled := fun call member acknowledged =>
      same.mpr (performed.succeeds_of_acknowledged member acknowledged) }

variable [Link σ]

/-- Whatever the link does, and whatever is asked for. -/
theorem setGain_transaction (name : String) (factor : UInt8) (device : Device (Traced σ)) :
    ∃ calls, GainTransaction name factor device ((setGain name factor).apply device) calls := by
  rw [apply_setGain]
  cases chosen : chooseGain name factor with
  | error error => exact ⟨[], transaction_of_refused chosen⟩
  | ok change =>
      rcases Exchange.performed_perform .setGain
        [.byte change.amplifier, .byte change.gain.index] device.host with
        ⟨calls, recorded, performed⟩
      exact ⟨calls, transaction_of_performed chosen recorded performed⟩

end Device

end BenchScope
