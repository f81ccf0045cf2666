import BenchScope.Device.Basic
import BenchScope.Link.Script
import BenchScope.Proofs.DigitalState
import BenchScope.Proofs.Wire.Transactions

namespace BenchScope

open LinkCall

/-! Setting digital outputs by name. All names are looked up before any channel is checked, and
nothing is said to the device before both is done. Then the device is told one byte, which is handed
back once the device has acknowledged it. -/

namespace Device

def named (entry : Channel × Bool) : String × Bool := (entry.1.name, entry.2)

def FirstUnknown (levels : List (String × Bool)) (name : String) : Prop :=
  ∃ (channels : List (Channel × Bool)) (high : Bool) (after : List (String × Bool)),
    levels = channels.map named ++ (name, high) :: after ∧
      ∀ channel : Channel, channel.name ≠ name

private theorem lookupLevels_named (entry : Channel × Bool) (levels : List (String × Bool)) :
    lookupLevels (named entry :: levels) = (lookupLevels levels).map (entry :: ·) := by
  rcases entry with ⟨channel, high⟩
  rw [named, lookupLevels, Channel.lookup_name]
  cases lookupLevels levels <;> rfl

private theorem lookupLevels_map_named (channels : List (Channel × Bool)) :
    lookupLevels (channels.map named) = .ok channels := by
  induction channels with
  | nil => rfl
  | cons entry channels induction =>
      rw [List.map_cons, lookupLevels_named, induction]
      rfl

private theorem lookupLevels_of_firstUnknown {levels : List (String × Bool)} {name : String}
    (unknown : FirstUnknown levels name) : lookupLevels levels = .error (.notFound name) := by
  rcases unknown with ⟨channels, high, after, rfl, nowhere⟩
  induction channels with
  | nil =>
      rw [List.map_nil, List.nil_append, lookupLevels]
      cases found : Channel.lookup name with
      | ok channel => exact absurd (Channel.name_of_lookup found) (nowhere channel)
      | error error =>
          obtain rfl := (Channel.lookup_eq_error found).2
          rfl
  | cons entry channels induction =>
      rw [List.map_cons, List.cons_append, lookupLevels_named, induction]
      rfl

private theorem named_or_firstUnknown (levels : List (String × Bool)) :
    (∃ channels : List (Channel × Bool), levels = channels.map named) ∨
      ∃ name, FirstUnknown levels name := by
  induction levels with
  | nil => exact .inl ⟨[], rfl⟩
  | cons entry levels induction =>
      rcases entry with ⟨name, high⟩
      by_cases known : ∃ channel : Channel, channel.name = name
      · rcases known with ⟨channel, rfl⟩
        rcases induction with ⟨channels, rfl⟩ | ⟨other, channels, level, after, rfl, nowhere⟩
        · exact .inl ⟨(channel, high) :: channels, rfl⟩
        · exact .inr ⟨other, (channel, high) :: channels, level, after, rfl, nowhere⟩
      · exact .inr ⟨name, [], high, levels, rfl, not_exists.mp known⟩

private theorem not_firstUnknown_map_named (channels : List (Channel × Bool)) (name : String) :
    ¬ FirstUnknown (channels.map named) name := fun unknown => by
  have missed := lookupLevels_of_firstUnknown unknown
  rw [lookupLevels_map_named] at missed
  cases missed

private theorem map_named_injective {left right : List (Channel × Bool)}
    (same : left.map named = right.map named) : left = right := by
  have found := lookupLevels_map_named left
  rw [same, lookupLevels_map_named] at found
  exact (Except.ok.inj found).symm

variable {σ : Type}

def statePayload (byte : UInt8) : List (List UInt8) := [[0x08], [0x01], [byte]]

structure Drives (byte : UInt8) (result : Except (Waveform.Error Float) UInt8)
    (calls : List LinkCall) : Prop where
  told : written calls <+: statePayload byte
  complete : (∀ call ∈ calls, call.isBroken = false) →
    ∃ said heard, calls = said ++ [.read 1 heard] ∧ written said = statePayload byte
  succeeds_iff : result = .ok byte ↔ ∃ said heard, calls = said ++ [heard] ∧ said.length = 3 ∧
    (∀ call ∈ said, call.accepted?.isSome = true) ∧ heard.isAcknowledged = true
  sole : ∀ other, result = .ok other → other = byte

structure LevelsTransaction (levels : List (String × Bool)) (device : Device (Traced σ))
    (outcome : Except (Waveform.Error Float) UInt8 × Device (Traced σ))
    (calls : List LinkCall) : Prop where
  recorded : outcome.2.host.calls = device.host.calls ++ calls
  kept : outcome.2 = { device with host := outcome.2.host }
  unknown : ∀ name, FirstUnknown levels name →
    calls = [] ∧ outcome.1 = .error (.lookup (.notFound name))
  refused : ∀ channels input, levels = channels.map named → FirstInput channels input →
    calls = [] ∧ outcome.1 = .error (.lookup (.notLogic input))
  driven : ∀ channels byte, levels = channels.map named → composeState channels = .ok byte →
    Drives byte outcome.1 calls

variable {levels : List (String × Bool)} {device : Device (Traced σ)}

private theorem transaction_of_unknown {name : String} (unknown : FirstUnknown levels name) :
    LevelsTransaction levels device (.error (.lookup (.notFound name)), device) [] where
  recorded := (List.append_nil _).symm
  kept := rfl
  unknown other first := by
    have missed := lookupLevels_of_firstUnknown unknown
    rw [lookupLevels_of_firstUnknown first] at missed
    cases missed
    exact ⟨rfl, rfl⟩
  refused channels _ known _ := absurd (known ▸ unknown) (not_firstUnknown_map_named channels name)
  driven channels _ known _ := absurd (known ▸ unknown) (not_firstUnknown_map_named channels name)

private theorem transaction_of_firstInput {channels : List (Channel × Bool)} {input : Input}
    (first : FirstInput channels input) : LevelsTransaction (channels.map named) device
      (.error (.lookup (.notLogic input)), device) [] where
  recorded := (List.append_nil _).symm
  kept := rfl
  unknown name unknown := absurd unknown (not_firstUnknown_map_named channels name)
  refused others other same otherFirst := by
    obtain rfl := map_named_injective same
    have refused := composeState_of_firstInput first
    rw [composeState_of_firstInput otherFirst] at refused
    cases refused
    exact ⟨rfl, rfl⟩
  driven others byte same composed := by
    obtain rfl := map_named_injective same
    rw [composeState_of_firstInput first] at composed
    cases composed

def driven (byte : UInt8) (result : Except ProtocolError Unit) :
    Except (Waveform.Error Float) UInt8 := (result.map fun _ => byte).mapError .protocol

private theorem drives_of_performed {byte : UInt8} {result : Except ProtocolError Unit}
    {calls : List LinkCall} (performed : Exchange.Performed (statePayload byte) result calls) :
    Drives byte (driven byte result) calls where
  told := performed.written_prefix
  complete unbroken := by
    rcases performed.complete unbroken with ⟨said, heard, rfl, offer⟩
    exact ⟨said, heard, rfl, offer.written⟩
  succeeds_iff := by
    have same : driven byte result = .ok byte ↔ result = .ok () := by
      cases result with
      | ok => exact ⟨fun _ => rfl, fun _ => rfl⟩
      | error error => exact ⟨nofun, nofun⟩
    exact same.trans performed.succeeds_iff
  sole other succeeded := by
    cases result with
    | error error => cases succeeded
    | ok => exact (Except.ok.inj succeeded).symm

private theorem transaction_of_performed_state {channels : List (Channel × Bool)} {byte : UInt8}
    (composed : composeState channels = .ok byte) {result : Except ProtocolError Unit}
    {host : Host (Traced σ)} {calls : List LinkCall}
    (recorded : host.calls = device.host.calls ++ calls)
    (performed : Exchange.Performed (statePayload byte) result calls) :
    LevelsTransaction (channels.map named) device
      (driven byte result, { device with host }) calls where
  recorded := recorded
  kept := rfl
  unknown name unknown := absurd unknown (not_firstUnknown_map_named channels name)
  refused others input same first := by
    obtain rfl := map_named_injective same
    rw [composeState_of_firstInput first] at composed
    cases composed
  driven others other same recomposed := by
    obtain rfl := map_named_injective same
    obtain rfl : byte = other := Except.ok.inj (composed.symm.trans recomposed)
    exact drives_of_performed performed

variable [Link σ]

private theorem apply_setDigitalState_of_unknown {name : String}
    (unknown : FirstUnknown levels name) :
    (setDigitalState levels).apply device = (.error (.lookup (.notFound name)), device) := by
  rw [setDigitalState, lookupLevels_of_firstUnknown unknown]
  rfl

private theorem apply_setDigitalState_map_named (channels : List (Channel × Bool)) :
    (setDigitalState (channels.map named)).apply device =
      match composeState channels with
      | .error error => (.error (.lookup error), device)
      | .ok byte => (driven byte ((Exchange.sendState byte).apply device.host).1,
          { device with host := ((Exchange.sendState byte).apply device.host).2 }) := by
  rw [setDigitalState, lookupLevels_map_named, ofExcept, Action.apply_bind, Action.apply_pure]
  simp only [exchange, Action.apply_of, Exchange.setLevels]
  cases composeState channels with
  | error error => rfl
  | ok byte =>
      simp only [Action.apply_bind, Exchange.mapError, Action.apply_of]
      rcases (Exchange.sendState byte).apply device.host with ⟨error | done, host⟩ <;> rfl

/-- Whatever the link does, and whatever is listed. -/
theorem setDigitalState_transaction (channels : List (Channel × Bool))
    (levels : List (String × Bool)) (device : Device (Traced σ)) :
    Composed channels (composeState channels) ∧
      ∃ calls, LevelsTransaction levels device ((setDigitalState levels).apply device) calls := by
  refine ⟨composed_composeState channels, ?_⟩
  rcases named_or_firstUnknown levels with ⟨listed, rfl⟩ | ⟨name, unknown⟩
  · rw [apply_setDigitalState_map_named]
    rcases allOutputs_or_firstInput listed with outputs | ⟨input, first⟩
    · rcases composeState_of_allOutputs outputs with ⟨byte, composed, -⟩
      rcases Exchange.performed_acknowledgedOr .setState [.byte byte] .stateUnacknowledged
        device.host with ⟨calls, recorded, performed⟩
      rw [composed]
      exact ⟨calls, transaction_of_performed_state composed recorded performed⟩
    · rw [composeState_of_firstInput first]
      exact ⟨[], transaction_of_firstInput first⟩
  · rw [apply_setDigitalState_of_unknown unknown]
    exact ⟨[], transaction_of_unknown unknown⟩

end Device

end BenchScope
