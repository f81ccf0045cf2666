import BenchScope.Proofs.Device.Agreement
import BenchScope.Proofs.Selection

namespace BenchScope

/-! An instrument in use. Its settings are those that were last made, and nothing else that is done
with it leaves a trace on its channels, whatever the link does and whenever the operator asks for an
abort. -/

inductive Deed
  | setGain (name : String) (factor : UInt8)
  | setResolution (name : String) (bits : UInt8)
  | generateWaves (settings : Waveform.Settings Float)
  | setDigitalState (levels : List (String × Bool))
  | captureNow (parameters : Parameters Float)
  | startCapture (parameters : Parameters Float)
  | tryResult
  | wait
  | cancel
  | abort
  | pause (nanoseconds : Nat)

inductive Held (σ : Type)
  | resting (device : Device σ)
  | running (capturing : Capturing σ)
  | nothing

namespace Held

variable {σ : Type}

def device? : Held σ → Option (Device σ)
  | .resting device => some device
  | .running capturing => some capturing.device
  | .nothing => none

def returned : Capturing.Progress σ → Bool × Held σ
  | .pending _ => (false, .nothing)
  | .completed _ device => (true, .resting device)
  | .failed _ device => (false, .resting device)

def operate {ε β : Type} (operation : Device.Operation ε σ β) (device : Device σ) : Bool × Held σ :=
  match operation.apply device with
  | (.ok _, device) => (true, .resting device)
  | (.error _, device) => (false, .resting device)

variable [FiniteLink σ]

def performResting (device : Device σ) : Deed → Bool × Held σ
  | .setGain name factor => operate (Device.setGain name factor) device
  | .setResolution name bits => operate (Device.setResolution name bits) device
  | .generateWaves settings => operate (Device.generateWaves settings) device
  | .setDigitalState levels => operate (Device.setDigitalState levels) device
  | .captureNow parameters => returned (device.captureNow parameters)
  | .startCapture parameters =>
      match device.startCapture parameters with
      | .capturing capturing => (true, .running capturing)
      | .refused _ device => (false, .resting device)
  | .abort => (true, .resting { device with host := device.host.requestAbort })
  | .pause nanoseconds => (true, .resting { device with host := device.host.pause nanoseconds })
  | .tryResult | .wait | .cancel => (false, .resting device)

def performRunning (capturing : Capturing σ) : Deed → Bool × Held σ
  | .tryResult =>
      match capturing.tryResult with
      | .pending capturing => (true, .running capturing)
      | ended => returned ended
  | .wait => returned capturing.wait
  | .cancel => (true, .resting capturing.cancel.2)
  | .abort => (true, .running capturing.abort)
  | .pause nanoseconds =>
      (true, .running { capturing with
        device := { capturing.device with host := capturing.device.host.pause nanoseconds } })
  | .setGain .. | .setResolution .. | .generateWaves .. | .setDigitalState .. | .captureNow ..
  | .startCapture .. => (false, .running capturing)

def perform : Held σ → Deed → Bool × Held σ
  | .resting device => performResting device
  | .running capturing => performRunning capturing
  | .nothing => fun _ => (false, .nothing)

end Held

structure Usage (σ : Type) where
  held : Held σ
  /-- The deeds that have succeeded. The latest one comes first. -/
  done : List Deed := []

namespace Usage

variable {σ : Type} [FiniteLink σ]

def act (usage : Usage σ) (deed : Deed) : Usage σ :=
  let (succeeded, held) := usage.held.perform deed
  { held, done := if succeeded then deed :: usage.done else usage.done }

def play (usage : Usage σ) (deeds : List Deed) : Usage σ := deeds.foldl act usage

end Usage

/-! The settings that were last made. -/

def lastFactor (input : String) : List Deed → UInt8
  | [] => 1
  | .setGain name factor :: earlier => if name = input then factor else lastFactor input earlier
  | _ :: earlier => lastFactor input earlier

def lastBits (input : String) : List Deed → UInt8
  | [] => 10
  | .setResolution name bits :: earlier => if name = input then bits else lastBits input earlier
  | _ :: earlier => lastBits input earlier

example : lastFactor "CH1" [.wait, .setGain "CH2" 8, .setGain "CH1" 5, .setGain "CH1" 2] = 5 := by
  decide

def highestCode (bits : UInt8) : UInt16 := UInt16.ofNat (Nat.pow 2 bits.toNat - 1)

theorem Resolution.fullScale_eq_highestCode (resolution : Resolution) :
    resolution.fullScale = highestCode resolution.bits := by
  cases resolution <;> decide

theorem Resolution.bits_mem_all (resolution : Resolution) : resolution.bits ∈ [10, 12] := by
  cases resolution <;> decide

/-! What is set on the panel. -/

namespace Panel

/-- Gain and resolution of every input are those that were last made. An input without amplifier has
nothing that could be set. -/
structure SetBy (panel : Panel) (done : List Deed) : Prop where
  gain : ∀ input, (panel.state input).gain.factor = lastFactor input.name done
  resolution : ∀ input, (panel.state input).resolution.bits = lastBits input.name done
  plain : ∀ input, input.amplifier? = none →
    (panel.state input).gain = .x1 ∧ (panel.state input).resolution = .tenBits

namespace SetBy

variable {panel after : Panel} {done later : List Deed}

theorem start : SetBy {} [] where
  gain input := by cases input <;> rfl
  resolution input := by cases input <;> rfl
  plain input _ := by cases input <;> exact ⟨rfl, rfl⟩

theorem afterwards (set : panel.SetBy done)
    (factors : ∀ name, lastFactor name later = lastFactor name done)
    (bits : ∀ name, lastBits name later = lastBits name done) : panel.SetBy later where
  gain input := by rw [set.gain, factors]
  resolution input := by rw [set.resolution, bits]
  plain := set.plain

theorem ofSameSettings (set : panel.SetBy done) (same : after.SameSettings panel) :
    after.SetBy done where
  gain input := by rw [same.gain, set.gain]
  resolution input := by rw [same.resolution, set.resolution]
  plain input without := by
    rw [same.gain, same.resolution]
    exact set.plain input without

theorem modify (set : panel.SetBy done) {input : Input} (amplified : input.amplifier?.isSome)
    {change : InputState → InputState}
    (gain : (change (panel.state input)).gain.factor = lastFactor input.name later)
    (resolution : (change (panel.state input)).resolution.bits = lastBits input.name later)
    (others : ∀ other, input ≠ other → lastFactor other.name later = lastFactor other.name done ∧
      lastBits other.name later = lastBits other.name done) :
    (panel.modify input change).SetBy later where
  gain other := by
    rw [state_modify]
    split
    case isTrue same => rw [gain, same]
    case isFalse apart => rw [set.gain, (others other apart).1]
  resolution other := by
    rw [state_modify]
    split
    case isTrue same => rw [resolution, same]
    case isFalse apart => rw [set.resolution, (others other apart).2]
  plain other without := by
    have apart : input ≠ other := fun same => by
      rw [same, without] at amplified
      cases amplified
    rw [state_modify, if_neg apart]
    exact set.plain other without

theorem setGain (set : panel.SetBy done) {input : Input} (gain : Gain)
    (amplified : input.amplifier?.isSome) :
    (panel.modify input fun state => { state with gain }).SetBy
      (.setGain input.name gain.factor :: done) :=
  set.modify amplified (if_pos rfl).symm (set.resolution input) fun _ apart =>
    ⟨if_neg fun equal => apart (Input.name_injective equal), rfl⟩

theorem setResolution (set : panel.SetBy done) {input : Input} (resolution : Resolution)
    (amplified : input.amplifier?.isSome) :
    (panel.modify input fun state => { state with resolution }).SetBy
      (.setResolution input.name resolution.bits :: done) :=
  set.modify amplified (set.gain input) (if_pos rfl).symm fun _ apart =>
    ⟨rfl, if_neg fun equal => apart (Input.name_injective equal)⟩

end SetBy

theorem unplaced_start : Unplaced {} := fun input => by cases input <;> rfl

theorem Unplaced.modify {panel : Panel} (unplaced : panel.Unplaced) (input : Input)
    (change : InputState → InputState)
    (kept : ∀ state, (change state).offset = state.offset) :
    (panel.modify input change).Unplaced := fun other => by
  rw [state_modify]
  split
  · rw [kept, unplaced]
  · exact unplaced other

end Panel

/-! What the operations on the instrument at rest do. -/

namespace Device

variable {σ : Type}

def Talks {ε β : Type} (operation : Operation ε σ β) : Prop :=
  ∀ device, ∃ host, (operation.apply device).2 = { device with host }

section

variable {ε ε' β γ : Type}

private theorem talks_pure (value : β) : Talks (pure value : Operation ε σ β) :=
  fun device => ⟨device.host, rfl⟩

private theorem talks_ofExcept (wrap : ε → ε') (outcome : Except ε β) :
    Talks (ofExcept wrap outcome : Operation ε' σ β) := fun device => by
  cases outcome <;> exact ⟨device.host, rfl⟩

private theorem talks_exchange (wrap : ε → ε') (action : Exchange ε σ β) :
    Talks (exchange wrap action : Operation ε' σ β) := fun device =>
  ⟨(action.apply device.host).2, rfl⟩

theorem Talks.bind {operation : Operation ε σ β} {next : β → Operation ε σ γ}
    (first : Talks operation) (second : ∀ value, Talks (next value)) :
    Talks (operation >>= next) := fun device => by
  rcases first device with ⟨host, kept⟩
  rw [Action.apply_bind]
  rcases applied : operation.apply device with ⟨error | value, after⟩
  · rw [applied] at kept
    exact ⟨host, kept⟩
  · rw [applied] at kept
    obtain rfl : after = { device with host } := kept
    exact second value _

end

theorem setResolution_cases (name : String) (bits : UInt8) (device : Device σ) :
    (∃ error, (setResolution name bits).apply device = (.error error, device)) ∨
      ∃ input resolution, input.name = name ∧ resolution.bits = bits ∧ input.amplifier?.isSome ∧
        (setResolution name bits).apply device = (.ok (), { device with
          panel := device.panel.modify input fun state => { state with resolution } }) := by
  rw [setResolution, Action.apply_bind]
  rcases found : Channel.lookup name with error | channel
  · exact .inl ⟨_, rfl⟩
  · change (∃ error, Action.apply (_ >>= _) device = _) ∨ _
    rcases selected : device.panel.selectResolution channel bits with error | panel
    · refine .inl ⟨error, ?_⟩
      simp [Action.apply_bind, selected, ofExcept]
    · rcases Panel.selectResolution_eq_ok selected with
        ⟨input, resolution, rfl, amplified, bits_eq, rfl⟩
      refine .inr ⟨input, resolution, Channel.name_of_lookup found, bits_eq, amplified, ?_⟩
      simp [Action.apply_bind, selected, ofExcept]

variable [Link σ]

theorem talks_generateWaves (settings : Waveform.Settings Float) :
    Talks (generateWaves settings : Operation _ σ _) :=
  (talks_ofExcept _ _).bind fun _ => (talks_exchange _ _).bind fun _ => talks_pure _

theorem talks_setDigitalState (levels : List (String × Bool)) :
    Talks (setDigitalState levels : Operation _ σ _) :=
  (talks_ofExcept _ _).bind fun _ => talks_exchange _ _

theorem setGain_cases (name : String) (factor : UInt8) (device : Device σ) :
    (∃ error host, (setGain name factor).apply device = (.error error, { device with host })) ∨
      ∃ change host, change.input.name = name ∧ change.gain.factor = factor ∧
        change.input.amplifier?.isSome ∧
        (setGain name factor).apply device =
          (.ok (), { device with host, panel := device.panel.applyGain change }) := by
  rw [setGain, Action.apply_bind]
  rcases found : Channel.lookup name with error | channel
  · exact .inl ⟨_, device.host, rfl⟩
  · rcases selected : Panel.selectGain channel factor with error | change
    · refine .inl ⟨.setting error, device.host, ?_⟩
      simp [selected, ofExcept]
    · rcases Panel.selectGain_eq_ok selected with ⟨rfl, amplified, factor_eq⟩
      have amplified : change.input.amplifier?.isSome := by rw [amplified]; rfl
      have recorded := device.panel.recordGain_of_selected selected
      rcases performed : (Exchange.perform .setGain
        [.byte change.amplifier, .byte change.gain.index]).apply device.host with
        ⟨error | _, host⟩
      · refine .inl ⟨.protocol error, host, ?_⟩
        simp [selected, ofExcept, Action.apply_bind, exchange, performed, Except.mapError]
      · refine .inr ⟨change, host, Channel.name_of_lookup found, factor_eq, amplified, ?_⟩
        simp [selected, recorded, ofExcept, Action.apply_bind, exchange, performed,
          Except.mapError]

end Device

end BenchScope
