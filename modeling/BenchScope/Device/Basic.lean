import BenchScope.Outputs

namespace BenchScope

/-! The instrument at rest: what it is, how it is set, and the host that talks to it. -/

structure Device (σ : Type) where
  version : String
  limits : Limits := {}
  policy : PollPolicy := {}
  panel : Panel := {}
  host : Host σ

inductive GainError
  | setting (error : Panel.SettingError)
  | protocol (error : ProtocolError)
  | lookup (error : Channel.Error)
deriving DecidableEq, Repr

def GainError.message : GainError → String
  | .setting error => s!"Calibration error: {error.message}"
  | .protocol error => s!"Protocol error: {error.message}"
  | .lookup error => s!"Channel error: {error.message}"

namespace Device

abbrev Operation (ε σ β : Type) := Action ε (Device σ) β

variable {σ : Type}

def ofExcept {ε ε' β : Type} (wrap : ε → ε') : Except ε β → Operation ε' σ β
  | .ok value => pure value
  | .error error => throw (wrap error)

def exchange {ε ε' β : Type} (wrap : ε → ε') (action : Exchange ε σ β) : Operation ε' σ β :=
  Action.of fun device =>
    let (result, host) := action.apply device.host
    (result.mapError wrap, { device with host })

/-- The setting takes effect when the device has acknowledged it, and not otherwise. -/
def setGain [Link σ] (name : String) (factor : UInt8) : Operation GainError σ Unit := do
  let channel ← ofExcept .lookup (Channel.lookup name)
  let change ← ofExcept .setting (Panel.selectGain channel factor)
  exchange .protocol
    (Exchange.perform .setGain [.byte change.amplifier, .byte change.gain.index])
  let device ← get
  let panel ← ofExcept .setting (device.panel.recordGain channel factor)
  modify fun device => { device with panel }

/-- The resolution concerns the reading of codes only; the device is not told. -/
def setResolution (name : String) (bits : UInt8) : Operation Panel.SettingError σ Unit := do
  let channel ← ofExcept .unknown (Channel.lookup name)
  let device ← get
  let panel ← ofExcept id (device.panel.selectResolution channel bits)
  modify fun device => { device with panel }

variable [Link σ]

def generateWaves (settings : Waveform.Settings Float) :
    Operation (Waveform.Error Float) σ (Waveform.Plan Float) := do
  let plan ← ofExcept id (Waveform.Plan.ofSettings settings)
  exchange .protocol (Exchange.sendWaves plan)
  return plan

def lookupLevels : List (String × Bool) → Except Channel.Error (List (Channel × Bool))
  | [] => .ok []
  | (name, high) :: rest => do
      let channel ← Channel.lookup name
      let others ← lookupLevels rest
      return (channel, high) :: others

/-- An unknown name anywhere in the list comes before a channel that is no output. -/
def setDigitalState (levels : List (String × Bool)) :
    Operation (Waveform.Error Float) σ UInt8 := do
  let levels ← ofExcept .lookup (lookupLevels levels)
  exchange id (Exchange.setLevels levels)

end Device

end BenchScope
