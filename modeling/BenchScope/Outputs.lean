import BenchScope.DigitalState
import BenchScope.Waveform.Plan
import BenchScope.Wire.Exchange

namespace BenchScope

/-! Sending waves and levels to the device. -/

namespace Exchange

variable {σ : Type} [Link σ]

/-- A missing acknowledgement is an error and is noticed as well. -/
def acknowledgedOr (notice : Notice) : Exchange ProtocolError σ Unit := Action.of fun host =>
  match awaitAcknowledgement.apply host with
  | (.ok _, host) => (.ok (), host)
  | (.error error, host) => (.error error, host.note notice)

def sendWaves {α : Type} (plan : Waveform.Plan α) : Exchange ProtocolError σ Unit := do
  request .squareWaves plan.parameters
  acknowledgedOr .wavesUnacknowledged

def sendState (state : UInt8) : Exchange ProtocolError σ Unit := do
  request .setState [.byte state]
  acknowledgedOr .stateUnacknowledged

def mapError {ε ε' β : Type} (wrap : ε → ε') (action : Exchange ε σ β) : Exchange ε' σ β :=
  Action.of fun host =>
    let (result, host) := action.apply host
    (result.mapError wrap, host)

def setLevels (levels : List (Channel × Bool)) :
    Exchange (Waveform.Error Float) σ UInt8 := do
  match composeState levels with
  | .error error => throw (.lookup error)
  | .ok state =>
      mapError .protocol (sendState state)
      return state

end Exchange

end BenchScope
