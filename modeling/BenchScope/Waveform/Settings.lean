import BenchScope.Waveform.Error
import BenchScope.Waveform.Pulse

namespace BenchScope.Waveform

/-! The waves that are asked for: one frequency for all outputs, and a pulse for each of them. -/

structure Settings (α : Type) where
  frequency : Option α
  pulses : Vector (Pulse α) 4

namespace Settings

variable {α : Type} [Scalar α]

def initial : Settings α where
  frequency := none
  pulses := Vector.replicate 4 { duty := Scalar.zero, phase := Scalar.zero }

def pulse (settings : Settings α) (output : Output) : Pulse α := settings.pulses[output.index]

def modify (settings : Settings α) (output : Output) (change : Pulse α → Pulse α) : Settings α :=
  { settings with
    pulses := settings.pulses.set output.index (change (settings.pulse output)) }

def checkRange (quantity : Quantity) (value : α) : Except (Error α) Unit :=
  if Scalar.ofNat quantity.least ≤ value ∧ value ≤ Scalar.ofNat quantity.greatest then .ok ()
  else .error (.outside quantity value)

def findOutput (name : String) : Except (Error α) Output :=
  match Channel.lookup name with
  | .error error => .error (.lookup error)
  | .ok channel =>
      match channel.asOutput with
      | .error error => .error (.lookup error)
      | .ok output => .ok output

def setFrequency (settings : Settings α) (hertz : α) : Except (Error α) (Settings α) := do
  checkRange .frequency hertz
  return { settings with frequency := some hertz }

/-- A value out of range is refused before the output is looked up. -/
def setDuty (settings : Settings α) (name : String) (percent : α) :
    Except (Error α) (Settings α) := do
  checkRange .duty percent
  let output ← findOutput name
  return settings.modify output fun pulse => { pulse with duty := percent / Scalar.ofNat 100 }

def setPhase (settings : Settings α) (name : String) (degrees : α) :
    Except (Error α) (Settings α) := do
  checkRange .phase degrees
  let output ← findOutput name
  return settings.modify output fun pulse => { pulse with phase := degrees / Scalar.ofNat 360 }

def percentDuty (settings : Settings α) (name : String) : Except (Error α) α := do
  let output ← findOutput name
  return (settings.pulse output).duty * Scalar.ofNat 100

def degreesPhase (settings : Settings α) (name : String) : Except (Error α) α := do
  let output ← findOutput name
  return (settings.pulse output).phase * Scalar.ofNat 360

end Settings

end BenchScope.Waveform
