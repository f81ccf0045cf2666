import BenchScope.Channel
import BenchScope.Number.Style
import BenchScope.Wire.Error

namespace BenchScope.Waveform

/-! The quantities of a square wave that can be set, with the range of each in the unit in which it
is set: hertz, per cent and degrees. -/

inductive Quantity
  | frequency | duty | phase
deriving DecidableEq, Repr

namespace Quantity

def name : Quantity → String
  | .frequency => "output frequency"
  | .duty => "duty cycle"
  | .phase => "phase"

def least : Quantity → Nat
  | .frequency => 10
  | .duty => 0
  | .phase => 0

def greatest : Quantity → Nat
  | .frequency => 10000000
  | .duty => 100
  | .phase => 360

end Quantity

/-! Why a waveform cannot be had. -/

inductive Error (α : Type)
  | ungeneratable (frequency : α) (entries : UInt32)
  | outOfRange (frequency : α)
  | outside (quantity : Quantity) (value : α)
  | frequencyNotSet
  | lookup (error : Channel.Error)
  | protocol (error : ProtocolError)

def Error.message : Error Float → String
  | .ungeneratable frequency entries =>
      s!"Invalid argument: cannot generate {NumberStyle.message.text frequency} Hz " ++
        s!"with a table of {entries} entries"
  | .outOfRange frequency =>
      s!"Invalid argument: frequency {NumberStyle.message.text frequency} Hz is out of range " ++
        "for every prescaler"
  | .outside quantity value =>
      s!"Invalid argument: {quantity.name} {NumberStyle.message.text value} " ++
        s!"outside {quantity.least}..={quantity.greatest}"
  | .frequencyNotSet => "Invalid argument: output frequency not set"
  | .lookup error => s!"Channel error: {error.message}"
  | .protocol error => s!"Protocol error: {error.message}"

end BenchScope.Waveform
