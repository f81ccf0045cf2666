import BenchScope.Number.Scalar

namespace BenchScope.Waveform

/-! The pulse of one output: how long it is high and when it begins, both as fractions of the
period. The device takes the tick at which the pulse ends and the tick at which it begins. -/

structure Pulse (α : Type) where
  duty : α
  phase : α
deriving DecidableEq, Repr

structure PulseTicks where
  duty : UInt16
  phase : UInt16
deriving DecidableEq, Repr

/-- The device counts a position from one less, and nothing comes before zero. -/
def lessOne (position : UInt16) : UInt16 := if position = 0 then 0 else position - 1

variable {α : Type} [Scalar α]

def longestDuty (wavelength : UInt16) : α :=
  Scalar.one - Scalar.one / Scalar.ofNat (max wavelength.toNat 1)

/-- The pulse in ticks of a period of `wavelength` ticks. A pulse that is to be seen at all ends at
tick one or later. -/
def Pulse.quantize (pulse : Pulse α) (wavelength : UInt16) : PulseTicks :=
  let period : α := Scalar.ofNat wavelength.toNat
  let duty := Scalar.clamp Scalar.zero (longestDuty wavelength) pulse.duty
  let phase := Scalar.clamp Scalar.zero Scalar.one pulse.phase
  let finish := lessOne (Scalar.toWord (Scalar.fractional (duty + phase) * period))
  { duty := if Scalar.zero < duty ∧ finish = 0 then 1 else finish
    phase := lessOne (Scalar.toWord (Scalar.fractional phase * period)) }

end BenchScope.Waveform
