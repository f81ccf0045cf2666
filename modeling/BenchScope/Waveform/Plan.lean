import BenchScope.Waveform.Settings
import BenchScope.Waveform.Timing
import BenchScope.Wire.Parameter

namespace BenchScope.Waveform

/-! What is sent to the device to generate the waves. -/

structure Plan (α : Type) where
  frequency : α
  wavelength : UInt16
  prescaler : UInt32
  prescalerIndex : UInt8
  duty : Vector UInt16 4
  phase : Vector UInt16 4

namespace Plan

variable {α : Type}

def ofSettings [Scalar α] (settings : Settings α) : Except (Error α) (Plan α) := do
  let some frequency := settings.frequency | throw .frequencyNotSet
  let timing ← Timing.ofFrequency frequency 1
  let ticks := settings.pulses.map fun pulse => pulse.quantize timing.wavelength
  return {
    frequency
    wavelength := timing.wavelength
    prescaler := UInt32.ofNat timing.prescaler.divisor
    prescalerIndex := timing.prescaler.index
    duty := ticks.map (·.duty)
    phase := ticks.map (·.phase) }

/-- The last tick of the period, then for each output where its pulse begins and where it ends. The
pulse of the first output begins with the period, so its beginning is not sent. -/
def words (plan : Plan α) : List UInt16 :=
  [plan.wavelength - 1, plan.duty[0], plan.phase[1], plan.duty[1], plan.phase[2], plan.duty[2],
    plan.phase[3], plan.duty[3]]

/-- The bit that makes the waves go on until they are changed. -/
def continuous : UInt8 := 0x20

def prescalerByte (plan : Plan α) : UInt8 := plan.prescalerIndex ||| continuous

def parameters (plan : Plan α) : List Parameter :=
  plan.words.map .word ++ [.byte plan.prescalerByte]

end Plan

end BenchScope.Waveform
