import BenchScope.Panel

namespace BenchScope

/-! Converter codes stand for volts along a straight line. Which line depends on the range of the
input, its gain and its resolution. -/

structure Calibration (α : Type) where
  slope : α
  intercept : α
  fullScale : UInt16

namespace Calibration

variable {α : Type} [Scalar α]

/-- The line from `voltsAtZero` at code zero to `voltsAtFullScale` at the highest code, both reduced
by the gain. -/
def between (voltsAtZero voltsAtFullScale : α) (gain : UInt8) (fullScale : UInt16) :
    Calibration α where
  slope := (voltsAtFullScale - voltsAtZero) / Scalar.ofNat fullScale.toNat / Scalar.ofNat gain.toNat
  intercept := voltsAtZero / Scalar.ofNat gain.toNat
  fullScale

def scale (calibration : Calibration α) (code : UInt16) : α :=
  calibration.slope * Scalar.ofNat code.toNat + calibration.intercept

def unscale (calibration : Calibration α) (volts : α) : UInt16 :=
  let code := Scalar.round ((volts - calibration.intercept) / calibration.slope)
  Scalar.toWord (Scalar.clamp Scalar.zero (Scalar.ofNat calibration.fullScale.toNat) code)

def ofPanel (panel : Panel) (input : Input) : Calibration α :=
  let state := panel.state input
  between input.voltsAtZero input.voltsAtFullScale state.gain.factor state.resolution.fullScale

end Calibration

end BenchScope
