import BenchScope.Capture.Run
import BenchScope.Device.Basic

namespace BenchScope

/-! The instrument during a capture. A capture takes the instrument and gives it back when it ends,
whichever way it ends. -/

structure Capturing (σ : Type) where
  device : Device σ
  capture : Capture

structure CaptureFailure where
  reading : Reading
  error : CaptureError Float

def CaptureFailure.message (failure : CaptureFailure) : String :=
  s!"Capture failed after {failure.reading.frames.length} frame(s): {failure.error.message}"

inductive Capturing.Progress (σ : Type)
  | pending (capturing : Capturing σ)
  | completed (reading : Reading) (device : Device σ)
  | failed (failure : CaptureFailure) (device : Device σ)

namespace Capturing

variable {σ : Type}

def stage (capturing : Capturing σ) : Stage σ where
  capture := capturing.capture
  panel := capturing.device.panel
  host := capturing.device.host

def withStage (capturing : Capturing σ) (stage : Stage σ) : Capturing σ where
  device := { capturing.device with panel := stage.panel, host := stage.host }
  capture := stage.capture

def ended (capturing : Capturing σ) : Capture.Ending → Progress σ
  | .completed => .completed capturing.capture.reading capturing.device
  | .failed error => .failed ⟨capturing.capture.reading, error⟩ capturing.device
  | .unfinished => .pending capturing

section

variable [Link σ]

def tryResult (capturing : Capturing σ) : Progress σ :=
  let (ending, stage) := Capture.runFor 1 capturing.stage
  (capturing.withStage stage).ended ending

def cancel (capturing : Capturing σ) : Reading × Device σ :=
  let stage := capturing.stage
  let (_, stage) := Capture.step { stage with host := stage.host.requestAbort }
  let cancelled := capturing.withStage stage
  (cancelled.capture.reading, cancelled.device)

end

def abort (capturing : Capturing σ) : Capturing σ :=
  { capturing with
    device := { capturing.device with host := capturing.device.host.requestAbort } }

def wait [FiniteLink σ] (capturing : Capturing σ) : Progress σ :=
  let (ending, stage) := Capture.run capturing.stage
  (capturing.withStage stage).ended ending

end Capturing

namespace Device

variable {σ : Type}

/-- The instrument with a capture that has done nothing yet. Wishes to abort an earlier capture do
not count any more. -/
def withCapture (device : Device σ) (parameters : Parameters Float) (abortable : Bool) :
    Capturing σ where
  device := if abortable then { device with host := device.host.withdrawAbort } else device
  capture := .fresh parameters device.limits device.policy abortable

inductive Started (σ : Type)
  | capturing (capturing : Capturing σ)
  | refused (error : CaptureError Float) (device : Device σ)

/-- Start a capture that is driven step by step. Refused parameters leave the instrument at rest. -/
def startCapture [Link σ] (device : Device σ) (parameters : Parameters Float) : Started σ :=
  let capturing := device.withCapture parameters true
  match Capture.step capturing.stage with
  | (.ok _, stage) => .capturing (capturing.withStage stage)
  | (.error error, stage) => .refused error (capturing.withStage stage).device

def captureNow [FiniteLink σ] (device : Device σ) (parameters : Parameters Float) :
    Capturing.Progress σ :=
  (device.withCapture parameters false).wait

end Device

end BenchScope
