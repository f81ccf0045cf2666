import BenchScope.Proofs.Device.Order

namespace BenchScope.Device

open Capture

/-! What starting a capture does to the instrument. The parameters are checked before anything else
is done, so that those that are refused leave no trace but a notice for the operator. -/

variable {σ : Type}

/-- The same instrument, on whose link nothing has been done and for which no time has passed. A
link under observation has the record of its calls as a part. -/
structure Silent (before after : Device σ) : Prop extends before.Same after where
  link : after.host.link = before.host.link
  clock : after.host.clock = before.host.clock

structure Untouched (before after : Device σ) : Prop extends before.Silent after where
  panel : after.panel = before.panel

structure Chosen (before : Device σ) (channels : List Channel) (after : Device σ) : Prop
    extends before.Silent after where
  settings : after.panel.SameSettings before.panel
  enabled : after.panel.enabled = channels
  unplaced : after.panel.Unplaced

variable (device : Device σ) (parameters : Parameters Float)

private theorem untouched_fail (abortable : Bool) (error : CaptureError Float) :
    device.Untouched ((device.withCapture parameters abortable).withStage
      (fail error (device.withCapture parameters abortable).stage)).device := by
  cases abortable <;> exact ⟨⟨⟨rfl, rfl, rfl⟩, rfl, rfl⟩, rfl⟩

private theorem reading_fail (abortable : Bool) (error : CaptureError Float) :
    (fail error (device.withCapture parameters abortable).stage).capture.reading =
      ⟨parameters.rate, []⟩ := by
  have frames :
      (fail error (device.withCapture parameters abortable).stage).capture.frames = [] := by
    cases error <;> rfl
  rw [reading, frames]
  rfl

section

variable [Link σ] {device parameters}

private theorem captureFor_of_refused {error : CaptureError Float}
    (refused : parameters.validate device.panel device.limits = .error error) (steps : Nat) :
    ∃ after, device.captureFor parameters (steps + 1) =
      .failed ⟨⟨parameters.rate, []⟩, error⟩ after ∧ device.Untouched after := by
  have stepped : step (device.withCapture parameters false).stage = _ :=
    step_of_refused rfl rfl refused
  have ran := Capturing.waitFor_eq (steps + 1) (device.withCapture parameters false)
  rw [runFor, stepped] at ran
  refine ⟨_, ?_, device.untouched_fail parameters false error⟩
  rw [← device.reading_fail parameters false error]
  exact ran

theorem startCapture_of_accepted {sampling : Sampling}
    (valid : parameters.validate device.panel device.limits = .ok sampling) :
    ∃ capturing, device.startCapture parameters = .capturing capturing ∧
      device.Chosen parameters.channels capturing.device := by
  have stepped : step (device.withCapture parameters true).stage = _ :=
    step_of_configured rfl rfl valid
  refine ⟨_, by rw [startCapture, stepped], ⟨⟨rfl, rfl, rfl⟩, rfl, rfl⟩, ?settings, rfl, ?unplaced⟩
  case settings => exact device.panel.sameSettings_configure parameters.channels
  case unplaced => exact device.panel.unplaced_configure parameters.channels

end

/-- The check alone decides. Parameters that it refuses are refused in both ways of capturing, with
the error of the check, and leave the instrument untouched; parameters that it accepts always start
a capture, and only the choice of the channels is new. Neither takes a call on the link. -/
theorem untouched_or_chosen [FiniteLink σ] (device : Device (Traced σ))
    (parameters : Parameters Float) :
    match parameters.validate device.panel device.limits with
    | .error error =>
        (∃ after, device.startCapture parameters = .refused error after ∧ device.Untouched after) ∧
          ∃ after, device.captureNow parameters = .failed ⟨⟨parameters.rate, []⟩, error⟩ after ∧
            device.Untouched after
    | .ok _ =>
        ∃ capturing, device.startCapture parameters = .capturing capturing ∧
          device.Chosen parameters.channels capturing.device := by
  cases valid : parameters.validate device.panel device.limits with
  | error error =>
      refine ⟨⟨_, startCapture_of_refused valid, device.untouched_fail parameters true error⟩, ?_⟩
      rw [captureNow_eq_captureFor]
      exact captureFor_of_refused valid _
  | ok sampling => exact startCapture_of_accepted valid

end BenchScope.Device
