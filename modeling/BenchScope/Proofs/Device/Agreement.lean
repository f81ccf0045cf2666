import BenchScope.Device.Capturing
import BenchScope.Link.Script
import BenchScope.Link.Traced
import BenchScope.Proofs.Capture.Delivery
import BenchScope.Proofs.Capture.Pairs

namespace BenchScope

/-! There are two ways to capture: from beginning to end at once, which nobody can abort, and step
by step. As long as nobody asks for an abort they come to the same. -/

/-! Links on which nobody asks for an abort. -/

structure Calm {σ : Type} [Link σ] (calm : σ → Prop) : Prop where
  write (bytes : List UInt8) (link : σ) : calm link →
    (Link.write bytes link).1.abort = false ∧ calm (Link.write bytes link).2
  read (count : Nat) (link : σ) : calm link →
    (Link.read count link).1.abort = false ∧ calm (Link.read count link).2

namespace Script

private theorem take_of_calm (wanted : Nat) (items : List Item) (calm : Item.abort ∉ items) :
    (take wanted items).outcome.abort = false ∧ Item.abort ∉ (take wanted items).rest := by
  induction items generalizing wanted with
  | nil => cases wanted <;> exact ⟨rfl, calm⟩
  | cons item items induction =>
      have calmRest : Item.abort ∉ items := fun member => calm (List.mem_cons_of_mem _ member)
      cases item with
      | abort => exact absurd List.mem_cons_self calm
      | byte value =>
          cases wanted with
          | zero => exact ⟨rfl, calm⟩
          | succ wanted => exact induction wanted calmRest
      | stall nanoseconds =>
          cases wanted with
          | zero => exact ⟨rfl, calm⟩
          | succ wanted => exact induction (wanted + 1) calmRest
      | gap | failure error =>
          cases wanted with
          | zero => exact ⟨rfl, calm⟩
          | succ wanted => exact ⟨rfl, calmRest⟩

theorem calm : Calm fun script : Script => Item.abort ∉ script.incoming where
  write bytes script calm := by
    change (write bytes script).1.abort = false ∧ Item.abort ∉ (write bytes script).2.incoming
    rw [write]
    split
    · exact ⟨rfl, calm⟩
    · split <;> exact ⟨rfl, calm⟩
  read count script calm := take_of_calm count script.incoming calm

end Script

/-- What is asked of a calm link is the same when it is recorded. -/
theorem Calm.traced {σ : Type} [Link σ] {calm : σ → Prop} (quiet : Calm calm) :
    Calm fun traced : Traced σ => calm traced.link where
  write bytes traced calm := quiet.write bytes traced.link calm
  read count traced calm := quiet.read count traced.link calm

namespace Capture

open Exchange BenchScope.Action

variable {σ : Type} [Link σ] {calm : σ → Prop}

/-! Nobody asks the one host for an abort. The other one may have been asked during an earlier
capture, which does not matter to a capture that nobody can abort. -/

/-- The hosts differ at most in a wish to abort that the left one has been left with. -/
def Unasked (calm : σ → Prop) (left right : Host σ) : Prop :=
  calm left.link ∧ right = left.withdrawAbort

omit [Link σ] in
theorem withdrawAbort_after {β : Type} (host : Host σ) {outcome : Outcome β} (link : σ)
    (quiet : outcome.abort = false) :
    host.withdrawAbort.after outcome link = (host.after outcome link).withdrawAbort := by
  simp only [Host.after, Host.withdrawAbort, quiet, Bool.or_false]

theorem lockstep_unasked (quiet : Calm calm) : Lockstep (Unasked calm) where
  write bytes left right same := by
    rcases same with ⟨state, rfl⟩
    rcases quiet.write bytes left.link state with ⟨silent, later⟩
    exact ⟨rfl, later, withdrawAbort_after left _ silent⟩
  read count left right same := by
    rcases same with ⟨state, rfl⟩
    rcases quiet.read count left.link state with ⟨silent, later⟩
    exact ⟨rfl, later, withdrawAbort_after left _ silent⟩
  note notice left right same := by
    rcases same with ⟨state, rfl⟩
    exact ⟨state, rfl⟩
  pause nanoseconds left right same := by
    rcases same with ⟨state, rfl⟩
    exact ⟨state, rfl⟩
  clock left right same := by
    rcases same with ⟨-, rfl⟩
    rfl

private theorem readSamples_of_unasked (quiet : Calm calm) (calibration : Calibration Float)
    (abortable : Bool) (count : Nat) (taken : List Float) {left right : Host σ}
    (same : Unasked calm left right) :
    (readSamples calibration false count taken left).1 =
        (readSamples calibration abortable count taken right).1 ∧
      Unasked calm (readSamples calibration false count taken left).2
        (readSamples calibration abortable count taken right).2 := by
  induction count generalizing taken left right with
  | zero => exact ⟨rfl, same⟩
  | succ count induction =>
      have goesOn : (abortable && right.abortRequested) = false := by
        rcases same with ⟨-, rfl⟩
        exact Bool.and_false abortable
      rcases (lockstep_unasked quiet).read 2 left right same with ⟨results, later⟩
      rw [readSamples, readSamples, Bool.false_and, goesOn, reads_readWord left,
        reads_readWord right, results]
      simp only [Bool.false_eq_true, if_false]
      generalize answer wordOf (Link.read 2 right.link).1.result = heard
      rcases heard with error | code
      · cases error <;> exact ⟨rfl, later⟩
      · exact induction _ later

/-! The captures stay side by side, step by step and in runs. -/

variable {left right : Stage σ}

theorem matching_step_of_unasked (quiet : Calm calm) (paired : Paired (Unasked calm) left right)
    (fixed : left.capture.abortable = false) :
    Matching (Unasked calm) (step left) (step right) := by
  have lockstep := lockstep_unasked quiet
  have leftGoesOn : left.aborting = false := by rw [Stage.aborting, fixed, Bool.false_and]
  have rightGoesOn : right.aborting = false := by
    have unasked : right.host.abortRequested = false := by
      rw [paired.host.2]
      rfl
    rw [Stage.aborting, unasked, Bool.and_false]
  refine matching_step lockstep paired (fun _ => ?_) leftGoesOn rightGoesOn
  intro input offset leftAsked rightAsked _ _ same
  rcases paired with ⟨capture, abortable, panel, -⟩
  rw [readInput, readInput, fixed]
  exact readSamples_of_unasked quiet _ _ _ _ same

theorem runFor_of_unasked (quiet : Calm calm) (steps : Nat)
    (paired : Paired (Unasked calm) left right) (fixed : left.capture.abortable = false) :
    (runFor steps left).1 = (runFor steps right).1 ∧
      Paired (Unasked calm) (runFor steps left).2 (runFor steps right).2 := by
  induction steps generalizing left right with
  | zero => exact ⟨rfl, paired⟩
  | succ steps induction =>
      have kept := (inherits_step left).abortable.trans fixed
      rcases matching_step_of_unasked quiet paired fixed with ⟨results, later⟩
      rcases leftStepped : step left with ⟨result, leftAfter⟩
      rcases rightStepped : step right with ⟨other, rightAfter⟩
      rw [leftStepped, rightStepped] at results later
      rw [leftStepped] at kept
      obtain rfl : result = other := results
      rw [runFor, runFor, leftStepped, rightStepped]
      rcases result with error | next
      · exact ⟨rfl, later⟩
      · cases next with
        | idle | aborted => exact ⟨rfl, later⟩
        | _ => exact induction later kept

theorem runFor_of_ended {steps more : Nat} {stage : Stage σ}
    (ended : (runFor steps stage).1 ≠ .unfinished) (longer : steps ≤ more) :
    runFor more stage = runFor steps stage := by
  induction steps generalizing stage more with
  | zero => exact absurd rfl ended
  | succ steps induction =>
      rcases Nat.exists_eq_add_of_le' longer with ⟨rest, rfl⟩
      rw [← Nat.add_assoc, runFor, runFor]
      rw [runFor] at ended
      rcases stepped : step stage with ⟨result, after⟩
      rw [stepped] at ended
      rcases result with error | next
      · rfl
      · cases next with
        | idle | aborted => rfl
        | _ => exact induction ended (Nat.le_add_left steps rest)

end Capture

/-! The two ways to capture, with as many steps as one likes. -/

variable {σ : Type}

namespace Device

def unasked (device : Device σ) : Device σ := { device with host := device.host.withdrawAbort }

end Device

namespace Capturing

namespace Progress

def result? : Progress σ → Option (Except CaptureFailure Reading)
  | .pending _ => none
  | .completed reading _ => some (.ok reading)
  | .failed failure _ => some (.error failure)

def device : Progress σ → Device σ
  | .pending capturing => capturing.device
  | .completed _ device | .failed _ device => device

structure Agree (left right : Progress σ) : Prop where
  result : left.result? = right.result?
  device : left.device.unasked = right.device.unasked

end Progress

variable [Link σ]

def waitFor (steps : Nat) (capturing : Capturing σ) : Progress σ :=
  let (ending, stage) := Capture.runFor steps capturing.stage
  (capturing.withStage stage).ended ending

def tryFor : Nat → Capturing σ → Progress σ
  | 0, capturing => .pending capturing
  | tries + 1, capturing =>
      match capturing.tryResult with
      | .pending capturing => tryFor tries capturing
      | ended => ended

theorem waitFor_eq (steps : Nat) (capturing : Capturing σ) :
    capturing.waitFor steps =
      (capturing.withStage (Capture.runFor steps capturing.stage).2).ended
        (Capture.runFor steps capturing.stage).1 := rfl

private theorem tryFor_eq_waitFor (steps : Nat) (capturing : Capturing σ) :
    capturing.tryFor steps = capturing.waitFor steps := by
  induction steps generalizing capturing with
  | zero => rfl
  | succ steps induction =>
      rw [tryFor, tryResult, waitFor, Capture.runFor, Capture.runFor]
      rcases stepped : Capture.step capturing.stage with ⟨result, after⟩
      rcases result with error | next
      · rfl
      · cases next with
        | idle | aborted => rfl
        | _ => exact induction (capturing.withStage after)

theorem wait_eq_waitFor {σ : Type} [FiniteLink σ] (capturing : Capturing σ) :
    capturing.wait = capturing.waitFor (Capture.stepBound capturing.stage) := rfl

private theorem waitFor_of_ended {steps more : Nat} {capturing : Capturing σ}
    (ended : (capturing.waitFor steps).result? ≠ none) (longer : steps ≤ more) :
    capturing.waitFor more = capturing.waitFor steps := by
  have finished : (Capture.runFor steps capturing.stage).1 ≠ .unfinished := by
    intro unfinished
    rw [waitFor_eq, unfinished] at ended
    exact ended rfl
  rw [waitFor_eq, waitFor_eq, Capture.runFor_of_ended finished longer]

end Capturing

namespace Device

open Capture Capturing

def captureFor [Link σ] (device : Device σ) (parameters : Parameters Float) (steps : Nat) :
    Capturing.Progress σ :=
  (device.withCapture parameters false).waitFor steps

theorem captureNow_eq_captureFor [FiniteLink σ] (device : Device σ)
    (parameters : Parameters Float) :
    device.captureNow parameters =
      device.captureFor parameters (stepBound (device.withCapture parameters false).stage) := rfl

private theorem agree_ended {calm : σ → Prop} (device : Device σ) (parameters : Parameters Float)
    {left right : Stage σ} (paired : Paired (Unasked calm) left right) (ending : Ending) :
    (((device.withCapture parameters false).withStage left).ended ending).Agree
      (((device.withCapture parameters true).withStage right).ended ending) := by
  rcases paired with ⟨capture, abortable, panel, ⟨-, rfl⟩⟩
  cases ending <;> exact ⟨rfl, rfl⟩

private theorem paired_withCapture {calm : σ → Prop} (device : Device σ)
    (parameters : Parameters Float) (state : calm device.host.link) :
    Paired (Unasked calm) (device.withCapture parameters false).stage
      (device.withCapture parameters true).stage :=
  .mk (.fresh parameters device.limits device.policy false) true device.panel ⟨state, rfl⟩

section

variable [Link σ]

structure RefusedAlike (device : Device σ) (parameters : Parameters Float)
    (error : CaptureError Float) (after : Device σ) : Prop where
  invalid : parameters.validate device.panel device.limits = .error error
  fails (steps : Nat) : ∃ failure left,
    device.captureFor parameters (steps + 1) = .failed failure left ∧ failure.error = error ∧
      failure.reading.frames = [] ∧ left.unasked = after.unasked

structure StartedAlike (device : Device σ) (parameters : Parameters Float)
    (capturing : Capturing σ) : Prop where
  valid : ∃ sampling, parameters.validate device.panel device.limits = .ok sampling
  agree (steps : Nat) : (device.captureFor parameters (steps + 1)).Agree (capturing.waitFor steps)
  tries (steps : Nat) : capturing.tryFor steps = capturing.waitFor steps

variable {calm : σ → Prop} {device : Device σ} {parameters : Parameters Float}

theorem startCapture_of_refused {error : CaptureError Float}
    (refused : parameters.validate device.panel device.limits = .error error) :
    device.startCapture parameters = .refused error
      ((device.withCapture parameters true).withStage
        (fail error (device.withCapture parameters true).stage)).device := by
  rw [startCapture, step_of_refused rfl rfl refused]

private theorem startCapture_of_valid {sampling : Sampling}
    (valid : parameters.validate device.panel device.limits = .ok sampling) :
    ∃ after, device.startCapture parameters =
        .capturing ((device.withCapture parameters true).withStage after) ∧
      step (device.withCapture parameters true).stage = (.ok (second parameters), after) ∧
      after.host = device.host.withdrawAbort ∧ after.capture.parameters = parameters := by
  have stepped : step (device.withCapture parameters true).stage = _ :=
    step_of_configured rfl rfl valid
  exact ⟨_, by rw [startCapture, stepped], stepped, rfl, rfl⟩

theorem refusedAlike {error : CaptureError Float}
    (refused : parameters.validate device.panel device.limits = .error error) :
    RefusedAlike device parameters error
      ((device.withCapture parameters true).withStage
        (fail error (device.withCapture parameters true).stage)).device where
  invalid := refused
  fails steps := by
    have stepped : step (device.withCapture parameters false).stage = _ :=
      step_of_refused rfl rfl refused
    have ran := Capturing.waitFor_eq (steps + 1) (device.withCapture parameters false)
    rw [runFor, stepped] at ran
    refine ⟨_, _, ran, rfl, ?_, rfl⟩
    cases error <;> rfl

theorem startedAlike (quiet : Calm calm) (state : calm device.host.link) {sampling : Sampling}
    (valid : parameters.validate device.panel device.limits = .ok sampling) {after : Stage σ}
    (stepped : step (device.withCapture parameters true).stage = (.ok (second parameters), after)) :
    StartedAlike device parameters ((device.withCapture parameters true).withStage after) where
  valid := ⟨sampling, valid⟩
  tries := fun steps => tryFor_eq_waitFor steps _
  agree steps := by
    have paired := paired_withCapture device parameters state
    rcases runFor_of_unasked quiet (steps + 1) paired rfl with ⟨endings, later⟩
    have goesOn := (leads_of_step stepped (isFinished_second parameters)).runs steps
    rw [Nat.add_comm] at goesOn
    rw [goesOn] at endings later
    have agree := agree_ended device parameters later (runFor steps after).1
    rw [captureFor, Capturing.waitFor_eq, endings]
    exact agree

end

/-- What becomes of a capture on a link on which nobody asks for an abort. The link may be one that
keeps a record of its calls, so that the calls are the same as well. -/
theorem captures_agree [FiniteLink σ] {calm : σ → Prop} (quiet : Calm calm)
    (device : Device (Traced σ)) (parameters : Parameters Float)
    (state : calm device.host.link.link) :
    match device.startCapture parameters with
    | .refused error after =>
        RefusedAlike device parameters error after ∧
          ∃ failure left, device.captureNow parameters = .failed failure left ∧
            failure.error = error ∧ failure.reading.frames = [] ∧ left.unasked = after.unasked
    | .capturing capturing =>
        StartedAlike device parameters capturing ∧
          ((device.captureNow parameters).result? ≠ none →
            (device.captureNow parameters).Agree capturing.wait) := by
  cases valid : parameters.validate device.panel device.limits with
  | error error =>
      rw [startCapture_of_refused valid]
      exact ⟨refusedAlike valid, (refusedAlike valid).fails _⟩
  | ok sampling =>
      rcases startCapture_of_valid valid with ⟨after, started, stepped, host, kept⟩
      have alike := startedAlike quiet.traced state valid stepped
      rw [started]
      refine ⟨alike, fun ended => ?_⟩
      rw [captureNow_eq_captureFor] at ended ⊢
      have agree := alike.agree (stepBound (device.withCapture parameters false).stage)
      have bounds : stepBound after = stepBound (device.withCapture parameters false).stage := by
        rw [stepBound, host, Capture.channels, kept]
        rfl
      rw [captureFor, Capturing.waitFor_of_ended ended (Nat.le_succ _)] at agree
      rw [← bounds] at agree ⊢
      exact agree

def shortDevice : Device (Traced Script) where
  version := "PSLab V6"
  limits := { minSamples := 2 }
  host := shortHost.traced

theorem captures_agree_short :
    Script.Item.abort ∉ shortDevice.host.link.link.incoming ∧
      ∃ capturing, shortDevice.startCapture shortParameters = .capturing capturing ∧
        (shortDevice.captureNow shortParameters).result? ≠ none ∧
        (shortDevice.captureNow shortParameters).Agree capturing.wait := by
  have calm : Script.Item.abort ∉ shortDevice.host.link.link.incoming := by decide
  have valid : shortParameters.validate shortDevice.panel shortDevice.limits = .ok ⟨.two, 80⟩ := by
    rfl
  have ended : (shortDevice.captureNow shortParameters).result? ≠ none :=
    Option.isSome_iff_ne_none.mp (by decide +kernel)
  have agree := captures_agree Script.calm shortDevice shortParameters calm
  rcases startCapture_of_valid valid with ⟨after, started, -⟩
  rw [started] at agree
  exact ⟨calm, _, started, ended, agree.2 ended⟩

end Device

end BenchScope
