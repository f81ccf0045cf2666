import BenchScope.Capture.Run
import BenchScope.Proofs.Capture.Step

namespace BenchScope

/-! The course of a capture. The capture is driven by steps; between them the operator may ask for
an abort and time may pass. What the link does is up to the link. -/

inductive Event
  | step
  | abort
  | pause (nanoseconds : Nat)

namespace Stage

variable {σ : Type}

def fresh (parameters : Parameters Float) (limits : Limits) (policy : PollPolicy)
    (abortable : Bool) (panel : Panel) (host : Host σ) : Stage σ where
  capture := .fresh parameters limits policy abortable
  panel
  host

variable [Link σ]

def react (stage : Stage σ) : Event → Stage σ
  | .step => (Capture.step stage).2
  | .abort => { stage with host := stage.host.requestAbort }
  | .pause nanoseconds => { stage with host := stage.host.pause nanoseconds }

def play (stage : Stage σ) (events : List Event) : Stage σ := events.foldl react stage

@[simp] theorem play_cons (stage : Stage σ) (event : Event) (events : List Event) :
    stage.play (event :: events) = (stage.react event).play events := rfl

theorem play_append (stage : Stage σ) (first second : List Event) :
    stage.play (first ++ second) = (stage.play first).play second := List.foldl_append ..

/-- What steps keep, and what does not depend on clock and wishes, is kept all along. -/
theorem play_keeps (holds : Stage σ → Prop)
    (step : ∀ stage, holds stage → holds (Capture.step stage).2)
    (host : ∀ stage (host : Host σ), host.link = stage.host.link → holds stage →
      holds { stage with host })
    (stage : Stage σ) (events : List Event) (initial : holds stage) :
    holds (stage.play events) := by
  induction events generalizing stage with
  | nil => exact initial
  | cons event events induction =>
      apply induction
      cases event with
      | step => exact step stage initial
      | abort => exact host stage _ rfl initial
      | pause nanoseconds => exact host stage _ rfl initial

end Stage

namespace Capture

variable {σ : Type} [Link σ]

/-! A finished capture. -/

theorem step_of_finished {stage : Stage σ} (finished : stage.capture.isFinished = true) :
    step stage = (.ok stage.capture.phase, stage) := by
  rw [step, if_pos finished]

theorem play_of_finished {stage : Stage σ} (finished : stage.capture.isFinished = true)
    (events : List Event) :
    (stage.play events).capture = stage.capture ∧ (stage.play events).panel = stage.panel ∧
      (stage.play events).host.link = stage.host.link := by
  refine Stage.play_keeps (fun later => later.capture = stage.capture ∧
    later.panel = stage.panel ∧ later.host.link = stage.host.link) ?_ ?_ stage events
    ⟨rfl, rfl, rfl⟩
  · intro later kept
    rcases kept with ⟨capture, panel, link⟩
    rw [step_of_finished (by rw [capture, finished])]
    exact ⟨capture, panel, link⟩
  · intro later host same kept
    rcases kept with ⟨capture, panel, link⟩
    exact ⟨capture, panel, same.trans link⟩

/-! The first step. -/

theorem step_of_refused {stage : Stage σ} {error : CaptureError Float}
    (phase : stage.capture.phase = .configuring) (goesOn : stage.aborting = false)
    (refused : stage.capture.parameters.validate stage.panel stage.capture.limits = .error error) :
    step stage = (.error error, fail error stage) := by
  have worked : configure.apply stage = (.error error, stage) := by
    simp [configure, Action.apply_bind, refused]
  rw [step, isFinished_of_phase phase, goesOn, phase, work, worked]
  rfl

def second (parameters : Parameters Float) : Phase :=
  if parameters.isTriggered then .triggering else .capturing

theorem step_of_configured {stage : Stage σ} {sampling : Sampling}
    (phase : stage.capture.phase = .configuring) (goesOn : stage.aborting = false)
    (valid : stage.capture.parameters.validate stage.panel stage.capture.limits = .ok sampling) :
    step stage = (.ok (second stage.capture.parameters),
      { stage with
        capture := { stage.capture with
          sampling, cursor := 0, samples := [], phase := second stage.capture.parameters }
        panel := stage.panel.configure stage.capture.parameters.channels }) := by
  have worked : configure.apply stage = (.ok (second stage.capture.parameters), { stage with
      capture := { stage.capture with sampling, cursor := 0, samples := [] }
      panel := stage.panel.configure stage.capture.parameters.channels }) := by
    simp only [configure, Action.apply_bind, Action.apply_get, valid]
    rfl
  rw [step, isFinished_of_phase phase, goesOn, phase, work, worked]
  rfl

theorem isFinished_second (parameters : Parameters Float) :
    (second parameters).isFinished = false := by
  rw [second]
  split <;> rfl

/-! Runs are made of steps. -/

theorem phase_of_step {stage after : Stage σ} {next : Phase}
    (stepped : step stage = (.ok next, after)) :
    after.capture.phase = next := by
  have possible := stepped_step stage
  rw [stepped] at possible
  cases possible with
  | rested => rfl
  | advanced => rfl

theorem phase_of_failed_step {stage after : Stage σ} {error : CaptureError Float}
    (stepped : step stage = (.error error, after)) : after.capture.phase = .aborted := by
  have possible := stepped_step stage
  rw [stepped] at possible
  cases possible <;> rfl

structure Leads (steps : Nat) (stage after : Stage σ) : Prop where
  runs (more : Nat) : runFor (steps + more) stage = runFor more after
  plays : stage.play (List.replicate steps .step) = after

theorem leads_of_step {stage after : Stage σ} {next : Phase}
    (stepped : step stage = (.ok next, after))
    (unfinished : next.isFinished = false) : Leads 1 stage after where
  runs more := by
    rw [Nat.add_comm, runFor, stepped]
    cases next <;> first | rfl | simp [Phase.isFinished] at unfinished
  plays := by
    rw [List.replicate_one, Stage.play_cons, Stage.react, stepped]
    rfl

theorem Leads.trans {first second : Nat} {stage middle after : Stage σ}
    (left : Leads first stage middle) (right : Leads second middle after) :
    Leads (first + second) stage after where
  runs more := by rw [Nat.add_assoc, left.runs, right.runs]
  plays := by
    rw [← List.replicate_append_replicate, Stage.play_append, left.plays, right.plays]

theorem runFor_eq_play (steps : Nat) (stage : Stage σ) :
    ∃ count, (runFor steps stage).2 = stage.play (List.replicate count .step) := by
  induction steps generalizing stage with
  | zero => exact ⟨0, rfl⟩
  | succ steps induction =>
      have once : (step stage).2 = stage.play (List.replicate 1 .step) := rfl
      rw [runFor]
      split
      case h_4 next after _ _ stepped =>
        rcases induction after with ⟨count, equal⟩
        refine ⟨count + 1, equal.trans ?_⟩
        rw [List.replicate_succ, Stage.play_cons, Stage.react, stepped]
      all_goals exact ⟨1, by rw [← once, ‹step stage = _›]⟩

theorem idle_of_runFor {steps : Nat} {stage final : Stage σ}
    (ran : runFor steps stage = (.completed, final)) : final.capture.phase = .idle := by
  induction steps generalizing stage with
  | zero => simp [runFor] at ran
  | succ steps induction =>
      rw [runFor] at ran
      split at ran
      case h_2 after stepped =>
        obtain rfl : after = final := by simpa using ran
        exact phase_of_step stepped
      case h_4 => exact induction ran
      all_goals simp at ran

theorem step_of_runFor {steps : Nat} {stage final : Stage σ} {error : CaptureError Float}
    (ran : runFor steps stage = (.failed error, final)) (genuine : error ≠ .aborted) :
    ∃ count, step (stage.play (List.replicate count .step)) = (.error error, final) := by
  induction steps generalizing stage with
  | zero => simp [runFor] at ran
  | succ steps induction =>
      rw [runFor] at ran
      split at ran
      case h_1 reason after stepped =>
        rcases by simpa using ran with ⟨rfl, rfl⟩
        exact ⟨0, stepped⟩
      case h_2 => simp at ran
      case h_3 =>
        rcases by simpa using ran with ⟨rfl, -⟩
        exact absurd rfl genuine
      case h_4 next after _ _ stepped =>
        rcases induction ran with ⟨count, equal⟩
        refine ⟨count + 1, ?_⟩
        rw [List.replicate_succ, Stage.play_cons, Stage.react, stepped]
        exact equal

end Capture

end BenchScope
