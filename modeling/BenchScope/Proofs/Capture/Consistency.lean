import BenchScope.Proofs.Capture.Invariant

namespace BenchScope.Capture

/-! What can be relied on between two steps of a capture, whatever the link and the operator have
done so far. -/

variable {σ : Type}

def Settled (stage : Stage σ) : Prop :=
  stage.capture.phase ≠ .configuring ∧ (stage.capture.phase = .aborted → stage.panel.Unplaced)

private theorem settled_fail {stage : Stage σ} (later : stage.capture.phase ≠ .configuring)
    (error : CaptureError Float) : Settled (fail error stage) := by
  refine ⟨by simp [fail], fun _ => ?_⟩
  rw [fail, if_neg later]
  exact stage.panel.unplaced_clearOffsets

variable [Link σ]

theorem phase_worked {stage : Stage σ} {outcome : Except (CaptureError Float) Phase × Stage σ}
    (worked : Worked stage outcome) : outcome.2.capture.phase = stage.capture.phase := by
  cases worked <;> rfl

theorem next_worked {stage : Stage σ} {outcome : Except (CaptureError Float) Phase × Stage σ}
    {next : Phase} (worked : Worked stage outcome) (succeeded : outcome.1 = .ok next) :
    next ≠ .configuring ∧ next ≠ .aborted := by
  cases worked with
  | configured =>
      cases succeeded
      split <;> simp
  | @retrieved _ _ _ _ finish => cases finish <;> cases succeeded <;> simp
  | _ => cases succeeded <;> simp

theorem settled_step {stage : Stage σ} (settled : Settled stage) : Settled (step stage).2 := by
  rcases equal : step stage with ⟨result, after⟩
  have stepped := stepped_step stage
  rw [equal] at stepped
  cases stepped with
  | rested => exact settled
  | stopped => exact settled_fail settled.1 .aborted
  | advanced _ _ worked =>
      rcases next_worked worked rfl with ⟨notConfiguring, notAborted⟩
      exact ⟨notConfiguring, fun aborted => absurd aborted notAborted⟩
  | failed _ _ worked => exact settled_fail (by rw [phase_worked worked]; exact settled.1) _

/-! The invariant as it can be read off a capture. -/

structure Consistent (parameters : Parameters Float) (stage : Stage σ) : Prop where
  unchanged : stage.capture.parameters = parameters
  triggering : stage.capture.phase = .triggering → parameters.trigger.isSome
  prepared : stage.capture.phase = .triggering ∨ stage.capture.phase = .capturing →
    stage.panel.enabled = parameters.channels ∧ stage.panel.Unplaced
  started : stage.capture.phase = .polling ∨ stage.capture.phase = .retrieving ∨
      stage.capture.phase = .emitting →
    stage.panel.Placed parameters.sampleCount parameters.channels ∧ stage.capture.deadline.isSome
  cursorBefore : stage.capture.phase = .configuring ∨ stage.capture.phase = .triggering ∨
      stage.capture.phase = .capturing ∨ stage.capture.phase = .polling →
    stage.capture.cursor = 0
  cursorWithin : stage.capture.phase = .retrieving ∨ stage.capture.phase = .emitting →
    stage.capture.cursor < parameters.channels.length ∧
      stage.capture.frames.length = stage.capture.cursor
  cursorAfter : stage.capture.phase = .idle → stage.capture.cursor = parameters.channels.length
  samples : stage.capture.phase ≠ .emitting → stage.capture.samples = []
  idle : stage.capture.phase = .idle → stage.panel.Unplaced
  aborted : stage.capture.phase ≠ .configuring → stage.capture.isFinished = false →
    ∀ events, (stage.play events).capture.phase = .aborted → (stage.play events).panel.Unplaced
  finished : stage.capture.phase = .idle ∨ stage.capture.phase = .aborted →
    step stage = (.ok stage.capture.phase, stage) ∧
      ∀ events, (stage.play events).capture = stage.capture ∧
        (stage.play events).panel = stage.panel ∧
        (stage.play events).host.link = stage.host.link

/-- Every stage that a capture can reach is consistent. -/
theorem consistent_play (parameters : Parameters Float) (limits : Limits) (policy : PollPolicy)
    (abortable : Bool) (panel : Panel) (host : Host σ) (events : List Event) :
    Consistent parameters
      ((Stage.fresh parameters limits policy abortable panel host).play events) := by
  have sound := sound_play (sound_fresh parameters limits policy abortable panel host) events
  generalize (Stage.fresh parameters limits policy abortable panel host).play events = stage
    at sound ⊢
  obtain rfl : stage.capture.parameters = parameters := sound.parameters
  have holds := sound.phase
  refine {
    unchanged := rfl, triggering := ?triggering, prepared := ?prepared, started := ?started
    cursorBefore := ?cursorBefore, cursorWithin := ?cursorWithin, cursorAfter := ?cursorAfter
    samples := ?samples, idle := ?idle, aborted := ?aborted, finished := ?finished }
  case triggering =>
    intro phase
    rw [phase] at holds
    exact holds.2.2.2
  case prepared =>
    intro which
    rcases which with phase | phase <;> rw [phase] at holds
    · exact holds.2.2.1
    · exact holds.2.2
  case started =>
    intro which
    rcases which with phase | phase | phase <;> rw [phase] at holds
    · exact holds.2.2
    · exact holds.2.2.2
    · exact holds.2.2
  case cursorBefore =>
    intro which
    rcases which with phase | phase | phase | phase <;> rw [phase] at holds
    · exact holds.1.1
    · exact holds.2.1.1
    · exact holds.2.1.1
    · exact holds.2.1.1
  case cursorWithin =>
    intro which
    rcases which with phase | phase <;> rw [phase] at holds
    · exact ⟨holds.2.2.1.1, length_of_underway holds.2.2.1⟩
    · exact ⟨holds.2.1.1, length_of_underway holds.2.1⟩
  case cursorAfter =>
    intro phase
    rw [phase] at holds
    exact holds.2.2.2.1
  case samples => exact samples_of_sound sound
  case idle =>
    intro phase
    rw [phase] at holds
    exact holds.2.2.1
  case aborted =>
    intro notConfiguring unfinished events aborted
    have settled : Settled stage := by
      refine ⟨notConfiguring, fun ended => ?_⟩
      rw [isFinished_of_phase ended] at unfinished
      cases unfinished
    exact (Stage.play_keeps _ (fun _ => settled_step) (fun _ _ _ settled => settled)
      stage events settled).2 aborted
  case finished =>
    intro ended
    have finished : stage.capture.isFinished = true := by
      rcases ended with phase | phase
      · exact isFinished_of_phase phase
      · exact isFinished_of_phase phase
    exact ⟨step_of_finished finished, play_of_finished finished⟩

end BenchScope.Capture
