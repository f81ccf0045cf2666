import BenchScope.Proofs.Capture.Course
import BenchScope.Proofs.Capture.Parameters
import BenchScope.Proofs.Offsets

namespace BenchScope.Capture

/-! The invariant of a capture. It ties the phase to the cursor, the samples at hand, the deadline,
the frames and the offsets on the panel, and it is kept by every step, however the step ends. -/

variable {σ : Type}

/-! What no step changes. -/

structure Inherits (origin stage : Stage σ) : Prop where
  parameters : stage.capture.parameters = origin.capture.parameters
  limits : stage.capture.limits = origin.capture.limits
  policy : stage.capture.policy = origin.capture.policy
  abortable : stage.capture.abortable = origin.capture.abortable
  settings : stage.panel.SameSettings origin.panel

namespace Inherits

theorem refl (stage : Stage σ) : Inherits stage stage := ⟨rfl, rfl, rfl, rfl, .refl _⟩

theorem trans {first second third : Stage σ} (left : Inherits first second)
    (right : Inherits second third) : Inherits first third where
  parameters := right.parameters.trans left.parameters
  limits := right.limits.trans left.limits
  policy := right.policy.trans left.policy
  abortable := right.abortable.trans left.abortable
  settings := right.settings.trans left.settings

theorem channels {origin stage : Stage σ} (inherits : Inherits origin stage) :
    stage.capture.channels = origin.capture.channels := by
  rw [Capture.channels, inherits.parameters, Capture.channels]

end Inherits

private theorem sameSettings_assignOffsets {panel after : Panel} {sampleCount : UInt16}
    {result : Except Channel.Error Unit}
    (assigned : panel.assignOffsets sampleCount = (result, after)) : after.SameSettings panel := by
  have same := Panel.sameSettings_assignFrom sampleCount 0 panel.enabled panel
  rwa [← Panel.assignOffsets, assigned] at same

theorem inherits_fail (error : CaptureError Float) (stage : Stage σ) :
    Inherits stage (fail error stage) where
  parameters := rfl
  limits := rfl
  policy := rfl
  abortable := rfl
  settings := by
    rw [fail]
    split
    · exact .refl _
    · exact stage.panel.sameSettings_clearOffsets

/-! What holds in each phase. -/

def Checked (origin stage : Stage σ) : Prop :=
  origin.capture.parameters.validate origin.panel origin.capture.limits =
    .ok stage.capture.sampling

def Blank (capture : Capture) : Prop :=
  capture.cursor = 0 ∧ capture.samples = [] ∧ capture.frames = []

def Delivered (capture : Capture) (count : Nat) : Prop :=
  capture.frames.map (fun frame => Channel.analog frame.input) = capture.channels.take count

def Prepared (stage : Stage σ) : Prop :=
  stage.panel.enabled = stage.capture.channels ∧ stage.panel.Unplaced

/-- The device has been started: the channels have their places and it is known how long to wait. -/
def Started (stage : Stage σ) : Prop :=
  stage.panel.Placed stage.capture.parameters.sampleCount stage.capture.channels ∧
    stage.capture.deadline.isSome

def Underway (capture : Capture) : Prop :=
  capture.cursor < capture.channels.length ∧ capture.Delivered capture.cursor

def PhaseHolds (origin stage : Stage σ) : Phase → Prop
  | .configuring => stage.capture.Blank ∧ stage.panel = origin.panel
  | .triggering =>
      Checked origin stage ∧ stage.capture.Blank ∧ Prepared stage ∧
        stage.capture.parameters.isTriggered
  | .capturing => Checked origin stage ∧ stage.capture.Blank ∧ Prepared stage
  | .polling => Checked origin stage ∧ stage.capture.Blank ∧ Started stage
  | .retrieving =>
      Checked origin stage ∧ stage.capture.samples = [] ∧ stage.capture.Underway ∧ Started stage
  | .emitting => Checked origin stage ∧ stage.capture.Underway ∧ Started stage
  | .idle =>
      Checked origin stage ∧ stage.capture.samples = [] ∧ stage.panel.Unplaced ∧
        stage.capture.cursor = stage.capture.channels.length ∧
        stage.capture.Delivered stage.capture.channels.length
  | .aborted =>
      stage.capture.samples = [] ∧
        (stage.panel = origin.panel ∧ stage.capture.frames = [] ∨
          Checked origin stage ∧ stage.panel.Unplaced ∧
            ∃ count, stage.capture.Delivered count)

structure Sound (origin stage : Stage σ) : Prop extends Inherits origin stage where
  phase : PhaseHolds origin stage stage.capture.phase

def Failing (origin stage : Stage σ) : Prop :=
  stage.capture.phase = .configuring ∧ stage.capture.Blank ∧ stage.panel = origin.panel ∨
    stage.capture.phase ≠ .configuring ∧ Checked origin stage ∧
      (stage.capture.Underway ∨
        stage.capture.samples = [] ∧ ∃ count, stage.capture.Delivered count)

theorem sound_fresh (parameters : Parameters Float) (limits : Limits) (policy : PollPolicy)
    (abortable : Bool) (panel : Panel) (host : Host σ) :
    Sound (Stage.fresh parameters limits policy abortable panel host)
      (Stage.fresh parameters limits policy abortable panel host) :=
  ⟨.refl _, ⟨rfl, rfl, rfl⟩, rfl⟩

private theorem phaseHolds_phase (origin stage : Stage σ) (phase next : Phase) :
    PhaseHolds origin { stage with capture := { stage.capture with phase } } next ↔
      PhaseHolds origin stage next := by
  cases next <;> exact Iff.rfl

/-! Frames come one after the other. -/

theorem Blank.delivered {capture : Capture} (blank : capture.Blank) : capture.Delivered 0 := by
  rw [Delivered, blank.2.2]
  rfl

theorem current_of_underway {origin stage : Stage σ} (inherits : Inherits origin stage)
    (checked : Checked origin stage)
    (bound : stage.capture.cursor < stage.capture.channels.length) :
    ∃ input, stage.capture.current? = some (.analog input) := by
  rw [Capture.current?, inherits.channels] at *
  exact (Parameters.accepted_of_validate checked).analog_getElem bound

theorem frameAtHand_of_current {capture : Capture} {input : Input}
    (current : capture.current? = some (.analog input)) :
    capture.frameAtHand = [⟨input, capture.rate, capture.samples⟩] := by
  rw [frameAtHand, current]

theorem delivered_handOver {capture : Capture} {input : Input}
    (current : capture.current? = some (.analog input))
    (delivered : capture.Delivered capture.cursor) :
    capture.handOver.Delivered (capture.cursor + 1) := by
  change (capture.frames ++ capture.frameAtHand).map _ = capture.channels.take _
  rw [Delivered] at delivered
  rw [List.map_append, delivered, frameAtHand_of_current current, List.take_add_one, ← current?,
    current]
  rfl

theorem lastFrame_cases (capture : Capture) (error : CaptureError Float) :
    capture.lastFrame error = [] ∨
      error = .aborted ∧ capture.samples ≠ [] ∧ capture.lastFrame error = capture.frameAtHand := by
  cases error with
  | aborted =>
      by_cases empty : capture.samples = []
      · exact .inl (by simp [lastFrame, empty])
      · exact .inr ⟨rfl, empty, by simp [lastFrame, empty]⟩
  | _ => exact .inl rfl

theorem delivered_of_sound {origin stage : Stage σ} (sound : Sound origin stage) :
    ∃ count, stage.capture.Delivered count := by
  have holds := sound.phase
  cases phase : stage.capture.phase <;> rw [phase] at holds
  case configuring => exact ⟨0, holds.1.delivered⟩
  case triggering | capturing | polling => exact ⟨0, holds.2.1.delivered⟩
  case retrieving => exact ⟨_, holds.2.2.1.2⟩
  case emitting => exact ⟨_, holds.2.1.2⟩
  case idle => exact ⟨_, holds.2.2.2.2⟩
  case aborted =>
    rcases holds with ⟨-, ⟨-, frameless⟩ | ⟨-, -, delivered⟩⟩
    · exact ⟨0, by rw [Delivered, frameless]; rfl⟩
    · exact delivered

theorem checked_of_frames {origin stage : Stage σ} (sound : Sound origin stage)
    (framed : stage.capture.frames ≠ []) : Checked origin stage := by
  have holds := sound.phase
  cases phase : stage.capture.phase <;> rw [phase] at holds
  case configuring => exact absurd holds.1.2.2 framed
  case triggering | capturing | polling | retrieving | emitting | idle => exact holds.1
  case aborted =>
    rcases holds with ⟨-, ⟨-, frameless⟩ | ⟨checked, -⟩⟩
    · exact absurd frameless framed
    · exact checked

theorem samples_of_sound {origin stage : Stage σ} (sound : Sound origin stage)
    (notEmitting : stage.capture.phase ≠ .emitting) : stage.capture.samples = [] := by
  have holds := sound.phase
  cases phase : stage.capture.phase <;> rw [phase] at holds
  case configuring => exact holds.1.2.1
  case triggering | capturing | polling => exact holds.2.1.2.1
  case retrieving | idle => exact holds.2.1
  case emitting => exact absurd phase notEmitting
  case aborted => exact holds.1

theorem triggers_of_sound {origin stage : Stage σ} (sound : Sound origin stage)
    (phase : stage.capture.phase = .triggering) :
    ¬ (stage.capture.parameters.trigger = none ∨ stage.capture.channels = []) := by
  have holds := sound.phase
  rw [phase] at holds
  rcases holds with ⟨checked, -, -, triggered⟩
  rintro (untriggered | empty)
  · simp [Parameters.isTriggered, untriggered] at triggered
  · have counted := (Parameters.accepted_of_validate checked).count_pos
    rw [sound.channels] at empty
    rw [← Capture.channels, empty] at counted
    cases counted

theorem length_of_underway {capture : Capture} (underway : capture.Underway) :
    capture.frames.length = capture.cursor := by
  rcases underway with ⟨bound, delivered⟩
  have lengths := congrArg List.length delivered
  rw [List.length_map, List.length_take] at lengths
  omega

/-! A capture that fails keeps the invariant. -/

private theorem delivered_fail {origin stage : Stage σ} (inherits : Inherits origin stage)
    (checked : Checked origin stage) (state : stage.capture.Underway ∨
      stage.capture.samples = [] ∧ ∃ count, stage.capture.Delivered count)
    (error : CaptureError Float) : ∃ count, (fail error stage).capture.Delivered count := by
  rcases stage.capture.lastFrame_cases error with nothing | ⟨-, samples, last⟩
  · have frames : (fail error stage).capture.frames = stage.capture.frames := by
      simp [fail, nothing]
    rcases state with ⟨-, delivered⟩ | ⟨-, count, delivered⟩
    · exact ⟨_, by rw [Delivered, frames]; exact delivered⟩
    · exact ⟨count, by rw [Delivered, frames]; exact delivered⟩
  · rcases state with ⟨bound, delivered⟩ | ⟨empty, -⟩
    -- The frame that an abort adds is the one that emitting would have added.
    · rcases current_of_underway inherits checked bound with ⟨input, current⟩
      have frames : (fail error stage).capture.frames = stage.capture.handOver.frames := by
        simp [fail, last, handOver]
      exact ⟨_, by rw [Delivered, frames]; exact delivered_handOver current delivered⟩
    · exact absurd empty samples

private theorem phaseHolds_fail {origin stage : Stage σ} (inherits : Inherits origin stage)
    (failing : Failing origin stage) (error : CaptureError Float) :
    PhaseHolds origin (fail error stage) .aborted := by
  refine ⟨rfl, ?_⟩
  rcases failing with ⟨configuring, blank, same⟩ | ⟨later, checked, state⟩
  · refine .inl ⟨by rw [fail, if_pos configuring, same], ?_⟩
    rcases blank with ⟨-, samples, frames⟩
    cases error <;> simp [fail, lastFrame, samples, frames]
  · refine .inr ⟨checked, ?_, delivered_fail inherits checked state error⟩
    rw [fail, if_neg later]
    exact stage.panel.unplaced_clearOffsets

private theorem failing_of_sound {origin stage : Stage σ} (sound : Sound origin stage)
    (unfinished : stage.capture.isFinished = false) : Failing origin stage := by
  have holds := sound.phase
  cases phase : stage.capture.phase <;> rw [phase] at holds
  case configuring => exact .inl ⟨phase, holds⟩
  case triggering | capturing | polling =>
    rcases holds with ⟨checked, blank, -⟩
    exact .inr ⟨by simp [phase], checked, .inr ⟨blank.2.1, 0, blank.delivered⟩⟩
  case retrieving =>
    rcases holds with ⟨checked, -, underway, -⟩
    exact .inr ⟨by simp [phase], checked, .inl underway⟩
  case emitting =>
    rcases holds with ⟨checked, underway, -⟩
    exact .inr ⟨by simp [phase], checked, .inl underway⟩
  case idle | aborted =>
    rw [isFinished_of_phase phase] at unfinished
    cases unfinished

private theorem started_of_assignOffsets {origin stage : Stage σ} {panel : Panel} (moment : Nat)
    (inherits : Inherits origin stage) (checked : Checked origin stage) (prepared : Prepared stage)
    (assigned : stage.panel.assignOffsets stage.capture.parameters.sampleCount = (.ok (), panel)) :
    Started { stage with capture := { stage.capture with deadline := some moment }, panel } := by
  rcases prepared with ⟨enabled, unplaced⟩
  have distinct : stage.panel.enabled.Nodup := by
    rw [enabled, inherits.channels]
    exact (Parameters.accepted_of_validate checked).channels_nodup
  have placed := Panel.placed_of_assignOffsets assigned distinct unplaced
  rw [enabled] at placed
  exact ⟨placed, rfl⟩

variable [Link σ]

theorem inherits_worked {stage : Stage σ} {outcome : Except (CaptureError Float) Phase × Stage σ}
    (worked : Worked stage outcome) : Inherits stage outcome.2 := by
  cases worked with
  | configured => exact ⟨rfl, rfl, rfl, rfl, stage.panel.sameSettings_configure _⟩
  | overflowed _ assigned => exact ⟨rfl, rfl, rfl, rfl, sameSettings_assignOffsets assigned⟩
  | unselectable _ assigned => exact ⟨rfl, rfl, rfl, rfl, sameSettings_assignOffsets assigned⟩
  | unstarted _ assigned => exact ⟨rfl, rfl, rfl, rfl, sameSettings_assignOffsets assigned⟩
  | started _ assigned => exact ⟨rfl, rfl, rfl, rfl, sameSettings_assignOffsets assigned⟩
  | completed => exact ⟨rfl, rfl, rfl, rfl, stage.panel.sameSettings_clearOffsets⟩
  | _ => exact ⟨rfl, rfl, rfl, rfl, .refl _⟩

theorem inherits_step (stage : Stage σ) : Inherits stage (step stage).2 := by
  rcases equal : step stage with ⟨result, after⟩
  have stepped := stepped_step stage
  rw [equal] at stepped
  cases stepped with
  | rested => exact .refl stage
  | stopped => exact inherits_fail .aborted stage
  | advanced _ _ worked => exact (inherits_worked worked).trans ⟨rfl, rfl, rfl, rfl, .refl _⟩
  | failed _ _ worked => exact (inherits_worked worked).trans (inherits_fail _ _)

/-! Work that succeeds and work that fails. -/

theorem phaseHolds_worked {origin stage : Stage σ}
    {outcome : Except (CaptureError Float) Phase × Stage σ} {next : Phase}
    (sound : Sound origin stage) (worked : Worked stage outcome)
    (succeeded : outcome.1 = .ok next) :
    PhaseHolds origin outcome.2 next := by
  have inherits := sound.toInherits
  have holds := sound.phase
  cases worked with
  | configured phase valid =>
      rw [phase] at holds
      rw [inherits.parameters, inherits.limits, holds.2] at valid
      have prepared : Prepared (σ := σ) { stage with
          panel := stage.panel.configure stage.capture.parameters.channels } :=
        ⟨rfl, stage.panel.unplaced_configure _⟩
      cases succeeded
      split
      case isTrue triggered => exact ⟨valid, ⟨rfl, rfl, holds.1.2.2⟩, prepared, triggered⟩
      case isFalse => exact ⟨valid, ⟨rfl, rfl, holds.1.2.2⟩, prepared⟩
  | untriggered phase =>
      rw [phase] at holds
      rcases holds with ⟨checked, blank, prepared, -⟩
      cases succeeded
      exact ⟨checked, blank, prepared⟩
  | armed phase =>
      rw [phase] at holds
      rcases holds with ⟨checked, blank, prepared, -⟩
      cases succeeded
      exact ⟨checked, blank, prepared⟩
  | started phase assigned =>
      rw [phase] at holds
      rcases holds with ⟨checked, blank, prepared⟩
      cases succeeded
      exact ⟨checked, blank, started_of_assignOffsets _ inherits checked prepared assigned⟩
  | done phase =>
      rw [phase] at holds
      rcases holds with ⟨checked, blank, started⟩
      -- There is a first channel because the parameters have been accepted.
      have bound : stage.capture.cursor < stage.capture.channels.length := by
        rw [blank.1, inherits.channels]
        exact (Parameters.accepted_of_validate checked).count_pos
      have delivered : stage.capture.Delivered stage.capture.cursor := by
        rw [blank.1]
        exact blank.delivered
      cases succeeded
      exact ⟨checked, blank.2.1, ⟨bound, delivered⟩, started⟩
  | waiting phase =>
      rw [phase] at holds
      rcases holds with ⟨checked, blank, started⟩
      cases succeeded
      exact ⟨checked, blank, started⟩
  | @retrieved _ _ _ _ finish _ phase =>
      rw [phase] at holds
      rcases holds with ⟨checked, -, underway, started⟩
      cases finish <;> cases succeeded <;> exact ⟨checked, underway, started⟩
  | emitted phase _ more =>
      rw [phase] at holds
      rcases holds with ⟨checked, ⟨bound, delivered⟩, started⟩
      rcases current_of_underway inherits checked bound with ⟨input, current⟩
      cases succeeded
      exact ⟨checked, rfl, ⟨more, delivered_handOver current delivered⟩, started⟩
  | completed phase _ last =>
      rw [phase] at holds
      rcases holds with ⟨checked, ⟨bound, delivered⟩, started⟩
      rcases current_of_underway inherits checked bound with ⟨input, current⟩
      have all : stage.capture.cursor + 1 = stage.capture.channels.length := by omega
      have delivered := delivered_handOver current delivered
      rw [all] at delivered
      cases succeeded
      exact ⟨checked, rfl, stage.panel.unplaced_clearOffsets, all, delivered⟩
  | _ => cases succeeded

private theorem failing_worked {origin stage : Stage σ}
    {outcome : Except (CaptureError Float) Phase × Stage σ} {error : CaptureError Float}
    (sound : Sound origin stage) (worked : Worked stage outcome)
    (failed : outcome.1 = .error error) : Failing origin outcome.2 := by
  have inherits := sound.toInherits
  have holds := sound.phase
  cases worked with
  | refused phase =>
      rw [phase] at holds
      exact .inl ⟨phase, holds⟩
  | unencodable phase | unarmed phase | unanswered phase | late phase
  | overflowed phase | unselectable phase | unstarted phase =>
      rw [phase] at holds
      rcases holds with ⟨checked, blank, -⟩
      exact .inr ⟨by simp [phase], checked, .inr ⟨blank.2.1, 0, blank.delivered⟩⟩
  | sourceless phase | unrequested phase | retrieved phase =>
      rw [phase] at holds
      rcases holds with ⟨checked, -, underway, -⟩
      exact .inr ⟨by simp [phase], checked, .inl underway⟩
  | unacknowledged phase =>
      rw [phase] at holds
      rcases holds with ⟨checked, ⟨bound, delivered⟩, -⟩
      rcases current_of_underway inherits checked bound with ⟨input, current⟩
      exact .inr ⟨by simp [handOver, phase], checked,
        .inr ⟨rfl, _, delivered_handOver current delivered⟩⟩
  | _ => cases failed

theorem sound_step {origin stage : Stage σ} (sound : Sound origin stage) :
    Sound origin (step stage).2 := by
  refine ⟨sound.toInherits.trans (inherits_step stage), ?_⟩
  rcases equal : step stage with ⟨result, after⟩
  have stepped := stepped_step stage
  rw [equal] at stepped
  cases stepped with
  | rested => exact sound.phase
  | stopped unfinished =>
      exact phaseHolds_fail sound.toInherits (failing_of_sound sound unfinished) .aborted
  | advanced _ _ worked =>
      exact (phaseHolds_phase origin _ _ _).mpr (phaseHolds_worked sound worked rfl)
  | failed _ _ worked =>
      exact phaseHolds_fail (sound.toInherits.trans (inherits_worked worked))
        (failing_worked sound worked rfl) _

omit [Link σ] in
theorem sound_host {origin stage : Stage σ} (host : Host σ) (sound : Sound origin stage) :
    Sound origin { stage with host } :=
  ⟨⟨sound.parameters, sound.limits, sound.policy, sound.abortable, sound.settings⟩, sound.phase⟩

theorem sound_play {origin stage : Stage σ} (sound : Sound origin stage) (events : List Event) :
    Sound origin (stage.play events) :=
  Stage.play_keeps _ (fun _ => sound_step) (fun _ host _ sound => sound_host host sound) stage
    events sound

end BenchScope.Capture
