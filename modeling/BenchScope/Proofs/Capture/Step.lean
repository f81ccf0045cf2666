import BenchScope.Capture.Step

namespace BenchScope.Capture

/-! What a step can do. Every branch that the work of a phase can take is listed once, with what it
was taken for and what it leaves behind. Whatever holds of all steps is shown by going through the
list. -/

open Exchange BenchScope.Action

variable {σ : Type}

namespace ReadEnd

def result : ReadEnd → Except (CaptureError Float) Phase
  | .complete | .short => .ok .emitting
  | .aborted => .error .aborted
  | .failed error => .error (.protocol error)

def noted (finish : ReadEnd) (input : Input) (kept wanted : Nat) (host : Host σ) : Host σ :=
  match finish with
  | .short => host.note (.shortRead input kept wanted)
  | _ => host

end ReadEnd

theorem isFinished_of_phase {capture : Capture} {phase : Phase} (same : capture.phase = phase) :
    capture.isFinished = phase.isFinished := by
  rw [isFinished, same]

variable [Link σ]

inductive Worked (stage : Stage σ) : Except (CaptureError Float) Phase × Stage σ → Prop
  -- Configuring
  | refused {error : CaptureError Float} :
      stage.capture.phase = .configuring →
      stage.capture.parameters.validate stage.panel stage.capture.limits = .error error →
      Worked stage (.error error, stage)
  | configured {sampling : Sampling} :
      stage.capture.phase = .configuring →
      stage.capture.parameters.validate stage.panel stage.capture.limits = .ok sampling →
      Worked stage
        (.ok (if stage.capture.parameters.isTriggered then .triggering else .capturing),
          { stage with
            capture := { stage.capture with sampling, cursor := 0, samples := [] }
            panel := stage.panel.configure stage.capture.parameters.channels })
  -- Triggering
  | untriggered :
      stage.capture.phase = .triggering →
      stage.capture.parameters.trigger = none ∨ stage.capture.channels = [] →
      Worked stage (.ok .capturing, stage)
  | unencodable {trigger : Trigger Float} {first : Channel} {rest : List Channel}
      {error : TriggerError} :
      stage.capture.phase = .triggering →
      stage.capture.parameters.trigger = some trigger → stage.capture.channels = first :: rest →
      trigger.fields stage.panel first = .error error →
      Worked stage (.error (.trigger error), stage)
  | unarmed {trigger : Trigger Float} {first : Channel} {rest : List Channel}
      {fields : Trigger.Fields} {error : ProtocolError} {host : Host σ} :
      stage.capture.phase = .triggering →
      stage.capture.parameters.trigger = some trigger → stage.capture.channels = first :: rest →
      trigger.fields stage.panel first = .ok fields →
      (perform .configureTrigger [.byte fields.source, .word fields.level]).apply stage.host =
        (.error error, host) →
      Worked stage (.error (.protocol error), { stage with host })
  | armed {trigger : Trigger Float} {first : Channel} {rest : List Channel}
      {fields : Trigger.Fields} {host : Host σ} :
      stage.capture.phase = .triggering →
      stage.capture.parameters.trigger = some trigger → stage.capture.channels = first :: rest →
      trigger.fields stage.panel first = .ok fields →
      (perform .configureTrigger [.byte fields.source, .word fields.level]).apply stage.host =
        (.ok (), host) →
      Worked stage (.ok .capturing, { stage with host })
  -- Capturing
  | overflowed {error : Channel.Error} {panel : Panel} :
      stage.capture.phase = .capturing →
      stage.panel.assignOffsets stage.capture.parameters.sampleCount = (.error error, panel) →
      Worked stage (.error (.channel error), { stage with panel })
  | unselectable {error : Channel.Error} {panel : Panel} :
      stage.capture.phase = .capturing →
      stage.panel.assignOffsets stage.capture.parameters.sampleCount = (.ok (), panel) →
      selector stage.capture.parameters = .error error →
      Worked stage (.error (.channel error), { stage with panel })
  | unstarted {panel : Panel} {selected : UInt8} {error : ProtocolError} {host : Host σ} :
      stage.capture.phase = .capturing →
      stage.panel.assignOffsets stage.capture.parameters.sampleCount = (.ok (), panel) →
      selector stage.capture.parameters = .ok selected →
      (perform stage.capture.sampling.mode.command
        [.byte selected, .word stage.capture.parameters.sampleCount,
          .word stage.capture.sampling.interval]).apply stage.host = (.error error, host) →
      Worked stage (.error (.protocol error), { stage with panel, host })
  | started {panel : Panel} {selected : UInt8} {host : Host σ} :
      stage.capture.phase = .capturing →
      stage.panel.assignOffsets stage.capture.parameters.sampleCount = (.ok (), panel) →
      selector stage.capture.parameters = .ok selected →
      (perform stage.capture.sampling.mode.command
        [.byte selected, .word stage.capture.parameters.sampleCount,
          .word stage.capture.sampling.interval]).apply stage.host = (.ok (), host) →
      Worked stage (.ok .polling,
        { capture := { stage.capture with
            deadline := some (host.clock + stage.capture.allowedTime) }
          panel, host })
  -- Polling
  | unanswered {error : ProtocolError} {host : Host σ} :
      stage.capture.phase = .polling →
      askStatus.apply stage.host = (.error error, host) →
      Worked stage (.error (.protocol error), { stage with host })
  | done {status : Status} {host : Host σ} :
      stage.capture.phase = .polling →
      askStatus.apply stage.host = (.ok status, host) → status.done = true →
      Worked stage (.ok .retrieving,
        { stage with capture := { stage.capture with acquired := status.acquired }, host })
  | late {status : Status} {host : Host σ} :
      stage.capture.phase = .polling →
      askStatus.apply stage.host = (.ok status, host) → status.done = false →
      stage.capture.deadline.any (· ≤ host.clock) = true →
      Worked stage (.error (.timeout stage.capture.allowedTime),
        { stage with capture := { stage.capture with acquired := status.acquired }, host })
  | waiting {status : Status} {host : Host σ} :
      stage.capture.phase = .polling →
      askStatus.apply stage.host = (.ok status, host) → status.done = false →
      stage.capture.deadline.any (· ≤ host.clock) = false →
      Worked stage (.ok .polling,
        { stage with
          capture := { stage.capture with acquired := status.acquired }
          host := host.pause stage.capture.policy.interval })
  -- Retrieving
  | sourceless {error : CaptureError Float} :
      stage.capture.phase = .retrieving → source stage = .error error →
      Worked stage (.error error, stage)
  | unrequested {input : Input} {offset : UInt16} {error : ProtocolError} {host : Host σ} :
      stage.capture.phase = .retrieving → source stage = .ok (input, offset) →
      (request .retrieveBuffer [.word offset, .word stage.capture.parameters.sampleCount]).apply
        stage.host = (.error error, host) →
      Worked stage (.error (.protocol error), { stage with host })
  | retrieved {input : Input} {offset : UInt16} {asked host : Host σ} {finish : ReadEnd}
      {samples : List Float} :
      stage.capture.phase = .retrieving → source stage = .ok (input, offset) →
      (request .retrieveBuffer [.word offset, .word stage.capture.parameters.sampleCount]).apply
        stage.host = (.ok (), asked) →
      readSamples (Calibration.ofPanel stage.panel input) stage.capture.abortable
        stage.capture.parameters.sampleCount.toNat [] asked = ((finish, samples), host) →
      Worked stage
        (finish.result,
          { stage with
            capture := { stage.capture with samples }
            host := finish.noted input samples.length
              stage.capture.parameters.sampleCount.toNat host })
  -- Emitting
  | unacknowledged {error : ProtocolError} {host : Host σ} :
      stage.capture.phase = .emitting →
      awaitAcknowledgement.apply stage.host = (.error error, host) →
      Worked stage (.error (.protocol error),
        { stage with capture := stage.capture.handOver, host })
  | emitted {acknowledgement : UInt8} {host : Host σ} :
      stage.capture.phase = .emitting →
      awaitAcknowledgement.apply stage.host = (.ok acknowledgement, host) →
      stage.capture.cursor + 1 < stage.capture.channels.length →
      Worked stage (.ok .retrieving,
        { stage with
          capture := { stage.capture.handOver with cursor := stage.capture.cursor + 1 }
          host })
  | completed {acknowledgement : UInt8} {host : Host σ} :
      stage.capture.phase = .emitting →
      awaitAcknowledgement.apply stage.host = (.ok acknowledgement, host) →
      ¬ stage.capture.cursor + 1 < stage.capture.channels.length →
      Worked stage (.ok .idle,
        { capture := { stage.capture.handOver with cursor := stage.capture.cursor + 1 }
          panel := stage.panel.clearOffsets
          host })

section Phases

variable (stage : Stage σ)

private theorem worked_configure (phase : stage.capture.phase = .configuring) :
    Worked stage (configure.apply stage) := by
  simp only [configure, apply_bind, apply_get]
  cases valid : stage.capture.parameters.validate stage.panel stage.capture.limits with
  | error error => exact .refused phase valid
  | ok sampling => exact .configured phase valid

private theorem worked_sendTrigger (phase : stage.capture.phase = .triggering) :
    Worked stage (sendTrigger.apply stage) := by
  simp only [sendTrigger, apply_bind, apply_get]
  cases armedBy : stage.capture.parameters.trigger with
  | none => exact .untriggered phase (.inl armedBy)
  | some trigger =>
      cases channels : stage.capture.channels with
      | nil => exact .untriggered phase (.inr channels)
      | cons first rest =>
          simp only [apply_bind]
          cases encoded : trigger.fields stage.panel first with
          | error error => exact .unencodable phase armedBy channels encoded
          | ok fields =>
              simp only [Work.apply_ofExcept_ok, Work.apply_exchange]
              rcases performed : (perform .configureTrigger
                [.byte fields.source, .word fields.level]).apply stage.host with
                ⟨error | _, host⟩
              · exact .unarmed phase armedBy channels encoded performed
              · exact .armed phase armedBy channels encoded performed

private theorem worked_startDevice (phase : stage.capture.phase = .capturing) :
    Worked stage (startDevice.apply stage) := by
  simp only [startDevice, assignOffsets, apply_bind, apply_get, apply_set]
  rcases assigned : stage.panel.assignOffsets stage.capture.parameters.sampleCount with
    ⟨error | _, panel⟩
  · exact .overflowed phase assigned
  · simp only [Work.apply_ofExcept_ok]
    cases selection : selector stage.capture.parameters with
    | error error => exact .unselectable phase assigned selection
    | ok selected =>
        simp only [Work.apply_ofExcept_ok, Work.apply_exchange]
        rcases performed : (perform stage.capture.sampling.mode.command
          [.byte selected, .word stage.capture.parameters.sampleCount,
            .word stage.capture.sampling.interval]).apply stage.host with ⟨error | _, host⟩
        · exact .unstarted phase assigned selection performed
        · exact .started phase assigned selection performed

private theorem worked_poll (phase : stage.capture.phase = .polling) :
    Worked stage (poll.apply stage) := by
  simp only [poll, apply_bind, Work.apply_exchange]
  rcases asked : askStatus.apply stage.host with ⟨error | status, host⟩
  · exact .unanswered phase asked
  · simp only [Work.mapError_ok, Work.apply_modifyCapture]
    cases ready : status.done with
    | true => exact .done phase asked ready
    | false =>
        simp only [Bool.false_eq_true, if_false, apply_bind, apply_get]
        cases passed : stage.capture.deadline.any (· ≤ host.clock) with
        | true =>
            simp only [if_true]
            exact .late phase asked ready passed
        | false =>
            simp only [Bool.false_eq_true, if_false]
            exact .waiting phase asked ready passed

private theorem worked_retrieve (phase : stage.capture.phase = .retrieving) :
    Worked stage (retrieve.apply stage) := by
  simp only [retrieve, apply_bind, apply_get]
  rcases located : source stage with error | ⟨input, offset⟩
  · exact .sourceless phase located
  · simp only [Work.apply_ofExcept_ok, Work.apply_exchange]
    rcases requested : (request .retrieveBuffer
      [.word offset, .word stage.capture.parameters.sampleCount]).apply stage.host with
      ⟨error | _, asked⟩
    · exact .unrequested phase located requested
    · simp only [Work.mapError_ok, collect, apply_bind, apply_get]
      rcases heard : readSamples (Calibration.ofPanel stage.panel input) stage.capture.abortable
        stage.capture.parameters.sampleCount.toNat [] asked with ⟨⟨finish, samples⟩, host⟩
      have step := Worked.retrieved phase located requested heard
      cases finish <;> exact step

private theorem worked_emit (phase : stage.capture.phase = .emitting) :
    Worked stage (emit.apply stage) := by
  simp only [emit, apply_bind, Work.apply_modifyCapture, Work.apply_exchange]
  rcases awaited : awaitAcknowledgement.apply stage.host with ⟨error | acknowledgement, host⟩
  · exact .unacknowledged phase awaited
  · simp only [Work.mapError_ok, apply_get]
    split
    case isTrue more => exact .emitted phase awaited more
    case isFalse more => exact .completed phase awaited more

end Phases

/-- The list is complete. -/
theorem worked_work (stage : Stage σ) (unfinished : stage.capture.isFinished = false) :
    Worked stage ((work stage.capture.phase).apply stage) := by
  cases phase : stage.capture.phase with
  | configuring => exact worked_configure stage phase
  | triggering => exact worked_sendTrigger stage phase
  | capturing => exact worked_startDevice stage phase
  | polling => exact worked_poll stage phase
  | retrieving => exact worked_retrieve stage phase
  | emitting => exact worked_emit stage phase
  | idle | aborted =>
      rw [isFinished_of_phase phase] at unfinished
      cases unfinished

inductive Stepped (stage : Stage σ) : Except (CaptureError Float) Phase × Stage σ → Prop
  | rested : stage.capture.isFinished = true → Stepped stage (.ok stage.capture.phase, stage)
  | stopped : stage.capture.isFinished = false → stage.aborting = true →
      Stepped stage (.error .aborted, fail .aborted stage)
  | advanced {next : Phase} {after : Stage σ} :
      stage.capture.isFinished = false → stage.aborting = false →
      Worked stage (.ok next, after) →
      Stepped stage (.ok next, { after with capture := { after.capture with phase := next } })
  | failed {error : CaptureError Float} {after : Stage σ} :
      stage.capture.isFinished = false → stage.aborting = false →
      Worked stage (.error error, after) → Stepped stage (.error error, fail error after)

theorem stepped_step (stage : Stage σ) : Stepped stage (step stage) := by
  cases finished : stage.capture.isFinished with
  | true =>
      rw [step, if_pos finished]
      exact .rested finished
  | false =>
      rw [step, if_neg (by simp [finished])]
      cases aborting : stage.aborting with
      | true => exact .stopped finished aborting
      | false =>
          rw [if_neg (by simp)]
          have worked := worked_work stage finished
          rcases performed : (work stage.capture.phase).apply stage with ⟨error | next, after⟩
          · exact .failed finished aborting (performed ▸ worked)
          · exact .advanced finished aborting (performed ▸ worked)

end BenchScope.Capture
