import Mathlib.Data.List.Induction
import BenchScope.Proofs.Capture.Consistency
import BenchScope.Proofs.Capture.Faults
import BenchScope.Proofs.Capture.Passage
import BenchScope.Proofs.Wire.Status

namespace BenchScope.Capture

open Exchange Session LinkCall

/-! The deadline of a capture. The device is given its time from its acknowledgement on, and is
asked again and again whether it is done. Only its answers, and the moments at which they are
complete, decide what comes of that. -/

def verdict (deadline allowed moment : Nat) :
    Except ProtocolError Bool → Except (CaptureError Float) Phase
  | .error error => .error (.protocol error)
  | .ok true => .ok .retrieving
  | .ok false => if deadline ≤ moment then .error (.timeout allowed) else .ok .polling

def Past : Phase → Prop
  | .retrieving | .emitting | .idle | .aborted => True
  | .configuring | .triggering | .capturing | .polling => False

variable {σ : Type} [Link σ]

section Steps

variable {stage : Stage σ}

/-! One question. -/

private theorem poll_eq {deadline : Nat} {result : Except ProtocolError Status} {after : Host σ}
    (due : stage.capture.deadline = some deadline)
    (asked : askStatus.apply stage.host = (result, after)) :
    (poll.apply stage).1 =
      verdict deadline stage.capture.allowedTime after.clock (result.map Status.done) := by
  simp only [poll, Action.apply_bind, Work.apply_exchange, asked]
  rcases result with error | ⟨_ | _, acquired⟩
  · rfl
  · have passed : stage.capture.deadline.any (· ≤ after.clock) =
        decide (deadline ≤ after.clock) := by
      rw [due, Option.any_some]
    simp only [Work.mapError_ok, Work.apply_modifyCapture, Bool.false_eq_true, if_false,
      Action.apply_bind, Action.apply_get, passed, decide_eq_true_eq]
    change _ = if deadline ≤ after.clock then _ else _
    split <;> rfl
  · rfl

theorem step_of_polling {deadline : Nat} {result : Except ProtocolError Status} {after : Host σ}
    (polling : stage.capture.phase = .polling) (goesOn : stage.aborting = false)
    (due : stage.capture.deadline = some deadline)
    (asked : askStatus.apply stage.host = (result, after)) :
    (step stage).1 =
      verdict deadline stage.capture.allowedTime after.clock (result.map Status.done) := by
  rw [step, isFinished_of_phase polling, goesOn, polling, work, ← poll_eq due asked]
  rcases (poll.apply stage) with ⟨error | next, _⟩ <;> rfl

/-! Polling is not come back to, and the deadline stays what it is. -/

theorem past_worked {outcome : Except (CaptureError Float) Phase × Stage σ} {next : Phase}
    (worked : Worked stage outcome) (succeeded : outcome.1 = .ok next)
    (past : Past stage.capture.phase) : Past next := by
  cases worked with
  | configured phase | untriggered phase | armed phase | started phase | done phase
  | waiting phase =>
      rw [phase] at past
      exact past.elim
  | @retrieved _ _ _ _ finish => cases finish <;> cases succeeded <;> trivial
  | emitted | completed =>
      cases succeeded
      trivial
  | _ => cases succeeded

private theorem next_of_polling {outcome : Except (CaptureError Float) Phase × Stage σ}
    {next : Phase} (worked : Worked stage outcome) (succeeded : outcome.1 = .ok next)
    (polling : stage.capture.phase = .polling) : next = .polling ∨ Past next := by
  cases worked with
  | done =>
      cases succeeded
      exact .inr trivial
  | waiting =>
      cases succeeded
      exact .inl rfl
  | configured phase | untriggered phase | armed phase | started phase | retrieved phase
  | emitted phase | completed phase =>
      rw [phase] at polling
      cases polling
  | _ => cases succeeded

theorem past_step (past : Past stage.capture.phase) : Past (step stage).2.capture.phase := by
  rcases equal : step stage with ⟨result, after⟩
  have stepped := stepped_step stage
  rw [equal] at stepped
  cases stepped with
  | rested => exact past
  | stopped | failed => trivial
  | advanced _ _ worked => exact past_worked worked rfl past

theorem past_play (past : Past stage.capture.phase) (events : List Event) :
    Past (stage.play events).capture.phase :=
  Stage.play_keeps (fun later => Past later.capture.phase) (fun _ => past_step)
    (fun _ _ _ => id) stage events past

theorem deadline_worked {outcome : Except (CaptureError Float) Phase × Stage σ}
    (worked : Worked stage outcome) (started : stage.capture.phase ≠ .capturing) :
    outcome.2.capture.deadline = stage.capture.deadline := by
  cases worked with
  | started phase => exact absurd phase started
  | _ => rfl

private theorem frames_eq_of_worked {outcome : Except (CaptureError Float) Phase × Stage σ}
    (worked : Worked stage outcome) (elsewhere : stage.capture.phase ≠ .emitting) :
    outcome.2.capture.frames = stage.capture.frames := by
  cases worked with
  | unacknowledged phase | emitted phase | completed phase => exact absurd phase elsewhere
  | _ => rfl

def Awaits (deadline : Nat) (stage : Stage σ) : Prop :=
  stage.capture.deadline = some deadline ∧
    (stage.capture.phase = .polling ∨ Past stage.capture.phase)

theorem awaits_step {deadline : Nat} (awaits : Awaits deadline stage) :
    Awaits deadline (step stage).2 := by
  rcases awaits with ⟨due, reached⟩
  have started : stage.capture.phase ≠ .capturing := by
    intro capturing
    rw [capturing] at reached
    rcases reached with other | past
    · cases other
    · exact past
  rcases equal : step stage with ⟨result, after⟩
  have stepped := stepped_step stage
  rw [equal] at stepped
  cases stepped with
  | rested => exact ⟨due, reached⟩
  | stopped => exact ⟨due, .inr trivial⟩
  | failed _ _ worked => exact ⟨(deadline_worked worked started).trans due, .inr trivial⟩
  | advanced _ _ worked =>
      refine ⟨(deadline_worked worked started).trans due, ?_⟩
      rcases reached with polling | past
      · exact next_of_polling worked rfl polling
      · exact .inr (past_worked worked rfl past)

theorem awaits_play {deadline : Nat} (awaits : Awaits deadline stage) (events : List Event) :
    Awaits deadline (stage.play events) :=
  Stage.play_keeps (Awaits deadline) (fun _ => awaits_step) (fun _ _ _ => id) stage events awaits

/-- A question that is over at the deadline or later is the last one. -/
private theorem past_of_late {deadline : Nat} (polling : stage.capture.phase = .polling)
    (due : stage.capture.deadline = some deadline)
    (late : deadline ≤ (askStatus.apply stage.host).2.clock) :
    Past (step stage).2.capture.phase := by
  cases goesOn : stage.aborting with
  | true =>
      rw [step, isFinished_of_phase polling, goesOn]
      trivial
  | false =>
      rcases asked : askStatus.apply stage.host with ⟨result, answered⟩
      rw [asked] at late
      have judged := step_of_polling polling goesOn due asked
      rcases stepped : step stage with ⟨error | next, after⟩
      · rw [phase_of_failed_step stepped]
        trivial
      · rw [phase_of_step stepped]
        rw [stepped] at judged
        rcases result with error | ⟨_ | _, acquired⟩
        · cases judged
        · change _ = if deadline ≤ answered.clock then _ else _ at judged
          rw [if_pos late] at judged
          cases judged
        · cases judged
          trivial

private theorem polling_of_worked {outcome : Except (CaptureError Float) Phase × Stage σ}
    (worked : Worked stage outcome) (succeeded : outcome.1 = .ok .polling) :
    stage.capture.phase = .polling ∧ outcome.2.capture.deadline = stage.capture.deadline ∨
      stage.capture.phase = .capturing ∧
        outcome.2.capture.deadline = some (outcome.2.host.clock + stage.capture.allowedTime) ∧
        ∃ selected, selector stage.capture.parameters = .ok selected ∧
          (perform stage.capture.sampling.mode.command
            [.byte selected, .word stage.capture.parameters.sampleCount,
              .word stage.capture.sampling.interval]).apply stage.host =
            (.ok (), outcome.2.host) := by
  cases worked with
  | started phase _ selection performed => exact .inr ⟨phase, rfl, _, selection, performed⟩
  | waiting phase => exact .inl ⟨phase, rfl⟩
  | configured =>
      change Except.ok _ = _ at succeeded
      split at succeeded <;> cases succeeded
  | @retrieved _ _ _ _ finish => cases finish <;> cases succeeded
  | _ => cases succeeded

end Steps

/-! The moment from which on the time is counted. -/

structure StartsDevice (session : Session) (stage : Stage (Traced σ))
    (acknowledged : Host (Traced σ)) : Prop where
  phase : stage.capture.phase = .capturing
  result : (step stage).1 = .ok .polling
  host : (step stage).2.host = acknowledged
  calls : ∃ said call, acknowledged.calls = stage.host.calls ++ (said ++ [call]) ∧
    Offer said (session.words .start) ∧ call.isAcknowledged = true

def dueFrom (session : Session) (policy : PollPolicy) (moment : Nat) : Nat :=
  moment + (session.parameters.sampleCount.toNat * session.sampling.interval.toNat * 125 +
    policy.margin)

variable {session : Session} {origin stage : Stage (Traced σ)}

omit [Link σ] in
theorem allowedTime_of_checked (begins : session.Begins origin) (inherits : Inherits origin stage)
    (checked : Checked origin stage) :
    stage.capture.allowedTime =
      session.parameters.sampleCount.toNat * session.sampling.interval.toNat * 125 +
        origin.capture.policy.margin := by
  rw [allowedTime, acquisitionTime, parameters_of_begins begins inherits,
    sampling_of_begins begins checked, inherits.policy]

def CountedFrom (session : Session) (origin : Stage (Traced σ)) (events : List Event)
    (deadline : Option Nat) : Prop :=
  ∃ earlier later acknowledged, events = earlier ++ .step :: later ∧
    StartsDevice session (origin.play earlier) acknowledged ∧
    deadline = some (dueFrom session origin.capture.policy acknowledged.clock)

theorem CountedFrom.later {events : List Event} {deadline : Option Nat}
    (counted : CountedFrom session origin events deadline) (event : Event) :
    CountedFrom session origin (events ++ [event]) deadline := by
  rcases counted with ⟨earlier, later, acknowledged, rfl, starts, due⟩
  exact ⟨earlier, later ++ [event], acknowledged, by simp, starts, due⟩

private theorem startsDevice_of_performed {acknowledged : Host (Traced σ)} {selected : UInt8}
    (begins : session.Begins origin) (sound : Sound origin stage)
    (capturing : stage.capture.phase = .capturing) (result : (step stage).1 = .ok .polling)
    (host : (step stage).2.host = acknowledged)
    (selection : selector stage.capture.parameters = .ok selected)
    (performed : (perform stage.capture.sampling.mode.command
      [.byte selected, .word stage.capture.parameters.sampleCount,
        .word stage.capture.sampling.interval]).apply stage.host = (.ok (), acknowledged)) :
    StartsDevice session stage acknowledged := by
  have holds := sound.phase
  rw [capturing] at holds
  rcases converses_start begins sound.toInherits holds.1 selection performed with
    ⟨calls, recorded, words, said, heard, rfl, -, offer, -, replied⟩
  rcases replied () rfl with ⟨rfl, call, rfl, odd⟩
  exact ⟨capturing, result, host, said, call, recorded, offer, odd⟩

private theorem countedFrom_of_polling (begins : session.Begins origin)
    (sound : Sound origin origin) (opening : origin.capture.phase = .configuring)
    (events : List Event)
    (polling : (origin.play events).capture.phase = .polling) :
    CountedFrom session origin events (origin.play events).capture.deadline := by
  induction events using List.reverseRecOn with
  | nil =>
      change origin.capture.phase = .polling at polling
      rw [opening] at polling
      cases polling
  | append_singleton events event induction =>
      rw [Stage.play_append] at polling ⊢
      cases event with
      | abort | pause => exact (induction polling).later _
      | step =>
          change (step (origin.play events)).2.capture.phase = .polling at polling
          change CountedFrom session origin _ (step (origin.play events)).2.capture.deadline
          rcases equal : step (origin.play events) with ⟨result, after⟩
          rw [equal] at polling
          have stepped := stepped_step (origin.play events)
          rw [equal] at stepped
          cases stepped with
          | rested => exact (induction polling).later _
          | stopped | failed => cases polling
          | @advanced next after _ _ worked =>
              obtain rfl : next = .polling := polling
              rcases polling_of_worked worked rfl with ⟨continues, unchanged⟩ |
                ⟨capturing, due, selected, selection, performed⟩
              · have counted := (induction continues).later .step
                rwa [← unchanged] at counted
              · have kept := sound_play sound events
                have holds := kept.phase
                rw [capturing] at holds
                rw [allowedTime_of_checked begins kept.toInherits holds.1] at due
                have starts := startsDevice_of_performed begins kept capturing (by rw [equal])
                  (by rw [equal]) selection performed
                exact ⟨events, [], after.host, rfl, starts, due⟩

private theorem polling_of_timeout {allowed : Nat} {after : Stage (Traced σ)}
    (sound : Sound origin stage) (stepped : step stage = (.error (.timeout allowed), after)) :
    stage.capture.phase = .polling ∧ stage.aborting = false := by
  cases goesOn : stage.aborting with
  | true =>
      have possible := stepped_step stage
      rw [stepped] at possible
      cases possible with
      | failed _ calm => simp [goesOn] at calm
  | false =>
      refine ⟨?_, rfl⟩
      by_cases first : stage.capture.phase = .configuring
      · cases valid : stage.capture.parameters.validate stage.panel stage.capture.limits with
        | error error =>
            rw [step_of_refused first goesOn valid] at stepped
            cases stepped
            rcases (Parameters.validate_eq_error_iff _ _ _ _).mp valid with
              ⟨reason, other, -⟩ | ⟨reason, sampling, other, -⟩
            · cases other
            · cases other
        | ok sampling =>
            rw [step_of_configured first goesOn valid] at stepped
            cases stepped
      · exact (foreseeable_of_sound sound).faults first _ _ stepped

omit [Link σ] in
private theorem deadline_of_polling (sound : Sound origin stage)
    (polling : stage.capture.phase = .polling) :
    ∃ deadline, stage.capture.deadline = some deadline := by
  have holds := sound.phase
  rw [polling] at holds
  exact Option.isSome_iff_exists.mp holds.2.2.2

private theorem answer_of_timeout {allowed : Nat} {final : Stage (Traced σ)}
    (sound : Sound origin stage) (stepped : step stage = (.error (.timeout allowed), final)) :
    ∃ deadline acquired answered, stage.capture.deadline = some deadline ∧
      allowed = stage.capture.allowedTime ∧
      askStatus.apply stage.host = (.ok ⟨false, acquired⟩, answered) ∧
        deadline ≤ answered.clock := by
  rcases polling_of_timeout sound stepped with ⟨polling, goesOn⟩
  rcases deadline_of_polling sound polling with ⟨deadline, due⟩
  rcases asked : askStatus.apply stage.host with ⟨result, answered⟩
  have judged := step_of_polling polling goesOn due asked
  rw [stepped] at judged
  rcases result with error | ⟨_ | _, acquired⟩
  · cases judged
  · change _ = if deadline ≤ answered.clock then _ else _ at judged
    split at judged
    case isTrue late =>
      cases judged
      exact ⟨deadline, acquired, answered, due, rfl, rfl, late⟩
    case isFalse => cases judged
  · cases judged

private theorem untouched_of_timeout {allowed : Nat} {final : Stage (Traced σ)}
    (sound : Sound origin stage) (stepped : step stage = (.error (.timeout allowed), final)) :
    final.capture.frames = [] ∧ final.panel.Unplaced := by
  rcases polling_of_timeout sound stepped with ⟨polling, -⟩
  have holds := sound.phase
  rw [polling] at holds
  rcases holds with ⟨-, ⟨-, -, frames⟩, -⟩
  have possible := stepped_step stage
  rw [stepped] at possible
  cases possible with
  | @failed _ after _ _ worked =>
      have same := frames_eq_of_worked worked (by simp [polling])
      have phase : after.capture.phase = .polling := (phase_worked worked).trans polling
      constructor
      · change after.capture.frames ++ [] = []
        rw [List.append_nil]
        exact same.trans frames
      · rw [fail, if_neg (by simp [phase])]
        exact after.panel.unplaced_clearOffsets

theorem play_step (earlier later : List Event) :
    origin.play (earlier ++ .step :: later) = ((step (origin.play earlier)).2).play later := by
  rw [Stage.play_append, Stage.play_cons]
  rfl

private theorem early_of_polling {earlier later : List Event} {deadline : Nat}
    (sound : Sound origin origin) (before : (origin.play earlier).capture.phase = .polling)
    (polling : (origin.play (earlier ++ .step :: later)).capture.phase = .polling)
    (due : (origin.play (earlier ++ .step :: later)).capture.deadline = some deadline) :
    (askStatus.apply (origin.play earlier).host).2.clock < deadline := by
  rcases deadline_of_polling (sound_play sound earlier) before with ⟨first, started⟩
  rw [play_step] at polling due
  have awaits := awaits_play (awaits_step ⟨started, .inl before⟩) later
  obtain rfl : first = deadline := Option.some.inj (awaits.1.symm.trans due)
  by_contra late
  have past := past_play (past_of_late before started (Nat.le_of_not_lt late)) later
  rw [polling] at past
  exact past

private theorem last_of_late {earlier later : List Event} {deadline : Nat}
    (before : (origin.play earlier).capture.phase = .polling)
    (due : (origin.play earlier).capture.deadline = some deadline)
    (late : deadline ≤ (origin.play earlier).host.clock) :
    (origin.play (earlier ++ .step :: later)).capture.phase ≠ .polling := by
  intro polling
  have answered := (proceeds_askStatus (origin.play earlier).host).clock_le
  have past := past_play (past_of_late before due (Nat.le_trans late answered)) later
  rw [play_step] at polling
  rw [polling] at past
  exact past

structure KeepsDeadline (parameters : Parameters Float) (limits : Limits) (policy : PollPolicy)
    (panel : Panel) (origin : Stage (Traced σ)) : Prop where
  counted : ∀ events, (origin.play events).capture.phase = .polling →
    ∃ sampling earlier later acknowledged,
      parameters.validate panel limits = .ok sampling ∧ events = earlier ++ .step :: later ∧
      StartsDevice ⟨parameters, panel, sampling⟩ (origin.play earlier) acknowledged ∧
      (origin.play events).capture.allowedTime =
        parameters.sampleCount.toNat * sampling.interval.toNat * 125 + policy.margin ∧
      (origin.play events).capture.deadline =
        some (acknowledged.clock + (origin.play events).capture.allowedTime)
  /-- What has been heard decides what comes of a question, and only the answer that the device is
  not done is held against the deadline. -/
  judged : ∀ events deadline result answered, (origin.play events).capture.phase = .polling →
    (origin.play events).aborting = false →
    (origin.play events).capture.deadline = some deadline →
    askStatus.apply (origin.play events).host = (result, answered) →
    (origin.play events).host.clock ≤ answered.clock ∧
      (step (origin.play events)).1 = verdict deadline (origin.play events).capture.allowedTime
        answered.clock (result.map Status.done) ∧
      ∃ said heard, answered.calls = (origin.play events).host.calls ++ (said ++ heard) ∧
        StatusHeard said heard (result.map Status.done)
  /-- The time is over at the first answer that the device is not done which is complete at the
  deadline or later. There are no frames then, and no offsets. -/
  timeout : ∀ events allowed final,
    step (origin.play events) = (.error (.timeout allowed), final) →
    (∃ deadline acquired answered, (origin.play events).capture.phase = .polling ∧
      (origin.play events).capture.deadline = some deadline ∧
      allowed = (origin.play events).capture.allowedTime ∧
      askStatus.apply (origin.play events).host = (.ok ⟨false, acquired⟩, answered) ∧
      deadline ≤ answered.clock ∧
      ∀ earlier later, events = earlier ++ .step :: later →
        (origin.play earlier).capture.phase = .polling →
        (askStatus.apply (origin.play earlier).host).2.clock < deadline) ∧
      final.capture.frames = [] ∧ final.panel.Unplaced
  once : ∀ earlier later deadline, (origin.play earlier).capture.phase = .polling →
    (origin.play earlier).capture.deadline = some deadline →
    deadline ≤ (origin.play earlier).host.clock →
    (origin.play (earlier ++ .step :: later)).capture.phase ≠ .polling
  run : ∀ steps allowed final, runFor steps origin = (.failed (.timeout allowed), final) →
    ∃ count, step (origin.play (List.replicate count .step)) = (.error (.timeout allowed), final)

theorem keepsDeadline_fresh (parameters : Parameters Float) (limits : Limits) (policy : PollPolicy)
    (abortable : Bool) (panel : Panel) (host : Host σ) :
    KeepsDeadline parameters limits policy panel
      (Stage.fresh parameters limits policy abortable panel host.traced) := by
  have sound := sound_fresh parameters limits policy abortable panel host.traced
  refine { counted := ?counted, judged := ?judged, timeout := ?timeout, once := ?once, run := ?run }
  case counted =>
    intro events polling
    have kept := sound_play sound events
    have configured := kept.phase
    rw [polling] at configured
    have checked := configured.1
    have begins : (Session.mk parameters panel _).Begins _ := ⟨rfl, rfl, checked⟩
    rcases countedFrom_of_polling begins sound rfl events polling with
      ⟨earlier, later, acknowledged, split, starts, due⟩
    have allowed := allowedTime_of_checked begins kept.toInherits checked
    exact ⟨_, earlier, later, acknowledged, checked, split, starts, allowed,
      by rw [allowed]; exact due⟩
  case judged =>
    intro events deadline result answered polling goesOn due asked
    rcases heard_askStatus.of_apply asked with ⟨calls, recorded, said, heard, rfl, came⟩
    exact ⟨(proceeds_askStatus.of_apply asked).clock_le, step_of_polling polling goesOn due asked,
      said, heard, recorded, came⟩
  case timeout =>
    intro events allowed final stepped
    have kept := sound_play sound events
    have polling := (polling_of_timeout kept stepped).1
    rcases answer_of_timeout kept stepped with
      ⟨deadline, acquired, answered, due, same, asked, late⟩
    refine ⟨⟨deadline, acquired, answered, polling, due, same, asked, late, ?_⟩,
      untouched_of_timeout kept stepped⟩
    rintro earlier later rfl before
    exact early_of_polling sound before polling due
  case once => exact fun earlier later deadline before due late => last_of_late before due late
  case run =>
    intro steps allowed final ran
    exact step_of_runFor ran nofun

def lateHost (flag : UInt8) : Host Script where
  link := {
    incoming := [.byte 1, .byte 1, .byte flag, .stall 1000020000, .byte 0, .byte 0, .byte 1] }

example : (step ((Stage.fresh shortParameters { minSamples := 2 } {} true {} (lateHost 0)).play
    (List.replicate 3 .step))).1 matches .error (.timeout 1000020000) := by decide +kernel
example : (step ((Stage.fresh shortParameters { minSamples := 2 } {} true {} (lateHost 1)).play
    (List.replicate 3 .step))).1 matches .ok .retrieving := by decide +kernel

end BenchScope.Capture
