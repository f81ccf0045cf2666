import BenchScope.Link.Traced
import BenchScope.Proofs.Capture.Delivery
import BenchScope.Proofs.Capture.Pairs

namespace BenchScope

/-! Channels that take no part in a capture do not matter to it. Two panels on which the captured
inputs have the same gain and resolution serve it in the same way, whatever is set on the other
inputs and whatever places were left behind, and the capture changes no setting on either. -/

namespace Panel

structure AgreeOn (channels : List Channel) (left right : Panel) : Prop where
  gain : ∀ input, .analog input ∈ channels → (left.state input).gain = (right.state input).gain
  resolution : ∀ input, .analog input ∈ channels →
    (left.state input).resolution = (right.state input).resolution

structure AlikeOn (channels : List Channel) (left right : Panel) : Prop where
  enabled : left.enabled = right.enabled
  state : ∀ input, .analog input ∈ channels → left.state input = right.state input

variable {channels : List Channel} {left right : Panel}

namespace AgreeOn

theorem calibration_eq {α : Type} [Scalar α] (agree : left.AgreeOn channels right) {input : Input}
    (member : .analog input ∈ channels) :
    (Calibration.ofPanel left input : Calibration α) = Calibration.ofPanel right input := by
  rw [Calibration.ofPanel, agree.gain input member, agree.resolution input member,
    Calibration.ofPanel]

theorem fields_eq {α : Type} [Scalar α] (agree : left.AgreeOn channels right)
    {trigger : Trigger α} (member : trigger.channel ∈ channels) (first : Channel) :
    trigger.fields left first = trigger.fields right first := by
  rw [Trigger.fields, Trigger.fields]
  cases channel : trigger.channel with
  | logic output => rfl
  | analog input =>
      rw [channel] at member
      simp only [agree.calibration_eq member]

/-- The check of a trigger sees nothing of the panel but the input that is watched, and that only
when it takes part. -/
private theorem checkTrigger_eq {α : Type} [Scalar α] {parameters : Parameters α}
    (agree : left.AgreeOn parameters.channels right) :
    parameters.checkTrigger left = parameters.checkTrigger right := by
  rw [Parameters.checkTrigger, Parameters.checkTrigger]
  cases parameters.trigger with
  | none => rfl
  | some trigger =>
      cases channels : parameters.channels with
      | nil => rfl
      | cons first rest =>
          by_cases member : trigger.channel ∈ first :: rest
          · rw [channels] at agree
            simp only [agree.fields_eq member]
          · simp only [if_neg member]

private theorem validate_eq {α : Type} [Scalar α] {parameters : Parameters α}
    (agree : left.AgreeOn parameters.channels right) (limits : Limits) :
    parameters.validate left limits = parameters.validate right limits := by
  rw [Parameters.validate, Parameters.validate, agree.checkTrigger_eq]

theorem transfer {leftAfter rightAfter : Panel} (agree : left.AgreeOn channels right)
    (sameLeft : leftAfter.SameSettings left) (sameRight : rightAfter.SameSettings right) :
    leftAfter.AgreeOn channels rightAfter where
  gain input member := by rw [sameLeft.gain, sameRight.gain, agree.gain input member]
  resolution input member := by
    rw [sameLeft.resolution, sameRight.resolution, agree.resolution input member]

theorem configure (agree : left.AgreeOn channels right) (enabled : List Channel) :
    (left.configure enabled).AlikeOn channels (right.configure enabled) where
  enabled := rfl
  state input member := by
    simp [agree.gain input member, agree.resolution input member]

end AgreeOn

namespace AlikeOn

theorem agree (alike : left.AlikeOn channels right) : left.AgreeOn channels right where
  gain input member := by rw [alike.state input member]
  resolution input member := by rw [alike.state input member]

theorem clearOffsets (alike : left.AlikeOn channels right) :
    left.clearOffsets.AlikeOn channels right.clearOffsets where
  enabled := alike.enabled
  state input member := by simp [alike.state input member]

theorem place (alike : left.AlikeOn channels right) (input : Input) (offset : Option UInt16) :
    (left.modify input fun state => { state with offset }).AlikeOn channels
      (right.modify input fun state => { state with offset }) where
  enabled := alike.enabled
  state other member := by
    rw [state_modify, state_modify]
    split
    case isTrue same =>
      subst same
      rw [alike.state input member]
    case isFalse => exact alike.state other member

theorem assignFrom (alike : left.AlikeOn channels right) (sampleCount : UInt16) (position : Nat)
    (list : List Channel) :
    Action.Corresponds (AlikeOn channels) (Panel.assignFrom sampleCount position list left)
      (Panel.assignFrom sampleCount position list right) := by
  induction list generalizing position left right with
  | nil => exact ⟨rfl, alike⟩
  | cons channel rest induction =>
      cases channel with
      | logic output => exact induction alike (position + 1)
      | analog input =>
          rw [Panel.assignFrom, Panel.assignFrom]
          split
          · exact induction (alike.place input _) (position + 1)
          · exact ⟨rfl, alike⟩

theorem assignOffsets (alike : left.AlikeOn channels right) (sampleCount : UInt16) :
    Action.Corresponds (AlikeOn channels) (left.assignOffsets sampleCount)
      (right.assignOffsets sampleCount) := by
  rw [Panel.assignOffsets, Panel.assignOffsets, alike.enabled]
  exact alike.assignFrom sampleCount 0 right.enabled

end AlikeOn

end Panel

private theorem Parameters.mem_of_checkTrigger {α : Type} [Scalar α] {parameters : Parameters α}
    {panel : Panel} (checked : parameters.checkTrigger panel = .ok ()) {trigger : Trigger α}
    (wanted : parameters.trigger = some trigger) : trigger.channel ∈ parameters.channels := by
  rw [checkTrigger, wanted] at checked
  cases channels : parameters.channels with
  | nil => simp [channels] at checked
  | cons first rest =>
      by_contra absent
      simp [channels, absent] at checked

namespace Capture

open Exchange Work BenchScope.Action

variable {σ : Type}

/-! A capture that has begun, on two panels. -/

/-- Two stages of a capture with these parameters. They differ at most in inputs of the panel that
take no part. -/
inductive Apart (parameters : Parameters Float) : Stage σ → Stage σ → Prop
  | mk (capture : Capture) (host : Host σ) {left right : Panel}
      (same : capture.parameters = parameters)
      (watched : ∀ trigger, parameters.trigger = some trigger →
        trigger.channel ∈ parameters.channels)
      (alike : left.AlikeOn parameters.channels right) :
      Apart parameters ⟨capture, left, host⟩ ⟨capture, right, host⟩

variable {parameters : Parameters Float} {left right : Stage σ}

namespace Apart

private theorem parameters_eq (apart : Apart parameters left right) :
    left.capture.parameters = parameters ∧ right.capture.parameters = parameters := by
  rcases apart with ⟨capture, host, same, -, -⟩
  exact ⟨same, same⟩

theorem source (apart : Apart parameters left right) : source right = source left := by
  rcases apart with ⟨capture, host, rfl, watched, alike⟩
  rw [Capture.source, Capture.source]
  cases current : capture.current? with
  | none => rfl
  | some channel =>
      cases channel with
      | logic output => rfl
      | analog input => simp only [alike.state input (List.mem_of_getElem? current)]

theorem fail (apart : Apart parameters left right) (error : CaptureError Float) :
    Apart parameters (fail error left) (fail error right) := by
  rcases apart with ⟨capture, host, same, watched, alike⟩
  rw [Capture.fail, Capture.fail]
  by_cases configuring : capture.phase = .configuring
  · simp only [if_pos configuring]
    exact .mk _ _ same watched alike
  · simp only [if_neg configuring]
    exact .mk _ _ same watched alike.clearOffsets

end Apart

/-! The phases behind the first one. -/

private theorem corresponds_ofExcept {ε β : Type} (apart : Apart parameters left right)
    (wrap : ε → CaptureError Float) (value : Except ε β) :
    Corresponds (Apart parameters) ((ofExcept wrap value : Work σ β).apply left)
      ((ofExcept wrap value : Work σ β).apply right) := by
  cases value <;> exact ⟨rfl, apart⟩

private theorem corresponds_exchange {β : Type} (apart : Apart parameters left right)
    (action : Exchange ProtocolError σ β) :
    Corresponds (Apart parameters) ((exchange action).apply left)
      ((exchange action).apply right) := by
  rcases apart with ⟨capture, host, same, watched, alike⟩
  exact ⟨rfl, .mk _ _ same watched alike⟩

variable [Link σ]

private theorem corresponds_sendTrigger (apart : Apart parameters left right) :
    Corresponds (Apart parameters) (sendTrigger.apply left) (sendTrigger.apply right) := by
  have pair := apart
  rcases apart with ⟨capture, host, rfl, watched, alike⟩
  rw [sendTrigger, apply_bind, apply_bind, apply_get, apply_get]
  simp only [Capture.channels]
  cases wanted : capture.parameters.trigger with
  | none => exact ⟨rfl, pair⟩
  | some trigger =>
      cases channels : capture.parameters.channels with
      | nil => exact ⟨rfl, pair⟩
      | cons first rest =>
          simp only [alike.agree.fields_eq (watched trigger wanted) first]
          refine (corresponds_ofExcept pair _ _).bind fun fields _ _ apart => ?_
          exact (corresponds_exchange apart _).bind fun _ _ _ apart => ⟨rfl, apart⟩

private theorem corresponds_startDevice (apart : Apart parameters left right) :
    Corresponds (Apart parameters) (startDevice.apply left) (startDevice.apply right) := by
  refine Corresponds.bind ?assigned fun _ _ _ apart => ?started
  case assigned =>
    rcases apart with ⟨capture, host, same, watched, alike⟩
    rcases alike.assignOffsets capture.parameters.sampleCount with ⟨results, alikeAfter⟩
    simp only [assignOffsets, apply_bind, apply_get, apply_set, results]
    exact corresponds_ofExcept (.mk _ _ same watched alikeAfter) _ _
  case started =>
    have pair := apart
    rcases apart with ⟨capture, host, same, watched, alike⟩
    rw [apply_bind, apply_bind, apply_get, apply_get]
    refine (corresponds_ofExcept pair _ _).bind fun selected _ _ apart => ?_
    refine (corresponds_exchange apart _).bind fun _ _ _ apart => ?_
    rcases apart with ⟨capture, host, same, watched, alike⟩
    exact ⟨rfl, .mk _ _ same watched alike⟩

private theorem corresponds_poll (apart : Apart parameters left right) :
    Corresponds (Apart parameters) (poll.apply left) (poll.apply right) := by
  refine (corresponds_exchange apart _).bind fun status _ _ apart => ?_
  rcases apart with ⟨capture, host, same, watched, alike⟩
  simp only [apply_bind, Work.apply_modifyCapture]
  cases status.done with
  | true => exact ⟨rfl, .mk _ _ same watched alike⟩
  | false =>
      simp only [Bool.false_eq_true, if_false, apply_bind, apply_get]
      split <;> exact ⟨rfl, .mk _ _ same watched alike⟩

private theorem corresponds_collect (apart : Apart parameters left right) {input : Input}
    (member : .analog input ∈ parameters.channels) :
    Corresponds (Apart parameters) ((collect input).apply left) ((collect input).apply right) := by
  rcases apart with ⟨capture, host, same, watched, alike⟩
  rw [apply_collect, apply_collect, readInput, readInput, alike.agree.calibration_eq member]
  exact ⟨rfl, .mk _ _ same watched alike⟩

private theorem corresponds_retrieve (apart : Apart parameters left right) :
    Corresponds (Apart parameters) (retrieve.apply left) (retrieve.apply right) := by
  rcases apart.parameters_eq with ⟨leftSame, rightSame⟩
  rw [retrieve, apply_bind, apply_bind, apply_get, apply_get]
  simp only [apart.source, leftSame, rightSame]
  rcases located : source left with error | ⟨input, offset⟩
  · exact ⟨rfl, apart⟩
  · have member := List.mem_of_getElem? ((source_eq_ok_iff left input offset).mp located).1
    rw [Capture.channels, leftSame] at member
    rw [apply_bind, apply_bind, Work.apply_ofExcept_ok, Work.apply_ofExcept_ok]
    exact (corresponds_exchange apart _).bind fun _ _ _ apart => corresponds_collect apart member

private theorem corresponds_emit (apart : Apart parameters left right) :
    Corresponds (Apart parameters) (emit.apply left) (emit.apply right) := by
  have handed : Corresponds (Apart parameters) ((Work.modifyCapture handOver).apply left)
      ((Work.modifyCapture handOver).apply right) := by
    rcases apart with ⟨capture, host, same, watched, alike⟩
    exact ⟨rfl, .mk _ _ same watched alike⟩
  refine handed.bind fun _ _ _ apart => ?_
  refine (corresponds_exchange apart _).bind fun _ _ _ apart => ?_
  rcases apart with ⟨capture, host, same, watched, alike⟩
  simp only [apply_bind, apply_get, Work.apply_modifyCapture]
  split
  · exact ⟨rfl, .mk _ _ same watched alike⟩
  · exact ⟨rfl, .mk _ _ same watched alike.clearOffsets⟩

theorem corresponds_work (apart : Apart parameters left right)
    (begun : left.capture.phase ≠ .configuring) :
    Corresponds (Apart parameters) ((work left.capture.phase).apply left)
      ((work right.capture.phase).apply right) := by
  have phases : right.capture.phase = left.capture.phase := by
    cases apart
    rfl
  rw [phases]
  cases phase : left.capture.phase with
  | configuring => exact absurd phase begun
  | triggering => exact corresponds_sendTrigger apart
  | capturing => exact corresponds_startDevice apart
  | polling => exact corresponds_poll apart
  | retrieving => exact corresponds_retrieve apart
  | emitting => exact corresponds_emit apart
  | idle | aborted => exact ⟨rfl, apart⟩

theorem Apart.step (apart : Apart parameters left right)
    (begun : left.capture.phase ≠ .configuring) :
    Corresponds (Apart parameters) (step left) (step right) := by
  have worked := corresponds_work apart begun
  have pair := apart
  rcases apart with ⟨capture, host, same, watched, alike⟩
  refine corresponds_step pair rfl rfl (fun error _ _ apart => apart.fail error) ?_ fun _ => worked
  intro phase _ _ apart
  rcases apart with ⟨capture, host, same, watched, alike⟩
  exact .mk _ _ same watched alike

/-! A capture from its beginning. -/

structure Separated (left right : Stage σ) : Prop where
  capture : right.capture = left.capture
  host : right.host = left.host
  agree : left.panel.AgreeOn left.capture.parameters.channels right.panel
  underway : left.capture.phase ≠ .configuring → left.capture.isFinished = false →
    Apart left.capture.parameters left right

omit [Link σ] in
private theorem separated_fresh (parameters : Parameters Float) (limits : Limits)
    (policy : PollPolicy) (abortable : Bool) {panel other : Panel} (host : Host σ)
    (agree : panel.AgreeOn parameters.channels other) :
    Separated (Stage.fresh parameters limits policy abortable panel host)
      (Stage.fresh parameters limits policy abortable other host) where
  capture := rfl
  host := rfl
  agree := agree
  underway begun := absurd rfl begun

omit [Link σ] in
theorem Apart.separated (apart : Apart parameters left right) : Separated left right := by
  have pair := apart
  rcases apart with ⟨capture, host, rfl, watched, alike⟩
  exact ⟨rfl, rfl, alike.agree, fun _ _ => pair⟩

namespace Separated

omit [Link σ] in
theorem aborting (separated : Separated left right) : right.aborting = left.aborting := by
  rw [Stage.aborting, Stage.aborting, separated.capture, separated.host]

omit [Link σ] in
theorem fail (separated : Separated left right) (error : CaptureError Float) :
    Separated (fail error left) (fail error right) where
  capture := by rw [Capture.fail, Capture.fail, separated.capture]
  host := by rw [Capture.fail, Capture.fail, separated.capture, separated.host]
  agree := separated.agree.transfer (inherits_fail error left).settings
    (inherits_fail error right).settings
  underway _ unfinished := by cases unfinished

omit [Link σ] in
theorem withHost (separated : Separated left right) (host : Host σ) :
    Separated { left with host } { right with host } where
  capture := separated.capture
  host := rfl
  agree := separated.agree
  underway begun unfinished := by
    rcases separated.underway begun unfinished with ⟨capture, _, same, watched, alike⟩
    exact .mk _ _ same watched alike

theorem configure (separated : Separated left right)
    (phase : left.capture.phase = .configuring) (goesOn : left.aborting = false) :
    Corresponds Separated (step left) (step right) := by
  have captures := separated.capture
  have rightPhase : right.capture.phase = .configuring := by rw [captures, phase]
  have rightGoesOn : right.aborting = false := by rw [separated.aborting, goesOn]
  have valid : right.capture.parameters.validate right.panel right.capture.limits =
      left.capture.parameters.validate left.panel left.capture.limits := by
    rw [captures, separated.agree.validate_eq]
  cases checked : left.capture.parameters.validate left.panel left.capture.limits with
  | error error =>
      rw [step_of_refused phase goesOn checked,
        step_of_refused rightPhase rightGoesOn (valid.trans checked)]
      exact ⟨rfl, separated.fail error⟩
  | ok sampling =>
      have accepted := ((Parameters.validate_eq_ok_iff _ _ _ _).mp checked).2
      rw [step_of_configured phase goesOn checked,
        step_of_configured rightPhase rightGoesOn (valid.trans checked), captures, separated.host]
      refine ⟨rfl, Apart.separated (.mk _ _ rfl ?_ (separated.agree.configure _))⟩
      exact fun _ wanted => Parameters.mem_of_checkTrigger accepted wanted

theorem step (separated : Separated left right) :
    Corresponds Separated (step left) (step right) := by
  have captures := separated.capture
  cases finished : left.capture.isFinished with
  | true =>
      rw [step_of_finished finished, step_of_finished (by rw [captures, finished]), captures]
      exact ⟨rfl, separated⟩
  | false =>
      by_cases begun : left.capture.phase = .configuring
      · cases goesOn : left.aborting with
        | false => exact separated.configure begun goesOn
        | true =>
            have stops : right.aborting = true := by rw [separated.aborting, goesOn]
            rw [Capture.step, Capture.step, captures, finished, goesOn, stops]
            exact ⟨rfl, separated.fail .aborted⟩
      · rcases (separated.underway begun finished).step begun with ⟨results, apart⟩
        exact ⟨results, apart.separated⟩

theorem play (separated : Separated left right) (events : List Event) :
    Separated (left.play events) (right.play events) := by
  induction events generalizing left right with
  | nil => exact separated
  | cons event events induction =>
      apply induction
      cases event with
      | step => exact separated.step.2
      | abort | pause =>
          rw [Stage.react, Stage.react, separated.host]
          exact separated.withHost _

theorem runFor (separated : Separated left right) (steps : Nat) :
    Corresponds Separated (runFor steps left) (runFor steps right) := by
  induction steps generalizing left right with
  | zero => exact ⟨rfl, separated⟩
  | succ steps induction =>
      have stepped := separated.step
      rw [Capture.runFor, Capture.runFor]
      rcases leftStep : Capture.step left with ⟨result, leftAfter⟩
      rcases rightStep : Capture.step right with ⟨other, rightAfter⟩
      rw [leftStep, rightStep] at stepped
      rcases stepped with ⟨results, after⟩
      obtain rfl : result = other := results
      rcases result with error | phase
      · exact ⟨rfl, after⟩
      · cases phase with
        | idle | aborted => exact ⟨rfl, after⟩
        | _ => exact induction after

end Separated

structure Undisturbed (panel other : Panel) (left right : Stage (Traced σ)) : Prop where
  capture : left.capture = right.capture
  calls : left.host.calls = right.host.calls
  host : left.host = right.host
  result : (step left).1 = (step right).1
  settings : left.panel.SameSettings panel
  otherSettings : right.panel.SameSettings other

variable (parameters) (limits : Limits) (policy : PollPolicy) (abortable : Bool)

private theorem settings_play (panel : Panel) (host : Host σ) (events : List Event) :
    ((Stage.fresh parameters limits policy abortable panel host).play events).panel.SameSettings
      panel :=
  (sound_play (sound_fresh parameters limits policy abortable panel host) events).settings

private theorem settings_runFor (panel : Panel) (host : Host σ) (steps : Nat) :
    (runFor steps (Stage.fresh parameters limits policy abortable panel host)).2.panel.SameSettings
      panel := by
  rcases runFor_eq_play steps (Stage.fresh parameters limits policy abortable panel host) with
    ⟨count, played⟩
  rw [played]
  exact settings_play parameters limits policy abortable panel host _

variable {parameters}

theorem Separated.undisturbed {panel other : Panel} {left right : Stage (Traced σ)}
    (separated : Separated left right) (settings : left.panel.SameSettings panel)
    (otherSettings : right.panel.SameSettings other) : Undisturbed panel other left right where
  capture := separated.capture.symm
  calls := by rw [separated.host]
  host := separated.host.symm
  result := separated.step.1
  settings := settings
  otherSettings := otherSettings

/-- Settings of channels that take no part are neither read nor changed. -/
theorem undisturbed_fresh {panel other : Panel} (host : Host (Traced σ))
    (agree : panel.AgreeOn parameters.channels other) :
    let left := Stage.fresh parameters limits policy abortable panel host
    let right := Stage.fresh parameters limits policy abortable other host
    (∀ events, Undisturbed panel other (left.play events) (right.play events)) ∧
      ∀ steps, (runFor steps left).1 = (runFor steps right).1 ∧
        Undisturbed panel other (runFor steps left).2 (runFor steps right).2 := by
  intro left right
  have separated : Separated left right :=
    separated_fresh parameters limits policy abortable host agree
  constructor
  · intro events
    exact (separated.play events).undisturbed (settings_play ..) (settings_play ..)
  · intro steps
    rcases separated.runFor steps with ⟨endings, after⟩
    exact ⟨endings, after.undisturbed (settings_runFor ..) (settings_runFor ..)⟩

def busyPanel : Panel where
  inputs := Vector.set (Vector.replicate 8 {}) 0
    { gain := .x32, resolution := .twelveBits, offset := some 77 }
  enabled := [.analog .ch1]

theorem undisturbed_short :
    let left := Stage.fresh shortParameters { minSamples := 2 } {} true {} shortHost.traced
    let right := Stage.fresh shortParameters { minSamples := 2 } {} true busyPanel shortHost.traced
    Panel.AgreeOn shortParameters.channels {} busyPanel ∧
      ((∀ events, Undisturbed {} busyPanel (left.play events) (right.play events)) ∧
        ∀ steps, (runFor steps left).1 = (runFor steps right).1 ∧
          Undisturbed {} busyPanel (runFor steps left).2 (runFor steps right).2) ∧
      (right.play (List.replicate 10 .step)).capture.phase = .idle := by
  have agree : Panel.AgreeOn shortParameters.channels {} busyPanel := by
    constructor <;> intro input member <;> cases input <;>
      first | rfl | simp [shortParameters] at member
  have undisturbed := undisturbed_fresh { minSamples := 2 } {} true shortHost.traced agree
  refine ⟨agree, undisturbed, ?_⟩
  rw [← (undisturbed.1 _).capture]
  decide +kernel

end Capture

end BenchScope
