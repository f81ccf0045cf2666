import BenchScope.Proofs.Capture.Consumption
import BenchScope.Proofs.Device.Agreement
import BenchScope.Proofs.Selection

namespace BenchScope

open Exchange

/-! What a capture that comes to nothing leaves behind for the next operation. The bytes are not
framed, so an end of the reply that was not read is read as the answer to whatever is said next. -/

/-! A command on a link that answers at once. -/

/-- A link in one of these states takes what it is given, and delivers what it is asked for as far
as it has it. -/
structure Prompt {σ : Type} [Link σ] (holds : List UInt8 → σ → Prop) (prompt : σ → Prop) :
    Prop where
  write (words bytes : List UInt8) (link : σ) : holds bytes link → prompt link →
    (Link.write words link).1.result = .ok words.length ∧ prompt (Link.write words link).2
  read (count : Nat) (bytes : List UInt8) (link : σ) : holds bytes link → prompt link →
    (Link.read count link).1.result = .ok (bytes.take count) ∧ prompt (Link.read count link).2

namespace Script

theorem Carries.holds {items : List Item} {bytes : List UInt8} (carries : Carries items bytes) :
    items.filterMap Item.byte? = bytes := by
  induction carries with
  | nothing => rfl
  | byte value _ induction => exact congrArg (value :: ·) induction
  | stall nanoseconds _ induction => exact induction

theorem Carries.take {items : List Item} {bytes : List UInt8} (carries : Carries items bytes)
    (wanted : Nat) : (Script.take wanted items).outcome.result = .ok (bytes.take wanted) ∧
      Carries (Script.take wanted items).rest (bytes.drop wanted) := by
  induction carries generalizing wanted with
  | nothing => cases wanted <;> exact ⟨rfl, .nothing⟩
  | byte value carries induction =>
      cases wanted with
      | zero => exact ⟨rfl, .byte value carries⟩
      | succ wanted =>
          rcases induction wanted with ⟨result, rest⟩
          refine ⟨?_, rest⟩
          rw [Script.take, Progress.withByte, result]
          rfl
  | stall nanoseconds carries induction =>
      cases wanted with
      | zero => exact ⟨rfl, .stall nanoseconds carries⟩
      | succ wanted => exact induction (wanted + 1)

theorem prompt : Prompt Holds fun script => ∃ bytes, Brings bytes script where
  write words bytes script _ state := by
    rcases state with ⟨own, brings⟩
    rcases steady.write words own script brings with ⟨result, -, later⟩
    exact ⟨result, own, later⟩
  read count bytes script holding state := by
    rcases state with ⟨own, brings⟩
    obtain rfl : own = bytes := brings.incoming.holds.symm.trans holding
    rcases brings.incoming.take count with ⟨result, rest⟩
    exact ⟨result, _, brings.budget, brings.failing, rest⟩

end Script

namespace Exchange

def verdict (bytes : List UInt8) : Except ProtocolError Unit :=
  (acknowledgementOf bytes).map fun _ => ()

variable {σ : Type} [Link σ] {holds : List UInt8 → σ → Prop} {prompt : σ → Prop}

private theorem send_of_prompt (conveys : Conveys holds) (prompts : Prompt holds prompt)
    (parameters : List Parameter) {bytes : List UInt8} {host : Host σ}
    (holding : holds bytes host.link) (ready : prompt host.link) :
    ∃ after, (send parameters).apply host = (.ok (), after) ∧ holds bytes after.link ∧
      prompt after.link := by
  refine send_of_writes (fun link => holds bytes link ∧ prompt link) ?_ parameters
    ⟨holding, ready⟩
  rintro words link ⟨holding, ready⟩
  rcases prompts.write words bytes link holding ready with ⟨whole, later⟩
  exact ⟨⟨_, whole⟩, conveys.write words bytes link holding, later⟩

private theorem perform_of_prompt (conveys : Conveys holds) (prompts : Prompt holds prompt)
    (command : Command) (parameters : List Parameter) {bytes : List UInt8} {host : Host σ}
    (holding : holds bytes host.link) (ready : prompt host.link) :
    ∃ after, (perform command parameters).apply host = (verdict bytes, after) := by
  rcases send_of_prompt conveys prompts command.parameters holding ready with
    ⟨middle, opened, holding, ready⟩
  rcases send_of_prompt conveys prompts parameters holding ready with
    ⟨after, sent, holding, ready⟩
  have heard := (prompts.read 1 bytes after.link holding ready).1
  have first : acknowledgementOf (bytes.take 1) = acknowledgementOf bytes := by cases bytes <;> rfl
  rw [perform, request, Action.apply_bind, Action.apply_bind, sendCommand, opened]
  simp only [sent]
  rw [Action.apply_bind, reads_awaitAcknowledgement after, heard, answer, first, verdict]
  cases acknowledgementOf bytes <;> exact ⟨_, rfl⟩

end Exchange

/-! Setting a gain, as a choice and a command. -/

namespace Device

variable {σ : Type}

def chooseGain (name : String) (factor : UInt8) : Except GainError Panel.GainChange :=
  match Channel.lookup name with
  | .error error => .error (.lookup error)
  | .ok channel => (Panel.selectGain channel factor).mapError .setting

def changed (device : Device σ) (change : Panel.GainChange) :
    Except ProtocolError Unit × Host σ → Except GainError Unit × Device σ
  | (.ok _, host) => (.ok (), { device with host, panel := device.panel.applyGain change })
  | (.error error, host) => (.error (.protocol error), { device with host })

variable [Link σ]

theorem apply_setGain (name : String) (factor : UInt8) (device : Device σ) :
    (setGain name factor).apply device =
      match chooseGain name factor with
      | .error error => (.error error, device)
      | .ok change => device.changed change
          ((perform .setGain [.byte change.amplifier, .byte change.gain.index]).apply
            device.host) := by
  rw [setGain, Action.apply_bind, chooseGain]
  rcases found : Channel.lookup name with error | channel
  · rfl
  · rcases selected : Panel.selectGain channel factor with error | change
    · simp [selected, ofExcept, Except.mapError]
    · have recorded := device.panel.recordGain_of_selected selected
      rcases performed : (perform .setGain [.byte change.amplifier, .byte change.gain.index]).apply
        device.host with ⟨error | _, host⟩ <;>
      simp [selected, recorded, ofExcept, Action.apply_bind, exchange, performed, changed,
        Except.mapError]

def SetsAlike (name : String) (factor : UInt8) (left right : Device σ) : Prop :=
  ((setGain name factor).apply left).1 = ((setGain name factor).apply right).1 ∧
    ((setGain name factor).apply left).2.panel = ((setGain name factor).apply right).2.panel

/-- The first byte decides, if there is anything to be told to the instrument. -/
private theorem setsAlike_iff {holds : List UInt8 → σ → Prop} {prompt : σ → Prop}
    (conveys : Conveys holds) (prompts : Prompt holds prompt) (device : Device σ) {other : Host σ}
    {bytes otherBytes : List UInt8} (holding : holds bytes device.host.link)
    (ready : prompt device.host.link) (otherHolding : holds otherBytes other.link)
    (otherReady : prompt other.link) (name : String) (factor : UInt8) :
    SetsAlike name factor device { device with host := other } ↔
      (∃ error, chooseGain name factor = .error error) ∨ verdict bytes = verdict otherBytes := by
  rw [SetsAlike, apply_setGain, apply_setGain]
  rcases chooseGain name factor with error | change
  · simp
  · rcases perform_of_prompt conveys prompts .setGain
      [.byte change.amplifier, .byte change.gain.index] holding ready with ⟨after, performed⟩
    rcases perform_of_prompt conveys prompts .setGain
      [.byte change.amplifier, .byte change.gain.index] otherHolding otherReady with
      ⟨otherAfter, otherPerformed⟩
    simp only [performed, otherPerformed]
    generalize verdict bytes = own
    generalize verdict otherBytes = others
    constructor
    · intro alike
      refine .inr ?_
      rcases own with _ | _ <;> rcases others with _ | _ <;> cases alike.1 <;> rfl
    · intro same
      obtain rfl : own = others := same.resolve_left nofun
      cases own <;> exact ⟨rfl, rfl⟩

end Device

/-! The ways in which an instrument comes back from a capture that has come to nothing. -/

def Capturing.afterwards {σ : Type} [Link σ] (capturing : Capturing σ) (events : List Event) :
    Capturing σ :=
  capturing.withStage (capturing.stage.play events)

namespace Device

variable {σ : Type} [Link σ]

/-- The instrument has come back from a capture with these parameters, and not because the capture
was complete. -/
inductive GivenBack (device : Device σ) (parameters : Parameters Float) : Device σ → Prop
  | refused {error : CaptureError Float} {returned : Device σ} :
      device.startCapture parameters = .refused error returned →
      GivenBack device parameters returned
  | failedAtOnce {steps : Nat} {failure : CaptureFailure} {returned : Device σ} :
      device.captureFor parameters steps = .failed failure returned →
      GivenBack device parameters returned
  | failed {capturing : Capturing σ} {events : List Event} {steps : Nat}
      {failure : CaptureFailure} {returned : Device σ} :
      device.startCapture parameters = .capturing capturing →
      (capturing.afterwards events).waitFor steps = .failed failure returned →
      GivenBack device parameters returned
  | cancelled {capturing : Capturing σ} {events : List Event} :
      device.startCapture parameters = .capturing capturing →
      GivenBack device parameters (capturing.afterwards events).cancel.2

variable {device returned : Device σ} {parameters : Parameters Float}

private theorem stage_of_startCapture {capturing : Capturing σ}
    (started : device.startCapture parameters = .capturing capturing) :
    capturing.stage = (device.withCapture parameters true).stage.play [.step] := by
  rw [startCapture] at started
  rcases stepped : Capture.step (device.withCapture parameters true).stage with ⟨_ | _, after⟩
  · rw [stepped] at started
    cases started
  · rw [stepped] at started
    cases started
    exact (congrArg Prod.snd stepped).symm

private theorem link_of_waitFor {capturing : Capturing σ} {steps : Nat} {failure : CaptureFailure}
    (ended : capturing.waitFor steps = .failed failure returned) : ∃ count, returned.host.link =
      (capturing.stage.play (List.replicate count .step)).host.link := by
  rcases Capture.runFor_eq_play steps capturing.stage with ⟨count, played⟩
  refine ⟨count, ?_⟩
  rw [Capturing.waitFor_eq] at ended
  rcases ending : (Capture.runFor steps capturing.stage).1 with _ | error | _
  · rw [ending] at ended
    cases ended
  · rw [ending, played] at ended
    cases ended
    rfl
  · rw [ending] at ended
    cases ended

private theorem link_of_givenBack (back : device.GivenBack parameters returned) :
    ∃ abortable events, returned.host.link =
      ((device.withCapture parameters abortable).stage.play events).host.link := by
  cases back with
  | refused refused =>
      rw [startCapture] at refused
      refine ⟨true, [.step], ?_⟩
      rcases stepped : Capture.step (device.withCapture parameters true).stage with ⟨_ | _, after⟩
      · rw [stepped] at refused
        cases refused
        exact congrArg (fun outcome => outcome.2.host.link) stepped.symm
      · rw [stepped] at refused
        cases refused
  | failedAtOnce ended =>
      rcases link_of_waitFor ended with ⟨count, link⟩
      exact ⟨false, _, link⟩
  | @failed capturing events _ _ _ started ended =>
      rcases link_of_waitFor ended with ⟨count, link⟩
      refine ⟨true, [.step] ++ events ++ List.replicate count .step, link.trans ?_⟩
      rw [Stage.play_append, Stage.play_append, ← stage_of_startCapture started]
      rfl
  | @cancelled capturing events started =>
      refine ⟨true, [.step] ++ events ++ [.abort, .step], ?_⟩
      rw [Stage.play_append, Stage.play_append, ← stage_of_startCapture started]
      rfl

/-- What was not read of the reply to the capture comes before what the instrument answers next. So
setting a gain comes to the same as without the capture exactly when the gain is refused beforehand,
or the byte that now comes first means the same to a command as the one that should. -/
theorem reusable_iff {holds : List UInt8 → σ → Prop} {prompt : σ → Prop} (conveys : Conveys holds)
    (prompts : Prompt holds prompt) (device : Device σ) (parameters : Parameters Float)
    (replies : Replies) (next : List UInt8) (suits : replies.Suits parameters)
    (holding : holds (replies.bytes parameters.isTriggered ++ next) device.host.link)
    (returned : Device σ) (back : device.GivenBack parameters returned) :
    ∃ left, left <:+ replies.bytes parameters.isTriggered ∧
      holds (left ++ next) returned.host.link ∧
      ∀ clean : Host σ, prompt returned.host.link → holds next clean.link → prompt clean.link →
        ∀ name factor, SetsAlike name factor returned { returned with host := clean } ↔
          (∃ error, chooseGain name factor = .error error) ∨
            verdict (left ++ next) = verdict next := by
  rcases link_of_givenBack back with ⟨abortable, events, link⟩
  have begun : holds (replies.bytes parameters.isTriggered ++ next)
      (device.withCapture parameters abortable).stage.host.link := by
    cases abortable <;> exact holding
  rcases Capture.left_of_play conveys parameters device.limits device.policy abortable
    (device.withCapture parameters abortable).stage.panel _ suits begun events with
    ⟨left, suffix, remaining⟩
  have remaining : holds (left ++ next) returned.host.link := by
    rw [link]
    cases abortable <;> exact remaining
  refine ⟨left, suffix, remaining, fun clean ready cleanHolding cleanReady name factor => ?_⟩
  exact setsAlike_iff conveys prompts returned remaining ready cleanHolding cleanReady name factor

/-! A capture that is cancelled when all samples are there, but the acknowledgement behind them has
not been read. The instrument then refuses a command, and the old acknowledgement is taken for its
answer. -/

def tenSamples : Parameters Float where
  channels := [.analog .ch3]
  sampleCount := 10
  rate := 100000.0

def tenReplies : Replies where
  armed := 1
  started := 1
  delays := []
  flag := 1
  counter := 10
  ready := 1
  blocks := [⟨List.replicate 10 1023, 1⟩]

/-- The refusal is an even byte. -/
def refusal : List UInt8 := [2]

def tenDevice : Device Script where
  version := "PSLab V6"
  host := { link := { incoming := (tenReplies.bytes false ++ refusal).map .byte } }

def cancelledDevice : Device Script :=
  match tenDevice.startCapture tenSamples with
  | .capturing capturing => (capturing.afterwards [.step, .step, .step]).cancel.2
  | .refused _ device => device

def cleanDevice : Device Script :=
  { cancelledDevice with host := { link := { incoming := refusal.map .byte } } }

private theorem givenBack_cancelledDevice : tenDevice.GivenBack tenSamples cancelledDevice := by
  rw [cancelledDevice]
  cases started : tenDevice.startCapture tenSamples with
  | capturing capturing => exact .cancelled started
  | refused error returned => exact .refused started

private theorem suits_tenReplies : tenReplies.Suits tenSamples :=
  ⟨by decide, by decide, by decide, by decide, by decide, by decide, by decide⟩

private theorem brings_cancelledDevice :
    Script.Brings (1 :: refusal) cancelledDevice.host.link := by
  have incoming : cancelledDevice.host.link.incoming = (1 :: refusal).map .byte := by
    decide +kernel
  exact ⟨by decide +kernel, by decide +kernel, incoming ▸ Script.carries_bytes _⟩

theorem reusable_iff_cancelledDevice :
    tenReplies.Suits tenSamples ∧
      Script.Holds (tenReplies.bytes tenSamples.isTriggered ++ refusal) tenDevice.host.link ∧
      tenDevice.GivenBack tenSamples cancelledDevice ∧
      ∃ left, left <:+ tenReplies.bytes tenSamples.isTriggered ∧
        Script.Holds (left ++ refusal) cancelledDevice.host.link ∧
        ∀ name factor, SetsAlike name factor cancelledDevice cleanDevice ↔
          (∃ error, chooseGain name factor = .error error) ∨
            verdict (left ++ refusal) = verdict refusal := by
  have holding : Script.Holds (tenReplies.bytes tenSamples.isTriggered ++ refusal)
      tenDevice.host.link := (Script.carries_bytes _).holds
  rcases reusable_iff Script.conveys Script.prompt tenDevice tenSamples tenReplies refusal
    suits_tenReplies holding cancelledDevice givenBack_cancelledDevice with
    ⟨left, suffix, remaining, alike⟩
  exact ⟨suits_tenReplies, holding, givenBack_cancelledDevice, left, suffix, remaining,
    alike cleanDevice.host ⟨_, brings_cancelledDevice⟩ (Script.carries_bytes refusal).holds
      ⟨refusal, rfl, rfl, Script.carries_bytes refusal⟩⟩

/-- The instrument has refused the command, and yet the gain counts as set. -/
theorem setGain_cancelledDevice :
    tenReplies.Suits tenSamples ∧
      Script.Holds (tenReplies.bytes tenSamples.isTriggered ++ refusal) tenDevice.host.link ∧
      tenDevice.GivenBack tenSamples cancelledDevice ∧
      ((setGain "CH1" 2).apply cancelledDevice).1 = .ok () ∧
      (((setGain "CH1" 2).apply cancelledDevice).2.panel.state .ch1).gain = .x2 ∧
      ((setGain "CH1" 2).apply cleanDevice).1 =
        .error (.protocol (.noAcknowledgement (some 2))) ∧
      (((setGain "CH1" 2).apply cleanDevice).2.panel.state .ch1).gain = .x1 :=
  ⟨suits_tenReplies, (Script.carries_bytes _).holds, givenBack_cancelledDevice, by decide +kernel,
    by decide +kernel, by decide +kernel, by decide +kernel⟩

end Device

end BenchScope
