import BenchScope.Proofs.Capture.Course
import BenchScope.Proofs.Wire.Lockstep

namespace BenchScope.Capture

/-! The same capture on two hosts. As long as neither is told to abort, the two captures take the
same steps, whether or not an abort would have been heeded. -/

open Exchange BenchScope.Action

variable {σ : Type} {alike : Host σ → Host σ → Prop}

/-- The stages differ at most in their hosts, and in whether the capture can be aborted. -/
inductive Paired (alike : Host σ → Host σ → Prop) : Stage σ → Stage σ → Prop
  | mk (capture : Capture) (abortable : Bool) (panel : Panel) {left right : Host σ} :
      alike left right →
      Paired alike ⟨capture, panel, left⟩ ⟨{ capture with abortable }, panel, right⟩

def Matching (alike : Host σ → Host σ → Prop) {ρ : Type} (left right : ρ × Stage σ) : Prop :=
  left.1 = right.1 ∧ Paired alike left.2 right.2

namespace Paired

variable {left right : Stage σ}

theorem phase (paired : Paired alike left right) : left.capture.phase = right.capture.phase := by
  cases paired
  rfl

theorem host (paired : Paired alike left right) : alike left.host right.host := by
  cases paired
  assumption

theorem panel (paired : Paired alike left right) : left.panel = right.panel := by
  cases paired
  rfl

theorem capture_eq (paired : Paired alike left right)
    (same : right.capture.abortable = left.capture.abortable) : right.capture = left.capture := by
  rcases paired with ⟨capture, abortable, panel, -⟩
  obtain rfl : abortable = capture.abortable := same
  rfl

theorem withHost (paired : Paired alike left right) {leftHost rightHost : Host σ}
    (same : alike leftHost rightHost) :
    Paired alike { left with host := leftHost } { right with host := rightHost } := by
  rcases paired with ⟨capture, abortable, panel, -⟩
  exact .mk capture abortable panel same

theorem source (paired : Paired alike left right) : source right = source left := by
  cases paired
  rfl

theorem fail {_ : Link σ} (lockstep : Lockstep alike) (paired : Paired alike left right)
    (error : CaptureError Float) : Paired alike (fail error left) (fail error right) := by
  rcases paired with ⟨capture, abortable, panel, same⟩
  exact .mk _ abortable _ (lockstep.note _ _ _ same)

end Paired

/-! Reading samples. -/

def collected (stage : Stage σ) (input : Input) (reading : (ReadEnd × List Float) × Host σ) :
    Except (CaptureError Float) Phase × Stage σ :=
  (reading.1.1.result,
    { stage with
      capture := { stage.capture with samples := reading.1.2 }
      host := reading.1.1.noted input reading.1.2.length
        stage.capture.parameters.sampleCount.toNat reading.2 })

variable [Link σ]

def readInput (stage : Stage σ) (input : Input) (host : Host σ) : (ReadEnd × List Float) × Host σ :=
  readSamples (Calibration.ofPanel stage.panel input) stage.capture.abortable
    stage.capture.parameters.sampleCount.toNat [] host

theorem apply_collect (stage : Stage σ) (input : Input) :
    (collect input).apply stage = collected stage input (readInput stage input stage.host) := by
  simp only [collect, apply_bind, apply_get, apply_set, collected, readInput]
  rcases readSamples (Calibration.ofPanel stage.panel input) stage.capture.abortable
    stage.capture.parameters.sampleCount.toNat [] stage.host with ⟨⟨finish, samples⟩, host⟩
  cases finish <;> rfl

variable {left right : Stage σ}

private theorem matching_collected (lockstep : Lockstep alike) (paired : Paired alike left right)
    (input : Input) {reading other : (ReadEnd × List Float) × Host σ}
    (same : reading.1 = other.1) (hosts : alike reading.2 other.2) :
    Matching alike (collected left input reading) (collected right input other) := by
  rcases paired with ⟨capture, abortable, panel, -⟩
  rcases reading with ⟨⟨finish, samples⟩, host⟩
  rcases other with ⟨⟨_, _⟩, otherHost⟩
  cases same
  refine ⟨rfl, .mk _ abortable _ ?_⟩
  cases finish with
  | short => exact lockstep.note _ _ _ hosts
  | _ => exact hosts

/-! The phases. -/

omit [Link σ] in
private theorem matching_bind {β γ : Type} {first other : Work σ β} {next continued : β → Work σ γ}
    (matching : Matching alike (first.apply left) (other.apply right))
    (further : ∀ value (leftAfter rightAfter : Stage σ), Paired alike leftAfter rightAfter →
      Matching alike ((next value).apply leftAfter) ((continued value).apply rightAfter)) :
    Matching alike ((first >>= next).apply left) ((other >>= continued).apply right) :=
  Corresponds.bind matching further

omit [Link σ] in
theorem matching_exchange {β γ : Type} {action : Exchange ProtocolError σ β}
    {next continued : β → Work σ γ} (uniform : Uniform alike action)
    (paired : Paired alike left right)
    (further : ∀ value leftHost rightHost, action.apply left.host = (.ok value, leftHost) →
      alike leftHost rightHost →
      Matching alike ((next value).apply { left with host := leftHost })
        ((continued value).apply { right with host := rightHost })) :
    Matching alike ((Work.exchange action >>= next).apply left)
      ((Work.exchange action >>= continued).apply right) := by
  rcases uniform _ _ paired.host with ⟨results, hosts⟩
  rw [apply_bind, apply_bind, Work.apply_exchange, Work.apply_exchange]
  rcases leftApplied : action.apply left.host with ⟨result, leftHost⟩
  rcases rightApplied : action.apply right.host with ⟨other, rightHost⟩
  rw [leftApplied, rightApplied] at results hosts
  obtain rfl : result = other := results
  cases result with
  | error error => exact ⟨rfl, paired.withHost hosts⟩
  | ok value => exact further value leftHost rightHost leftApplied hosts

omit [Link σ] in
private theorem matching_ofExcept {ε β : Type} (wrap : ε → CaptureError Float) (value : Except ε β)
    (paired : Paired alike left right) :
    Matching alike ((Work.ofExcept wrap value : Work σ β).apply left)
      ((Work.ofExcept wrap value : Work σ β).apply right) := by
  cases value <;> exact ⟨rfl, paired⟩

omit [Link σ] in
private theorem matching_configure (paired : Paired alike left right) :
    Matching alike (configure.apply left) (configure.apply right) := by
  rcases paired with ⟨capture, abortable, panel, same⟩
  simp only [configure, apply_bind, apply_get]
  cases capture.parameters.validate panel capture.limits with
  | error error => exact ⟨rfl, .mk _ abortable _ same⟩
  | ok sampling => exact ⟨rfl, .mk _ abortable _ same⟩

private theorem matching_sendTrigger (lockstep : Lockstep alike)
    (paired : Paired alike left right) :
    Matching alike (sendTrigger.apply left) (sendTrigger.apply right) := by
  have pair := paired
  rcases paired with ⟨capture, abortable, panel, same⟩
  rw [sendTrigger, apply_bind, apply_bind, apply_get, apply_get]
  simp only [Capture.channels]
  cases capture.parameters.trigger with
  | none => exact ⟨rfl, pair⟩
  | some trigger =>
      cases capture.parameters.channels with
      | nil => exact ⟨rfl, pair⟩
      | cons first rest =>
          refine matching_bind (matching_ofExcept _ _ pair) fun fields _ _ paired => ?_
          refine matching_exchange (uniform_perform lockstep _ _) paired ?_
          exact fun _ _ _ _ same => ⟨rfl, paired.withHost same⟩

private theorem matching_startDevice (lockstep : Lockstep alike)
    (paired : Paired alike left right) :
    Matching alike (startDevice.apply left) (startDevice.apply right) := by
  refine matching_bind ?assigned fun _ _ _ paired => ?started
  case assigned =>
    rcases paired with ⟨capture, abortable, panel, same⟩
    simp only [assignOffsets, apply_bind, apply_get, apply_set]
    exact matching_ofExcept _ _ (.mk capture abortable _ same)
  case started =>
    have pair := paired
    rcases paired with ⟨capture, abortable, panel, same⟩
    rw [apply_bind, apply_bind, apply_get, apply_get]
    refine matching_bind (matching_ofExcept _ _ pair) fun selected _ _ paired => ?_
    refine matching_exchange (uniform_perform lockstep _ _) paired fun _ _ _ _ same => ?_
    have clock := lockstep.clock _ _ same
    rcases paired with ⟨capture, abortable, panel, -⟩
    simp only [apply_bind, apply_get, Work.apply_modifyCapture, clock]
    exact ⟨rfl, .mk _ abortable _ same⟩

private theorem matching_poll (lockstep : Lockstep alike) (paired : Paired alike left right) :
    Matching alike (poll.apply left) (poll.apply right) := by
  refine matching_exchange (uniform_askStatus lockstep) paired fun status _ _ _ same => ?_
  have clock := lockstep.clock _ _ same
  rcases paired with ⟨capture, abortable, panel, -⟩
  simp only [apply_bind, Work.apply_modifyCapture]
  cases status.done with
  | true => exact ⟨rfl, .mk _ abortable _ same⟩
  | false =>
      simp only [Bool.false_eq_true, if_false, apply_bind, apply_get, clock]
      split
      · exact ⟨rfl, .mk _ abortable _ same⟩
      · exact ⟨rfl, .mk _ abortable _ (lockstep.pause _ _ _ same)⟩

def AgreesOnReading (alike : Host σ → Host σ → Prop) (left right : Stage σ) : Prop :=
  ∀ input offset leftAsked rightAsked, source left = .ok (input, offset) →
    (request .retrieveBuffer [.word offset, .word left.capture.parameters.sampleCount]).apply
      left.host = (.ok (), leftAsked) → alike leftAsked rightAsked →
    (readInput left input leftAsked).1 = (readInput right input rightAsked).1 ∧
      alike (readInput left input leftAsked).2 (readInput right input rightAsked).2

private theorem matching_retrieve (lockstep : Lockstep alike) (paired : Paired alike left right)
    (reading : AgreesOnReading alike left right) :
    Matching alike (retrieve.apply left) (retrieve.apply right) := by
  have sources := paired.source
  simp only [retrieve, apply_bind, apply_get, sources]
  rcases located : source left with error | ⟨input, offset⟩
  · exact ⟨rfl, paired⟩
  · simp only [Work.apply_ofExcept_ok, ← apply_bind]
    have counts : right.capture.parameters.sampleCount = left.capture.parameters.sampleCount := by
      cases paired
      rfl
    rw [counts]
    refine matching_exchange (uniform_request lockstep _ _) paired ?_
    intro _ leftAsked rightAsked asked same
    rcases reading input offset leftAsked rightAsked located asked same with ⟨readings, hosts⟩
    rw [apply_collect, apply_collect]
    exact matching_collected lockstep (paired.withHost same) input readings hosts

private theorem matching_emit (lockstep : Lockstep alike) (paired : Paired alike left right) :
    Matching alike (emit.apply left) (emit.apply right) := by
  have handed : Matching alike ((Work.modifyCapture handOver).apply left)
      ((Work.modifyCapture handOver).apply right) := by
    rcases paired with ⟨capture, abortable, panel, same⟩
    exact ⟨rfl, .mk _ abortable _ same⟩
  refine matching_bind handed fun _ _ _ paired => ?_
  refine matching_exchange (uniform_awaitAcknowledgement lockstep) paired fun _ _ _ _ same => ?_
  rcases paired with ⟨capture, abortable, panel, -⟩
  simp only [apply_bind, apply_get, Work.apply_modifyCapture]
  split
  case isTrue more =>
    split
    case isTrue => exact ⟨rfl, .mk _ abortable _ same⟩
    case isFalse less => exact absurd more less
  case isFalse less =>
    split
    case isTrue more => exact absurd more less
    case isFalse => exact ⟨rfl, .mk _ abortable _ same⟩

/-! A step as a whole. -/

theorem matching_work (lockstep : Lockstep alike) (paired : Paired alike left right)
    (reading : left.capture.phase = .retrieving → AgreesOnReading alike left right) :
    Matching alike ((work left.capture.phase).apply left)
      ((work right.capture.phase).apply right) := by
  rw [← paired.phase]
  cases phase : left.capture.phase with
  | configuring => exact matching_configure paired
  | triggering => exact matching_sendTrigger lockstep paired
  | capturing => exact matching_startDevice lockstep paired
  | polling => exact matching_poll lockstep paired
  | retrieving => exact matching_retrieve lockstep paired (reading phase)
  | emitting => exact matching_emit lockstep paired
  | idle | aborted => exact ⟨rfl, paired⟩

/-- Two captures that are in the same phase and agree on whether to stop take the same step, when
the work of the phase comes to the same. -/
theorem corresponds_step {related : Stage σ → Stage σ → Prop} (kept : related left right)
    (phases : left.capture.phase = right.capture.phase) (aborting : left.aborting = right.aborting)
    (fails : ∀ error left right, related left right → related (fail error left) (fail error right))
    (moves : ∀ phase (left right : Stage σ), related left right →
      related { left with capture := { left.capture with phase } }
        { right with capture := { right.capture with phase } })
    (worked : left.aborting = false → Corresponds related ((work left.capture.phase).apply left)
      ((work right.capture.phase).apply right)) :
    Corresponds related (step left) (step right) := by
  rw [step, step, isFinished, isFinished, ← phases, ← aborting]
  cases finished : left.capture.phase.isFinished with
  | true => exact ⟨rfl, kept⟩
  | false =>
      cases stopped : left.aborting with
      | true => exact ⟨rfl, fails _ _ _ kept⟩
      | false =>
          simp only [Bool.false_eq_true, if_false]
          have worked := worked stopped
          rw [← phases] at worked
          rcases leftWorked : (work left.capture.phase).apply left with ⟨result, leftAfter⟩
          rcases rightWorked : (work left.capture.phase).apply right with ⟨other, rightAfter⟩
          rw [leftWorked, rightWorked] at worked
          rcases worked with ⟨results, after⟩
          obtain rfl : result = other := results
          cases result with
          | error error => exact ⟨rfl, fails error _ _ after⟩
          | ok next => exact ⟨rfl, moves next _ _ after⟩

theorem matching_step (lockstep : Lockstep alike) (paired : Paired alike left right)
    (reading : left.capture.phase = .retrieving → AgreesOnReading alike left right)
    (leftGoesOn : left.aborting = false) (rightGoesOn : right.aborting = false) :
    Matching alike (step left) (step right) := by
  refine corresponds_step paired paired.phase (leftGoesOn.trans rightGoesOn.symm) ?_ ?_
    fun _ => matching_work lockstep paired reading
  · exact fun error _ _ paired => paired.fail lockstep error
  · intro phase _ _ paired
    rcases paired with ⟨capture, abortable, panel, same⟩
    exact .mk _ abortable _ same

end BenchScope.Capture
