import BenchScope.Proofs.Capture.Delivery
import BenchScope.Proofs.Capture.Windows
import BenchScope.Proofs.Wire.Faults

namespace BenchScope.Capture

open Exchange

/-! What can still go wrong once the configuring phase is over. The check of the parameters is not
made again, but later phases rely on what it has found: there are channels, all of them are inputs,
and the trigger can be told to the device. -/

def Foreseen (parameters : Parameters Float) (phase : Phase) : CaptureError Float → Prop
  | .aborted => True
  | .protocol (.link _) => True
  | .protocol (.noAcknowledgement _) => phase ≠ .retrieving
  -- Where samples are missing the capture goes on.
  | .protocol (.shortRead ..) => phase = .polling
  | .timeout _ => phase = .polling
  | .channel (.offsetOverflow _) =>
      phase = .capturing ∧
        65535 < (parameters.channels.length - 1) * parameters.sampleCount.toNat
  | .channel (.notFound _) | .channel (.notAnalog _) | .channel (.notLogic _) => False
  | .parameters _ => False
  | .trigger _ => False

def Configured (phase : Phase) : Prop := phase ≠ .configuring ∧ phase.isFinished = false

structure Foreseeable {σ : Type} [Link σ] (parameters : Parameters Float) (stage : Stage σ) :
    Prop where
  places : Configured stage.capture.phase → ∀ place ∈ [0, stage.capture.cursor],
    ∃ input, stage.capture.channels[place]? = some (.analog input)
  faults : stage.capture.phase ≠ .configuring → ∀ error after,
    step stage = (.error error, after) → Foreseen parameters stage.capture.phase error

private theorem foreseen_of_link {parameters : Parameters Float} {phase : Phase}
    {error : ProtocolError} (ofLink : error.OfLink) :
    Foreseen parameters phase (.protocol error) := by
  cases error with
  | link => trivial
  | noAcknowledgement | shortRead => exact ofLink.elim

private theorem foreseen_of_command {parameters : Parameters Float} {phase : Phase}
    {error : ProtocolError} (ofCommand : error.OfCommand) (elsewhere : phase ≠ .retrieving) :
    Foreseen parameters phase (.protocol error) := by
  cases error with
  | link => trivial
  | noAcknowledgement => exact elsewhere
  | shortRead => exact ofCommand.elim

/-- An answer that is too short is an error only where the status is asked for. -/
private theorem foreseen_of_polling {parameters : Parameters Float} {phase : Phase}
    (error : ProtocolError) (polling : phase = .polling) :
    Foreseen parameters phase (.protocol error) := by
  subst polling
  cases error with
  | link => trivial
  | noAcknowledgement => nofun
  | shortRead => rfl

variable {σ : Type}

section Lookups

variable {origin stage : Stage σ}

private theorem checked_of_configured (sound : Sound origin stage)
    (configured : Configured stage.capture.phase) : Checked origin stage := by
  have holds := sound.phase
  cases phase : stage.capture.phase <;> rw [phase] at holds configured
  case configuring => exact absurd rfl configured.1
  case triggering | capturing | polling | retrieving | emitting => exact holds.1
  case idle | aborted => cases configured.2

private theorem begins_of_configured (sound : Sound origin stage)
    (configured : Configured stage.capture.phase) :
    (Session.mk origin.capture.parameters origin.panel stage.capture.sampling).Begins origin :=
  ⟨rfl, rfl, checked_of_configured sound configured⟩

private theorem cursor_of_configured (sound : Sound origin stage)
    (configured : Configured stage.capture.phase) :
    stage.capture.cursor < stage.capture.channels.length := by
  have accepted := Parameters.accepted_of_validate (checked_of_configured sound configured)
  have positive : 0 < stage.capture.channels.length := by
    rw [sound.channels]
    exact accepted.count_pos
  have holds := sound.phase
  cases phase : stage.capture.phase <;> rw [phase] at holds configured
  case configuring => exact absurd rfl configured.1
  case triggering | capturing | polling =>
    rw [holds.2.1.1]
    exact positive
  case retrieving => exact holds.2.2.1.1
  case emitting => exact holds.2.1.1
  case idle | aborted => cases configured.2

private theorem places_of_configured (sound : Sound origin stage)
    (configured : Configured stage.capture.phase) {place : Nat}
    (member : place ∈ [0, stage.capture.cursor]) :
    ∃ input, stage.capture.channels[place]? = some (.analog input) := by
  have accepted := Parameters.accepted_of_validate (checked_of_configured sound configured)
  have bound := cursor_of_configured sound configured
  rw [sound.channels] at bound ⊢
  apply accepted.analog_getElem
  rcases List.mem_pair.mp member with rfl | rfl
  · exact Nat.zero_lt_of_lt bound
  · exact bound

/-- The trigger has been encoded before, with the same settings. -/
private theorem encodable (sound : Sound origin stage) (phase : stage.capture.phase = .triggering)
    {trigger : Trigger Float} {first : Channel} {rest : List Channel}
    (wanted : stage.capture.parameters.trigger = some trigger)
    (channels : stage.capture.channels = first :: rest) :
    ∃ fields, trigger.fields stage.panel first = .ok fields := by
  have holds := sound.phase
  rw [phase] at holds
  rw [sound.parameters] at wanted
  rw [sound.channels] at channels
  rcases (Parameters.accepted_of_validate holds.1).trigger trigger wanted with
    ⟨head, others, fields, same, encoded⟩
  rw [Capture.channels, same, List.cons.injEq] at channels
  rcases channels with ⟨rfl, -⟩
  exact ⟨fields, sound.settings.fields_eq trigger head ▸ encoded⟩

theorem located (sound : Sound origin stage) (phase : stage.capture.phase = .retrieving) :
    ∃ input offset, source stage = .ok (input, offset) := by
  have holds := sound.phase
  rw [phase] at holds
  rcases holds with ⟨checked, -, underway, started⟩
  rcases current_of_underway sound.toInherits checked underway.1 with ⟨input, current⟩
  rcases Option.map_eq_some_iff.mp (started.1.enabled _ _ current) with ⟨offset, placed, -⟩
  exact ⟨input, offset, (source_eq_ok_iff stage input offset).mpr ⟨current, placed⟩⟩

private theorem foreseen_of_overflow (sound : Sound origin stage)
    (phase : stage.capture.phase = .capturing) {error : Channel.Error} {panel : Panel}
    (assigned : stage.panel.assignOffsets stage.capture.parameters.sampleCount =
      (.error error, panel)) :
    Foreseen origin.capture.parameters stage.capture.phase (.channel error) := by
  have configured : Configured stage.capture.phase := by
    rw [phase]
    exact ⟨nofun, rfl⟩
  have prepared := sound.phase
  rw [phase] at prepared
  rcases overflow_of_assignOffsets (begins_of_configured sound configured) sound.toInherits
    prepared.2.2 assigned with ⟨index, input, found, rfl, exceeds, -⟩
  exact ⟨phase, Nat.lt_of_not_le (not_fits_of_overflow found exceeds)⟩

end Lookups

variable [Link σ]

/-- Only the link can fail while samples are read. A sample that is missing ends the reading. -/
private theorem failed_of_readSamples (calibration : Calibration Float) (abortable : Bool)
    (count : Nat) (taken samples : List Float) (host after : Host σ) (error : ProtocolError)
    (heard : readSamples calibration abortable count taken host =
      ((.failed error, samples), after)) : error.OfLink := by
  induction count generalizing taken host with
  | zero => cases heard
  | succ count induction =>
      rw [readSamples] at heard
      split at heard
      · cases heard
      · split at heard
        case h_1 => exact induction _ _ heard
        case h_2 => cases heard
        case h_3 reason middle notShort failed =>
          cases heard
          have ofReading := failsWith_readWord host _ _ failed
          cases error with
          | link => trivial
          | noAcknowledgement => exact ofReading
          | shortRead expected actual => exact absurd rfl (notShort expected actual)

theorem foreseen_worked {origin stage after : Stage σ} {error : CaptureError Float}
    (sound : Sound origin stage) (configured : Configured stage.capture.phase)
    (worked : Worked stage (.error error, after)) :
    Foreseen origin.capture.parameters stage.capture.phase error := by
  have begins := begins_of_configured sound configured
  generalize outcome_eq : ((.error error, after) :
    Except (CaptureError Float) Phase × Stage σ) = outcome at worked
  cases worked with
  | refused phase =>
      rw [phase] at configured
      exact absurd rfl configured.1
  | unencodable phase wanted channels failed =>
      rcases encodable sound phase wanted channels with ⟨fields, encoded⟩
      rw [encoded] at failed
      cases failed
  | unarmed phase _ _ _ failed | unstarted phase _ _ failed =>
      cases outcome_eq
      refine foreseen_of_command (failsWith_perform _ _ _ _ _ failed) ?_
      rw [phase]
      nofun
  | overflowed phase assigned =>
      cases outcome_eq
      exact foreseen_of_overflow sound phase assigned
  | unselectable phase _ failed =>
      rcases selector_of_accepted (accepted_of_begins begins) with ⟨selected, selection⟩
      rw [sound.parameters] at failed
      rw [selection] at failed
      cases failed
  | unanswered phase failed =>
      cases outcome_eq
      exact foreseen_of_polling _ phase
  | late phase =>
      cases outcome_eq
      exact phase
  | sourceless phase failed =>
      rcases located sound phase with ⟨input, offset, found⟩
      rw [found] at failed
      cases failed
  | unrequested phase _ failed =>
      cases outcome_eq
      exact foreseen_of_link (failsWith_request _ _ _ _ _ failed)
  | @retrieved _ _ _ _ finish _ phase _ _ heard =>
      cases finish with
      | complete | short => cases outcome_eq
      | aborted =>
          cases outcome_eq
          trivial
      | failed reason =>
          cases outcome_eq
          exact foreseen_of_link (failed_of_readSamples _ _ _ _ _ _ _ _ heard)
  | unacknowledged phase failed =>
      cases outcome_eq
      refine foreseen_of_command (failsWith_awaitAcknowledgement _ _ _ failed) ?_
      rw [phase]
      nofun
  | _ => cases outcome_eq

theorem foreseeable_of_sound {origin stage : Stage σ} (sound : Sound origin stage) :
    Foreseeable origin.capture.parameters stage where
  places configured _ := places_of_configured sound configured
  faults behind error after stepped := by
    have possible := stepped_step stage
    rw [stepped] at possible
    cases possible with
    | stopped => trivial
    | failed unfinished _ worked => exact foreseen_worked sound ⟨behind, unfinished⟩ worked

/-- Whatever the link does and whenever the operator asks for an abort, the check of the parameters
need not be made twice. -/
theorem foreseeable_play (parameters : Parameters Float) (limits : Limits) (policy : PollPolicy)
    (abortable : Bool) (panel : Panel) (host : Host σ) (events : List Event) :
    Foreseeable parameters
      ((Stage.fresh parameters limits policy abortable panel host).play events) :=
  foreseeable_of_sound
    (sound_play (sound_fresh parameters limits policy abortable panel host) events)

end BenchScope.Capture
