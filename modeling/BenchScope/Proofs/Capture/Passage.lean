import BenchScope.Proofs.Capture.Course
import BenchScope.Proofs.Wire.Replies

namespace BenchScope

/-! What becomes of a host. All that ever happens to it in the work of a capture, and in any
exchange, are calls on its link, notices and pauses. -/

variable {σ : Type} [Link σ]

inductive Host.Becomes (host : Host σ) : Host σ → Prop
  | same : Becomes host host
  | write {before : Host σ} (bytes : List UInt8) : Becomes host before →
      Becomes host (before.after (Link.write bytes before.link).1 (Link.write bytes before.link).2)
  | read {before : Host σ} (count : Nat) : Becomes host before →
      Becomes host (before.after (Link.read count before.link).1 (Link.read count before.link).2)
  | note {before : Host σ} (notice : Notice) : Becomes host before →
      Becomes host (before.note notice)
  | pause {before : Host σ} (nanoseconds : Nat) : Becomes host before →
      Becomes host (before.pause nanoseconds)

namespace Host.Becomes

theorem trans {first second third : Host σ} (left : first.Becomes second)
    (right : second.Becomes third) : first.Becomes third := by
  induction right with
  | same => exact left
  | write bytes _ induction => exact .write bytes induction
  | read count _ induction => exact .read count induction
  | note notice _ induction => exact .note notice induction
  | pause nanoseconds _ induction => exact .pause nanoseconds induction

theorem clock_le {host after : Host σ} (becomes : host.Becomes after) :
    host.clock ≤ after.clock := by
  induction becomes with
  | same => exact Nat.le_refl _
  | write _ _ induction | read _ _ induction | pause _ _ induction =>
      exact Nat.le_add_right_of_le induction
  | note _ _ induction => exact induction

end Host.Becomes

namespace Exchange

variable {ε β γ : Type}

/-- Nothing else happens to a host in the course of the action. -/
def Proceeds (action : Exchange ε σ β) : Prop := ∀ host : Host σ, host.Becomes (action.apply host).2

theorem Proceeds.of_apply {action : Exchange ε σ β} (proceeds : Proceeds action)
    {host after : Host σ} {result : Except ε β} (applied : action.apply host = (result, after)) :
    host.Becomes after := by
  have becomes := proceeds host
  rwa [applied] at becomes

theorem proceeds_pure (value : β) : Proceeds (pure value : Exchange ε σ β) := fun _ => .same

theorem Proceeds.bind {action : Exchange ε σ β} {next : β → Exchange ε σ γ}
    (first : Proceeds action) (second : ∀ value, Proceeds (next value)) :
    Proceeds (action >>= next) := by
  intro host
  rw [Action.apply_bind]
  rcases applied : action.apply host with ⟨error | value, middle⟩
  · exact first.of_apply applied
  · exact (first.of_apply applied).trans (second value middle)

theorem Reads.proceeds {action : Exchange ProtocolError σ β} {count : Nat}
    {reading : List UInt8 → Except ProtocolError β} (reads : Reads action count reading) :
    Proceeds action := by
  intro host
  rw [reads host]
  exact .read count .same

theorem compositional_proceeds : Compositional (σ := σ) Proceeds where
  pure := proceeds_pure
  bind := .bind
  note notice _ := .note notice .same
  write bytes _ := .write bytes .same

theorem proceeds_send (parameters : List Parameter) : Proceeds (send (σ := σ) parameters) :=
  compositional_proceeds.send parameters

theorem proceeds_request (command : Command) (parameters : List Parameter) :
    Proceeds (request (σ := σ) command parameters) :=
  compositional_proceeds.request command parameters

theorem proceeds_awaitAcknowledgement : Proceeds (awaitAcknowledgement (σ := σ)) :=
  reads_awaitAcknowledgement.proceeds

theorem proceeds_perform (command : Command) (parameters : List Parameter) :
    Proceeds (perform (σ := σ) command parameters) :=
  compositional_proceeds.perform proceeds_awaitAcknowledgement command parameters

theorem proceeds_askStatus : Proceeds (Capture.askStatus (σ := σ)) :=
  compositional_proceeds.askStatus reads_readByte.proceeds reads_readWord.proceeds
    proceeds_awaitAcknowledgement

end Exchange

namespace Capture

open Exchange

private theorem becomes_readSamples (calibration : Calibration Float) (abortable : Bool)
    (count : Nat) (taken : List Float) (host : Host σ) :
    host.Becomes (readSamples calibration abortable count taken host).2 := by
  induction count generalizing taken host with
  | zero => exact .same
  | succ count induction =>
      rw [readSamples]
      split
      case isTrue => exact .same
      case isFalse =>
        have once := reads_readWord.proceeds host
        split
        case h_1 heard =>
          rw [heard] at once
          exact once.trans (induction _ _)
        all_goals
          rename_i heard
          rw [heard] at once
          exact once

theorem becomes_worked {stage : Stage σ} {outcome : Except (CaptureError Float) Phase × Stage σ}
    (worked : Worked stage outcome) : stage.host.Becomes outcome.2.host := by
  cases worked with
  | unarmed _ _ _ _ performed | armed _ _ _ _ performed | unstarted _ _ _ performed
  | started _ _ _ performed => exact (proceeds_perform _ _).of_apply performed
  | unanswered _ asked | done _ asked | late _ asked => exact proceeds_askStatus.of_apply asked
  | waiting _ asked => exact .pause _ (proceeds_askStatus.of_apply asked)
  | unrequested _ _ requested => exact (proceeds_request _ _).of_apply requested
  | @retrieved input offset asked host finish samples _ _ requested heard =>
      have read := becomes_readSamples (Calibration.ofPanel stage.panel input)
        stage.capture.abortable stage.capture.parameters.sampleCount.toNat [] asked
      rw [heard] at read
      have becomes := ((proceeds_request _ _).of_apply requested).trans read
      cases finish with
      | short => exact .note _ becomes
      | _ => exact becomes
  | unacknowledged _ awaited | emitted _ awaited | completed _ awaited =>
      exact proceeds_awaitAcknowledgement.of_apply awaited
  | _ => exact .same

end Capture

end BenchScope
