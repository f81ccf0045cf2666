import BenchScope.Proofs.Wire.Replies

namespace BenchScope

/-! The errors that an exchange can end with, whatever the link does. -/

namespace ProtocolError

def OfLink : ProtocolError → Prop
  | .link _ => True
  | .noAcknowledgement _ | .shortRead .. => False

def OfCommand : ProtocolError → Prop
  | .link _ | .noAcknowledgement _ => True
  | .shortRead .. => False

def OfReading : ProtocolError → Prop
  | .link _ | .shortRead .. => True
  | .noAcknowledgement _ => False

theorem OfLink.ofCommand {error : ProtocolError} (ofLink : error.OfLink) : error.OfCommand := by
  cases error with
  | link => trivial
  | noAcknowledgement | shortRead => exact ofLink.elim

end ProtocolError

namespace Exchange

open ProtocolError

variable {σ ε β γ : Type}

def FailsWith (action : Exchange ε σ β) (faults : ε → Prop) : Prop :=
  ∀ host error after, action.apply host = (.error error, after) → faults error

theorem FailsWith.mono {action : Exchange ε σ β} {faults weaker : ε → Prop}
    (fails : FailsWith action faults) (implies : ∀ error, faults error → weaker error) :
    FailsWith action weaker := fun host error after failed =>
  implies error (fails host error after failed)

theorem failsWith_pure (value : β) (faults : ε → Prop) :
    FailsWith (pure value : Exchange ε σ β) faults := by
  intro host error after failed
  cases failed

theorem FailsWith.bind {action : Exchange ε σ β} {next : β → Exchange ε σ γ} {faults : ε → Prop}
    (first : FailsWith action faults) (second : ∀ value, FailsWith (next value) faults) :
    FailsWith (action >>= next) faults := by
  intro host error after failed
  rw [Action.apply_bind] at failed
  rcases applied : action.apply host with ⟨reason | value, middle⟩
  · rw [applied] at failed
    cases failed
    exact first host error after applied
  · rw [applied] at failed
    exact second value middle error after failed

variable [Link σ]

/-- A parameter that is not taken whole is noticed, which is no error. -/
theorem compositional_failsWith {faults : ProtocolError → Prop}
    (ofLink : ∀ reason, faults (.link reason)) :
    Compositional (σ := σ) fun action => FailsWith action faults where
  pure value := failsWith_pure value faults
  bind := .bind
  note _ host error after failed := by cases failed
  write words := by
    intro host error after failed
    rw [apply_write] at failed
    rcases offered : (Link.write words host.link).1.result with reason | sent
    · rw [offered] at failed
      cases failed
      exact ofLink reason
    · rw [offered] at failed
      cases failed

theorem Reads.failsWith {action : Exchange ProtocolError σ β} {count : Nat}
    {reading : List UInt8 → Except ProtocolError β} {faults : ProtocolError → Prop}
    (reads : Reads action count reading) (ofLink : ∀ reason, faults (.link reason))
    (ofBytes : ∀ bytes error, reading bytes = .error error → faults error) :
    FailsWith action faults := by
  intro host error after failed
  rw [reads host] at failed
  rcases heard : (Link.read count host.link).1.result with reason | bytes
  · rw [heard] at failed
    cases failed
    exact ofLink reason
  · rw [heard] at failed
    exact ofBytes bytes error (congrArg Prod.fst failed)

theorem failsWith_send (parameters : List Parameter) :
    FailsWith (send (σ := σ) parameters) OfLink :=
  (compositional_failsWith fun _ => trivial).send parameters

theorem failsWith_request (command : Command) (parameters : List Parameter) :
    FailsWith (request (σ := σ) command parameters) OfLink :=
  (compositional_failsWith fun _ => trivial).request command parameters

theorem failsWith_awaitAcknowledgement :
    FailsWith (awaitAcknowledgement (σ := σ)) OfCommand := by
  refine reads_awaitAcknowledgement.failsWith (fun _ => trivial) ?_
  intro bytes error failed
  rcases bytes with _ | ⟨byte, rest⟩
  · cases failed
    trivial
  · rw [acknowledgementOf] at failed
    split at failed
    · cases failed
    · cases failed
      trivial

theorem failsWith_perform (command : Command) (parameters : List Parameter) :
    FailsWith (perform (σ := σ) command parameters) OfCommand :=
  (compositional_failsWith fun _ => trivial).perform failsWith_awaitAcknowledgement command
    parameters

theorem failsWith_readWord : FailsWith (readWord (σ := σ)) OfReading := by
  refine reads_readWord.failsWith (fun _ => trivial) ?_
  intro bytes error failed
  rcases bytes with _ | ⟨low, _ | ⟨high, rest⟩⟩
  · cases failed
    trivial
  · cases failed
    trivial
  · cases failed

end Exchange

end BenchScope
