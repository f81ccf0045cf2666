import BenchScope.Capture.Step

namespace BenchScope.Exchange

/-! What the readers make of the bytes that the link delivers. Each of them makes one read call, and
its result is a function of what the call brings. Sending, on the other hand, has a result of its
own only when the link fails. -/

def acknowledgementOf : List UInt8 → Except ProtocolError UInt8
  | [] => .error (.noAcknowledgement none)
  | byte :: _ =>
      if isAcknowledgement byte then .ok byte else .error (.noAcknowledgement (some byte))

def byteOf : List UInt8 → Except ProtocolError UInt8
  | [] => .error (.shortRead 1 0)
  | byte :: _ => .ok byte

def wordOf : List UInt8 → Except ProtocolError UInt16
  | low :: high :: _ => .ok (wordOfBytes low high)
  | bytes => .error (.shortRead 2 bytes.length)

variable {σ β : Type}

def answer (reading : List UInt8 → Except ProtocolError β) :
    Except LinkError (List UInt8) → Except ProtocolError β
  | .ok bytes => reading bytes
  | .error error => .error (.link error)

variable [Link σ]

theorem apply_write (words : List UInt8) (host : Host σ) :
    (write words).apply host =
      ((Link.write words host.link).1.result.mapError .link,
        host.after (Link.write words host.link).1 (Link.write words host.link).2) := rfl

theorem apply_write_of_taken {words : List UInt8} {host : Host σ} {count : Nat}
    (taken : (Link.write words host.link).1.result = .ok count) :
    (write words).apply host =
      (.ok count, host.after (Link.write words host.link).1 (Link.write words host.link).2) := by
  rw [apply_write, taken]
  rfl

/-- Where no write call fails all parameters are sent, taken whole or not, and what the write calls
keep of the link is kept. -/
theorem send_of_writes (good : σ → Prop)
    (writes : ∀ words link, good link →
      (∃ count, (Link.write words link).1.result = .ok count) ∧ good (Link.write words link).2)
    (parameters : List Parameter) {host : Host σ} (ready : good host.link) :
    ∃ after, (send parameters).apply host = (.ok (), after) ∧ good after.link := by
  induction parameters generalizing host with
  | nil => exact ⟨host, rfl, ready⟩
  | cons parameter rest induction =>
      rcases writes parameter.bytes host.link ready with ⟨⟨count, taken⟩, later⟩
      rw [send, Action.apply_bind, apply_write_of_taken taken]
      dsimp only
      split
      case isTrue =>
        rw [Action.apply_bind, Action.apply_modify]
        exact induction later
      case isFalse => exact induction later

def Reads (action : Exchange ProtocolError σ β) (count : Nat)
    (reading : List UInt8 → Except ProtocolError β) : Prop :=
  ∀ host : Host σ, action.apply host =
    (answer reading (Link.read count host.link).1.result,
      host.after (Link.read count host.link).1 (Link.read count host.link).2)

private theorem reads_read_bind (count : Nat) {next : List UInt8 → Exchange ProtocolError σ β}
    {reading : List UInt8 → Except ProtocolError β}
    (silent : ∀ bytes host, (next bytes).apply host = (reading bytes, host)) :
    Reads (read count >>= next) count reading := by
  intro host
  rw [Action.apply_bind, read, Action.apply_of]
  rcases heard : Link.read count host.link with ⟨⟨error | bytes, elapsed, abort⟩, link⟩
  · rfl
  · exact silent bytes _

theorem reads_awaitAcknowledgement :
    Reads (σ := σ) awaitAcknowledgement 1 acknowledgementOf := by
  refine reads_read_bind 1 ?_
  intro bytes host
  cases bytes with
  | nil => rfl
  | cons byte rest =>
      rw [acknowledgementOf]
      simp only
      split <;> rfl

theorem reads_readByte : Reads (σ := σ) readByte 1 byteOf := by
  refine reads_read_bind 1 ?_
  intro bytes host
  cases bytes <;> rfl

theorem reads_readWord : Reads (σ := σ) readWord 2 wordOf := by
  refine reads_read_bind 2 ?_
  intro bytes host
  rcases bytes with _ | ⟨low, _ | ⟨high, rest⟩⟩ <;> rfl

/-! What is true of write calls and of notices, and of whatever is composed of actions of which it
is true, is true of all that is sent. What it says of the readers is another matter. -/

structure Compositional (holds : ∀ {γ : Type}, Exchange ProtocolError σ γ → Prop) : Prop where
  pure {γ : Type} (value : γ) : holds (Pure.pure value)
  bind {γ δ : Type} {action : Exchange ProtocolError σ γ} {next : γ → Exchange ProtocolError σ δ} :
    holds action → (∀ value, holds (next value)) → holds (action >>= next)
  note (notice : Notice) : holds (modify (·.note notice) : Exchange ProtocolError σ PUnit)
  write (words : List UInt8) : holds (Exchange.write words)

namespace Compositional

variable {holds : ∀ {γ : Type}, Exchange ProtocolError σ γ → Prop}
  (compositional : Compositional holds)

include compositional

theorem send (parameters : List Parameter) : holds (Exchange.send parameters) := by
  induction parameters with
  | nil => exact compositional.pure ()
  | cons parameter rest induction =>
      refine compositional.bind (compositional.write parameter.bytes) fun sent => ?_
      split
      case isTrue => exact compositional.bind (compositional.note _) fun _ => induction
      case isFalse => exact induction

theorem request (command : Command) (parameters : List Parameter) :
    holds (Exchange.request command parameters) :=
  compositional.bind (compositional.send _) fun _ => compositional.send parameters

theorem perform (acknowledgement : holds awaitAcknowledgement) (command : Command)
    (parameters : List Parameter) : holds (Exchange.perform command parameters) :=
  compositional.bind (compositional.request command parameters) fun _ =>
    compositional.bind acknowledgement fun _ => compositional.pure ()

theorem askStatus (flag : holds readByte) (counter : holds readWord)
    (acknowledgement : holds awaitAcknowledgement) : holds Capture.askStatus :=
  compositional.bind (compositional.send _) fun _ =>
    compositional.bind flag fun _ => compositional.bind counter fun _ =>
      compositional.bind acknowledgement fun _ => compositional.pure _

end Compositional

end BenchScope.Exchange
