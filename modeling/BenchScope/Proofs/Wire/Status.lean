import BenchScope.Proofs.Capture.Turns
import BenchScope.Proofs.Wire.Faults

namespace BenchScope

open LinkCall Exchange

/-! What comes of a question for the status, read off the calls that it is made of. -/

namespace Session

inductive StatusHeard : List LinkCall → List LinkCall → Except ProtocolError Bool → Prop
  | unsaid {said : List LinkCall} (error : LinkError) :
      written said <+: [[0x02], [0x06]] → StatusHeard said [] (.error (.link error))
  | broken {said : List LinkCall} (reads : List LinkCall) (count : Nat) (error : LinkError) :
      Offer said [[0x02], [0x06]] →
      StatusHeard said (reads ++ [.read count (.error error)]) (.error (.link error))
  -- The flag is missing.
  | unflagged {said : List LinkCall} :
      Offer said [[0x02], [0x06]] →
      StatusHeard said [.read 1 (.ok [])] (.error (.shortRead 1 0))
  -- The counter is missing, or the half of it.
  | uncounted {said : List LinkCall} {flag : LinkCall} {byte : UInt8} {bytes : List UInt8} :
      Offer said [[0x02], [0x06]] → flag.byte? = some byte → bytes.length < 2 →
      StatusHeard said [flag, .read 2 (.ok bytes)] (.error (.shortRead 2 bytes.length))
  -- The acknowledgement is missing, or the device refuses.
  | unacknowledged {said : List LinkCall} {flag counter : LinkCall} {byte : UInt8} {word : UInt16}
      {bytes : List UInt8} :
      Offer said [[0x02], [0x06]] → flag.byte? = some byte → counter.word? = some word →
      bytes.head?.any isAcknowledgement = false →
      StatusHeard said [flag, counter, .read 1 (.ok bytes)]
        (.error (.noAcknowledgement bytes.head?))
  | answered {said heard : List LinkCall} {done : Bool} :
      Offer said [[0x02], [0x06]] → StatusReply done heard → StatusHeard said heard (.ok done)

end Session

namespace Exchange

variable {σ ε β : Type}

/-- What is known of the errors of an action belongs to what it is known to make. -/
theorem Makes.failing {action : Exchange ε (Traced σ) β}
    {described : Except ε β → List LinkCall → Prop} {faults : ε → Prop}
    (makes : Makes action described) (fails : FailsWith action faults) :
    Makes action fun result calls =>
      described result calls ∧ ∀ error, result = .error error → faults error := by
  intro host
  rcases makes host with ⟨calls, recorded, holds⟩
  refine ⟨calls, recorded, holds, fun error failed => ?_⟩
  exact fails host error _ (Prod.ext failed rfl)

private theorem answer_eq_error {reading : List UInt8 → Except ProtocolError β}
    {heard : Except LinkError (List UInt8)} {error : ProtocolError}
    (failed : answer reading heard = .error error) :
    (∃ failure, heard = .error failure ∧ error = .link failure) ∨
      ∃ bytes, heard = .ok bytes ∧ reading bytes = .error error := by
  rcases heard with failure | bytes
  · cases failed
    exact .inl ⟨failure, rfl, rfl⟩
  · exact .inr ⟨bytes, rfl, failed⟩

private theorem byteOf_eq_error {bytes : List UInt8} {error : ProtocolError}
    (failed : byteOf bytes = .error error) : bytes = [] ∧ error = .shortRead 1 0 := by
  cases bytes with
  | nil => exact ⟨rfl, (Except.error.inj failed).symm⟩
  | cons byte rest => cases failed

private theorem wordOf_eq_error {bytes : List UInt8} {error : ProtocolError}
    (failed : wordOf bytes = .error error) :
    bytes.length < 2 ∧ error = .shortRead 2 bytes.length := by
  rcases bytes with _ | ⟨low, _ | ⟨high, rest⟩⟩
  · exact ⟨Nat.two_pos, (Except.error.inj failed).symm⟩
  · exact ⟨Nat.one_lt_two, (Except.error.inj failed).symm⟩
  · cases failed

private theorem acknowledgementOf_eq_error {bytes : List UInt8} {error : ProtocolError}
    (failed : acknowledgementOf bytes = .error error) :
    bytes.head?.any isAcknowledgement = false ∧ error = .noAcknowledgement bytes.head? := by
  cases bytes with
  | nil => exact ⟨rfl, (Except.error.inj failed).symm⟩
  | cons byte rest =>
      rw [acknowledgementOf] at failed
      split at failed
      case isTrue => cases failed
      case isFalse odd => exact ⟨by simpa using odd, (Except.error.inj failed).symm⟩

end Exchange

namespace Capture

open Session

variable {σ : Type} [Link σ]

theorem heard_askStatus :
    Makes (askStatus (σ := Traced σ)) fun result calls =>
      ∃ said heard, calls = said ++ heard ∧ StatusHeard said heard (result.map Status.done) := by
  refine (((makes_send (Command.parameters .captureStatus)).failing (failsWith_send _)).bind
    fun _ => reads_readByte.makes.bind fun _ => reads_readWord.makes.bind fun _ =>
      reads_awaitAcknowledgement.makes.bind fun _ => makes_pure _).mono ?_
  intro result calls described
  rcases described with ⟨error, rfl, ⟨words, isPrefix, offer, -⟩, ofLink⟩ |
    ⟨_, said, rest, rfl, ⟨⟨words, -, offer, complete⟩, -⟩, described⟩
  · cases error with
    | link failure =>
        refine ⟨calls, [], (List.append_nil calls).symm, .unsaid failure ?_⟩
        rw [offer.written]
        exact isPrefix
    | noAcknowledgement | shortRead => exact (ofLink _ rfl).elim
  rw [complete rfl] at offer
  refine ⟨said, rest, rfl, ?_⟩
  -- The flag, the counter and the acknowledgement, one after the other.
  rcases described with ⟨error, rfl, flag, rfl, failed⟩ |
    ⟨byte, _, rest, rfl, ⟨flag, rfl, flagged⟩, described⟩
  · rcases answer_eq_error failed.symm with ⟨failure, rfl, rfl⟩ | ⟨bytes, rfl, short⟩
    · exact .broken [] 1 failure offer
    · rcases byteOf_eq_error short with ⟨rfl, rfl⟩
      exact .unflagged offer
  have flagged := byte?_of_answer flagged.symm
  rcases described with ⟨error, rfl, counter, rfl, failed⟩ |
    ⟨word, _, rest, rfl, ⟨counter, rfl, counted⟩, described⟩
  · rcases answer_eq_error failed.symm with ⟨failure, rfl, rfl⟩ | ⟨bytes, rfl, short⟩
    · exact .broken [_] 2 failure offer
    · rcases wordOf_eq_error short with ⟨few, rfl⟩
      exact .uncounted offer flagged few
  have counted := word?_of_answer counted.symm
  rcases described with ⟨error, rfl, last, rfl, failed⟩ |
    ⟨acknowledgement, _, _, rfl, ⟨last, rfl, acknowledged⟩, rfl, rfl⟩
  · rcases answer_eq_error failed.symm with ⟨failure, rfl, rfl⟩ | ⟨bytes, rfl, refused⟩
    · exact .broken [_, _] 1 failure offer
    · rcases acknowledgementOf_eq_error refused with ⟨odd, rfl⟩
      exact .unacknowledged offer flagged counted odd
  · have acknowledged := isAcknowledged_of_answer acknowledged.symm
    exact .answered offer
      ⟨_, _, _, byte, word, rfl, flagged, counted, acknowledged, by simp⟩

end Capture

end BenchScope
