import BenchScope.Outputs
import BenchScope.Proofs.Wire.Calls

namespace BenchScope

open LinkCall

/-! Commands that wait for their acknowledgement. The payload is said to its end unless the link
fails, and then the one byte that is read decides. -/

namespace LinkCall

def isBroken : LinkCall → Bool
  | .write _ (.error _) => true
  | .write _ (.ok _) | .read .. => false

def failure? : LinkCall → Option LinkError
  | .write _ (.error reason) | .read _ (.error reason) => some reason
  | .write _ (.ok _) | .read _ (.ok _) => none

private theorem failure?_ne_none {call : LinkCall} (broken : call.isBroken = true) :
    call.failure? ≠ none := by
  rcases call with ⟨bytes, error | count⟩ | ⟨count, heard⟩
  · exact Option.some_ne_none error
  · cases broken
  · cases broken

theorem Offer.length_eq {calls : List LinkCall} {payload : List (List UInt8)}
    (offer : Offer calls payload) : calls.length = payload.length := by
  simpa using congrArg List.length offer

end LinkCall

namespace Exchange

variable {payload : List (List UInt8)} {result : Except ProtocolError Unit} {calls : List LinkCall}

namespace Sent

theorem isAcknowledged_eq_false (sent : Sent payload result calls) :
    ∀ call ∈ calls, call.isAcknowledged = false := by
  induction sent with
  | nothing => simp
  | taken words count _ induction => simpa [isAcknowledged, byte?] using induction
  | broken words error => simp [isAcknowledged, byte?]

theorem accepted (sent : Sent payload (.ok ()) calls) :
    ∀ call ∈ calls, call.accepted?.isSome = true := by
  generalize whole : (.ok () : Except ProtocolError Unit) = done at sent
  induction sent with
  | nothing => simp
  | taken words count _ induction => simpa [accepted?] using induction whole
  | broken => cases whole

private theorem exists_isBroken {error : ProtocolError} (sent : Sent payload (.error error) calls) :
    ∃ call ∈ calls, call.isBroken = true := by
  generalize failed : (.error error : Except ProtocolError Unit) = done at sent
  induction sent with
  | nothing => cases failed
  | taken words count _ induction =>
      rcases induction failed with ⟨call, member, broken⟩
      exact ⟨call, List.mem_cons_of_mem _ member, broken⟩
  | broken words error => exact ⟨_, List.mem_singleton.mpr rfl, rfl⟩

theorem result_of_failure (sent : Sent payload result calls) {call : LinkCall}
    (member : call ∈ calls) {reason : LinkError} (failed : call.failure? = some reason) :
    result = .error (.link reason) := by
  induction sent with
  | nothing => cases member
  | taken words count _ induction =>
      rcases List.mem_cons.mp member with rfl | later
      · cases failed
      · exact induction later
  | broken =>
      obtain rfl := List.mem_singleton.mp member
      cases failed
      rfl

theorem exists_failure {error : ProtocolError} (sent : Sent payload (.error error) calls) :
    ∃ call ∈ calls, call.failure? ≠ none := by
  rcases sent.exists_isBroken with ⟨call, member, broken⟩
  exact ⟨call, member, failure?_ne_none broken⟩

theorem offer (sent : Sent payload (.ok ()) calls) : Offer calls payload := by
  rcases sent.sends with ⟨said, -, offer, complete⟩
  rwa [complete rfl] at offer

end Sent

namespace Performed

theorem written_prefix (performed : Performed payload result calls) :
    written calls <+: payload := by
  cases performed with
  | unsaid sent => exact sent.sends.written
  | answered heard sent =>
      have silent : written [.read 1 heard] = [] := rfl
      simp [sent.offer.written, silent]

theorem complete (performed : Performed payload result calls)
    (unbroken : ∀ call ∈ calls, call.isBroken = false) :
    ∃ said heard, calls = said ++ [.read 1 heard] ∧ Offer said payload := by
  cases performed with
  | unsaid sent =>
      rcases sent.exists_isBroken with ⟨call, member, broken⟩
      rw [unbroken call member] at broken
      cases broken
  | answered heard sent => exact ⟨_, heard, rfl, sent.offer⟩

theorem succeeds_iff (performed : Performed payload result calls) :
    result = .ok () ↔ ∃ said heard, calls = said ++ [heard] ∧ said.length = payload.length ∧
      (∀ call ∈ said, call.accepted?.isSome = true) ∧ heard.isAcknowledged = true := by
  cases performed with
  | unsaid sent =>
      constructor
      · nofun
      · rintro ⟨said, heard, rfl, -, -, acknowledged⟩
        rw [sent.isAcknowledged_eq_false heard (by simp)] at acknowledged
        cases acknowledged
  | @answered told heard sent =>
      rw [← isAcknowledged_iff_answer]
      constructor
      · exact fun acknowledged =>
          ⟨told, _, rfl, sent.offer.length_eq, sent.accepted, acknowledged⟩
      · rintro ⟨said, last, same, -, -, acknowledged⟩
        rcases List.append_singleton_inj.mp same with ⟨-, rfl⟩
        exact acknowledged

/-- Only the last call can bring an acknowledgement. -/
theorem succeeds_of_acknowledged (performed : Performed payload result calls) {call : LinkCall}
    (member : call ∈ calls) (acknowledged : call.isAcknowledged = true) : result = .ok () := by
  cases performed with
  | unsaid sent =>
      rw [sent.isAcknowledged_eq_false call member] at acknowledged
      cases acknowledged
  | answered heard sent =>
      rcases List.mem_append.mp member with said | last
      · rw [sent.isAcknowledged_eq_false call said] at acknowledged
        cases acknowledged
      · obtain rfl := List.mem_singleton.mp last
        exact (isAcknowledged_iff_answer heard).mp acknowledged

end Performed

theorem makes_acknowledgedOr {σ : Type} [Link σ] (notice : Notice) :
    Makes (acknowledgedOr (σ := Traced σ) notice) fun result calls =>
      ∃ heard, calls = [.read 1 heard] ∧
        result = (answer acknowledgementOf heard).map fun _ => () := by
  intro host
  rcases reads_awaitAcknowledgement.makes host with ⟨calls, recorded, heard, rfl, answered⟩
  rw [acknowledgedOr, Action.apply_of]
  rcases awaited : awaitAcknowledgement.apply host with ⟨error | byte, after⟩
  all_goals
    rw [awaited] at recorded answered
    exact ⟨_, recorded, heard, rfl, by rw [← answered]; rfl⟩

theorem performed_acknowledgedOr {σ : Type} [Link σ] (command : Command)
    (parameters : List Parameter) (notice : Notice) :
    Makes (σ := σ) (request command parameters >>= fun _ => acknowledgedOr notice)
      (Performed ([command.group] :: [command.code] :: parameters.map Parameter.bytes)) := by
  refine ((sent_request command parameters).bind fun _ => makes_acknowledgedOr notice).mono ?_
  intro result calls described
  rcases described with ⟨error, rfl, broken⟩ | ⟨_, said, _, rfl, sent, heard, rfl, rfl⟩
  · exact .unsaid broken
  · exact .answered heard sent

end Exchange

end BenchScope
