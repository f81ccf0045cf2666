import BenchScope.Link.Traced
import BenchScope.Proofs.Wire.Replies

namespace BenchScope

/-! The calls that an exchange makes on its link. A link under observation records them, whatever
the link itself does; here each exchange is described by what it adds to the record. -/

namespace LinkCall

def written (calls : List LinkCall) : List (List UInt8) := calls.filterMap offered?

@[simp] theorem written_append (first second : List LinkCall) :
    written (first ++ second) = written first ++ written second := List.filterMap_append ..

def byte? : LinkCall → Option UInt8
  | .read 1 (.ok (byte :: _)) => some byte
  | _ => none

def word? : LinkCall → Option UInt16
  | .read 2 (.ok (low :: high :: _)) => some (wordOfBytes low high)
  | _ => none

def isShort : LinkCall → Bool
  | .read 2 (.ok bytes) => bytes.length < 2
  | _ => false

def isAcknowledged (call : LinkCall) : Bool := call.byte?.any isAcknowledgement

def Offer (calls : List LinkCall) (payload : List (List UInt8)) : Prop :=
  calls.map offered? = payload.map some

theorem Offer.append {first second : List LinkCall} {left right : List (List UInt8)}
    (offerFirst : Offer first left) (offerSecond : Offer second right) :
    Offer (first ++ second) (left ++ right) := by
  rw [Offer, List.map_append, List.map_append, offerFirst, offerSecond]

theorem Offer.written {calls : List LinkCall} {payload : List (List UInt8)}
    (offer : Offer calls payload) : written calls = payload := by
  have same := congrArg (List.filterMap id) offer
  simpa [List.filterMap_map, LinkCall.written] using same

theorem isAcknowledged_iff_answer (heard : Except LinkError (List UInt8)) :
    (LinkCall.read 1 heard).isAcknowledged = true ↔
      (Exchange.answer Exchange.acknowledgementOf heard).map (fun _ => ()) = .ok () := by
  rcases heard with error | _ | ⟨byte, rest⟩
  · simp [isAcknowledged, byte?, Exchange.answer, Except.map]
  · simp [isAcknowledged, byte?, Exchange.answer, Exchange.acknowledgementOf, Except.map]
  · by_cases odd : isAcknowledgement byte = true <;>
      simp [isAcknowledged, byte?, Exchange.answer, Exchange.acknowledgementOf, Except.map, odd]

theorem isAcknowledged_of_answer {heard : Except LinkError (List UInt8)} {byte : UInt8}
    (answered : Exchange.answer Exchange.acknowledgementOf heard = .ok byte) :
    (LinkCall.read 1 heard).isAcknowledged = true := by
  rw [isAcknowledged_iff_answer, answered]
  rfl

theorem byte?_of_answer {heard : Except LinkError (List UInt8)} {byte : UInt8}
    (answered : Exchange.answer Exchange.byteOf heard = .ok byte) :
    (LinkCall.read 1 heard).byte? = some byte := by
  rcases heard with error | _ | ⟨first, rest⟩
  · cases answered
  · cases answered
  · cases answered
    rfl

theorem word?_of_answer {heard : Except LinkError (List UInt8)} {word : UInt16}
    (answered : Exchange.answer Exchange.wordOf heard = .ok word) :
    (LinkCall.read 2 heard).word? = some word := by
  rcases heard with error | _ | ⟨low, _ | ⟨high, rest⟩⟩
  · cases answered
  · cases answered
  · cases answered
  · cases answered
    rfl

theorem written_of_words {reads : List LinkCall} {codes : List UInt16}
    (heard : reads.map word? = codes.map some) : written reads = [] := by
  induction reads generalizing codes with
  | nil => rfl
  | cons call reads induction =>
      cases codes with
      | nil => simp at heard
      | cons code codes =>
          rw [List.map_cons, List.map_cons, List.cons.injEq] at heard
          rw [written, List.filterMap_cons, ← written, induction heard.2]
          cases call with
          | write => simp [word?] at heard
          | read => rfl

end LinkCall

namespace Host

variable {σ : Type}

def traced (host : Host σ) : Host (Traced σ) := { host with link := { link := host.link } }

def calls (host : Host (Traced σ)) : List LinkCall := host.link.calls

variable [Link σ]

theorem calls_after_write (host : Host (Traced σ)) (bytes : List UInt8) :
    (host.after (Link.write bytes host.link).1 (Link.write bytes host.link).2).calls =
      host.calls ++ [.write bytes (Link.write bytes host.link).1.result] := List.reverse_cons

theorem calls_after_read (host : Host (Traced σ)) (count : Nat) :
    (host.after (Link.read count host.link).1 (Link.read count host.link).2).calls =
      host.calls ++ [.read count (Link.read count host.link).1.result] := List.reverse_cons

end Host

namespace Exchange

open LinkCall

variable {σ : Type} {ε β γ : Type}

/-- Whatever the state of the host, the calls that the action adds to the record, and the result
that it comes to, are as described. -/
def Makes (action : Exchange ε (Traced σ) β) (described : Except ε β → List LinkCall → Prop) :
    Prop :=
  ∀ host, ∃ calls, (action.apply host).2.calls = host.calls ++ calls ∧
    described (action.apply host).1 calls

theorem Makes.of_apply {action : Exchange ε (Traced σ) β}
    {described : Except ε β → List LinkCall → Prop} (makes : Makes action described)
    {host after : Host (Traced σ)} {result : Except ε β}
    (applied : action.apply host = (result, after)) :
    ∃ calls, after.calls = host.calls ++ calls ∧ described result calls := by
  have made := makes host
  rwa [applied] at made

theorem Makes.mono {action : Exchange ε (Traced σ) β}
    {described weaker : Except ε β → List LinkCall → Prop} (makes : Makes action described)
    (implies : ∀ result calls, described result calls → weaker result calls) :
    Makes action weaker := fun host =>
  have ⟨calls, recorded, holds⟩ := makes host
  ⟨calls, recorded, implies _ calls holds⟩

theorem makes_pure (value : β) :
    Makes (pure value : Exchange ε (Traced σ) β) fun result calls =>
      result = .ok value ∧ calls = [] := fun _ =>
  ⟨[], (List.append_nil _).symm, rfl, rfl⟩

private theorem makes_note (notice : Notice) :
    Makes (modify (·.note notice) : Exchange ε (Traced σ) PUnit) fun result calls =>
      result = .ok () ∧ calls = [] := fun _ =>
  ⟨[], (List.append_nil _).symm, rfl, rfl⟩

theorem Makes.bind {action : Exchange ε (Traced σ) β} {next : β → Exchange ε (Traced σ) γ}
    {first : Except ε β → List LinkCall → Prop} {second : β → Except ε γ → List LinkCall → Prop}
    (makes : Makes action first) (continues : ∀ value, Makes (next value) (second value)) :
    Makes (action >>= next) fun result calls =>
      (∃ error, result = .error error ∧ first (.error error) calls) ∨
        ∃ value before after, calls = before ++ after ∧ first (.ok value) before ∧
          second value result after := by
  intro host
  rcases makes host with ⟨before, recorded, holds⟩
  rw [Action.apply_bind]
  rcases applied : action.apply host with ⟨error | value, middle⟩
  · rw [applied] at recorded holds
    exact ⟨before, recorded, .inl ⟨error, rfl, holds⟩⟩
  · rw [applied] at recorded holds
    rcases continues value middle with ⟨after, further, continued⟩
    refine ⟨before ++ after, ?_, .inr ⟨value, before, after, rfl, holds, continued⟩⟩
    rw [further, recorded, List.append_assoc]

/-! Speaking, listening, and listening after having spoken. -/

inductive Sent : List (List UInt8) → Except ProtocolError Unit → List LinkCall → Prop
  | nothing : Sent [] (.ok ()) []
  | taken {payload : List (List UInt8)} {result : Except ProtocolError Unit}
      {calls : List LinkCall} (words : List UInt8) (count : Nat) :
      Sent payload result calls → Sent (words :: payload) result (.write words (.ok count) :: calls)
  | broken {payload : List (List UInt8)} (words : List UInt8) (error : LinkError) :
      Sent (words :: payload) (.error (.link error)) [.write words (.error error)]

namespace Sent

variable {payload further : List (List UInt8)} {result : Except ProtocolError Unit}
  {calls later : List LinkCall}

theorem append (sent : Sent payload (.ok ()) calls) (continued : Sent further result later) :
    Sent (payload ++ further) result (calls ++ later) := by
  generalize whole : (.ok () : Except ProtocolError Unit) = done at sent
  induction sent with
  | nothing => exact continued
  | taken words count _ induction => exact .taken words count (induction whole)
  | broken => cases whole

theorem extend {error : ProtocolError} (sent : Sent payload (.error error) calls)
    (further : List (List UInt8)) : Sent (payload ++ further) (.error error) calls := by
  generalize failed : (.error error : Except ProtocolError Unit) = done at sent
  induction sent with
  | nothing => cases failed
  | taken words count _ induction => exact .taken words count (induction failed)
  | broken words error => exact .broken words error

end Sent

def Sends (payload : List (List UInt8)) (result : Except ProtocolError Unit)
    (calls : List LinkCall) : Prop :=
  ∃ said, said <+: payload ∧ Offer calls said ∧ (result = .ok () → said = payload)

theorem Sends.written {payload : List (List UInt8)} {result : Except ProtocolError Unit}
    {calls : List LinkCall} (sends : Sends payload result calls) : written calls <+: payload := by
  rcases sends with ⟨said, isPrefix, offer, -⟩
  rw [offer.written]
  exact isPrefix

theorem Sent.sends {payload : List (List UInt8)} {result : Except ProtocolError Unit}
    {calls : List LinkCall} (sent : Sent payload result calls) : Sends payload result calls := by
  induction sent with
  | nothing => exact ⟨[], List.prefix_refl _, rfl, fun _ => rfl⟩
  | taken words count _ induction =>
      rcases induction with ⟨said, isPrefix, offer, complete⟩
      have opening : Offer [.write words (.ok count)] [words] := rfl
      refine ⟨words :: said, by simpa using isPrefix, opening.append offer, fun succeeded => ?_⟩
      rw [complete succeeded]
  | broken words error => exact ⟨[words], by simp, rfl, by simp⟩

def Hears (reply : β → List LinkCall → Prop) (result : Except ProtocolError β)
    (calls : List LinkCall) : Prop :=
  written calls = [] ∧ ∀ value, result = .ok value → reply value calls

theorem Hears.imp {reply weaker : β → List LinkCall → Prop} {result : Except ProtocolError β}
    {calls : List LinkCall} (hears : Hears reply result calls)
    (implies : ∀ value, reply value calls → weaker value calls) : Hears weaker result calls :=
  ⟨hears.1, fun value succeeded => implies value (hears.2 value succeeded)⟩

theorem hears_pure (value : β) :
    Makes (pure value : Exchange ProtocolError (Traced σ) β)
      (Hears fun answer calls => answer = value ∧ calls = []) := by
  refine (makes_pure value).mono ?_
  intro result calls described
  rcases described with ⟨rfl, rfl⟩
  exact ⟨rfl, fun answer same => ⟨(Except.ok.inj same).symm, rfl⟩⟩

theorem Makes.listen {action : Exchange ProtocolError (Traced σ) β}
    {next : β → Exchange ProtocolError (Traced σ) γ} {first : β → List LinkCall → Prop}
    {second : β → γ → List LinkCall → Prop} (hears : Makes action (Hears first))
    (continues : ∀ value, Makes (next value) (Hears (second value))) :
    Makes (action >>= next) (Hears fun answer calls =>
      ∃ value before after, calls = before ++ after ∧ first value before ∧
        second value answer after) := by
  refine (hears.bind continues).mono ?_
  intro result calls described
  rcases described with ⟨error, rfl, silent, -⟩ |
    ⟨value, before, after, rfl, ⟨silent, reply⟩, further, continued⟩
  · exact ⟨silent, by simp⟩
  · refine ⟨by rw [written_append, silent, further]; rfl, fun answer succeeded => ?_⟩
    exact ⟨value, before, after, rfl, reply value rfl, continued answer succeeded⟩

/-- Of the payload as much is said as the link lets through, and then all that is left is to listen
for the reply. -/
def Converses (payload : List (List UInt8)) (reply : β → List LinkCall → Prop)
    (result : Except ProtocolError β) (calls : List LinkCall) : Prop :=
  ∃ words said heard, calls = said ++ heard ∧ words <+: payload ∧ Offer said words ∧
    written heard = [] ∧ ∀ value, result = .ok value → words = payload ∧ reply value heard

theorem Converses.written {payload : List (List UInt8)} {reply : β → List LinkCall → Prop}
    {result : Except ProtocolError β} {calls : List LinkCall}
    (converses : Converses payload reply result calls) : written calls <+: payload := by
  rcases converses with ⟨words, said, heard, rfl, isPrefix, offer, silent, -⟩
  rw [written_append, offer.written, silent, List.append_nil]
  exact isPrefix

theorem Sends.converses {payload : List (List UInt8)}
    {action : Exchange ProtocolError (Traced σ) Unit}
    {next : Unit → Exchange ProtocolError (Traced σ) β} {reply : β → List LinkCall → Prop}
    (speaks : Makes action (Sends payload)) (listens : Makes (next ()) (Hears reply)) :
    Makes (action >>= next) (Converses payload reply) := by
  refine (speaks.bind fun _ => listens).mono ?_
  intro result calls described
  rcases described with ⟨error, rfl, words, isPrefix, offer, -⟩ |
    ⟨_, said, heard, rfl, ⟨words, isPrefix, offer, complete⟩, silent, answered⟩
  · exact ⟨words, calls, [], (List.append_nil _).symm, isPrefix, offer, rfl, by simp⟩
  · exact ⟨words, said, heard, rfl, isPrefix, offer, silent, fun value succeeded =>
      ⟨complete rfl, answered value succeeded⟩⟩

/-! The exchanges. -/

variable [Link σ]

private theorem makes_write (bytes : List UInt8) :
    Makes (write (σ := Traced σ) bytes) fun result calls =>
      ∃ outcome, calls = [.write bytes outcome] ∧ result = outcome.mapError .link := fun _ =>
  ⟨_, List.reverse_cons, _, rfl, rfl⟩

theorem sent_send (parameters : List Parameter) :
    Makes (send (σ := Traced σ) parameters) (Sent (parameters.map Parameter.bytes)) := by
  induction parameters with
  | nil =>
      refine (makes_pure ()).mono ?_
      rintro result calls ⟨rfl, rfl⟩
      exact .nothing
  | cons parameter rest induction =>
      have noticed (sent : Nat) : Makes (σ := σ) (do
          if sent < parameter.width then modify (·.note (.shortWrite parameter sent))
          send rest) (Sent (rest.map Parameter.bytes)) := by
        split
        case isFalse => exact induction
        case isTrue =>
          -- A notice makes no call.
          refine ((makes_note _).bind fun _ => induction).mono ?_
          intro result calls described
          rcases described with ⟨error, -, impossible, -⟩ | ⟨_, before, after, rfl, ⟨-, rfl⟩, sent⟩
          · cases impossible
          · exact sent
      refine ((makes_write parameter.bytes).bind noticed).mono ?_
      intro result calls described
      rcases described with ⟨_, rfl, outcome, rfl, failed⟩ |
        ⟨count, before, after, rfl, ⟨outcome, rfl, taken⟩, sent⟩
      · cases outcome with
        | ok count => cases failed
        | error error =>
            cases failed
            exact .broken parameter.bytes error
      · cases outcome with
        | ok count => exact .taken parameter.bytes count sent
        | error error => cases taken

theorem makes_send (parameters : List Parameter) :
    Makes (send (σ := Traced σ) parameters) (Sends (parameters.map Parameter.bytes)) :=
  (sent_send parameters).mono fun _ _ => Sent.sends

theorem sent_request (command : Command) (parameters : List Parameter) :
    Makes (request (σ := Traced σ) command parameters)
      (Sent ([command.group] :: [command.code] :: parameters.map Parameter.bytes)) := by
  refine ((sent_send command.parameters).bind fun _ => sent_send parameters).mono ?_
  intro result calls described
  rcases described with ⟨error, rfl, broken⟩ | ⟨_, before, after, rfl, opening, continued⟩
  · exact broken.extend _
  · exact opening.append continued

theorem makes_request (command : Command) (parameters : List Parameter) :
    Makes (request (σ := Traced σ) command parameters)
      (Sends ([command.group] :: [command.code] :: parameters.map Parameter.bytes)) :=
  (sent_request command parameters).mono fun _ _ => Sent.sends

theorem Reads.makes {action : Exchange ProtocolError (Traced σ) β} {count : Nat}
    {reading : List UInt8 → Except ProtocolError β} (reads : Reads action count reading) :
    Makes action fun result calls =>
      ∃ heard, calls = [.read count heard] ∧ result = answer reading heard := by
  intro host
  rw [reads host]
  exact ⟨_, List.reverse_cons, _, rfl, rfl⟩

theorem Reads.hears {action : Exchange ProtocolError (Traced σ) β} {count : Nat}
    {reading : List UInt8 → Except ProtocolError β} (reads : Reads action count reading) :
    Makes action (Hears fun value calls =>
      ∃ heard, calls = [.read count heard] ∧ answer reading heard = .ok value) := by
  refine reads.makes.mono ?_
  rintro result calls ⟨heard, rfl, rfl⟩
  exact ⟨rfl, fun value succeeded => ⟨heard, rfl, succeeded⟩⟩

def Acknowledged (calls : List LinkCall) : Prop :=
  ∃ call, calls = [call] ∧ call.isAcknowledged = true

theorem hears_awaitAcknowledgement :
    Makes (awaitAcknowledgement (σ := Traced σ)) (Hears fun _ => Acknowledged) := by
  refine reads_awaitAcknowledgement.hears.mono ?_
  intro result calls described
  rcases described with ⟨silent, reply⟩
  refine ⟨silent, fun byte succeeded => ?_⟩
  rcases reply byte succeeded with ⟨heard, rfl, answered⟩
  exact ⟨_, rfl, isAcknowledged_of_answer answered⟩

theorem hears_readByte :
    Makes (readByte (σ := Traced σ)) (Hears fun byte calls =>
      ∃ call, calls = [call] ∧ call.byte? = some byte) := by
  refine reads_readByte.hears.mono ?_
  intro result calls described
  rcases described with ⟨silent, reply⟩
  refine ⟨silent, fun byte succeeded => ?_⟩
  rcases reply byte succeeded with ⟨heard, rfl, answered⟩
  exact ⟨_, rfl, byte?_of_answer answered⟩

theorem hears_readWord :
    Makes (readWord (σ := Traced σ)) (Hears fun word calls =>
      ∃ call, calls = [call] ∧ call.word? = some word) := by
  refine reads_readWord.hears.mono ?_
  intro result calls described
  rcases described with ⟨silent, reply⟩
  refine ⟨silent, fun word succeeded => ?_⟩
  rcases reply word succeeded with ⟨heard, rfl, answered⟩
  exact ⟨_, rfl, word?_of_answer answered⟩

theorem makes_perform (command : Command) (parameters : List Parameter) :
    Makes (perform (σ := Traced σ) command parameters)
      (Converses ([command.group] :: [command.code] :: parameters.map Parameter.bytes)
        fun _ => Acknowledged) := by
  refine Sends.converses (makes_request command parameters) ?_
  refine (hears_awaitAcknowledgement.listen fun _ => hears_pure ()).mono
    fun result calls hears => ?_
  refine hears.imp ?_
  intro _ described
  rcases described with ⟨_, before, after, rfl, acknowledged, -, rfl⟩
  rwa [List.append_nil]

/-- A command that waits for its acknowledgement: a write call fails, or the one byte that is then
read decides. -/
inductive Performed (payload : List (List UInt8)) :
    Except ProtocolError Unit → List LinkCall → Prop
  | unsaid {error : ProtocolError} {calls : List LinkCall} :
      Sent payload (.error error) calls → Performed payload (.error error) calls
  | answered {said : List LinkCall} (heard : Except LinkError (List UInt8)) :
      Sent payload (.ok ()) said →
      Performed payload ((answer acknowledgementOf heard).map fun _ => ()) (said ++ [.read 1 heard])

theorem performed_perform (command : Command) (parameters : List Parameter) :
    Makes (perform (σ := Traced σ) command parameters)
      (Performed ([command.group] :: [command.code] :: parameters.map Parameter.bytes)) := by
  refine ((sent_request command parameters).bind fun _ =>
    reads_awaitAcknowledgement.makes.bind fun _ => makes_pure ()).mono ?_
  intro result calls described
  rcases described with ⟨error, rfl, broken⟩ | ⟨_, said, heard, rfl, sent, described⟩
  · exact .unsaid broken
  · rcases described with ⟨error, rfl, outcome, rfl, failed⟩ |
      ⟨byte, _, _, rfl, ⟨outcome, rfl, answered⟩, rfl, rfl⟩
    · have performed := Performed.answered outcome sent
      rwa [← failed] at performed
    · have performed := Performed.answered outcome sent
      rwa [← answered] at performed

end Exchange

end BenchScope
