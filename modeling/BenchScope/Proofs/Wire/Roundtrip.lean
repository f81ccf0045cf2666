import BenchScope.Proofs.Wire.Handshake
import BenchScope.Proofs.Wire.Supply
import BenchScope.Proofs.Wire.Transactions

namespace BenchScope

open LinkCall

/-! Parameters on their way over a link. Nothing but their order and their widths tells them apart
again, so the two sides have to agree on these. What becomes of a parameter that is not taken whole
is noticed, and is no reason to stop. -/

namespace Parameter

inductive Kind
  | byte
  | word
deriving DecidableEq, Repr

def kind : Parameter → Kind
  | .byte _ => .byte
  | .word _ => .word

def shortage? (parameter : Parameter) : LinkCall → Option Notice
  | .write _ (.ok count) =>
      if count < parameter.width then some (.shortWrite parameter count) else none
  | .write _ (.error _) | .read .. => none

def shortages (parameters : List Parameter) (calls : List LinkCall) : List Notice :=
  (List.zipWith shortage? parameters calls).filterMap id

@[simp] theorem shortages_nil (parameters : List Parameter) : shortages parameters [] = [] := by
  rw [shortages, List.zipWith_nil_right, List.filterMap_nil]

private theorem shortages_cons (parameter : Parameter) (parameters : List Parameter)
    (call : LinkCall) (calls : List LinkCall) :
    shortages (parameter :: parameters) (call :: calls) =
      (parameter.shortage? call).toList ++ shortages parameters calls := by
  rw [shortages, List.zipWith_cons_cons, List.filterMap_cons]
  cases parameter.shortage? call <;> rfl

end Parameter

namespace LinkCall

def IsWhole : LinkCall → Prop
  | .write words result => result = .ok words.length
  | .read .. => True

def arrived (calls : List LinkCall) : List UInt8 := (calls.filterMap accepted?).flatten

private theorem arrived_write_whole (payload : List (List UInt8)) :
    arrived (payload.map fun words => .write words (.ok words.length)) = payload.flatten := by
  induction payload with
  | nil => rfl
  | cons words payload induction =>
      simp only [arrived, List.map_cons, List.filterMap_cons, accepted?, List.take_length,
        List.flatten_cons] at induction ⊢
      rw [induction]

end LinkCall

/-- In these states a link takes all that it is offered, and it stays in one of them. -/
structure Accepting {σ : Type} [Link σ] (good : σ → Prop) : Prop where
  write (words : List UInt8) (link : σ) : good link →
    (Link.write words link).1.result = .ok words.length ∧ good (Link.write words link).2
  read (count : Nat) (link : σ) : good link → good (Link.read count link).2

theorem Script.accepting :
    Accepting fun script : Script => script.budget = none ∧ script.failing = [] where
  write words script good := by
    rw [write_of_boundless good.1 good.2]
    exact ⟨rfl, good⟩
  read _ _ good := good

theorem Host.Becomes.whole {σ : Type} [Link σ] {good : σ → Prop} (accepting : Accepting good)
    {host after : Host (Traced σ)} (becomes : host.Becomes after) (ready : good host.link.link) :
    ∃ calls, after.calls = host.calls ++ calls ∧ ∀ call ∈ calls, call.IsWhole :=
  (becomes.forall_calls (fun words link kept => (accepting.write words link kept).symm)
    (fun count link kept => ⟨accepting.read count link kept, trivial⟩) ready).2

namespace Exchange

/-! What the other side reads. -/

section

variable {σ : Type}

def receiveOne [Link σ] : Parameter.Kind → Exchange ProtocolError σ Parameter
  | .byte => return .byte (← readByte)
  | .word => return .word (← readWord)

def receive [Link σ] : List Parameter.Kind → Exchange ProtocolError σ (List Parameter)
  | [] => return []
  | kind :: kinds => return (← receiveOne kind) :: (← receive kinds)

variable [FiniteLink σ] {brings : List UInt8 → σ → Prop}

private theorem yields_receiveOne (steady : Steady brings) (parameter : Parameter) :
    Yields brings (receiveOne parameter.kind) parameter.bytes parameter := by
  cases parameter with
  | byte value => exact (yields_readByte steady value).bind (yields_pure _)
  | word value => exact (yields_readWord steady value).bind (yields_pure _)

theorem yields_receive (steady : Steady brings) (parameters : List Parameter) :
    Yields brings (receive (parameters.map Parameter.kind)) (parameters.flatMap Parameter.bytes)
      parameters := by
  induction parameters with
  | nil => exact yields_pure []
  | cons parameter parameters induction =>
      rw [List.flatMap_cons, ← List.append_nil (parameters.flatMap _)]
      exact (yields_receiveOne steady parameter).bind (induction.bind (yields_pure _))

end

theorem eq_of_flatMap_bytes {left right : List Parameter}
    (kinds : left.map Parameter.kind = right.map Parameter.kind)
    (same : left.flatMap Parameter.bytes = right.flatMap Parameter.bytes) : left = right := by
  have expects (parameters : List Parameter) :
      (greeting (parameters.flatMap Parameter.bytes)).Expects Script.Brings
        (parameters.flatMap Parameter.bytes ++ []) := by
    rw [List.append_nil]
    exact ⟨brings_greeting _, rfl⟩
  rcases yields_receive Script.steady left [] _ (expects left) with ⟨_, heardLeft, -⟩
  rcases yields_receive Script.steady right [] _ (expects right) with ⟨_, heardRight, -⟩
  rw [kinds, same, heardRight] at heardLeft
  cases heardLeft
  rfl

/-! What is sent. -/

namespace Sent

variable {payload : List (List UInt8)} {result : Except ProtocolError Unit} {calls : List LinkCall}

theorem offer_take (sent : Sent payload result calls) :
    Offer calls (payload.take calls.length) := by
  induction sent with
  | nothing => rfl
  | @taken _ _ calls words count _ induction =>
      have opening : Offer [.write words (.ok count)] [words] := rfl
      exact opening.append induction
  | broken words error => rfl

private theorem alone_of_failure (sent : Sent payload result calls) {call : LinkCall}
    (member : call ∈ calls) (failed : call.failure? ≠ none) :
    ∃ said, calls = said ++ [call] ∧ ∀ earlier ∈ said, earlier.failure? = none := by
  induction sent with
  | nothing => cases member
  | @taken _ _ calls words count _ induction =>
      rcases List.mem_cons.mp member with rfl | later
      · exact absurd rfl failed
      · rcases induction later with ⟨said, rfl, sound⟩
        exact ⟨_ :: said, rfl, List.forall_mem_cons.mpr ⟨rfl, sound⟩⟩
  | broken words error =>
      obtain rfl := List.mem_singleton.mp member
      exact ⟨[], rfl, by simp⟩

theorem result_of_sound (sent : Sent payload result calls)
    (sound : ∀ call ∈ calls, call.failure? = none) : result = .ok () := by
  cases result with
  | ok => rfl
  | error error =>
      rcases sent.exists_failure with ⟨call, member, failed⟩
      exact absurd (sound call member) failed

theorem calls_of_whole (sent : Sent payload result calls) (whole : ∀ call ∈ calls, call.IsWhole) :
    result = .ok () ∧ calls = payload.map fun words => .write words (.ok words.length) := by
  induction sent with
  | nothing => exact ⟨rfl, rfl⟩
  | taken words count _ induction =>
      rw [List.forall_mem_cons] at whole
      rcases whole with ⟨first, others⟩
      rcases induction others with ⟨done, rfl⟩
      obtain rfl := Except.ok.inj first
      exact ⟨done, rfl⟩
  | broken words error => cases whole _ (List.mem_singleton.mpr rfl)

end Sent

variable {σ : Type} [Link σ]

structure Dispatched (parameters : List Parameter) (host : Host (Traced σ))
    (outcome : Except ProtocolError Unit × Host (Traced σ)) (calls : List LinkCall) : Prop where
  recorded : outcome.2.calls = host.calls ++ calls
  offered : Offer calls ((parameters.take calls.length).map Parameter.bytes)
  sound : (∀ call ∈ calls, call.failure? = none) →
    outcome.1 = .ok () ∧ calls.length = parameters.length
  failed : ∀ call ∈ calls, ∀ reason, call.failure? = some reason →
    outcome.1 = .error (.link reason) ∧
      ∃ said, calls = said ++ [call] ∧ ∀ earlier ∈ said, earlier.failure? = none
  noticed : outcome.2.notices = host.notices ++ Parameter.shortages parameters calls
  accepted : ∀ good : σ → Prop, Accepting good → good host.link.link → ∀ call ∈ calls, call.IsWhole
  whole : (∀ call ∈ calls, call.IsWhole) → outcome.1 = .ok () ∧
    calls = parameters.map fun parameter => .write parameter.bytes (.ok parameter.width)
  /-- What a link has taken whole can be read from any link that brings it, and nothing is left. -/
  read : (∀ call ∈ calls, call.IsWhole) →
    ∀ {τ : Type} [FiniteLink τ] {brings : List UInt8 → τ → Prop}, Steady brings →
      Yields brings (receive (parameters.map Parameter.kind)) (arrived calls) parameters

private theorem send_cons_of_taken (parameter : Parameter) (parameters : List Parameter)
    {host : Host (Traced σ)} {count : Nat}
    (taken : (Link.write parameter.bytes host.link).1.result = .ok count) :
    ∃ middle, (send (parameter :: parameters)).apply host = (send parameters).apply middle ∧
      middle.calls = host.calls ++ [.write parameter.bytes (.ok count)] ∧
      middle.notices =
        host.notices ++ (parameter.shortage? (.write parameter.bytes (.ok count))).toList := by
  have recorded := host.calls_after_write parameter.bytes
  rw [taken] at recorded
  rw [send, Action.apply_bind, apply_write_of_taken taken]
  dsimp only
  split
  case isTrue short =>
    rw [Action.apply_bind, Action.apply_modify]
    refine ⟨_, rfl, recorded, ?_⟩
    rw [Parameter.shortage?, if_pos short]
    exact List.reverse_cons
  case isFalse enough =>
    refine ⟨_, rfl, recorded, ?_⟩
    rw [Parameter.shortage?, if_neg enough]
    exact (List.append_nil _).symm

private theorem noticed_send (parameters : List Parameter) (host : Host (Traced σ)) :
    ∃ calls, ((send parameters).apply host).2.calls = host.calls ++ calls ∧
      ((send parameters).apply host).2.notices =
        host.notices ++ Parameter.shortages parameters calls := by
  induction parameters generalizing host with
  | nil => exact ⟨[], (List.append_nil _).symm, (List.append_nil _).symm⟩
  | cons parameter parameters induction =>
      rcases written : (Link.write parameter.bytes host.link).1.result with error | count
      · have recorded := host.calls_after_write parameter.bytes
        rw [written] at recorded
        rw [send, Action.apply_bind, apply_write, written]
        refine ⟨[.write parameter.bytes (.error error)], recorded, ?_⟩
        rw [Parameter.shortages_cons, Parameter.shortages_nil]
        exact (List.append_nil host.notices).symm
      · rcases send_cons_of_taken parameter parameters written with
          ⟨middle, begun, recorded, noticed⟩
        rcases induction middle with ⟨calls, continued, further⟩
        refine ⟨.write parameter.bytes (.ok count) :: calls, ?_, ?_⟩
        · rw [begun, continued, recorded, List.append_assoc, List.singleton_append]
        · rw [begun, further, noticed, List.append_assoc, Parameter.shortages_cons]

theorem dispatched_send (parameters : List Parameter) (host : Host (Traced σ)) :
    ∃ calls, Dispatched parameters host ((send parameters).apply host) calls := by
  rcases sent_send parameters host with ⟨calls, recorded, sent⟩
  rcases noticed_send parameters host with ⟨others, again, noticed⟩
  obtain rfl : calls = others := List.append_cancel_left (recorded.symm.trans again)
  have wholly (whole : ∀ call ∈ calls, call.IsWhole) :
      ((send parameters).apply host).1 = .ok () ∧
        calls = parameters.map fun parameter => .write parameter.bytes (.ok parameter.width) := by
    rcases sent.calls_of_whole whole with ⟨done, all⟩
    rw [List.map_map] at all
    refine ⟨done, all.trans (List.map_congr_left fun parameter _ => ?_)⟩
    rw [Function.comp_apply, Parameter.length_bytes]
  refine ⟨calls, recorded, ?offered, fun sound => ⟨sent.result_of_sound sound, ?complete⟩,
    fun call member reason failed => ⟨sent.result_of_failure member failed, ?alone⟩, noticed,
    fun good accepting ready => ?accepted, wholly, fun whole => ?read⟩
  case offered =>
    rw [List.map_take]
    exact sent.offer_take
  case complete =>
    rw [sent.result_of_sound sound] at sent
    simpa using sent.offer.length_eq
  case alone =>
    exact sent.alone_of_failure member (by simp [failed])
  case accepted =>
    rcases (proceeds_send parameters host).whole accepting ready with ⟨others, again, whole⟩
    obtain rfl : calls = others := List.append_cancel_left (recorded.symm.trans again)
    exact whole
  case read =>
    intro τ _ brings steady
    rw [(sent.calls_of_whole whole).2, arrived_write_whole, ← List.flatMap_def]
    exact yields_receive steady parameters

end Exchange

end BenchScope
