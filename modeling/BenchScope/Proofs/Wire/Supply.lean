import BenchScope.Proofs.Capture.Passage
import BenchScope.Proofs.Capture.Turns
import BenchScope.Proofs.Wire.Consumption

namespace BenchScope

open LinkCall

/-! How much an exchange uses up of what a finite link can deliver, and how many bytes it is handed.
Bytes may get lost on the link, but none come from nowhere. -/

/-- A link that delivers no more than it is asked for, and no more than it has. -/
class LawfulFiniteLink (σ : Type) [FiniteLink σ] : Prop where
  supply_write (bytes : List UInt8) (link : σ) :
    FiniteLink.supply (Link.write bytes link).2 ≤ FiniteLink.supply link
  supply_read (count : Nat) (link : σ) :
    FiniteLink.supply (Link.read count link).2 ≤ FiniteLink.supply link
  supply_delivered {count : Nat} {link : σ} {bytes : List UInt8} :
    (Link.read count link).1.result = .ok bytes →
      FiniteLink.supply (Link.read count link).2 + bytes.length ≤ FiniteLink.supply link
  length_delivered {count : Nat} {link : σ} {bytes : List UInt8} :
    (Link.read count link).1.result = .ok bytes → bytes.length ≤ count

namespace Script

private theorem pending_eq (script : Script) :
    script.pending = (script.incoming.filterMap Item.byte?).length := by
  rw [List.length_filterMap_eq_countP, pending]
  congr 1
  funext item
  cases item <;> rfl

private theorem pending_read (count : Nat) (script : Script) :
    ∃ taken ≤ count, (read count script).2.pending = script.pending - taken ∧
      ∀ bytes, (read count script).1.result = .ok bytes →
        bytes.length = min taken script.pending := by
  rcases taken_of_take count script.incoming with ⟨taken, bound, left, heard⟩
  rw [pending_eq, pending_eq]
  refine ⟨taken, bound, ?_, fun bytes result => ?_⟩
  · rw [← List.length_drop, ← left]
    rfl
  · rw [heard bytes result, List.length_take]

instance : LawfulFiniteLink Script where
  supply_write bytes script := by
    change (write bytes script).2.pending ≤ script.pending
    rw [write]
    split
    · exact Nat.le_refl _
    · split <;> exact Nat.le_refl _
  supply_read count script := by
    rcases pending_read count script with ⟨taken, -, left, -⟩
    exact Nat.le_trans (Nat.le_of_eq left) (Nat.sub_le _ _)
  supply_delivered {count script bytes} result := by
    rcases pending_read count script with ⟨taken, -, left, length⟩
    change (read count script).2.pending + bytes.length ≤ script.pending
    rw [left, length bytes result]
    omega
  length_delivered {count script bytes} result := by
    rcases pending_read count script with ⟨taken, bound, -, length⟩
    rw [length bytes result]
    exact Nat.le_trans (Nat.min_le_left _ _) bound

end Script

instance {σ : Type} [FiniteLink σ] [LawfulFiniteLink σ] : LawfulFiniteLink (Traced σ) where
  supply_write bytes traced := LawfulFiniteLink.supply_write bytes traced.link
  supply_read count traced := LawfulFiniteLink.supply_read count traced.link
  supply_delivered := LawfulFiniteLink.supply_delivered (σ := σ)
  length_delivered := LawfulFiniteLink.length_delivered (σ := σ)

/-! What a host is left with. -/

namespace Host

variable {σ : Type} [FiniteLink σ]

def supply (host : Host σ) : Nat := FiniteLink.supply host.link

theorem Becomes.supply_le [LawfulFiniteLink σ] {host after : Host σ}
    (becomes : host.Becomes after) : after.supply ≤ host.supply := by
  induction becomes with
  | same => exact Nat.le_refl _
  | write bytes _ induction => exact Nat.le_trans (LawfulFiniteLink.supply_write bytes _) induction
  | read count _ induction => exact Nat.le_trans (LawfulFiniteLink.supply_read count _) induction
  | note _ _ induction | pause _ _ induction => exact induction

end Host

/-! The bytes that calls deliver. -/

namespace LinkCall

def delivered : LinkCall → Nat
  | .read _ (.ok bytes) => bytes.length
  | _ => 0

def Fits : LinkCall → Prop
  | .read count (.ok bytes) => bytes.length ≤ count
  | _ => True

def received : List LinkCall → Nat
  | [] => 0
  | call :: calls => call.delivered + received calls

theorem received_append (first second : List LinkCall) :
    received (first ++ second) = received first + received second := by
  induction first with
  | nil => exact (Nat.zero_add _).symm
  | cons call first induction =>
      rw [List.cons_append, received, received, induction, Nat.add_assoc]

theorem Offer.received_eq_zero {calls : List LinkCall} {payload : List (List UInt8)}
    (offer : Offer calls payload) : received calls = 0 := by
  induction calls generalizing payload with
  | nil => rfl
  | cons call calls induction =>
      cases payload with
      | nil => simp [Offer] at offer
      | cons words payload =>
          rw [Offer, List.map_cons, List.map_cons, List.cons.injEq] at offer
          cases call with
          | read => cases offer.1
          | write => simpa [received, delivered] using induction offer.2

private theorem delivered_of_byte? {call : LinkCall} {byte : UInt8} (fits : call.Fits)
    (heard : call.byte? = some byte) : call.delivered = 1 := by
  unfold byte? at heard
  split at heard
  case h_1 => exact Nat.le_antisymm fits (Nat.succ_pos _)
  case h_2 => cases heard

private theorem delivered_of_word? {call : LinkCall} {word : UInt16} (fits : call.Fits)
    (heard : call.word? = some word) : call.delivered = 2 := by
  unfold word? at heard
  split at heard
  case h_1 => exact Nat.le_antisymm fits (by simp [delivered])
  case h_2 => cases heard

private theorem byte?_of_isAcknowledged {call : LinkCall}
    (acknowledged : call.isAcknowledged = true) : ∃ byte, call.byte? = some byte := by
  rw [isAcknowledged] at acknowledged
  cases heard : call.byte? with
  | none => simp [heard] at acknowledged
  | some byte => exact ⟨byte, rfl⟩

theorem received_of_statusReply {done : Bool} {heard : List LinkCall}
    (reply : Session.StatusReply done heard) (fit : ∀ call ∈ heard, call.Fits) :
    received heard = 4 := by
  rcases reply with ⟨flag, counter, acknowledgement, byte, word, rfl, flagged, counted,
    acknowledged, -⟩
  rcases byte?_of_isAcknowledged acknowledged with ⟨last, ended⟩
  have one := delivered_of_byte? (fit flag (by simp)) flagged
  have two := delivered_of_word? (fit counter (by simp)) counted
  have three := delivered_of_byte? (fit acknowledgement (by simp)) ended
  simp [received, one, two, three]

end LinkCall

namespace Host

variable {σ : Type}

/-- What holds of each call on a link in certain states holds of all calls that become of a host, as
long as calls do not lead out of these states. -/
theorem Becomes.forall_calls [Link σ] {good : σ → Prop} {property : LinkCall → Prop}
    (writes : ∀ bytes link, good link → good (Link.write bytes link).2 ∧
      property (.write bytes (Link.write bytes link).1.result))
    (reads : ∀ count link, good link → good (Link.read count link).2 ∧
      property (.read count (Link.read count link).1.result))
    {host after : Host (Traced σ)} (becomes : host.Becomes after) (ready : good host.link.link) :
    good after.link.link ∧
      ∃ calls, after.calls = host.calls ++ calls ∧ ∀ call ∈ calls, property call := by
  induction becomes with
  | same => exact ⟨ready, [], (List.append_nil _).symm, by simp⟩
  | @write before bytes _ induction =>
      rcases induction with ⟨kept, calls, recorded, held⟩
      rcases writes bytes before.link.link kept with ⟨later, holds⟩
      refine ⟨later, calls ++ [_], ?_, List.forall_mem_append.mpr
        ⟨held, List.forall_mem_singleton.mpr holds⟩⟩
      rw [before.calls_after_write bytes, recorded, List.append_assoc]
      rfl
  | @read before count _ induction =>
      rcases induction with ⟨kept, calls, recorded, held⟩
      rcases reads count before.link.link kept with ⟨later, holds⟩
      refine ⟨later, calls ++ [_], ?_, List.forall_mem_append.mpr
        ⟨held, List.forall_mem_singleton.mpr holds⟩⟩
      rw [before.calls_after_read count, recorded, List.append_assoc]
      rfl
  | note _ _ induction | pause _ _ induction => exact induction

variable [FiniteLink σ] [LawfulFiniteLink σ]

private theorem fits_read (count : Nat) (link : σ) :
    (LinkCall.read count (Link.read count link).1.result).Fits := by
  rcases heard : (Link.read count link).1.result with error | bytes
  · trivial
  · exact LawfulFiniteLink.length_delivered heard

theorem Becomes.fit {host after : Host (Traced σ)} (becomes : host.Becomes after) :
    ∃ calls, after.calls = host.calls ++ calls ∧ ∀ call ∈ calls, call.Fits :=
  (becomes.forall_calls (fun _ _ (_ : True) => ⟨trivial, trivial⟩)
    (fun count link _ => ⟨trivial, fits_read count link⟩) trivial).2

end Host

namespace Exchange

variable {σ ε β γ : Type} [FiniteLink σ]

def Draws (action : Exchange ε σ β) (amount : Nat) : Prop :=
  ∀ host value after, action.apply host = (.ok value, after) → after.supply + amount ≤ host.supply

theorem draws_pure (value : β) : Draws (pure value : Exchange ε σ β) 0 := by
  intro host answer after applied
  cases applied
  exact Nat.le_refl _

theorem Draws.bind {action : Exchange ε σ β} {next : β → Exchange ε σ γ} {first second : Nat}
    (draws : Draws action first) (continues : ∀ value, Draws (next value) second) :
    Draws (action >>= next) (first + second) := by
  intro host answer after applied
  rw [Action.apply_bind] at applied
  rcases started : action.apply host with ⟨error | value, middle⟩
  · rw [started] at applied
    cases applied
  · rw [started] at applied
    have before := draws host value middle started
    have behind := continues value middle answer after applied
    omega

variable [LawfulFiniteLink σ]

theorem Proceeds.draws {action : Exchange ε σ β} (proceeds : Proceeds action) : Draws action 0 :=
  fun _ _ _ applied => (proceeds.of_apply applied).supply_le

theorem Reads.draws {action : Exchange ProtocolError σ β} {count amount : Nat}
    {reading : List UInt8 → Except ProtocolError β} (reads : Reads action count reading)
    (needs : ∀ bytes value, reading bytes = .ok value → amount ≤ bytes.length) :
    Draws action amount := by
  intro host value after applied
  rw [reads host] at applied
  rcases heard : (Link.read count host.link).1.result with error | bytes
  · rw [heard] at applied
    cases applied
  · rw [heard] at applied
    rcases Prod.mk.inj applied with ⟨answered, rfl⟩
    have enough := needs bytes value answered
    exact Nat.le_trans (Nat.add_le_add_left enough _) (LawfulFiniteLink.supply_delivered heard)

theorem draws_readByte : Draws (readByte (σ := σ)) 1 := by
  refine reads_readByte.draws fun bytes value answered => ?_
  cases bytes with
  | nil => cases answered
  | cons byte rest => exact Nat.succ_pos _

theorem draws_readWord : Draws (readWord (σ := σ)) 2 := by
  refine reads_readWord.draws fun bytes value answered => ?_
  rcases bytes with _ | ⟨low, _ | ⟨high, rest⟩⟩
  · cases answered
  · cases answered
  · simp

theorem draws_awaitAcknowledgement : Draws (awaitAcknowledgement (σ := σ)) 1 := by
  refine reads_awaitAcknowledgement.draws fun bytes value answered => ?_
  cases bytes with
  | nil => cases answered
  | cons byte rest => exact Nat.succ_pos _

theorem draws_askStatus : Draws (Capture.askStatus (σ := σ)) 4 :=
  (proceeds_send _).draws.bind fun _ => draws_readByte.bind fun _ => draws_readWord.bind fun _ =>
    draws_awaitAcknowledgement.bind fun _ => draws_pure _

end Exchange

end BenchScope
