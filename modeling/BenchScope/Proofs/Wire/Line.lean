import BenchScope.Proofs.Wire.Supply
import BenchScope.Proofs.Wire.Transactions

namespace BenchScope

open LinkCall

/-! Reading a line of text. The bytes are asked for one after the other, until one of them is a line
feed, or the device falls silent, or the line is as long as it may be, or the link fails. -/

namespace LinkCall

private theorem delivered_le_of_fits {count : Nat} {heard : Except LinkError (List UInt8)}
    (fits : (LinkCall.read count heard).Fits) : (LinkCall.read count heard).delivered ≤ count := by
  cases heard with
  | ok bytes => exact fits
  | error reason => exact Nat.zero_le _

inductive LineEnd (limit length : Nat) : List LinkCall → Prop
  | full : length = limit → LineEnd limit length []
  | feed {call : LinkCall} : length < limit → call.byte? = some 0x0A → LineEnd limit length [call]
  | silence : length < limit → LineEnd limit length [.read 1 (.ok [])]

theorem LineEnd.succ {limit length : Nat} {calls : List LinkCall}
    (ends : LineEnd limit length calls) :
    LineEnd (limit + 1) (length + 1) calls := by
  cases ends with
  | full same => exact .full (congrArg (· + 1) same)
  | feed shorter heard => exact .feed (Nat.succ_lt_succ shorter) heard
  | silence shorter => exact .silence (Nat.succ_lt_succ shorter)

/-- The calls bring this line, byte by byte, and what ends it. -/
structure IsLine (limit : Nat) (line : List UInt8) (calls : List LinkCall) : Prop where
  whole : 0x0A ∉ line
  heard : ∃ reads ending, calls = reads ++ ending ∧
    reads.map byte? = line.map some ∧ LineEnd limit line.length ending

theorem IsLine.cons {limit : Nat} {line : List UInt8} {calls : List LinkCall}
    (isLine : IsLine limit line calls) {byte : UInt8} (other : byte ≠ 0x0A) (more : List UInt8) :
    IsLine (limit + 1) (byte :: line) (.read 1 (.ok (byte :: more)) :: calls) where
  whole := by
    rw [List.mem_cons, not_or]
    exact ⟨Ne.symm other, isLine.whole⟩
  heard := by
    rcases isLine.heard with ⟨reads, ending, rfl, bytes, ends⟩
    refine ⟨_ :: reads, ending, rfl, ?_, ends.succ⟩
    rw [List.map_cons, List.map_cons, bytes]
    rfl

end LinkCall

namespace Exchange

inductive Lined : Nat → Except ProtocolError (List UInt8) → List LinkCall → Prop
  | full : Lined 0 (.ok []) []
  | silence (limit : Nat) : Lined (limit + 1) (.ok []) [.read 1 (.ok [])]
  | feed (limit : Nat) (more : List UInt8) :
      Lined (limit + 1) (.ok []) [.read 1 (.ok (0x0A :: more))]
  | byte {limit : Nat} {result : Except ProtocolError (List UInt8)} {calls : List LinkCall}
      {byte : UInt8} (other : byte ≠ 0x0A) (more : List UInt8) : Lined limit result calls →
      Lined (limit + 1) (result.map (byte :: ·)) (.read 1 (.ok (byte :: more)) :: calls)
  | broken (limit : Nat) (reason : LinkError) :
      Lined (limit + 1) (.error (.link reason)) [.read 1 (.error reason)]

namespace Lined

variable {limit : Nat} {result : Except ProtocolError (List UInt8)} {calls : List LinkCall}

theorem written_eq_nil (lined : Lined limit result calls) : written calls = [] := by
  induction lined with
  | byte other more _ induction => exact induction
  | full | silence | feed | broken => rfl

theorem result_of_failure (lined : Lined limit result calls) {call : LinkCall}
    (member : call ∈ calls) {reason : LinkError} (failed : call.failure? = some reason) :
    result = .error (.link reason) := by
  induction lined with
  | full => cases member
  | silence | feed =>
      obtain rfl := List.mem_singleton.mp member
      cases failed
  | byte other more _ induction =>
      rcases List.mem_cons.mp member with rfl | later
      · cases failed
      · rw [induction later]
        rfl
  | broken =>
      obtain rfl := List.mem_singleton.mp member
      cases failed
      rfl

theorem isLine (lined : Lined limit result calls)
    (sound : ∀ call ∈ calls, call.failure? = none) :
    ∃ line, result = .ok line ∧ IsLine limit line calls := by
  induction lined with
  | full => exact ⟨[], rfl, List.not_mem_nil, [], [], rfl, rfl, .full rfl⟩
  | silence limit =>
      exact ⟨[], rfl, List.not_mem_nil, [], _, rfl, rfl, .silence (Nat.succ_pos limit)⟩
  | feed limit more =>
      exact ⟨[], rfl, List.not_mem_nil, [], _, rfl, rfl, .feed (Nat.succ_pos limit) rfl⟩
  | byte other more _ induction =>
      rcases induction fun call member => sound call (List.mem_cons_of_mem _ member) with
        ⟨line, rfl, isLine⟩
      exact ⟨_, rfl, isLine.cons other more⟩
  | broken limit reason => cases sound _ (List.mem_singleton.mpr rfl)

theorem received_le (lined : Lined limit result calls) (fit : ∀ call ∈ calls, call.Fits) :
    received calls ≤ limit := by
  induction lined with
  | full => exact Nat.le_refl _
  | silence | broken => exact Nat.zero_le _
  | feed limit more =>
      have one := delivered_le_of_fits (fit _ (List.mem_singleton.mpr rfl))
      exact Nat.le_trans one (Nat.succ_le_succ (Nat.zero_le limit))
  | byte other more _ induction =>
      rw [List.forall_mem_cons] at fit
      rw [received, Nat.add_comm]
      exact Nat.add_le_add (induction fit.2) (delivered_le_of_fits fit.1)

end Lined

theorem Sent.received_eq_zero {payload : List (List UInt8)} {result : Except ProtocolError Unit}
    {calls : List LinkCall} (sent : Sent payload result calls) : received calls = 0 := by
  rcases sent.sends with ⟨said, -, offer, -⟩
  exact offer.received_eq_zero

variable {σ : Type} [Link σ]

private theorem makes_read (count : Nat) :
    Makes (read (σ := Traced σ) count) fun result calls =>
      ∃ heard, calls = [.read count heard] ∧ result = heard.mapError .link := fun _ =>
  ⟨_, List.reverse_cons, _, rfl, rfl⟩

theorem lined_readLine (limit : Nat) : Makes (readLine (σ := Traced σ) limit) (Lined limit) := by
  induction limit with
  | zero =>
      refine (makes_pure []).mono ?_
      rintro result calls ⟨rfl, rfl⟩
      exact .full
  | succ limit induction =>
      rw [readLine]
      -- Whatever the first call brings, it becomes clear what this makes of the line as a whole.
      refine ((makes_read 1).bind fun bytes => show Makes _ fun result calls =>
        Lined (limit + 1) result (.read 1 (.ok bytes) :: calls) from ?later).mono ?first
      case later =>
        cases bytes with
        | nil =>
            refine (makes_pure []).mono ?_
            rintro result calls ⟨rfl, rfl⟩
            exact .silence limit
        | cons byte more =>
            dsimp only
            split
            case isTrue feed =>
              subst feed
              refine (makes_pure []).mono ?_
              rintro result calls ⟨rfl, rfl⟩
              exact .feed limit more
            case isFalse other =>
              refine (induction.bind fun line => makes_pure (byte :: line)).mono ?_
              intro result calls described
              rcases described with ⟨error, rfl, lined⟩ | ⟨line, _, _, rfl, lined, rfl, rfl⟩
              · exact .byte other more lined
              · rw [List.append_nil]
                exact .byte other more lined
      case first =>
        intro result calls described
        rcases described with ⟨_, rfl, heard, rfl, failed⟩ |
          ⟨bytes, _, after, rfl, ⟨heard, rfl, taken⟩, lined⟩
        · cases heard with
          | ok bytes => cases failed
          | error reason =>
              cases failed
              exact .broken limit reason
        · cases heard with
          | ok bytes =>
              cases taken
              exact lined
          | error reason => cases taken

end Exchange

end BenchScope
