import BenchScope.Proofs.Waveform.Plan
import BenchScope.Proofs.Wire.Roundtrip

namespace BenchScope.Waveform

open LinkCall

/-! The plan of waves as the device gets it. Its words and its prescaler can be read off the bytes
on the link, so that a plan is sent as another one only if the two mean the same waves. -/

namespace Plan

variable {α β : Type}

structure IsSendable (plan : Plan α) : Prop where
  wavelength : 1 ≤ plan.wavelength
  prescalerIndex : plan.prescalerIndex < 32

/-- The plans mean the same waves. The first output begins with the period in any case. -/
structure SameWaves (left : Plan α) (right : Plan β) : Prop where
  wavelength : left.wavelength = right.wavelength
  duty : ∀ output : Output, left.duty.get output.index = right.duty.get output.index
  phase : ∀ output : Output, output ≠ .sq1 →
    left.phase.get output.index = right.phase.get output.index
  prescalerIndex : left.prescalerIndex = right.prescalerIndex

private theorem toNat_prescalerByte {plan : Plan α} (sendable : plan.IsSendable) :
    plan.prescalerByte.toNat = 32 + plan.prescalerIndex.toNat := by
  have small : plan.prescalerIndex.toNat < 2 ^ 5 :=
    UInt8.lt_iff_toNat_lt.mp sendable.prescalerIndex
  have bit : continuous.toNat = 2 ^ 5 * 1 := rfl
  rw [prescalerByte, UInt8.toNat_or, bit, Nat.or_comm, ← Nat.two_pow_add_eq_or_of_lt small]

theorem sameWaves_of_words {left : Plan α} {right : Plan β} (leftSendable : left.IsSendable)
    (rightSendable : right.IsSendable) (words : left.words = right.words)
    (prescalers : left.prescalerByte = right.prescalerByte) : left.SameWaves right where
  wavelength := by
    have periods := congrArg period words
    rw [period_words left (UInt16.pos_iff_ne_zero.mp leftSendable.wavelength),
      period_words right (UInt16.pos_iff_ne_zero.mp rightSendable.wavelength)] at periods
    exact UInt16.toNat_inj.mp periods
  duty output := by
    have falls := congrArg (fallsAt · output) words
    simp only [fallsAt_words] at falls
    exact UInt16.toNat_inj.mp falls
  phase output other := by
    have rises := congrArg (risesAt · output) words
    simp only [risesAt_words _ other] at rises
    exact UInt16.toNat_inj.mp rises
  prescalerIndex := by
    have bytes := congrArg UInt8.toNat prescalers
    rw [toNat_prescalerByte leftSendable, toNat_prescalerByte rightSendable] at bytes
    exact UInt8.toNat_inj.mp (Nat.add_left_cancel bytes)

private theorem eq_of_parameters {left : Plan α} {right : Plan β}
    (same : left.parameters = right.parameters) :
    left.words = right.words ∧ left.prescalerByte = right.prescalerByte := by
  rcases List.append_singleton_inj.mp same with ⟨words, prescalers⟩
  exact ⟨List.map_injective_iff.mpr (fun _ _ => Parameter.word.inj) words,
    Parameter.byte.inj prescalers⟩

/-! Two plans that are sent with the same bytes. -/

variable {σ τ : Type} [Link σ] [Link τ]

structure IsToldBy (plan : Plan α) (host : Host (Traced σ)) (calls : List LinkCall) : Prop where
  recorded : ((Exchange.sendWaves plan).apply host).2.calls = host.calls ++ calls
  unbroken : ∀ call ∈ calls, call.isBroken = false

private theorem written_of_isToldBy {plan : Plan α} {host : Host (Traced σ)} {calls : List LinkCall}
    (told : plan.IsToldBy host calls) :
    written calls = [0x07] :: [0x07] :: plan.parameters.map Parameter.bytes := by
  rcases Exchange.performed_acknowledgedOr .squareWaves plan.parameters .wavesUnacknowledged host
    with ⟨others, recorded, performed⟩
  obtain rfl : calls = others := List.append_cancel_left (told.recorded.symm.trans recorded)
  rcases performed.complete told.unbroken with ⟨said, heard, rfl, offer⟩
  have silent : written [.read 1 heard] = [] := rfl
  rw [written_append, silent, List.append_nil, offer.written]
  rfl

theorem sameWaves_of_written {left : Plan α} {right : Plan β} {leftHost : Host (Traced σ)}
    {rightHost : Host (Traced τ)} {leftCalls rightCalls : List LinkCall}
    (leftSendable : left.IsSendable) (rightSendable : right.IsSendable)
    (leftTold : left.IsToldBy leftHost leftCalls) (rightTold : right.IsToldBy rightHost rightCalls)
    (same : (written leftCalls).flatten = (written rightCalls).flatten) :
    left.SameWaves right := by
  rw [written_of_isToldBy leftTold, written_of_isToldBy rightTold] at same
  simp only [List.flatten_cons, ← List.flatMap_def] at same
  have kinds : left.parameters.map Parameter.kind = right.parameters.map Parameter.kind := rfl
  have parameters := Exchange.eq_of_flatMap_bytes kinds
    (List.append_cancel_left (List.append_cancel_left same))
  rcases eq_of_parameters parameters with ⟨words, prescalers⟩
  exact sameWaves_of_words leftSendable rightSendable words prescalers

/-- Whatever is sent, whatever the links do, and however the bytes fall into calls. -/
theorem send_roundtrip (parameters : List Parameter) (host : Host (Traced σ)) (left : Plan α)
    (right : Plan β) :
    (∃ calls, Exchange.Dispatched parameters host ((Exchange.send parameters).apply host) calls) ∧
      ∀ (leftHost : Host (Traced σ)) (rightHost : Host (Traced τ))
        (leftCalls rightCalls : List LinkCall), left.IsSendable → right.IsSendable →
        left.IsToldBy leftHost leftCalls → right.IsToldBy rightHost rightCalls →
        (written leftCalls).flatten = (written rightCalls).flatten → left.SameWaves right :=
  ⟨Exchange.dispatched_send parameters host,
    fun _ _ _ _ leftSendable rightSendable leftTold rightTold same =>
      sameWaves_of_written leftSendable rightSendable leftTold rightTold same⟩

def alignedPlan : Plan Rat where
  frequency := 1000
  wavelength := 64000
  prescaler := 1
  prescalerIndex := 0
  duty := .replicate 4 31999
  phase := .replicate 4 0

def shiftedPlan : Plan Rat := { alignedPlan with phase := #v[15999, 0, 0, 0] }

def readyHost : Host (Traced Script) := (Exchange.greeting [1]).traced

theorem send_roundtrip_shiftedPlan :
    alignedPlan.IsSendable ∧ shiftedPlan.IsSendable ∧ alignedPlan ≠ shiftedPlan ∧
      (∃ calls, alignedPlan.IsToldBy readyHost calls ∧ shiftedPlan.IsToldBy readyHost calls) ∧
      alignedPlan.SameWaves shiftedPlan := by
  have aligned : alignedPlan.IsSendable := ⟨by decide, by decide⟩
  have shifted : shiftedPlan.IsSendable := ⟨by decide, by decide⟩
  have other : alignedPlan ≠ shiftedPlan := fun same => by
    have phases : alignedPlan.phase[0] = shiftedPlan.phase[0] := by rw [same]
    revert phases
    decide
  have parameters : shiftedPlan.parameters = alignedPlan.parameters := by decide
  have alignedTold : alignedPlan.IsToldBy readyHost
      ((Exchange.sendWaves alignedPlan).apply readyHost).2.calls :=
    ⟨(List.nil_append _).symm, by decide +kernel⟩
  have shiftedTold : shiftedPlan.IsToldBy readyHost
      ((Exchange.sendWaves alignedPlan).apply readyHost).2.calls := by
    refine ⟨?_, alignedTold.unbroken⟩
    rw [Exchange.sendWaves, parameters]
    exact alignedTold.recorded
  exact ⟨aligned, shifted, other, ⟨_, alignedTold, shiftedTold⟩,
    (send_roundtrip [] readyHost alignedPlan shiftedPlan).2 readyHost readyHost _ _ aligned shifted
      alignedTold shiftedTold rfl⟩

end Plan

end BenchScope.Waveform
