import BenchScope.Link.Script
import BenchScope.Proofs.Wire.Replies

namespace BenchScope

/-! How much an exchange takes of the bytes that the link is going to deliver. The link may fail,
fall silent or take its time; all that is relied on is that it delivers the bytes in order. -/

/-- The relation tells which bytes a link has left to deliver. A read takes some of them for good.
What it returns are the bytes that it has taken; when it fails they are lost. -/
structure Conveys {σ : Type} [Link σ] (holds : List UInt8 → σ → Prop) : Prop where
  write (words bytes : List UInt8) (link : σ) :
    holds bytes link → holds bytes (Link.write words link).2
  read (count : Nat) (bytes : List UInt8) (link : σ) : holds bytes link →
    ∃ taken ≤ count, holds (bytes.drop taken) (Link.read count link).2 ∧
      ∀ got, (Link.read count link).1.result = .ok got → got = bytes.take taken

/-! Scripts are such links, whatever is in them. -/

namespace Script

def Item.byte? : Item → Option UInt8
  | .byte value => some value
  | _ => none

def Holds (bytes : List UInt8) (script : Script) : Prop :=
  script.incoming.filterMap Item.byte? = bytes

private theorem taken_of_nothing (wanted : Nat) {progress : Progress} {bytes : List UInt8}
    (result : progress.outcome.result = .ok [])
    (rest : progress.rest.filterMap Item.byte? = bytes) :
    ∃ taken ≤ wanted, progress.rest.filterMap Item.byte? = bytes.drop taken ∧
      ∀ got, progress.outcome.result = .ok got → got = bytes.take taken := by
  refine ⟨0, Nat.zero_le _, rest, fun got heard => ?_⟩
  rw [result] at heard
  cases heard
  rfl

theorem taken_of_take (wanted : Nat) (items : List Item) :
    ∃ taken ≤ wanted,
      (take wanted items).rest.filterMap Item.byte? =
        (items.filterMap Item.byte?).drop taken ∧
      ∀ got, (take wanted items).outcome.result = .ok got →
        got = (items.filterMap Item.byte?).take taken := by
  induction items generalizing wanted with
  | nil => cases wanted <;> exact taken_of_nothing _ rfl rfl
  | cons item items induction =>
      cases item with
      | abort => exact induction wanted
      | byte value =>
          cases wanted with
          | zero => exact taken_of_nothing _ rfl rfl
          | succ wanted =>
              rcases induction wanted with ⟨taken, bound, left, heard⟩
              refine ⟨taken + 1, Nat.succ_le_succ bound, left, fun got all => ?_⟩
              rw [take, Progress.withByte] at all
              cases result : (take wanted items).outcome.result with
              | error error =>
                  rw [result] at all
                  cases all
              | ok rest =>
                  rw [result] at all
                  cases all
                  exact congrArg (value :: ·) (heard rest result)
      | stall nanoseconds =>
          cases wanted with
          | zero => exact taken_of_nothing _ rfl rfl
          | succ wanted => exact induction (wanted + 1)
      | gap => cases wanted <;> exact taken_of_nothing _ rfl rfl
      | failure error =>
          cases wanted with
          | zero => exact taken_of_nothing _ rfl rfl
          | succ wanted => exact ⟨0, Nat.zero_le _, rfl, nofun⟩

theorem conveys : Conveys Holds where
  write words bytes script holding := by
    change Holds bytes (write words script).2
    rw [write]
    split
    · exact holding
    · split <;> exact holding
  read count bytes script holding := by
    have taken := taken_of_take count script.incoming
    rwa [holding] at taken

end Script

namespace Exchange

variable {σ ε β γ : Type} {holds : List UInt8 → σ → Prop}

/-- The action takes at most a number of the bytes, and when it succeeds its value is what the taken
bytes mean. -/
def Takes (holds : List UInt8 → σ → Prop) (action : Exchange ε σ β) (limit : Nat)
    (meaning : β → List UInt8 → Prop) : Prop :=
  ∀ bytes host, holds bytes host.link →
    ∃ taken ≤ limit, holds (bytes.drop taken) (action.apply host).2.link ∧
      ∀ value, (action.apply host).1 = .ok value → meaning value (bytes.take taken)

theorem Takes.mono {action : Exchange ε σ β} {limit : Nat} {meaning weaker : β → List UInt8 → Prop}
    (takes : Takes holds action limit meaning)
    (implies : ∀ value taken, meaning value taken → weaker value taken) :
    Takes holds action limit weaker := by
  intro bytes host holding
  rcases takes bytes host holding with ⟨taken, bound, left, means⟩
  exact ⟨taken, bound, left, fun value succeeded => implies _ _ (means value succeeded)⟩

theorem takes_pure (value : β) :
    Takes holds (pure value : Exchange ε σ β) 0
      fun answer taken => answer = value ∧ taken = [] := by
  intro bytes host holding
  refine ⟨0, Nat.le_refl _, holding, fun answer succeeded => ?_⟩
  cases succeeded
  exact ⟨rfl, rfl⟩

theorem Takes.bind {action : Exchange ε σ β} {next : β → Exchange ε σ γ} {first second : Nat}
    {opening : β → List UInt8 → Prop} {closing : β → γ → List UInt8 → Prop}
    (takes : Takes holds action first opening)
    (continues : ∀ value, Takes holds (next value) second (closing value)) :
    Takes holds (action >>= next) (first + second) fun answer taken =>
      ∃ value before after, taken = before ++ after ∧ opening value before ∧
        closing value answer after := by
  intro bytes host holding
  rcases takes bytes host holding with ⟨before, few, left, opens⟩
  rw [Action.apply_bind]
  rcases applied : action.apply host with ⟨error | value, middle⟩
  · rw [applied] at left
    exact ⟨before, Nat.le_add_right_of_le few, left, nofun⟩
  · rw [applied] at left opens
    rcases continues value _ middle left with ⟨after, more, left, closes⟩
    rw [List.drop_drop] at left
    refine ⟨before + after, Nat.add_le_add few more, left, fun answer succeeded => ?_⟩
    exact ⟨value, _, _, List.take_add, opens value rfl, closes answer succeeded⟩

theorem Takes.within {action : Exchange ε σ β} {limit : Nat} {meaning : β → List UInt8 → Prop}
    (takes : Takes holds action limit meaning) {left rest : List UInt8} {host after : Host σ}
    {result : Except ε β} (holding : holds (left ++ rest) host.link) (enough : limit ≤ left.length)
    (applied : action.apply host = (result, after)) :
    ∃ taken ≤ limit, holds (left.drop taken ++ rest) after.link ∧
      ∀ value, result = .ok value → meaning value (left.take taken) := by
  have done := takes _ host holding
  rw [applied] at done
  rcases done with ⟨taken, bound, remaining, means⟩
  have inside := Nat.le_trans bound enough
  rw [List.drop_append_of_le_length inside] at remaining
  rw [List.take_append_of_le_length inside] at means
  exact ⟨taken, bound, remaining, means⟩

variable [Link σ]

theorem Reads.takes (conveys : Conveys holds) {action : Exchange ProtocolError σ β} {count : Nat}
    {reading : List UInt8 → Except ProtocolError β} (reads : Reads action count reading) :
    Takes holds action count fun value taken =>
      taken.length ≤ count ∧ reading taken = .ok value := by
  intro bytes host holding
  rcases conveys.read count bytes host.link holding with ⟨taken, bound, left, heard⟩
  rw [reads host]
  refine ⟨taken, bound, left, fun value succeeded => ?_⟩
  refine ⟨Nat.le_trans (List.length_take_le _ _) bound, ?_⟩
  cases result : (Link.read count host.link).1.result with
  | error error =>
      rw [result] at succeeded
      cases succeeded
  | ok got =>
      rw [result] at succeeded
      rwa [← heard got result]

theorem compositional_takes (conveys : Conveys holds) :
    Compositional (σ := σ) fun action => Takes holds action 0 fun _ taken => taken = [] where
  pure value := (takes_pure value).mono fun _ _ means => means.2
  bind := by
    intro _ _ action next first second
    refine (first.bind second).mono ?_
    intro _ taken means
    rcases means with ⟨_, _, _, rfl, rfl, rfl⟩
    rfl
  note notice bytes host holding := ⟨0, Nat.le_refl _, holding, fun _ _ => rfl⟩
  write words bytes host holding :=
    ⟨0, Nat.le_refl _, conveys.write words bytes host.link holding, fun _ _ => rfl⟩

theorem takes_awaitAcknowledgement (conveys : Conveys holds) :
    Takes holds awaitAcknowledgement 1 fun _ taken => taken.length = 1 := by
  refine (reads_awaitAcknowledgement.takes conveys).mono ?_
  intro byte taken means
  rcases means with ⟨bound, answered⟩
  cases taken with
  | nil => cases answered
  | cons first rest => exact Nat.le_antisymm bound (Nat.succ_pos _)

theorem takes_readByte (conveys : Conveys holds) :
    Takes holds readByte 1 fun byte taken => taken = [byte] := by
  refine (reads_readByte.takes conveys).mono ?_
  intro byte taken means
  rcases means with ⟨bound, answered⟩
  rcases taken with _ | ⟨first, _ | ⟨second, rest⟩⟩
  · cases answered
  · cases answered
    rfl
  · simp at bound

theorem takes_readWord (conveys : Conveys holds) :
    Takes holds readWord 2 fun _ taken => taken.length = 2 := by
  refine (reads_readWord.takes conveys).mono ?_
  intro word taken means
  rcases means with ⟨bound, answered⟩
  rcases taken with _ | ⟨low, _ | ⟨high, rest⟩⟩
  · cases answered
  · cases answered
  · exact Nat.le_antisymm bound (by simp)

theorem takes_perform (conveys : Conveys holds) (command : Command) (parameters : List Parameter) :
    Takes holds (perform command parameters) 1 fun _ taken => taken.length = 1 := by
  refine (((compositional_takes conveys).request command parameters).bind fun _ =>
    (takes_awaitAcknowledgement conveys).bind fun _ => takes_pure ()).mono ?_
  intro _ taken means
  rcases means with ⟨_, _, _, rfl, rfl, _, _, _, rfl, one, -, rfl⟩
  rwa [List.nil_append, List.append_nil]

theorem takes_askStatus (conveys : Conveys holds) :
    Takes holds Capture.askStatus 4 fun status taken =>
      taken.length = 4 ∧ ∃ flag, taken.head? = some flag ∧ status.done = decide (flag ≠ 0) := by
  refine (((compositional_takes conveys).send _).bind fun _ =>
    (takes_readByte conveys).bind fun _ => (takes_readWord conveys).bind fun _ =>
      (takes_awaitAcknowledgement conveys).bind fun _ => takes_pure _).mono ?_
  intro status taken means
  rcases means with ⟨_, _, _, rfl, rfl, flag, _, _, rfl, rfl, _, word, _, rfl, two, _, last, _, rfl,
    one, rfl, rfl⟩
  refine ⟨?_, flag, rfl, rfl⟩
  simp [two, one]

end Exchange

namespace Capture

variable {σ : Type} [Link σ] {holds : List UInt8 → σ → Prop}

theorem taken_of_readSamples (conveys : Conveys holds) (calibration : Calibration Float)
    (abortable : Bool) (count : Nat) (samples : List Float) {left rest : List UInt8} {host : Host σ}
    (holding : holds (left ++ rest) host.link) (enough : 2 * count ≤ left.length) :
    ∃ taken ≤ 2 * count, holds (left.drop taken ++ rest)
      (readSamples calibration abortable count samples host).2.link := by
  induction count generalizing samples left host with
  | zero => exact ⟨0, Nat.le_refl _, holding⟩
  | succ count induction =>
      rw [readSamples]
      split
      · exact ⟨0, Nat.zero_le _, holding⟩
      · rcases heard : Exchange.readWord.apply host with ⟨result, middle⟩
        rcases (Exchange.takes_readWord conveys).within holding (by omega) heard with
          ⟨taken, bound, holding, -⟩
        have few : taken ≤ 2 * (count + 1) := by omega
        rcases result with _ | code
        · split
          case h_1 failed => cases failed
          case h_2 failed => cases failed; exact ⟨taken, few, holding⟩
          case h_3 failed => cases failed; exact ⟨taken, few, holding⟩
        · rcases induction (calibration.scale code :: samples) holding
            (by rw [List.length_drop]; omega) with ⟨more, further, holding⟩
          rw [List.drop_drop] at holding
          exact ⟨taken + more, by omega, holding⟩

end Capture

end BenchScope
