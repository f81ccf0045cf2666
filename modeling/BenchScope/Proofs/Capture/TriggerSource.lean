import Mathlib.Tactic.IntervalCases
import BenchScope.Proofs.Capture.Parameters

namespace BenchScope

/-! Which channel a trigger is on, by the byte that the device is told. The lowest bit of a source
stands for the first channel of the capture, and each of the others for the input with its index. By
its index the lowest bit is also that of the first input of the instrument, so that the two rules
meet when this input is captured behind another channel. -/

namespace Trigger

def watched (source : UInt8) (first : Channel) : Option Channel :=
  let bits := source.toNat % 16
  if bits = 1 then some first
  else (Input.all.find? fun input => bits = 2 ^ input.index.val).map .analog

def sourceByte (prescaler : UInt8) (bit : Nat) : UInt8 :=
  (prescaler <<< 4) ||| (1 <<< UInt8.ofNat bit)

/-! A byte names one prescaler and one bit. -/

section

variable {prescaler otherPrescaler : UInt8} {bit otherBit : Nat}

private theorem toNat_sourceByte (narrow : prescaler ≤ 15) (few : bit < 4) :
    (sourceByte prescaler bit).toNat = 16 * prescaler.toNat + 2 ^ bit := by
  have bound : prescaler.toNat ≤ 15 := UInt8.le_iff_toNat_le.mp narrow
  have small : 2 ^ bit < 2 ^ 4 := Nat.pow_lt_pow_right Nat.one_lt_two few
  have single : (1 <<< UInt8.ofNat bit : UInt8).toNat = 2 ^ bit := by interval_cases bit <;> rfl
  have shifted : (prescaler <<< 4).toNat = 2 ^ 4 * prescaler.toNat := by
    have four : (4 : UInt8).toNat % 8 = 4 := rfl
    rw [UInt8.toNat_shiftLeft, four, Nat.shiftLeft_eq]
    omega
  rw [sourceByte, UInt8.toNat_or, single, shifted, ← Nat.two_pow_add_eq_or_of_lt small]

private theorem sourceByte_eq_iff (narrow : prescaler ≤ 15) (few : bit < 4)
    (otherNarrow : otherPrescaler ≤ 15) (otherFew : otherBit < 4) :
    sourceByte prescaler bit = sourceByte otherPrescaler otherBit ↔
      prescaler = otherPrescaler ∧ bit = otherBit := by
  constructor
  · intro same
    have numbers := congrArg UInt8.toNat same
    rw [toNat_sourceByte narrow few, toNat_sourceByte otherNarrow otherFew] at numbers
    rw [← UInt8.toNat_inj]
    interval_cases bit <;> interval_cases otherBit <;> omega
  · rintro ⟨rfl, rfl⟩
    rfl

private theorem watched_zero (narrow : prescaler ≤ 15) (first : Channel) :
    watched (sourceByte prescaler 0) first = some first := by
  simp [watched, toNat_sourceByte narrow]

private theorem watched_index (narrow : prescaler ≤ 15) {input : Input} (low : input.index.val < 4)
    (other : input ≠ .ch1) (first : Channel) :
    watched (sourceByte prescaler input.index) first = some (.analog input) := by
  rw [watched, toNat_sourceByte narrow low, Nat.mul_add_mod]
  cases input with
  | ch1 => exact absurd rfl other
  | ch2 | ch3 | mic => rfl
  | cap | res | vol | an4 => exact absurd low (by decide)

/-- The device watches the channel that is meant, unless the first input of the instrument is meant
and something else is captured first. -/
theorem watched_sourceBit_iff (narrow : prescaler ≤ 15) {input : Input} {first : Channel}
    (few : sourceBit input first < 4) :
    watched (sourceByte prescaler (sourceBit input first)) first = some (.analog input) ↔
      .analog input = first ∨ input ≠ .ch1 := by
  by_cases same : .analog input = first
  · rw [sourceBit, if_pos same, watched_zero narrow, same]
    simp
  · rw [sourceBit, if_neg same] at few ⊢
    by_cases lowest : input = .ch1
    · subst lowest
      have zero : watched (sourceByte prescaler (Input.index .ch1)) first = some first :=
        watched_zero narrow first
      simpa [zero, same] using Ne.symm same
    · simp [watched_index narrow few lowest, lowest]

end

theorem sourceBit_eq_iff (input other : Input) (first : Channel) :
    sourceBit input first = sourceBit other first ↔
      input = other ∨ (.analog input = first ∧ other = .ch1) ∨
        (input = .ch1 ∧ .analog other = first) := by
  have zero (input : Input) : input.index.val = 0 ↔ input = .ch1 := by
    cases input <;> decide
  have distinct : input.index.val = other.index.val ↔ input = other :=
    ⟨fun equal => Input.index_injective (Fin.ext equal), fun equal => equal ▸ rfl⟩
  rw [sourceBit, sourceBit]
  by_cases left : .analog input = first <;> by_cases right : .analog other = first
  · obtain rfl : input = other := Channel.analog.inj (left.trans right.symm)
    simp
  · have apart : input ≠ other := fun equal => right (equal ▸ left)
    rw [if_pos left, if_neg right, eq_comm, zero]
    simp [left, right, apart]
  · have apart : input ≠ other := fun equal => left (equal ▸ right)
    rw [if_neg left, if_pos right, zero]
    simp [left, right, apart]
  · simp [left, right, distinct]

section

variable {α : Type}

private theorem of_request {name : String} {volts : α} {prescaler : UInt8} {trigger : Trigger α}
    (requested : request name volts prescaler = .ok trigger) :
    (∃ input : Input, trigger.channel = .analog input) ∧ trigger.prescaler ≤ 15 := by
  rw [request] at requested
  split at requested
  case h_1 => cases requested
  case h_2 => cases requested
  case h_3 input _ =>
    split_ifs at requested with beyond wide
    cases requested
    exact ⟨⟨input, rfl⟩, UInt8.not_lt.mp wide⟩

variable [Scalar α]

private theorem source_of_fields {trigger : Trigger α} {panel : Panel} {first : Channel}
    {fields : Fields} {input : Input} (on : trigger.channel = .analog input)
    (encoded : trigger.fields panel first = .ok fields) :
    sourceBit input first < 4 ∧
      fields.source = sourceByte trigger.prescaler (sourceBit input first) := by
  simp only [Trigger.fields, on] at encoded
  split at encoded
  case isTrue few =>
    cases encoded
    exact ⟨few, rfl⟩
  case isFalse => cases encoded

structure Admitted (panel : Panel) (channels : List Channel) (trigger : Trigger α) : Prop where
  requested : ∃ name volts prescaler, request name volts prescaler = .ok trigger
  accepted : ∃ (parameters : Parameters α) (limits : Limits) (sampling : Sampling),
    parameters.channels = channels ∧ parameters.trigger = some trigger ∧
      parameters.validate panel limits = .ok sampling

variable {panel : Panel} {channels : List Channel} {trigger other : Trigger α}

theorem Admitted.encoded (admitted : Admitted panel channels trigger) :
    ∃ first rest fields input, channels = first :: rest ∧
      trigger.fields panel first = .ok fields ∧ trigger.channel = .analog input ∧
      trigger.prescaler ≤ 15 ∧ sourceBit input first < 4 ∧
      fields.source = sourceByte trigger.prescaler (sourceBit input first) := by
  rcases admitted.requested with ⟨name, volts, prescaler, requested⟩
  rcases of_request requested with ⟨⟨input, on⟩, narrow⟩
  rcases admitted.accepted with ⟨parameters, limits, sampling, rfl, wanted, valid⟩
  rcases (Parameters.accepted_of_validate valid).trigger trigger wanted with
    ⟨first, rest, fields, channels, encoded⟩
  exact ⟨first, rest, fields, input, channels, encoded, on, narrow, source_of_fields on encoded⟩

/-- The byte tells the triggers of a capture apart and names the channel of each, the first input of
the instrument excepted: behind another channel it has no bit of its own, and the device watches
that channel instead. -/
theorem source_meets (admitted : Admitted panel channels trigger)
    (otherAdmitted : Admitted panel channels other) :
    ∃ first rest fields otherFields, channels = first :: rest ∧
      trigger.fields panel first = .ok fields ∧ other.fields panel first = .ok otherFields ∧
      (fields.source = otherFields.source ↔ trigger.prescaler = other.prescaler ∧
        (trigger.channel = other.channel ∨
          (trigger.channel = first ∧ other.channel = .analog .ch1) ∨
          (trigger.channel = .analog .ch1 ∧ other.channel = first))) ∧
      (watched fields.source first = some trigger.channel ↔
        trigger.channel = first ∨ trigger.channel ≠ .analog .ch1) := by
  rcases admitted.encoded with ⟨first, rest, fields, input, rfl, encoded, on, narrow, few, source⟩
  rcases otherAdmitted.encoded with
    ⟨_, _, otherFields, otherInput, same, otherEncoded, otherOn, otherNarrow, otherFew, otherSource⟩
  cases same
  refine ⟨first, rest, fields, otherFields, rfl, encoded, otherEncoded, ?_, ?_⟩
  · rw [source, otherSource, sourceByte_eq_iff narrow few otherNarrow otherFew,
      sourceBit_eq_iff, on, otherOn]
    simp
  · rw [source, on, watched_sourceBit_iff narrow few]
    simp

end

/-! The first two inputs of the instrument, captured the other way round. -/

def swapped : List Channel := [.analog .ch2, .analog .ch1]

def atZero (input : Input) : Trigger Float where
  channel := .analog input
  volts := 0.0
  prescaler := 0

def swappedParameters (input : Input) : Parameters Float where
  channels := swapped
  sampleCount := 10
  rate := 100000.0
  trigger := some (atZero input)

private theorem admitted_first : Admitted {} swapped (atZero .ch1) :=
  ⟨⟨"CH1", 0.0, 0, rfl⟩, swappedParameters .ch1, {}, ⟨.two, 80⟩, rfl, rfl, by rfl⟩

private theorem admitted_second : Admitted {} swapped (atZero .ch2) :=
  ⟨⟨"CH2", 0.0, 0, rfl⟩, swappedParameters .ch2, {}, ⟨.two, 80⟩, rfl, rfl, by rfl⟩

theorem source_meets_swapped :
    Admitted {} swapped (atZero .ch2) ∧ Admitted {} swapped (atZero .ch1) ∧
      ∃ first rest fields otherFields, swapped = first :: rest ∧
        (atZero .ch2).fields {} first = .ok fields ∧
        (atZero .ch1).fields {} first = .ok otherFields ∧
        (fields.source = otherFields.source ↔ (atZero .ch2).prescaler = (atZero .ch1).prescaler ∧
          ((atZero .ch2).channel = (atZero .ch1).channel ∨
            ((atZero .ch2).channel = first ∧ (atZero .ch1).channel = .analog .ch1) ∨
            ((atZero .ch2).channel = .analog .ch1 ∧ (atZero .ch1).channel = first))) ∧
        (watched fields.source first = some (atZero .ch2).channel ↔
          (atZero .ch2).channel = first ∨ (atZero .ch2).channel ≠ .analog .ch1) :=
  ⟨admitted_second, admitted_first, source_meets admitted_second admitted_first⟩

/-- The device is told the same of both triggers, and watches the second input for either of
them. -/
theorem source_swapped :
    Admitted {} swapped (atZero .ch2) ∧ Admitted {} swapped (atZero .ch1) ∧
      ((atZero .ch2).fields {} (.analog .ch2)).toOption.map Fields.source = some 1 ∧
      ((atZero .ch1).fields {} (.analog .ch2)).toOption.map Fields.source = some 1 ∧
      (atZero .ch2).channel ≠ (atZero .ch1).channel ∧
      watched 1 (.analog .ch2) = some (.analog .ch2) :=
  ⟨admitted_second, admitted_first, by rfl, by rfl, by decide, by rfl⟩

end Trigger

end BenchScope
