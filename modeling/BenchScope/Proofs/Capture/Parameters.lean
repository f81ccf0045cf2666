import Mathlib.Data.List.Nodup
import BenchScope.Capture.Parameters
import BenchScope.Proofs.Selection

namespace BenchScope

/-! What parameters are known to be once they have been accepted. -/

namespace Parameters

variable {α : Type}

theorem checkChannels_eq_ok_iff (before channels : List Channel) :
    (checkChannels before channels : Except (ParameterError α) Unit) = .ok () ↔
      ∃ inputs : List Input, channels = inputs.map .analog ∧ inputs.Nodup ∧
        ∀ input ∈ inputs, .analog input ∉ before := by
  induction channels generalizing before with
  | nil => simp [checkChannels]
  | cons channel rest induction =>
      cases channel with
      | logic output =>
          constructor
          · intro checked
            simp [checkChannels] at checked
          · intro found
            rcases found with ⟨inputs, equal, -⟩
            cases inputs <;> simp at equal
      | analog input =>
          rw [checkChannels]
          constructor
          · intro checked
            split at checked
            case isTrue => simp at checked
            case isFalse fresh =>
              rcases (induction _).mp checked with ⟨inputs, equal, distinct, apart⟩
              refine ⟨input :: inputs, by simp [equal], List.nodup_cons.mpr ⟨?_, distinct⟩, ?_⟩
              · intro member
                exact apart input member (List.mem_cons_self ..)
              · intro other member
                rcases List.mem_cons.mp member with rfl | member
                · exact fresh
                · exact fun repeated => apart other member (List.mem_cons_of_mem _ repeated)
          · intro found
            rcases found with ⟨inputs, equal, distinct, apart⟩
            cases inputs with
            | nil => simp at equal
            | cons first inputs =>
                rcases by simpa using equal with ⟨rfl, rfl⟩
                rcases List.nodup_cons.mp distinct with ⟨fresh, distinct⟩
                rw [if_neg (apart input (List.mem_cons_self ..)), induction]
                refine ⟨inputs, rfl, distinct, fun other member repeated => ?_⟩
                rcases List.mem_cons.mp repeated with equal | repeated
                · injection equal with same
                  exact fresh (same ▸ member)
                · exact apart other (List.mem_cons_of_mem _ member) repeated

/-- What the check makes sure of, as far as a capture relies on it. -/
structure Accepted [Scalar α] (parameters : Parameters α) (panel : Panel) (sampling : Sampling) :
    Prop where
  mode : Mode.ofCount? parameters.channels.length = some sampling.mode
  inputs : ∃ inputs : List Input, parameters.channels = inputs.map .analog ∧ inputs.Nodup
  trigger : ∀ trigger, parameters.trigger = some trigger → ∃ first rest fields,
    parameters.channels = first :: rest ∧ trigger.fields panel first = .ok fields

private theorem fields_of_checkTrigger [Scalar α] {parameters : Parameters α} {panel : Panel}
    (checked : parameters.checkTrigger panel = .ok ()) (trigger : Trigger α)
    (wanted : parameters.trigger = some trigger) : ∃ first rest fields,
      parameters.channels = first :: rest ∧ trigger.fields panel first = .ok fields := by
  rw [checkTrigger, wanted] at checked
  cases channels : parameters.channels with
  | nil => simp [channels] at checked
  | cons first rest =>
      simp only [channels] at checked
      split at checked
      case isFalse => simp at checked
      case isTrue =>
        cases encoded : trigger.fields panel first with
        | error error => simp [encoded, bind, Except.bind] at checked
        | ok fields => exact ⟨first, rest, fields, rfl, encoded⟩

theorem sampling_eq_ok_iff [Scalar α] (parameters : Parameters α) (limits : Limits)
    (sampling : Sampling) :
    parameters.sampling limits = .ok sampling ↔
      Mode.ofCount? parameters.channels.length = some sampling.mode ∧
      checkChannels (α := α) [] parameters.channels = .ok () ∧
      parameters.checkSampleCount limits = .ok () ∧
      parameters.checkRate limits sampling.mode = .ok () ∧
      interval parameters.rate = .ok sampling.interval := by
  rw [Parameters.sampling]
  cases Mode.ofCount? parameters.channels.length with
  | none => simp [throw, throwThe, MonadExceptOf.throw]
  | some mode =>
      simp only [except_bind_eq_ok_iff, pure, Except.pure, Except.ok.injEq, Option.some.injEq]
      constructor
      · intro found
        rcases found with ⟨_, channels, _, count, _, rate, interval, timed, rfl⟩
        exact ⟨rfl, channels, count, rate, timed⟩
      · intro found
        rcases found with ⟨rfl, channels, count, rate, timed⟩
        exact ⟨(), channels, (), count, (), rate, sampling.interval, timed, rfl⟩

theorem validate_eq_ok_iff [Scalar α] (parameters : Parameters α) (panel : Panel)
    (limits : Limits) (sampling : Sampling) :
    parameters.validate panel limits = .ok sampling ↔
      parameters.sampling limits = .ok sampling ∧ parameters.checkTrigger panel = .ok () := by
  rw [validate]
  cases parameters.sampling limits with
  | error error => simp
  | ok chosen =>
      cases parameters.checkTrigger panel with
      | error error => simp
      | ok _ => simp

theorem validate_eq_error_iff [Scalar α] (parameters : Parameters α) (panel : Panel)
    (limits : Limits) (error : CaptureError α) :
    parameters.validate panel limits = .error error ↔
      (∃ reason, error = .parameters reason ∧ parameters.sampling limits = .error reason) ∨
      ∃ reason sampling, error = .trigger reason ∧ parameters.sampling limits = .ok sampling ∧
        parameters.checkTrigger panel = .error reason := by
  rw [validate]
  cases parameters.sampling limits with
  | error reason => simp [eq_comm]
  | ok sampling =>
      cases parameters.checkTrigger panel with
      | error reason => simp [eq_comm]
      | ok _ => simp

theorem accepted_of_validate [Scalar α] {parameters : Parameters α} {panel : Panel}
    {limits : Limits} {sampling : Sampling}
    (valid : parameters.validate panel limits = .ok sampling) :
    parameters.Accepted panel sampling := by
  rcases (parameters.validate_eq_ok_iff panel limits sampling).mp valid with ⟨sampled, checked⟩
  rcases (parameters.sampling_eq_ok_iff limits sampling).mp sampled with ⟨mode, channels, -⟩
  rcases (checkChannels_eq_ok_iff [] _).mp channels with ⟨inputs, equal, distinct, -⟩
  exact ⟨mode, ⟨inputs, equal, distinct⟩, fields_of_checkTrigger checked⟩

private theorem count_le_maxChannels {count : Nat} {mode : Mode}
    (chosen : Mode.ofCount? count = some mode) : count ≤ maxChannels := by
  revert chosen
  fun_cases Mode.ofCount? count <;> simp [maxChannels]

theorem total_le_capacity_of_validate [Scalar α] {parameters : Parameters α} {panel : Panel}
    {limits : Limits} {sampling : Sampling}
    (valid : parameters.validate panel limits = .ok sampling) :
    parameters.channels.length * parameters.sampleCount.toNat ≤ limits.capacity.toNat := by
  have accepted := accepted_of_validate valid
  have few := count_le_maxChannels accepted.mode
  rcases (parameters.validate_eq_ok_iff panel limits sampling).mp valid with ⟨sampled, -⟩
  rcases (parameters.sampling_eq_ok_iff limits sampling).mp sampled with ⟨-, -, counted, -⟩
  rw [checkSampleCount] at counted
  split at counted
  case isTrue => simp at counted
  case isFalse within =>
    have enough := Nat.le_of_not_lt (not_or.mp within).2
    have count : (UInt32.ofNat (max parameters.channels.length 1)).toNat =
        max parameters.channels.length 1 := by
      rw [UInt32.toNat_ofNat']
      rw [maxChannels] at few
      omega
    rw [Limits.maxSampleCount, UInt32.toNat_div, count] at enough
    calc parameters.channels.length * parameters.sampleCount.toNat
      _ ≤ max parameters.channels.length 1 *
          (limits.capacity.toNat / max parameters.channels.length 1) :=
        Nat.mul_le_mul (Nat.le_max_left ..) enough
      _ ≤ limits.capacity.toNat := Nat.mul_div_le ..

namespace Accepted

variable [Scalar α] {parameters : Parameters α} {panel : Panel} {sampling : Sampling}

theorem count_pos (accepted : parameters.Accepted panel sampling) :
    0 < parameters.channels.length := by
  rcases Nat.eq_zero_or_pos parameters.channels.length with nothing | positive
  · have mode := accepted.mode
    rw [nothing] at mode
    simp [Mode.ofCount?] at mode
  · exact positive

theorem channels_nodup (accepted : parameters.Accepted panel sampling) :
    parameters.channels.Nodup := by
  rcases accepted.inputs with ⟨inputs, equal, distinct⟩
  rw [equal]
  exact distinct.map fun _ _ equal => Channel.analog.inj equal

theorem analog_getElem (accepted : parameters.Accepted panel sampling) {index : Nat}
    (bound : index < parameters.channels.length) :
    ∃ input, parameters.channels[index]? = some (.analog input) := by
  rcases accepted.inputs with ⟨inputs, equal, -⟩
  rw [equal] at bound ⊢
  rw [List.length_map] at bound
  exact ⟨inputs[index], by simp [bound]⟩

end Accepted

end Parameters

end BenchScope
