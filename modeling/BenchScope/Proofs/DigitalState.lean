import BenchScope.DigitalState
import BenchScope.Proofs.Selection

namespace BenchScope

/-! The byte that sets digital outputs, bit by bit. Its bits belong to one output each, so that it
does not matter in which order or how often an output is listed. -/

/-- Each listed output has its bit in the upper half of the byte, and the outputs that are listed
high have one in the lower half. -/
structure Sets (byte : UInt8) (levels : List (Channel × Bool)) : Prop where
  listed : ∀ output : Output, byte.toNat.testBit (4 + output.index) = true ↔
    ∃ high, (.logic output, high) ∈ levels
  high : ∀ output : Output, byte.toNat.testBit output.index = true ↔
    (.logic output, true) ∈ levels

def AllOutputs (levels : List (Channel × Bool)) : Prop :=
  ∀ entry ∈ levels, ∃ output : Output, entry.1 = .logic output

def FirstInput (levels : List (Channel × Bool)) (input : Input) : Prop :=
  ∃ before high after, levels = before ++ (.analog input, high) :: after ∧ AllOutputs before

private theorem testBit_levelBits_upper (output other : Output) (high : Bool) :
    (levelBits output high).toNat.testBit (4 + other.index) = decide (output = other) := by
  cases output <;> cases other <;> cases high <;> rfl

private theorem testBit_levelBits_lower (output other : Output) (high : Bool) :
    (levelBits output high).toNat.testBit other.index = (high && decide (output = other)) := by
  cases output <;> cases other <;> cases high <;> rfl

private theorem exists_output_of_lt {place : Nat} (inside : place < 8) :
    ∃ output : Output, place = output.index ∨ place = 4 + output.index := by
  have each : ∀ bit : Fin 8, ∃ output ∈ Output.all,
      bit.val = output.index ∨ bit.val = 4 + output.index := by decide
  rcases each ⟨place, inside⟩ with ⟨output, -, found⟩
  exact ⟨output, found⟩

namespace Sets

theorem nil : Sets 0 [] where
  listed output := by simp
  high output := by simp

theorem cons {byte : UInt8} {levels : List (Channel × Bool)} (sets : Sets byte levels)
    (output : Output) (high : Bool) :
    Sets (levelBits output high ||| byte) ((.logic output, high) :: levels) where
  listed other := by
    rw [UInt8.toNat_or, Nat.testBit_or, testBit_levelBits_upper, Bool.or_eq_true, sets.listed]
    simp only [decide_eq_true_eq, List.mem_cons, Prod.mk.injEq, Channel.logic.injEq, exists_or]
    exact or_congr ⟨fun same => ⟨high, same.symm, rfl⟩, fun ⟨_, same, _⟩ => same.symm⟩ Iff.rfl
  high other := by
    rw [UInt8.toNat_or, Nat.testBit_or, testBit_levelBits_lower, Bool.or_eq_true, sets.high]
    simp only [Bool.and_eq_true, decide_eq_true_eq, List.mem_cons, Prod.mk.injEq,
      Channel.logic.injEq]
    exact or_congr ⟨fun ⟨up, same⟩ => ⟨same.symm, up.symm⟩, fun ⟨same, up⟩ => ⟨up.symm, same.symm⟩⟩
      Iff.rfl

theorem unique {left right : UInt8} {levels others : List (Channel × Bool)}
    (setsLeft : Sets left levels) (setsRight : Sets right others)
    (same : ∀ entry, entry ∈ levels ↔ entry ∈ others) : left = right := by
  apply UInt8.toNat_inj.mp
  apply Nat.eq_of_testBit_eq
  intro place
  by_cases inside : place < 8
  · rw [Bool.eq_iff_iff]
    rcases exists_output_of_lt inside with ⟨output, rfl | rfl⟩
    · rw [setsLeft.high, setsRight.high, same]
    · simp only [setsLeft.listed, setsRight.listed, same]
  · have beyond (byte : UInt8) : byte.toNat.testBit place = false :=
      Nat.testBit_lt_two_pow (Nat.lt_of_lt_of_le byte.toNat_lt
        (Nat.pow_le_pow_right (by decide) (Nat.le_of_not_lt inside)))
    rw [beyond, beyond]

end Sets

theorem composeState_cons (output : Output) (high : Bool) (levels : List (Channel × Bool)) :
    composeState ((.logic output, high) :: levels) =
      (composeState levels).map (levelBits output high ||| ·) := by
  rw [composeState]
  cases composeState levels <;> rfl

theorem composeState_of_allOutputs {levels : List (Channel × Bool)} (outputs : AllOutputs levels) :
    ∃ byte, composeState levels = .ok byte ∧ Sets byte levels := by
  induction levels with
  | nil => exact ⟨0, rfl, .nil⟩
  | cons entry levels induction =>
      rcases entry with ⟨channel, high⟩
      rcases outputs _ (List.mem_cons_self ..) with ⟨output, rfl⟩
      rcases induction fun entry member => outputs entry (List.mem_cons_of_mem _ member) with
        ⟨byte, composed, sets⟩
      refine ⟨levelBits output high ||| byte, ?_, sets.cons output high⟩
      rw [composeState_cons, composed]
      rfl

theorem composeState_of_firstInput {levels : List (Channel × Bool)} {input : Input}
    (first : FirstInput levels input) : composeState levels = .error (.notLogic input) := by
  rcases first with ⟨before, high, after, rfl, outputs⟩
  induction before with
  | nil => rfl
  | cons entry before induction =>
      rcases entry with ⟨channel, level⟩
      rcases outputs _ (List.mem_cons_self ..) with ⟨output, rfl⟩
      rw [List.cons_append, composeState_cons,
        induction fun entry member => outputs entry (List.mem_cons_of_mem _ member)]
      rfl

theorem allOutputs_or_firstInput (levels : List (Channel × Bool)) :
    AllOutputs levels ∨ ∃ input, FirstInput levels input := by
  induction levels with
  | nil => exact .inl nofun
  | cons entry levels induction =>
      rcases entry with ⟨input | output, high⟩
      · exact .inr ⟨input, [], high, levels, rfl, nofun⟩
      · rcases induction with outputs | ⟨input, before, level, after, rfl, outputs⟩
        · exact .inl (List.forall_mem_cons.mpr ⟨⟨output, rfl⟩, outputs⟩)
        · exact .inr ⟨input, (.logic output, high) :: before, level, after, rfl,
            List.forall_mem_cons.mpr ⟨⟨output, rfl⟩, outputs⟩⟩

theorem composeState_eq_ok_iff {levels : List (Channel × Bool)} {byte : UInt8} :
    composeState levels = .ok byte ↔ AllOutputs levels ∧ Sets byte levels := by
  rcases allOutputs_or_firstInput levels with outputs | ⟨input, first⟩
  · rcases composeState_of_allOutputs outputs with ⟨other, composed, sets⟩
    rw [composed, Except.ok.injEq]
    constructor
    · rintro rfl
      exact ⟨outputs, sets⟩
    · exact fun described => sets.unique described.2 fun _ => Iff.rfl
  · rw [composeState_of_firstInput first]
    refine ⟨nofun, fun described => ?_⟩
    rcases composeState_of_allOutputs described.1 with ⟨other, composed, -⟩
    rw [composeState_of_firstInput first] at composed
    cases composed

theorem composeState_eq_error_iff {levels : List (Channel × Bool)} {error : Channel.Error} :
    composeState levels = .error error ↔
      ∃ input, FirstInput levels input ∧ error = .notLogic input := by
  constructor
  · intro refused
    rcases allOutputs_or_firstInput levels with outputs | ⟨input, first⟩
    · rcases composeState_of_allOutputs outputs with ⟨byte, composed, -⟩
      rw [composed] at refused
      cases refused
    · rw [composeState_of_firstInput first] at refused
      cases refused
      exact ⟨input, first, rfl⟩
  · rintro ⟨input, first, rfl⟩
    exact composeState_of_firstInput first

private theorem composeState_of_mem_iff {left right : List (Channel × Bool)} {byte : UInt8}
    (same : ∀ entry, entry ∈ left ↔ entry ∈ right) (composed : composeState left = .ok byte) :
    composeState right = .ok byte := by
  rcases composeState_eq_ok_iff.mp composed with ⟨outputs, sets⟩
  have stillOutputs : AllOutputs right :=
    fun entry member => outputs entry ((same entry).mpr member)
  rcases composeState_of_allOutputs stillOutputs with ⟨other, recomposed, setsOther⟩
  rw [recomposed, sets.unique setsOther same]

theorem composeState_append (left right : List (Channel × Bool)) :
    composeState (left ++ right) = do
      let first ← composeState left
      let second ← composeState right
      return first ||| second := by
  induction left with
  | nil =>
      rw [List.nil_append]
      cases composeState right with
      | error error => rfl
      | ok byte => exact congrArg Except.ok UInt8.zero_or.symm
  | cons entry left induction =>
      rcases entry with ⟨input | output, high⟩
      · rfl
      · rw [List.cons_append, composeState_cons, composeState_cons, induction]
        rcases composeState left with error | first
        · rfl
        · rcases composeState right with error | second
          · rfl
          · exact congrArg Except.ok (UInt8.or_assoc ..).symm

structure Composed (levels : List (Channel × Bool)) (result : Except Channel.Error UInt8) :
    Prop where
  succeeds_iff : (∃ byte, result = .ok byte ∧ Sets byte levels) ↔ AllOutputs levels
  fails_iff : ∀ error, result = .error error ↔
    ∃ input, FirstInput levels input ∧ error = .notLogic input
  rearranged : ∀ others byte, (∀ entry, entry ∈ levels ↔ entry ∈ others) → result = .ok byte →
    composeState others = .ok byte
  append : ∀ others, composeState (levels ++ others) = do
    let first ← result
    let second ← composeState others
    return first ||| second

theorem composed_composeState (levels : List (Channel × Bool)) :
    Composed levels (composeState levels) where
  succeeds_iff := by
    refine ⟨fun ⟨byte, composed, _⟩ => (composeState_eq_ok_iff.mp composed).1, fun outputs => ?_⟩
    exact composeState_of_allOutputs outputs
  fails_iff _ := composeState_eq_error_iff
  rearranged _ _ same := composeState_of_mem_iff same
  append := composeState_append levels

end BenchScope
