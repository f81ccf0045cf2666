import BenchScope.Text.Blank
import Mathlib.Data.List.Induction

namespace BenchScope

/-! Numbers in decimal digits. Zeros in front make no difference, and beside them there is one way
to write a number. -/

theorem isBlank_eq_false_of_isDigit {character : Char} (digit : character.isDigit = true) :
    isBlank character = false := by
  have range := Char.isDigit_iff_toNat.mp digit
  have least : '0'.toNat = 48 := rfl
  have most : '9'.toNat = 57 := rfl
  simp only [isBlank, inRanges, blankRanges, List.any_cons, List.any_nil, Bool.or_false,
    Bool.or_eq_false_iff, decide_eq_false_iff_not]
  omega

private theorem digitChar_of_isDigit {character : Char} (digit : character.isDigit = true) :
    ∃ value < 10, character = Nat.digitChar value := by
  have range := Char.isDigit_iff_toNat.mp digit
  have least : '0'.toNat = 48 := rfl
  have most : '9'.toNat = 57 := rfl
  refine ⟨character.toNat - 48, by omega, Char.toNat_inj.mp ?_⟩
  rw [Nat.toNat_digitChar_of_lt_ten (by omega)]
  omega

structure Numeral (digits : List Char) (value : Nat) : Prop where
  nonempty : digits ≠ []
  digit : ∀ character ∈ digits, character.isDigit = true
  value : Nat.ofDigitChars 10 digits 0 = value

theorem numeral_toDigits (zeros value : Nat) :
    Numeral (List.replicate zeros '0' ++ Nat.toDigits 10 value) value where
  nonempty := by simp [Nat.toDigits_ne_nil]
  digit character member := by
    rcases List.mem_append.mp member with zero | digit
    · rw [List.eq_of_mem_replicate zero]
      rfl
    · exact Nat.isDigit_of_mem_toDigits (by decide) (by decide) digit
  value := by
    rw [Nat.ofDigitChars_append, Nat.ofDigitChars_replicate_zero, Nat.mul_zero,
      Nat.ofDigitChars_ten_toDigits]

private theorem zeros_or_toDigits (digits : List Char)
    (digit : ∀ character ∈ digits, character.isDigit = true) :
    (Nat.ofDigitChars 10 digits 0 = 0 ∧ digits = List.replicate digits.length '0') ∨
      (0 < Nat.ofDigitChars 10 digits 0 ∧ ∃ zeros, digits =
        List.replicate zeros '0' ++ Nat.toDigits 10 (Nat.ofDigitChars 10 digits 0)) := by
  induction digits using List.reverseRecOn with
  | nil => exact .inl ⟨rfl, rfl⟩
  | append_singleton front last induction =>
      rcases digitChar_of_isDigit (digit last (by simp)) with ⟨unit, small, rfl⟩
      have value : Nat.ofDigitChars 10 (front ++ [Nat.digitChar unit]) 0 =
          10 * Nat.ofDigitChars 10 front 0 + unit := by
        rw [Nat.ofDigitChars_append, Nat.ofDigitChars_cons_digitChar_of_lt_ten small,
          Nat.ofDigitChars_nil]
      rw [value]
      rcases induction fun character member => digit character (by simp [member]) with
        ⟨nothing, zeros⟩ | ⟨positive, zeros, printed⟩
      · rw [nothing, Nat.mul_zero, Nat.zero_add]
        rcases Nat.eq_zero_or_pos unit with rfl | positive
        · refine .inl ⟨rfl, ?_⟩
          rw [zeros, List.length_append, List.length_replicate]
          exact List.replicate_succ'.symm
        · refine .inr ⟨positive, front.length, ?_⟩
          rw [Nat.toDigits_of_lt_base small, ← zeros]
      · refine .inr ⟨by omega, zeros, ?_⟩
        rw [← Nat.toDigits_append_toDigits (by decide) positive small,
          Nat.toDigits_of_lt_base small, ← List.append_assoc, ← printed]

theorem Numeral.eq_toDigits {digits : List Char} {value : Nat} (numeral : Numeral digits value)
    (positive : value ≠ 0) :
    ∃ zeros, digits = List.replicate zeros '0' ++ Nat.toDigits 10 value := by
  rcases zeros_or_toDigits digits numeral.digit with ⟨nothing, -⟩ | ⟨-, printed⟩
  · exact absurd (numeral.value.symm.trans nothing) positive
  · rwa [numeral.value] at printed

end BenchScope
