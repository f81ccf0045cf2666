import BenchScope.Text.Utf8
import Mathlib.Algebra.Group.Nat.Defs

namespace BenchScope.Utf8

/-! Characters that are a byte by themselves. They are read where their byte stands between other
characters, and no damaged or longer sequence of bytes is read as one of them. -/

/-- One byte long. NUL is left aside, as it also stands for numbers that no character has. -/
def IsPlain (character : Char) : Prop := 0 < character.toNat ∧ character.toNat < 0x80

instance (character : Char) : Decidable (IsPlain character) := instDecidableAnd

def byteOf (character : Char) : UInt8 := UInt8.ofNat character.toNat

private theorem toNat_ofNat_of_pos {number : Nat} (positive : 0 < (Char.ofNat number).toNat) :
    (Char.ofNat number).toNat = number := by
  by_cases valid : number.isValidChar
  · rw [Char.ofNat, dif_pos valid]
    rfl
  · rw [Char.ofNat, dif_neg valid] at positive
    cases positive

theorem IsPlain.lt_of_ofNat {number : Nat} (plain : IsPlain (Char.ofNat number)) :
    number < 0x80 := by
  have small := plain.2
  rwa [toNat_ofNat_of_pos plain.1] at small

theorem not_isPlain_replacement : ¬ IsPlain replacement := by decide

private theorem IsPlain.byteOf_lt {character : Char} (plain : IsPlain character) :
    byteOf character < 0x80 := by
  rw [UInt8.lt_iff_toNat_lt, byteOf, UInt8.toNat_ofNat']
  exact Nat.lt_of_le_of_lt (Nat.mod_le _ _) plain.2

private theorem IsPlain.ofNat_toNat_byteOf {character : Char} (plain : IsPlain character) :
    Char.ofNat (byteOf character).toNat = character := by
  have small := plain.2
  rw [byteOf, UInt8.toNat_ofNat', Nat.mod_eq_of_lt (by omega), Char.ofNat_toNat]

private theorem IsPlain.eq_byteOf {byte : UInt8} (plain : IsPlain (Char.ofNat byte.toNat)) :
    byteOf (Char.ofNat byte.toNat) = byte := by
  rw [byteOf, toNat_ofNat_of_pos plain.1, UInt8.ofNat_toNat]

theorem decode_cons_of_lt {byte : UInt8} (low : byte < 0x80) (rest : List UInt8) :
    decode (byte :: rest) = Char.ofNat byte.toNat :: decode rest := by
  rw [decode, decodeFrom, advance, start, if_pos low]
  rfl

def Pending.least (pending : Pending) : Nat :=
  (pending.bits * 64 + (pending.low.toNat - 0x80)) * 64 ^ pending.owed

/-- The number of a character of more than one byte. The lowest ones have a second byte that is
restricted. -/
private theorem least_three {byte : UInt8} (above : 0xE0 ≤ byte.toNat) :
    0x80 ≤ Pending.least ⟨1, byte.toNat - 0xE0, if byte = 0xE0 then 0xA0 else 0x80,
      if byte = 0xED then 0x9F else 0xBF⟩ := by
  by_cases first : byte = 0xE0
  · subst first
    decide
  · have beyond : byte.toNat ≠ 0xE0 := fun same => first (UInt8.toNat_inj.mp same)
    simp only [Pending.least, if_neg first]
    omega

private theorem least_four {byte : UInt8} (above : 0xF0 ≤ byte.toNat) :
    0x80 ≤ Pending.least ⟨2, byte.toNat - 0xF0, if byte = 0xF0 then 0x90 else 0x80,
      if byte = 0xF4 then 0x8F else 0xBF⟩ := by
  by_cases first : byte = 0xF0
  · subst first
    decide
  · have beyond : byte.toNat ≠ 0xF0 := fun same => first (UInt8.toNat_inj.mp same)
    simp only [Pending.least, if_neg first]
    omega

private theorem start_of_high {byte : UInt8} (high : ¬ byte < 0x80) :
    (start byte).1 = [replacement] ∨
      ∃ pending, start byte = ([], some pending) ∧ 0x80 ≤ pending.least := by
  have atLeast {bound : UInt8} (not : ¬ byte < bound) : bound.toNat ≤ byte.toNat :=
    UInt8.le_iff_toNat_le.mp (UInt8.not_lt.mp not)
  rw [start, if_neg high]
  split
  case isTrue => exact .inl rfl
  case isFalse two =>
    split
    case isTrue =>
      have above : 0xC2 ≤ byte.toNat := atLeast two
      refine .inr ⟨_, rfl, ?_⟩
      simp only [Pending.least]
      omega
    case isFalse three =>
      split
      case isTrue => exact .inr ⟨_, rfl, least_three (atLeast three)⟩
      case isFalse four =>
        split
        case isTrue => exact .inr ⟨_, rfl, least_four (atLeast four)⟩
        case isFalse => exact .inl rfl

private theorem Pending.least_le {pending : Pending} {byte : UInt8}
    (accepted : pending.accepts byte) :
    pending.least ≤ pending.withByte byte * 64 ^ pending.owed := by
  have above : pending.low ≤ byte := (of_decide_eq_true accepted).1
  rw [UInt8.le_iff_toNat_le] at above
  exact Nat.mul_le_mul_right _ (Nat.add_le_add_left (Nat.sub_le_sub_right above _) _)

private theorem not_isPlain_of_begun (bytes : List UInt8) {pending : Pending}
    (large : 0x80 ≤ pending.least) {character : Char}
    (finished : (decodeFrom (some pending) bytes).head? = some character) :
    ¬ IsPlain character := by
  induction bytes generalizing pending with
  | nil =>
      cases finished
      exact not_isPlain_replacement
  | cons byte bytes induction =>
      rw [decodeFrom, advance] at finished
      split at finished
      case isFalse =>
        cases finished
        exact not_isPlain_replacement
      case isTrue accepted =>
        have grown := Nat.le_trans large (Pending.least_le accepted)
        split at finished
        case h_1 complete =>
          rw [← Option.some.inj finished]
          rw [complete, Nat.pow_zero, Nat.mul_one] at grown
          exact fun plain => absurd plain.lt_of_ofNat (Nat.not_lt_of_le grown)
        case h_2 owed incomplete =>
          refine induction ?_ finished
          rw [incomplete, Nat.pow_succ'] at grown
          simpa [Pending.least, Nat.mul_assoc] using grown

private theorem not_isPlain_of_high {byte : UInt8} (high : ¬ byte < 0x80) {bytes : List UInt8}
    {character : Char} (first : (decode (byte :: bytes)).head? = some character) :
    ¬ IsPlain character := by
  rw [decode, decodeFrom, advance] at first
  rcases start_of_high high with damaged | ⟨pending, begun, large⟩
  · rw [damaged] at first
    cases first
    exact not_isPlain_replacement
  · rw [begun] at first
    exact not_isPlain_of_begun bytes large first

/-- A plain word is at the beginning of a text exactly when its bytes are at the beginning of those
of the text, whatever bytes come after them. -/
theorem prefix_decode_iff {word : List Char} (plain : ∀ character ∈ word, IsPlain character)
    (bytes : List UInt8) : word <+: decode bytes ↔ word.map byteOf <+: bytes := by
  induction word generalizing bytes with
  | nil => simp
  | cons character word induction =>
      rw [List.forall_mem_cons] at plain
      rcases plain with ⟨plain, others⟩
      cases bytes with
      | nil => simp [decode, decodeFrom]
      | cons byte bytes =>
          rw [List.map_cons, List.cons_prefix_cons, ← induction others]
          by_cases low : byte < 0x80
          · rw [decode_cons_of_lt low, List.cons_prefix_cons]
            refine and_congr_left' ⟨?_, ?_⟩
            · rintro rfl
              exact plain.eq_byteOf
            · rintro rfl
              exact plain.ofNat_toNat_byteOf.symm
          · constructor
            · rintro ⟨rest, split⟩
              exact absurd plain (not_isPlain_of_high low (by rw [← split]; rfl))
            · rintro ⟨rfl, -⟩
              exact absurd plain.byteOf_lt low

end BenchScope.Utf8
