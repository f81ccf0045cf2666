import Mathlib.Algebra.Order.Floor.Semifield
import Mathlib.Data.Nat.Cast.Order.Field
import Mathlib.Data.Rat.Floor
import Mathlib.Tactic.Linarith
import BenchScope.Proofs.Serial.Transfers

namespace BenchScope.Serial

/-! The time that a transfer is given, and the time that its bytes take on the wire. A transfer is
given the whole microseconds of the wire and a margin that is far longer than what is cut off. That
is enough as long as a 64-bit word has room for the bits times the microseconds of a second, and
never beyond that. Of a transfer in several parts, each part is given a margin of its own. -/

def seconds (nanoseconds : Nat) : Rat := nanoseconds / 1000000000

private theorem seconds_le_seconds {shorter longer : Nat} (ordered : shorter ≤ longer) :
    seconds shorter ≤ seconds longer :=
  div_le_div_of_nonneg_right (Nat.cast_le.mpr ordered) (by norm_num)

namespace Settings

variable (settings : Settings)

def frameBits : Nat :=
  1 + settings.dataBits.count + (if settings.parity ≠ .none then 1 else 0) + settings.stopBits.count

def exactTime (count : Nat) : Rat := settings.frameBits * count / settings.baudRate.toNat

def unitTime (count : Nat) : Nat := settings.frameBits * count * 1000000

/-- A word has room for the microseconds at one bit a second. -/
def Fits (count : Nat) : Prop := settings.unitTime count < 2 ^ 64

instance (count : Nat) : Decidable (settings.Fits count) :=
  inferInstanceAs (Decidable (settings.unitTime count < 2 ^ 64))

/-- What a transfer is given beyond the margin is what it takes on the wire, less a part of a
microsecond. -/
structure Close (count : Nat) : Prop where
  notAbove : seconds (settings.timeout count) - 1 / 100 ≤ settings.exactTime count
  within : settings.exactTime count - 1 / 1000000 < seconds (settings.timeout count) - 1 / 100

structure Ample : Prop where
  close : ∀ count, settings.Fits count → settings.Close count
  enough : ∀ count, settings.Fits count →
    settings.exactTime count ≤ seconds (settings.timeout count)
  monotone : ∀ fewer more, fewer ≤ more → settings.Fits more →
    settings.timeout fewer ≤ settings.timeout more
  antitone : ∀ faster, settings.baudRate ≤ faster → ∀ count, settings.Fits count →
    ({ settings with baudRate := faster } : Settings).timeout count ≤ settings.timeout count
  joined : ∀ first second, settings.Fits (first + second) →
    settings.timeout (first + second) ≤ settings.timeout first + settings.timeout second
  /-- The whole in one transfer is not given more than its parts in a transfer each. -/
  inParts : ∀ counts, counts ≠ [] → settings.Fits counts.sum →
    settings.timeout counts.sum ≤ (counts.map settings.timeout).sum

private theorem bitsPerByte_eq : settings.bitsPerByte = settings.frameBits := by
  rw [bitsPerByte, frameBits]
  cases settings.parity <;> rfl

/-! The computation in words. -/

private theorem toNat_wireTime (count : Nat) :
    (settings.wireTime count).toNat =
      settings.unitTime count % 2 ^ 64 / settings.baudRate.toNat := by
  rw [wireTime, UInt64.toNat_div, UInt32.toNat_toUInt64, bitsPerByte_eq, unitTime]
  simp only [UInt64.toNat_mul, UInt64.toNat_ofNat', UInt64.reduceToNat, Nat.mod_mul_mod,
    Nat.mul_mod_mod]

private theorem seconds_timeout (count : Nat) :
    seconds (settings.timeout count) = (settings.wireTime count).toNat / 1000000 + 1 / 100 := by
  rw [seconds, timeout, timeoutMargin]
  push_cast
  ring

theorem exactTime_eq (count : Nat) :
    settings.exactTime count =
      (settings.unitTime count : Rat) / settings.baudRate.toNat / 1000000 := by
  rw [exactTime, unitTime]
  push_cast
  ring

variable {settings} {count fewer more first second : Nat}

private theorem unitTime_mono (ordered : fewer ≤ more) :
    settings.unitTime fewer ≤ settings.unitTime more :=
  Nat.mul_le_mul_right _ (Nat.mul_le_mul_left _ ordered)

private theorem unitTime_add (first second : Nat) :
    settings.unitTime (first + second) = settings.unitTime first + settings.unitTime second := by
  simp only [unitTime, Nat.mul_add, Nat.add_mul]

theorem Fits.mono (ordered : fewer ≤ more) (fits : settings.Fits more) : settings.Fits fewer :=
  lt_of_le_of_lt (unitTime_mono ordered) fits

theorem Fits.toNat_wireTime (fits : settings.Fits count) :
    (settings.wireTime count).toNat = settings.unitTime count / settings.baudRate.toNat := by
  rw [settings.toNat_wireTime, Nat.mod_eq_of_lt fits]

theorem Fits.timeout_eq (fits : settings.Fits count) :
    settings.timeout count =
      settings.unitTime count / settings.baudRate.toNat * 1000 + timeoutMargin := by
  rw [timeout, fits.toNat_wireTime]

/-! The time on the wire. -/

theorem close_timeout (fits : settings.Fits count) : settings.Close count := by
  -- The word holds the microseconds rounded down.
  have whole := fits.toNat_wireTime
  rw [← Nat.floor_div_eq_div (K := Rat)] at whole
  have below : ((settings.wireTime count).toNat : Rat) ≤
      settings.unitTime count / settings.baudRate.toNat := by
    rw [whole]
    exact Nat.floor_le (by positivity)
  have above : (settings.unitTime count : Rat) / settings.baudRate.toNat <
      (settings.wireTime count).toNat + 1 := by
    rw [whole]
    exact Nat.lt_floor_add_one _
  constructor
  · rw [seconds_timeout, exactTime_eq]
    linarith
  · rw [seconds_timeout, exactTime_eq]
    linarith

/-! More bytes, and a faster line. -/

theorem timeout_le_timeout (ordered : fewer ≤ more) (fits : settings.Fits more) :
    settings.timeout fewer ≤ settings.timeout more := by
  rw [(fits.mono ordered).timeout_eq, fits.timeout_eq]
  have divided : settings.unitTime fewer / settings.baudRate.toNat ≤
      settings.unitTime more / settings.baudRate.toNat :=
    Nat.div_le_div_right (unitTime_mono ordered)
  exact Nat.add_le_add_right (Nat.mul_le_mul_right 1000 divided) _

section

variable (positive : settings.baudRate ≠ 0)

include positive

private theorem baudRate_pos : 0 < settings.baudRate.toNat :=
  Nat.pos_of_ne_zero fun zero => positive (UInt32.toNat_inj.mp zero)

theorem timeout_faster {faster : UInt32} (ordered : settings.baudRate ≤ faster)
    (fits : settings.Fits count) :
    ({ settings with baudRate := faster } : Settings).timeout count ≤ settings.timeout count := by
  have fitsFaster : ({ settings with baudRate := faster } : Settings).Fits count := fits
  rw [fitsFaster.timeout_eq, fits.timeout_eq]
  have divided : settings.unitTime count / faster.toNat ≤
      settings.unitTime count / settings.baudRate.toNat :=
    Nat.div_le_div_left (UInt32.le_iff_toNat_le.mp ordered) (baudRate_pos positive)
  exact Nat.add_le_add_right (Nat.mul_le_mul_right 1000 divided) _

/-! A transfer in parts. -/

/-- What two parts have cut off comes to one microsecond at most, which is less than a margin. -/
theorem timeout_add_le (fits : settings.Fits (first + second)) :
    settings.timeout (first + second) ≤ settings.timeout first + settings.timeout second := by
  rw [fits.timeout_eq, (fits.mono (Nat.le_add_right _ _)).timeout_eq,
    (fits.mono (Nat.le_add_left _ _)).timeout_eq, unitTime_add,
    Nat.add_div (baudRate_pos positive), timeoutMargin]
  split <;> omega

theorem timeout_sum_le {counts : List Nat} (nonempty : counts ≠ [])
    (fits : settings.Fits counts.sum) :
    settings.timeout counts.sum ≤ (counts.map settings.timeout).sum := by
  induction counts with
  | nil => exact absurd rfl nonempty
  | cons count rest induction =>
      rw [List.sum_cons] at fits
      rw [List.map_cons, List.sum_cons, List.sum_cons]
      rcases eq_or_ne rest [] with rfl | further
      · simp
      · have later := induction further (fits.mono (Nat.le_add_left _ _))
        calc settings.timeout (count + rest.sum)
            ≤ settings.timeout count + settings.timeout rest.sum := timeout_add_le positive fits
          _ ≤ settings.timeout count + (rest.map settings.timeout).sum :=
            Nat.add_le_add_left later _

/-! Beyond the room of a word. -/

private theorem toNat_wireTime_of_not_fits (wraps : ¬ settings.Fits count) :
    (settings.wireTime count).toNat + 2 ^ 32 ≤
      settings.unitTime count / settings.baudRate.toNat := by
  have bound := settings.baudRate.toNat_lt
  have large : 2 ^ 64 ≤ settings.unitTime count := Nat.le_of_not_lt wraps
  rw [toNat_wireTime, ← Nat.add_mul_div_right _ _ (baudRate_pos positive)]
  refine Nat.div_le_div_right ?_
  omega

/-- The time is enough exactly as long as the computation does not wrap around. -/
theorem exactTime_le_timeout_iff :
    settings.exactTime count ≤ seconds (settings.timeout count) ↔ settings.Fits count := by
  constructor
  · intro enough
    by_contra wraps
    have lost : ((settings.wireTime count).toNat : Rat) + 2 ^ 32 ≤
        settings.unitTime count / settings.baudRate.toNat := by
      refine le_trans ?_ Nat.cast_div_le
      exact_mod_cast toNat_wireTime_of_not_fits positive wraps
    rw [seconds_timeout, exactTime_eq] at enough
    linarith
  · intro fits
    have near := (close_timeout fits).within
    linarith

/-- A transfer is given the time that its bytes take on the wire, up to the margin and a part of a
microsecond, and never less than that time. More bytes are not given less time, a faster line is not
given more, and neither are bytes in one transfer that could be moved in several. -/
theorem ample_timeout : settings.Ample where
  close _ fits := close_timeout fits
  enough _ fits := (exactTime_le_timeout_iff positive).mpr fits
  monotone _ _ ordered fits := timeout_le_timeout ordered fits
  antitone _ ordered _ fits := timeout_faster positive ordered fits
  joined _ _ fits := timeout_add_le positive fits
  inParts _ some fits := timeout_sum_le positive some fits

end

def slowest : Settings := { baudRate := 1, parity := .even, stopBits := .two }

theorem ample_timeout_slowest :
    slowest.baudRate ≠ 0 ∧ slowest.Ample ∧ slowest.Fits 1537228672809 ∧
      ¬ slowest.Fits 1537228672810 ∧ slowest.Close 1537228672809 := by
  have positive : slowest.baudRate ≠ 0 := by decide
  have fits : slowest.Fits 1537228672809 := by decide +kernel
  have ample := ample_timeout positive
  exact ⟨positive, ample, fits, by decide +kernel, ample.close _ fits⟩

end Settings

/-! What a transfer that comes up short has waited for. -/

namespace Connection

variable (connection : Connection) (positive : connection.settings.baudRate ≠ 0)

include positive

/-- A read that comes up short has left its bytes all the time that they take on the wire. -/
theorem exactTime_le_of_short_read {count : Nat} (fits : connection.settings.Fits count)
    {bytes : List UInt8} (result : (connection.read count).1.result = .ok bytes)
    (short : bytes.length < count) :
    connection.settings.exactTime count ≤ seconds (connection.read count).1.elapsed := by
  rcases connection.reads_read count with ⟨_, _, reads⟩
  calc connection.settings.exactTime count
      ≤ seconds (connection.settings.timeout count) :=
        (Settings.exactTime_le_timeout_iff positive).mpr fits
    _ ≤ seconds (connection.read count).1.elapsed :=
        seconds_le_seconds (reads.short bytes result short)

theorem exactTime_le_of_short_write {bytes : List UInt8}
    (fits : connection.settings.Fits bytes.length) {count : Nat}
    (result : (connection.write bytes).1.result = .ok count) (short : count < bytes.length) :
    connection.settings.exactTime bytes.length ≤ seconds (connection.write bytes).1.elapsed := by
  rcases connection.writes_write bytes with ⟨_, _, writes⟩
  calc connection.settings.exactTime bytes.length
      ≤ seconds (connection.settings.timeout bytes.length) :=
        (Settings.exactTime_le_timeout_iff positive).mpr fits
    _ ≤ seconds (connection.write bytes).1.elapsed := by
        refine seconds_le_seconds ((writes.short count result short).trans ?_)
        rw [writes.elapsed]
        exact Nat.le_add_right _ _

end Connection

end BenchScope.Serial
