import BenchScope.Number.Binary

namespace BenchScope

/-! The shortest decimal that reads back as a given double. The reals that round to a double form an
interval; among the decimals in it the shortest ones are sought, and among those the nearest to the
double. -/

structure Decimal where
  digits : Nat
  exponent : Int
deriving DecidableEq, Repr

def compareScaled (left : Nat) (decimal : Int) (right : Nat) (binary : Int) : Ordering :=
  compare (left * Nat.pow 10 decimal.toNat * Nat.pow 2 (-binary).toNat)
    (right * Nat.pow 2 binary.toNat * Nat.pow 10 (-decimal).toNat)

namespace Binary

/-- The decimal lies among the reals that round to `value`: between the midpoints to its two
neighbours, the ends included when the significand is even. -/
def readsBack (value : Binary) (decimal : Decimal) : Bool :=
  let low := if value.narrowBelow then 4 * value.significand - 1 else 4 * value.significand - 2
  let high := 4 * value.significand + 2
  let closed := value.significand % 2 = 0
  let fromLow := compareScaled decimal.digits decimal.exponent low (value.exponent - 2)
  let fromHigh := compareScaled decimal.digits decimal.exponent high (value.exponent - 2)
  (fromLow = .gt ∨ (closed ∧ fromLow = .eq)) ∧ (fromHigh = .lt ∨ (closed ∧ fromHigh = .eq))

def decimalScale (value : Binary) : Int :=
  let estimate := (value.exponent + value.significand.log2) * 30103 / 100000
  let candidates := (List.range 5).map fun (step : Nat) => estimate - 1 + step
  (candidates.find? fun scale =>
    compareScaled 1 scale value.significand value.exponent = .gt).getD estimate

/-- The better of the two neighbours of `value` among the multiples of 10 ^ `exponent`, when one of
them reads back. Of two that are equally near, the upper one. -/
def onGrid? (value : Binary) (exponent : Int) : Option Decimal :=
  let numerator := value.numerator * Nat.pow 10 (-exponent).toNat
  let denominator := value.denominator * Nat.pow 10 exponent.toNat
  let below : Decimal := ⟨numerator / denominator, exponent⟩
  let above : Decimal := ⟨numerator / denominator + 1, exponent⟩
  if value.readsBack below then
    if value.readsBack above ∧ denominator ≤ 2 * (numerator % denominator) then some above
    else some below
  else if value.readsBack above then some above
  else none

def exactDecimal (value : Binary) : Decimal :=
  if 0 ≤ value.exponent then ⟨value.numerator, 0⟩
  else ⟨value.significand * Nat.pow 5 (-value.exponent).toNat, value.exponent⟩

/-- Seventeen digits are enough to tell any two doubles apart. -/
def shortestDecimal (value : Binary) : Decimal :=
  let scale := value.decimalScale
  ((List.range 17).findSome? fun (index : Nat) => value.onGrid? (scale - (index + 1))).getD
    value.exactDecimal

end Binary

namespace Decimal

def stripZeros (decimal : Decimal) : Decimal :=
  go decimal.digits.log2 decimal
where
  go : Nat → Decimal → Decimal
    | 0, decimal => decimal
    | steps + 1, decimal =>
        if decimal.digits % 10 = 0 then go steps ⟨decimal.digits / 10, decimal.exponent + 1⟩
        else decimal

end Decimal

def Binary.shortest (value : Binary) : Decimal :=
  if value.significand = 0 then ⟨0, 0⟩ else value.shortestDecimal.stripZeros

example : (Binary.ofBits 0x3FB999999999999A).shortest = ⟨1, -1⟩ := by decide +kernel
example : (Binary.ofBits 0x0000000000000001).shortest = ⟨5, -324⟩ := by decide +kernel
example : (Binary.ofBits 0x3E60000000000000).shortest = ⟨29802322387695313, -24⟩ := by
  decide +kernel

end BenchScope
