import BenchScope.Number.Binary

namespace BenchScope

/-! The arithmetic that the instrument computes with. Every formula of the library (calibration,
timing words, duty cycles) is written once over a `Scalar`. On doubles it runs; on exact rationals
it is what the formula means before any rounding of intermediate results. -/

class Scalar (α : Type) extends
    Add α, Sub α, Mul α, Div α, Neg α, LT α, LE α, OfScientific α where
  decidableLT : DecidableLT α
  decidableLE : DecidableLE α
  ofNat : Nat → α
  isFinite : α → Bool
  /-- The nearest whole number. A half goes away from zero. -/
  round : α → α
  /-- What is left of a number that is not negative when its whole part is taken away. -/
  fractional : α → α
  /-- The whole part as a 16-bit word: the nearer end for a number outside the words, zero for what
  is not a number. -/
  toWord : α → UInt16

attribute [reducible, instance] Scalar.decidableLT Scalar.decidableLE

namespace Scalar

variable {α : Type} [Scalar α]

/-- The nearest number between `low` and `high`. What is not a number stays what it is. -/
def clamp (low high value : α) : α :=
  if value < low then low else if high < value then high else value

def zero : α := ofNat 0

def one : α := ofNat 1

end Scalar

/-! Doubles. Rounding is exact: it works on the significand and the exponent. -/

namespace Binary

def signedWhole (value : Binary) (whole : Nat) : Float :=
  if value.negative then -(Float.ofNat whole) else Float.ofNat whole

end Binary

instance : Scalar Float where
  decidableLT := inferInstance
  decidableLE := inferInstance
  ofNat := Float.ofNat
  isFinite := Float.isFinite
  round value :=
    let fields := Binary.ofFloat value
    if value.isFinite && !fields.isWhole then
      fields.signedWhole (fields.nearestWhole .awayFromZero)
    else value
  fractional value :=
    let fields := Binary.ofFloat value
    if value.isFinite then value - fields.signedWhole fields.wholePart else value - value
  toWord := Float.toUInt16

example : (Scalar.round (2.5 : Float)).toBits = (3.0 : Float).toBits := by decide +kernel
example : (Scalar.fractional (1.25 : Float)).toBits = (0.25 : Float).toBits := by decide +kernel

end BenchScope
