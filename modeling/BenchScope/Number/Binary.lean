import BenchScope.Number.Rounding

namespace BenchScope

/-! A finite double is a whole significand times a power of two, with a sign. All exact questions
about a double (its whole part, the whole number nearest to it, the decimals that read back as it)
are answered on these three fields, in integer arithmetic. -/

structure Binary where
  negative : Bool
  significand : Nat
  exponent : Int
  narrowBelow : Bool
deriving DecidableEq, Repr

namespace Binary

/-- The fields of a finite double. Infinities and not-a-number have none and are set apart first. -/
def ofBits (bits : UInt64) : Binary :=
  let biased := ((bits >>> 52) &&& 0x7FF).toNat
  let fraction := (bits &&& 0xFFFFFFFFFFFFF).toNat
  if biased = 0 then
    { negative := bits >>> 63 = 1, significand := fraction, exponent := -1074
      narrowBelow := false }
  else
    { negative := bits >>> 63 = 1, significand := 0x10000000000000 + fraction
      exponent := biased - 1075, narrowBelow := fraction = 0 ∧ 1 < biased }

def ofFloat (value : Float) : Binary := ofBits value.toBits

/-! The magnitude as a fraction of natural numbers. -/

def numerator (value : Binary) : Nat := value.significand * Nat.pow 2 value.exponent.toNat

def denominator (value : Binary) : Nat := Nat.pow 2 (-value.exponent).toNat

def wholePart (value : Binary) : Nat := value.numerator / value.denominator

def nearestWhole (tie : Tie) (value : Binary) : Nat :=
  roundQuotient tie value.numerator value.denominator

/-- A double with an exponent that is not negative is whole already. -/
def isWhole (value : Binary) : Bool := 0 ≤ value.exponent

example : (ofBits 0x4004000000000000).wholePart = 2 := by decide
example : (ofBits 0x4004000000000000).nearestWhole .awayFromZero = 3 := by decide

end Binary

end BenchScope
