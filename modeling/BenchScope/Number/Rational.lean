import BenchScope.Number.Scalar

namespace BenchScope

/-! Exact rationals. A formula read over them has no rounding but the one that it spells out. -/

instance : Scalar Rat where
  decidableLT := inferInstance
  decidableLE := inferInstance
  ofNat whole := (whole : Rat)
  isFinite _ := true
  round value :=
    if 0 ≤ value then ((value + 1 / 2).floor : Rat) else -((-value + 1 / 2).floor : Rat)
  fractional value := value - (value.floor : Rat)
  toWord value := UInt16.ofNat (min value.floor.toNat 65535)

example : Scalar.round (-5 / 2 : Rat) = -3 := by decide +kernel
example : Scalar.toWord (70000 : Rat) = 65535 := by decide +kernel

end BenchScope
