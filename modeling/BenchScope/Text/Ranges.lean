namespace BenchScope

/-! A property of characters is kept as the closed ranges of code points that have it. -/

def inRanges (ranges : List (Nat × Nat)) (character : Char) : Bool :=
  ranges.any fun range => range.1 ≤ character.toNat ∧ character.toNat ≤ range.2

end BenchScope
