namespace BenchScope

/-! The text of a length of time that is kept in whole nanoseconds. It is written in the largest of
the units s, ms, µs and ns of which there is at least one, with the exact fraction and no zero at
its end. -/

/-- The digits of `remainder / size` behind the point, and the point when there are any. The size is
a power of ten, and the remainder is less. -/
def fractionText (size remainder : Nat) : String :=
  let digits := (Nat.toDigits 10 (size + remainder)).drop 1
  match (digits.reverse.dropWhile (· = '0')).reverse with
  | [] => ""
  | shown => "." ++ String.ofList shown

def inUnit (nanoseconds size : Nat) (unit : String) : String :=
  toString (nanoseconds / size) ++ fractionText size (nanoseconds % size) ++ unit

def elapsedText (nanoseconds : Nat) : String :=
  if 1000000000 ≤ nanoseconds then inUnit nanoseconds 1000000000 "s"
  else if 1000000 ≤ nanoseconds then inUnit nanoseconds 1000000 "ms"
  else if 1000 ≤ nanoseconds then inUnit nanoseconds 1000 "µs"
  else inUnit nanoseconds 1 "ns"

example : elapsedText 1000125 = "1.000125ms" := by decide +kernel
example : elapsedText 0 = "0ns" := by decide +kernel
example : elapsedText 61500000000 = "61.5s" := by decide +kernel

end BenchScope
