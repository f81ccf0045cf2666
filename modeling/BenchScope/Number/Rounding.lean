namespace BenchScope

/-! Rounding a quotient of natural numbers to a whole number. What happens half way between two
whole numbers is a choice of its own. -/

inductive Tie
  | toEven
  | awayFromZero
deriving DecidableEq, Repr

def roundQuotient (tie : Tie) (numerator denominator : Nat) : Nat :=
  let below := numerator / denominator
  match compare (2 * (numerator % denominator)) denominator, tie with
  | .lt, _ => below
  | .gt, _ => below + 1
  | .eq, .awayFromZero => below + 1
  | .eq, .toEven => if below % 2 = 0 then below else below + 1

example : roundQuotient .toEven 5 2 = 2 := by decide
example : roundQuotient .awayFromZero 5 2 = 3 := by decide

end BenchScope
