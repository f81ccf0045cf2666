import BenchScope.Link.Error

namespace BenchScope

/-! A link carries bytes to the device and back. A call on it takes time, and while it lasts the
operator may ask for the running capture to be aborted. -/

structure Outcome (β : Type) where
  result : Except LinkError β
  /-- The nanoseconds that the call takes. -/
  elapsed : Nat := 0
  abort : Bool := false

class Link (σ : Type) where
  /-- Offer bytes to the link. The result is how many of them it takes. -/
  write : List UInt8 → σ → Outcome Nat × σ
  /-- Wait for a number of bytes. Fewer than that are returned when the wait is too long. -/
  read : Nat → σ → Outcome (List UInt8) × σ

class FiniteLink (σ : Type) extends Link σ where
  supply : σ → Nat

end BenchScope
