import BenchScope.Link.Basic

namespace BenchScope

/-! A link that remembers the calls made on it. -/

instance decidableEqExcept {ε β : Type} [DecidableEq ε] [DecidableEq β] :
    DecidableEq (Except ε β)
  | .ok left, .ok right => decidable_of_iff (left = right) (by rw [Except.ok.injEq])
  | .error left, .error right => decidable_of_iff (left = right) (by rw [Except.error.injEq])
  | .ok _, .error _ => isFalse nofun
  | .error _, .ok _ => isFalse nofun

inductive LinkCall
  | write (bytes : List UInt8) (result : Except LinkError Nat)
  | read (count : Nat) (result : Except LinkError (List UInt8))
deriving DecidableEq

namespace LinkCall

def offered? : LinkCall → Option (List UInt8)
  | .write bytes _ => some bytes
  | .read .. => none

def accepted? : LinkCall → Option (List UInt8)
  | .write bytes (.ok count) => some (bytes.take count)
  | .write _ (.error _) => none
  | .read .. => none

end LinkCall

structure Traced (σ : Type) where
  link : σ
  /-- The latest call comes first. -/
  recent : List LinkCall := []

namespace Traced

variable {σ : Type}

def calls (traced : Traced σ) : List LinkCall := traced.recent.reverse

def forget (traced : Traced σ) : Traced σ := { traced with recent := [] }

instance [Link σ] : Link (Traced σ) where
  write bytes traced :=
    let (outcome, link) := Link.write bytes traced.link
    (outcome, { link, recent := .write bytes outcome.result :: traced.recent })
  read count traced :=
    let (outcome, link) := Link.read count traced.link
    (outcome, { link, recent := .read count outcome.result :: traced.recent })

instance [FiniteLink σ] : FiniteLink (Traced σ) where
  supply traced := FiniteLink.supply traced.link

end Traced

end BenchScope
