import BenchScope.Action
import BenchScope.Link.Basic
import BenchScope.Notice

namespace BenchScope

/-! The host side of the instrument: the link to the device, a clock, the operator's wish to abort,
and the notices for the operator. -/

structure Host (σ : Type) where
  link : σ
  /-- Nanoseconds since some moment in the past. -/
  clock : Nat := 0
  abortRequested : Bool := false
  /-- The latest notice comes first. -/
  recent : List Notice := []

abbrev Exchange (ε σ β : Type) := Action ε (Host σ) β

namespace Host

variable {σ : Type}

def notices (host : Host σ) : List Notice := host.recent.reverse

def note (host : Host σ) (notice : Notice) : Host σ :=
  { host with recent := notice :: host.recent }

def pause (host : Host σ) (nanoseconds : Nat) : Host σ :=
  { host with clock := host.clock + nanoseconds }

def requestAbort (host : Host σ) : Host σ := { host with abortRequested := true }

def withdrawAbort (host : Host σ) : Host σ := { host with abortRequested := false }

def after {β : Type} (host : Host σ) (outcome : Outcome β) (link : σ) : Host σ :=
  { host with
    link
    clock := host.clock + outcome.elapsed
    abortRequested := host.abortRequested || outcome.abort }

end Host

end BenchScope
