import BenchScope.Capture.Parameters
import BenchScope.Capture.Phase
import BenchScope.Host
import BenchScope.Reading

namespace BenchScope

/-! A capture in progress. It begins in the configuring phase with nothing chosen but its
parameters; its steps are in `Capture.Step`. -/

structure Capture where
  parameters : Parameters Float
  limits : Limits
  policy : PollPolicy
  abortable : Bool := true
  phase : Phase := .configuring
  /-- Chosen in the configuring phase. Interval zero stands for no choice. -/
  sampling : Sampling := { mode := .one, interval := 0 }
  deadline : Option Nat := none
  acquired : UInt16 := 0
  /-- The number of channels that are through, and so the place of the next one. -/
  cursor : Nat := 0
  samples : List Float := []
  frames : List Frame := []

namespace Capture

def fresh (parameters : Parameters Float) (limits : Limits) (policy : PollPolicy)
    (abortable : Bool := true) : Capture where
  parameters
  limits
  policy
  abortable

def channels (capture : Capture) : List Channel := capture.parameters.channels

def isFinished (capture : Capture) : Bool := capture.phase.isFinished

def sessionsEnded (capture : Capture) : Nat := if capture.phase = .idle then 1 else 0

/-- The rate at which the device samples, which is the requested one only as far as the interval
allows. -/
def rate (capture : Capture) : Float :=
  if capture.sampling.interval = 0 then capture.parameters.rate
  else Float.ofNat timerClock / Float.ofNat capture.sampling.interval.toNat

/-- The nanoseconds that the device takes for all samples. A clock tick is 125 of them. -/
def acquisitionTime (capture : Capture) : Nat :=
  capture.parameters.sampleCount.toNat * capture.sampling.interval.toNat * 125

/-- The nanoseconds that the device is given, counted from its acknowledgement. -/
def allowedTime (capture : Capture) : Nat := capture.acquisitionTime + capture.policy.margin

def reading (capture : Capture) : Reading := ⟨capture.rate, capture.frames⟩

def current? (capture : Capture) : Option Channel := capture.channels[capture.cursor]?

def frameAtHand (capture : Capture) : List Frame :=
  match capture.current? with
  | some (.analog input) => [⟨input, capture.rate, capture.samples⟩]
  | _ => []

def handOver (capture : Capture) : Capture :=
  { capture with samples := [], frames := capture.frames ++ capture.frameAtHand }

end Capture

structure Stage (σ : Type) where
  capture : Capture
  panel : Panel
  host : Host σ

end BenchScope
