import BenchScope.Number.Scalar
import BenchScope.Wire.Command

namespace BenchScope

/-! What the device can capture. The converter is timed by a clock of eight million ticks a second;
how many ticks it needs between samples depends on the capture command and on whether it waits for a
trigger. -/

inductive Mode
  | one | two | four
deriving DecidableEq, Repr

namespace Mode

def ofCount? : Nat → Option Mode
  | 1 => some .one
  | 2 => some .two
  | 3 | 4 => some .four
  | _ => none

def command : Mode → Command
  | .one => .captureOne
  | .two => .captureTwo
  | .four => .captureFour

def name : Mode → String
  | .one => "One"
  | .two => "Two"
  | .four => "Four"

end Mode

structure ModeTicks where
  one : UInt16
  two : UInt16
  four : UInt16
deriving DecidableEq, Repr

def ModeTicks.get (ticks : ModeTicks) : Mode → UInt16
  | .one => ticks.one
  | .two => ticks.two
  | .four => ticks.four

structure Limits where
  capacity : UInt32 := 10000
  minSamples : UInt16 := 10
  /-- The shortest interval between samples, in clock ticks. -/
  untriggered : ModeTicks := ⟨4, 7, 14⟩
  triggered : ModeTicks := ⟨6, 8, 16⟩
deriving DecidableEq, Repr

def maxChannels : Nat := 4

def timerClock : Nat := 8000000

namespace Limits

/-- The buffer is shared out evenly. The number of channels is taken as a 32-bit word, as the
capacity is; no channels count as one. -/
def maxSampleCount (limits : Limits) (channels : Nat) : Nat :=
  (limits.capacity / UInt32.ofNat (max channels 1)).toNat

example : maxSampleCount {} 3 = 3333 := by decide
example : maxSampleCount {} 4294967297 = 10000 := by decide

def minInterval (limits : Limits) (mode : Mode) (triggered : Bool) : UInt16 :=
  if triggered then limits.triggered.get mode else limits.untriggered.get mode

variable {α : Type} [Scalar α]

def maxRate (limits : Limits) (mode : Mode) (triggered : Bool) : α :=
  Scalar.ofNat timerClock / Scalar.ofNat (limits.minInterval mode triggered).toNat

/-- The slowest rate whose interval fits a 16-bit word. -/
def minRate : α := Scalar.ofNat timerClock / Scalar.ofNat 65535

end Limits

/-- How long the device is asked for its status before a capture is given up, in nanoseconds. -/
structure PollPolicy where
  margin : Nat := 1000000000
  interval : Nat := 0
deriving DecidableEq, Repr

end BenchScope
