import BenchScope.Waveform.Error

namespace BenchScope.Waveform

/-! A wave is timed by counting the ticks of a prescaled clock. Its period is a number of ticks that
fits a 16-bit word. -/

def clockRate : Nat := 64000000

inductive Prescaler
  | by1 | by8 | by64 | by256
deriving DecidableEq, Repr

namespace Prescaler

def all : List Prescaler := [.by1, .by8, .by64, .by256]

def divisor : Prescaler → Nat
  | .by1 => 1
  | .by8 => 8
  | .by64 => 64
  | .by256 => 256

def index : Prescaler → UInt8
  | .by1 => 0
  | .by8 => 1
  | .by64 => 2
  | .by256 => 3

end Prescaler

structure Timing where
  wavelength : UInt16
  prescaler : Prescaler
deriving DecidableEq, Repr

variable {α : Type} [Scalar α]

/-- The period in ticks of the prescaled clock, before it is known to fit a word. -/
def ticks (frequency : α) (entries : UInt32) (prescaler : Prescaler) : α :=
  Scalar.round (Scalar.ofNat clockRate / frequency / Scalar.ofNat prescaler.divisor /
    Scalar.ofNat entries.toNat)

def Timing.within? (frequency : α) (entries : UInt32) (prescaler : Prescaler) : Option Timing :=
  let wavelength := ticks frequency entries prescaler
  if Scalar.zero < wavelength ∧ wavelength < Scalar.ofNat 65536 then
    some { wavelength := Scalar.toWord wavelength, prescaler }
  else none

/-- The timing for a wave that is played from a table: the least prescaler for which the period of
one table entry is at least one tick and fits a word. -/
def Timing.ofFrequency (frequency : α) (entries : UInt32) : Except (Error α) Timing :=
  if Scalar.isFinite frequency = false ∨ frequency ≤ Scalar.zero ∨ entries = 0 then
    .error (.ungeneratable frequency entries)
  else
    match Prescaler.all.findSome? (Timing.within? frequency entries) with
    | some timing => .ok timing
    | none => .error (.outOfRange frequency)

end BenchScope.Waveform
