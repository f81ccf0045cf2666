import BenchScope.Calibration

namespace BenchScope

/-! A capture can wait until the voltage at an input rises through a level. -/

structure Trigger (α : Type) where
  channel : Channel
  volts : α
  /-- How long the device waits before it captures all the same. -/
  prescaler : UInt8
deriving DecidableEq, Repr

inductive TriggerError
  | unknown (error : Channel.Error)
  | notSource (channel : Channel)
  | prescaler (value : UInt8)
  | notAnalog (channel : Channel)
  | notEnabled (channel : Channel)
deriving DecidableEq, Repr

def TriggerError.message (error : TriggerError) : String :=
  "Invalid argument: " ++ match error with
    | .unknown error => error.message
    | .notSource channel => s!"channel {channel.name} cannot be used as a trigger source"
    | .prescaler value => s!"trigger timeout prescaler {value} does not fit in 4 bits"
    | .notAnalog channel => s!"channel {channel.name} is not analog"
    | .notEnabled channel => s!"trigger channel {channel.name} is not enabled"

def Input.isTriggerSource (input : Input) : Bool := input.index.val < 4

namespace Trigger

variable {α : Type}

def request (name : String) (volts : α) (prescaler : UInt8) : Except TriggerError (Trigger α) :=
  match Channel.lookup name with
  | .error error => .error (.unknown error)
  | .ok (.logic output) => .error (.notSource (.logic output))
  | .ok (.analog input) =>
      if input.isTriggerSource = false then .error (.notSource (.analog input))
      else if 15 < prescaler then .error (.prescaler prescaler)
      else .ok { channel := .analog input, volts, prescaler }

/-- What the device is told about a trigger: a byte with the prescaler above the bit of the source,
and the level as a code. -/
structure Fields where
  source : UInt8
  level : UInt16
deriving DecidableEq, Repr

/-- The first channel of a capture is source zero, whichever it is; the others go by their index. -/
def sourceBit (input : Input) (first : Channel) : Nat :=
  if .analog input = first then 0 else input.index

def fields [Scalar α] (trigger : Trigger α) (panel : Panel) (first : Channel) :
    Except TriggerError Fields :=
  match trigger.channel with
  | .logic output => .error (.notAnalog (.logic output))
  | .analog input =>
      let bit := sourceBit input first
      if bit < 4 then
        .ok {
          source := (trigger.prescaler <<< 4) ||| (1 <<< UInt8.ofNat bit)
          level := (Calibration.ofPanel panel input).unscale trigger.volts }
      else .error (.notSource (.analog input))

end Trigger

end BenchScope
