import BenchScope.Capture.Error

namespace BenchScope

/-! What is to be captured, and the check against the limits of the device. The check settles how
the device samples: in which mode, and at which interval. -/

structure Parameters (α : Type) where
  /-- The order of the channels is the order of their samples in the buffer and of their frames. -/
  channels : List Channel
  sampleCount : UInt16
  rate : α
  trigger : Option (Trigger α) := none

structure Sampling where
  mode : Mode
  interval : UInt16
deriving DecidableEq, Repr

namespace Parameters

def lookupAll : List String → Except Channel.Error (List Channel)
  | [] => .ok []
  | name :: rest => do
      let channel ← Channel.lookup name
      let others ← lookupAll rest
      return channel :: others

variable {α : Type}

def ofNames (names : List String) (sampleCount : UInt16) (rate : α) :
    Except Channel.Error (Parameters α) := do
  return { channels := ← lookupAll names, sampleCount, rate }

def isTriggered (parameters : Parameters α) : Bool := parameters.trigger.isSome

def checkChannels (before : List Channel) : List Channel → Except (ParameterError α) Unit
  | [] => .ok ()
  | .logic output :: _ => .error (.notAnalog output)
  | .analog input :: rest =>
      if .analog input ∈ before then .error (.enabledTwice (.analog input))
      else checkChannels (.analog input :: before) rest

def checkSampleCount (parameters : Parameters α) (limits : Limits) :
    Except (ParameterError α) Unit :=
  let channels := parameters.channels.length
  let most := limits.maxSampleCount channels
  if parameters.sampleCount < limits.minSamples ∨ most < parameters.sampleCount.toNat then
    .error (.sampleCount parameters.sampleCount limits.minSamples most channels)
  else .ok ()

section Rate

variable [Scalar α]

def checkRate (parameters : Parameters α) (limits : Limits) (mode : Mode) :
    Except (ParameterError α) Unit :=
  let fastest := limits.maxRate mode parameters.isTriggered
  if Scalar.isFinite parameters.rate = false ∨ parameters.rate < Limits.minRate ∨
      fastest < parameters.rate then
    .error (.rate parameters.rate Limits.minRate fastest mode parameters.isTriggered)
  else .ok ()

def interval (rate : α) : Except (ParameterError α) UInt16 :=
  let ticks := Scalar.round (Scalar.ofNat timerClock / rate)
  if ticks ≤ Scalar.ofNat 65535 then .ok (Scalar.toWord ticks) else .error (.interval ticks)

def checkTrigger (parameters : Parameters α) (panel : Panel) : Except TriggerError Unit :=
  match parameters.trigger, parameters.channels with
  | none, _ => .ok ()
  | some trigger, [] => .error (.notEnabled trigger.channel)
  | some trigger, first :: rest =>
      if trigger.channel ∈ first :: rest then do
        let _ ← trigger.fields panel first
        return ()
      else .error (.notEnabled trigger.channel)

/-- Of several faults the first one counts, in this order: number of channels, kind and repetition
of each channel, number of samples, rate. -/
def sampling (parameters : Parameters α) (limits : Limits) :
    Except (ParameterError α) Sampling := do
  let some mode := Mode.ofCount? parameters.channels.length
    | throw (.channelCount parameters.channels.length)
  checkChannels [] parameters.channels
  parameters.checkSampleCount limits
  parameters.checkRate limits mode
  return { mode, interval := ← interval parameters.rate }

/-- A fault of the trigger counts last. -/
def validate (parameters : Parameters α) (panel : Panel) (limits : Limits) :
    Except (CaptureError α) Sampling :=
  match parameters.sampling limits with
  | .error error => .error (.parameters error)
  | .ok sampling =>
      match parameters.checkTrigger panel with
      | .error error => .error (.trigger error)
      | .ok () => .ok sampling

end Rate

end Parameters

end BenchScope
