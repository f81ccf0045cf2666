import BenchScope.Channel

namespace BenchScope

/-! What can be set on the instrument: a gain and a resolution per input, the channels that take
part in a capture, and where in the buffer the samples of each of them are. -/

inductive Gain
  | x1 | x2 | x4 | x5 | x8 | x10 | x16 | x32
deriving DecidableEq, Repr

namespace Gain

def all : List Gain := [.x1, .x2, .x4, .x5, .x8, .x10, .x16, .x32]

def factor : Gain → UInt8
  | .x1 => 1
  | .x2 => 2
  | .x4 => 4
  | .x5 => 5
  | .x8 => 8
  | .x10 => 10
  | .x16 => 16
  | .x32 => 32

def index : Gain → UInt8
  | .x1 => 0
  | .x2 => 1
  | .x4 => 2
  | .x5 => 3
  | .x8 => 4
  | .x10 => 5
  | .x16 => 6
  | .x32 => 7

def ofFactor? (factor : UInt8) : Option Gain := all.find? fun gain => gain.factor = factor

example : all.map (·.index.toNat) = List.range 8 := by decide

end Gain

inductive Resolution
  | tenBits | twelveBits
deriving DecidableEq, Repr

namespace Resolution

def all : List Resolution := [.tenBits, .twelveBits]

def bits : Resolution → UInt8
  | .tenBits => 10
  | .twelveBits => 12

def fullScale : Resolution → UInt16
  | .tenBits => 1023
  | .twelveBits => 4095

def ofBits? (bits : UInt8) : Option Resolution :=
  all.find? fun resolution => resolution.bits = bits

example (resolution : Resolution) :
    resolution.fullScale.toNat = 2 ^ resolution.bits.toNat - 1 := by
  cases resolution <;> decide

end Resolution

structure InputState where
  gain : Gain := .x1
  resolution : Resolution := .tenBits
  offset : Option UInt16 := none
deriving DecidableEq, Repr

structure Panel where
  inputs : Vector InputState 8 := Vector.replicate 8 {}
  enabled : List Channel := []
deriving DecidableEq, Repr

namespace Panel

def state (panel : Panel) (input : Input) : InputState := panel.inputs[input.index]

def modify (panel : Panel) (input : Input) (change : InputState → InputState) : Panel :=
  { panel with inputs := panel.inputs.set input.index (change (panel.state input)) }

@[simp] theorem state_modify (panel : Panel) (input other : Input)
    (change : InputState → InputState) :
    (panel.modify input change).state other =
      if input = other then change (panel.state input) else panel.state other := by
  by_cases same : input = other
  · subst same
    simp [modify, state]
  · have apart : input.index.val ≠ other.index.val := fun equal =>
      same (Input.index_injective (Fin.ext equal))
    simp [modify, state, same, apart]

@[simp] theorem enabled_modify (panel : Panel) (input : Input)
    (change : InputState → InputState) : (panel.modify input change).enabled = panel.enabled := rfl

/-! Places in the buffer. The samples of the enabled channels lie one behind the other, in the order
in which the channels were enabled. -/

def clearOffsets (panel : Panel) : Panel :=
  { panel with inputs := panel.inputs.map fun state => { state with offset := none } }

@[simp] theorem state_clearOffsets (panel : Panel) (input : Input) :
    panel.clearOffsets.state input = { panel.state input with offset := none } := by
  simp [clearOffsets, state]

@[simp] theorem enabled_clearOffsets (panel : Panel) :
    panel.clearOffsets.enabled = panel.enabled := rfl

/-- Choose the channels of the next capture. Offsets of an earlier one are forgotten. -/
def configure (panel : Panel) (enabled : List Channel) : Panel :=
  { panel.clearOffsets with enabled }

/-- Give each channel of a list its place, the first one being at `position`. A digital output takes
a place and gets no offset. When an offset does not fit a word, the offsets before it stay. -/
def assignFrom (sampleCount : UInt16) :
    Nat → List Channel → Panel → Except Channel.Error Unit × Panel
  | _, [], panel => (.ok (), panel)
  | position, .logic _ :: rest, panel => assignFrom sampleCount (position + 1) rest panel
  | position, .analog input :: rest, panel =>
      let offset := position * sampleCount.toNat
      if offset < 65536 then
        assignFrom sampleCount (position + 1) rest
          (panel.modify input fun state => { state with offset := some (UInt16.ofNat offset) })
      else (.error (.offsetOverflow input), panel)

def assignOffsets (sampleCount : UInt16) (panel : Panel) : Except Channel.Error Unit × Panel :=
  assignFrom sampleCount 0 panel.enabled panel

/-! Gain and resolution can be set on inputs with a programmable amplifier. -/

inductive SettingError
  | gain (factor : UInt8)
  | resolution (bits : UInt8)
  | noAmplifier (channel : Channel)
  | unknown (error : Channel.Error)
deriving DecidableEq, Repr

def listText (numbers : List UInt8) : String :=
  "[" ++ String.intercalate ", " (numbers.map toString) ++ "]"

def SettingError.message : SettingError → String
  | .gain factor =>
      s!"Invalid argument: gain {factor} is not one of " ++ listText (Gain.all.map (·.factor))
  | .resolution bits =>
      s!"Invalid argument: resolution of {bits} bits is not one of " ++
        listText (Resolution.all.map (·.bits))
  | .noAmplifier channel =>
      s!"Invalid argument: channel {channel.name} has no programmable gain amplifier"
  | .unknown error => error.message

def gainOf (factor : UInt8) : Except SettingError Gain :=
  match Gain.ofFactor? factor with
  | some gain => .ok gain
  | none => .error (.gain factor)

def amplifiedInput : Channel → Except SettingError (Input × UInt8)
  | .analog input =>
      match input.amplifier? with
      | some amplifier => .ok (input, amplifier)
      | none => .error (.noAmplifier (.analog input))
  | .logic output => .error (.noAmplifier (.logic output))

structure GainChange where
  input : Input
  amplifier : UInt8
  gain : Gain
deriving DecidableEq, Repr

/-- A gain that does not exist is refused before the channel is looked at. -/
def selectGain (channel : Channel) (factor : UInt8) : Except SettingError GainChange := do
  let gain ← gainOf factor
  let (input, amplifier) ← amplifiedInput channel
  return { input, amplifier, gain }

def applyGain (panel : Panel) (change : GainChange) : Panel :=
  panel.modify change.input fun state => { state with gain := change.gain }

/-- Keep a gain that the device has taken over. It is selected once more before it is kept. -/
def recordGain (panel : Panel) (channel : Channel) (factor : UInt8) :
    Except SettingError Panel := do
  let change ← selectGain channel factor
  let input ← channel.asInput.mapError .unknown
  return panel.applyGain { change with input }

def selectResolution (panel : Panel) (channel : Channel) (bits : UInt8) :
    Except SettingError Panel := do
  let some resolution := Resolution.ofBits? bits | throw (.resolution bits)
  let (input, _) ← amplifiedInput channel
  return panel.modify input fun state => { state with resolution }

end Panel

end BenchScope
