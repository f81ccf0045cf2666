namespace BenchScope

/-! The commands of the device. A command is two bytes, a group and a code within the group, and is
followed by its parameters. Nothing frames or checks the bytes: both sides know how many there
are. -/

inductive Command
  | captureOne
  | captureTwo
  | captureFour
  | configureTrigger
  | captureStatus
  | setGain
  | version
  | retrieveBuffer
  | squareWaves
  | setState
deriving DecidableEq, Repr

namespace Command

def converterGroup : UInt8 := 0x02

def waveGroup : UInt8 := 0x07

def outputGroup : UInt8 := 0x08

def commonGroup : UInt8 := 0x0b

def group : Command → UInt8
  | .captureOne | .captureTwo | .captureFour | .configureTrigger | .captureStatus | .setGain =>
      converterGroup
  | .version | .retrieveBuffer => commonGroup
  | .squareWaves => waveGroup
  | .setState => outputGroup

def code : Command → UInt8
  | .captureOne => 0x01
  | .captureTwo => 0x02
  | .captureFour => 0x04
  | .configureTrigger => 0x05
  | .captureStatus => 0x06
  | .setGain => 0x08
  | .version => 0x05
  | .retrieveBuffer => 0x08
  | .squareWaves => 0x07
  | .setState => 0x01

theorem eq_of_bytes {left right : Command} (sameGroup : left.group = right.group)
    (sameCode : left.code = right.code) : left = right := by
  cases left <;> cases right <;> first | rfl | (revert sameGroup sameCode; decide)

end Command

end BenchScope
