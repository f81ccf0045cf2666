import BenchScope.Number.Scalar

namespace BenchScope

/-! The channels of the instrument are fixed: eight analog inputs and four digital outputs. What can
change about an input (its gain, its resolution, its place in the buffer) is kept in the panel. -/

inductive Input
  | ch1 | ch2 | ch3 | mic | cap | res | vol | an4
deriving DecidableEq, Repr

inductive Output
  | sq1 | sq2 | sq3 | sq4
deriving DecidableEq, Repr

inductive Channel
  | analog (input : Input)
  | logic (output : Output)
deriving DecidableEq, Repr

namespace Input

def all : List Input := [.ch1, .ch2, .ch3, .mic, .cap, .res, .vol, .an4]

def name : Input → String
  | .ch1 => "CH1"
  | .ch2 => "CH2"
  | .ch3 => "CH3"
  | .mic => "MIC"
  | .cap => "CAP"
  | .res => "RES"
  | .vol => "VOL"
  | .an4 => "AN4"

/-- The place among the inputs, which is also the bit that names the input as a trigger source. -/
def index : Input → Fin 8
  | .ch1 => 0
  | .ch2 => 1
  | .ch3 => 2
  | .mic => 3
  | .cap => 4
  | .res => 5
  | .vol => 6
  | .an4 => 7

def selector : Input → UInt8
  | .ch1 => 3
  | .ch2 => 0
  | .ch3 => 1
  | .mic => 2
  | .cap => 5
  | .res => 7
  | .vol => 8
  | .an4 => 4

def amplifier? : Input → Option UInt8
  | .ch1 => some 1
  | .ch2 => some 2
  | _ => none

section Range

variable {α : Type} [Scalar α]

/-- The volts that code zero stands for, at gain one. The first two inputs are inverted. -/
def voltsAtZero : Input → α
  | .ch1 | .ch2 => 16.5
  | .ch3 | .mic => -3.3
  | .cap | .res | .vol | .an4 => 0.0

def voltsAtFullScale : Input → α
  | .ch1 | .ch2 => -16.5
  | .ch3 | .mic | .cap | .res | .vol | .an4 => 3.3

end Range

theorem mem_all (input : Input) : input ∈ all := by cases input <;> decide

theorem index_injective {left right : Input} (equal : left.index = right.index) :
    left = right := by
  cases left <;> cases right <;> first | rfl | exact absurd equal (by decide)

end Input

namespace Output

def all : List Output := [.sq1, .sq2, .sq3, .sq4]

def name : Output → String
  | .sq1 => "SQ1"
  | .sq2 => "SQ2"
  | .sq3 => "SQ3"
  | .sq4 => "SQ4"

def index : Output → Fin 4
  | .sq1 => 0
  | .sq2 => 1
  | .sq3 => 2
  | .sq4 => 3

def mask : Output → UInt8
  | .sq1 => 0x10
  | .sq2 => 0x20
  | .sq3 => 0x40
  | .sq4 => 0x80

end Output

namespace Channel

inductive Error
  | notFound (name : String)
  | notAnalog (output : Output)
  | notLogic (input : Input)
  | offsetOverflow (input : Input)
deriving DecidableEq, Repr

def Error.message : Error → String
  | .notFound name => s!"Channel {name} not found"
  | .notAnalog output => s!"Channel {output.name} is not an analog channel"
  | .notLogic input => s!"Channel {input.name} is not a logic channel"
  | .offsetOverflow input =>
      s!"Buffer offset for channel {input.name} does not fit the device buffer"

def all : List Channel := Input.all.map .analog ++ Output.all.map .logic

def name : Channel → String
  | .analog input => input.name
  | .logic output => output.name

def position : Channel → Nat
  | .analog input => input.index
  | .logic output => 8 + output.index

def lookup (name : String) : Except Error Channel :=
  match all.find? fun channel => channel.name == name with
  | some channel => .ok channel
  | none => .error (.notFound name)

def asInput : Channel → Except Error Input
  | .analog input => .ok input
  | .logic output => .error (.notAnalog output)

def asOutput : Channel → Except Error Output
  | .logic output => .ok output
  | .analog input => .error (.notLogic input)

example : (all.map name).Nodup := by decide
example : all.map position = List.range 12 := by decide

end Channel

end BenchScope
