import BenchScope.Wire.Command

namespace BenchScope

/-! Parameters are bytes and 16-bit words. A word is sent with its low byte first. -/

def wordBytes (word : UInt16) : List UInt8 :=
  [UInt8.ofNat (word.toNat % 256), UInt8.ofNat (word.toNat / 256)]

def wordOfBytes (low high : UInt8) : UInt16 := UInt16.ofNat (low.toNat + 256 * high.toNat)

theorem wordOfBytes_wordBytes (word : UInt16) :
    wordOfBytes (UInt8.ofNat (word.toNat % 256)) (UInt8.ofNat (word.toNat / 256)) = word := by
  have bound := word.toNat_lt
  apply UInt16.toNat_inj.mp
  simp only [wordOfBytes, UInt16.toNat_ofNat', UInt8.toNat_ofNat']
  omega

inductive Parameter
  | byte (value : UInt8)
  | word (value : UInt16)
deriving DecidableEq, Repr

namespace Parameter

def bytes : Parameter → List UInt8
  | .byte value => [value]
  | .word value => wordBytes value

def width : Parameter → Nat
  | .byte _ => 1
  | .word _ => 2

@[simp] theorem length_bytes (parameter : Parameter) :
    parameter.bytes.length = parameter.width := by
  cases parameter <;> rfl

def text : Parameter → String
  | .byte value => s!"U8({value})"
  | .word value => s!"U16({value})"

end Parameter

def Command.parameters (command : Command) : List Parameter :=
  [.byte command.group, .byte command.code]

end BenchScope
