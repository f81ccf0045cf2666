namespace BenchScope

/-! Reading bytes as UTF-8 when they may be damaged. Every longest run of bytes that begins a
character and cannot be completed becomes one replacement character, and so does every byte that
begins none. -/

namespace Utf8

def replacement : Char := '\ufffd'

/-- A character that has begun: how many bytes it needs after the next one, the bits read so far,
and the range of the next byte. -/
structure Pending where
  owed : Nat
  bits : Nat
  low : UInt8
  high : UInt8
deriving DecidableEq, Repr

/-- What a byte does between characters: the characters that are finished with it, and the one that
it begins. The ranges of the second byte rule out overlong forms, surrogates and numbers above the
last code point. -/
def start (byte : UInt8) : List Char × Option Pending :=
  if byte < 0x80 then ([Char.ofNat byte.toNat], none)
  else if byte < 0xC2 then ([replacement], none)
  else if byte < 0xE0 then ([], some ⟨0, byte.toNat - 0xC0, 0x80, 0xBF⟩)
  else if byte < 0xF0 then
    ([], some ⟨1, byte.toNat - 0xE0, if byte = 0xE0 then 0xA0 else 0x80,
      if byte = 0xED then 0x9F else 0xBF⟩)
  else if byte < 0xF5 then
    ([], some ⟨2, byte.toNat - 0xF0, if byte = 0xF0 then 0x90 else 0x80,
      if byte = 0xF4 then 0x8F else 0xBF⟩)
  else ([replacement], none)

def Pending.accepts (pending : Pending) (byte : UInt8) : Bool :=
  pending.low ≤ byte ∧ byte ≤ pending.high

def Pending.withByte (pending : Pending) (byte : UInt8) : Nat :=
  pending.bits * 64 + (byte.toNat - 0x80)

def advance : Option Pending → UInt8 → List Char × Option Pending
  | none, byte => start byte
  | some pending, byte =>
      if pending.accepts byte then
        match pending.owed with
        | 0 => ([Char.ofNat (pending.withByte byte)], none)
        | owed + 1 => ([], some ⟨owed, pending.withByte byte, 0x80, 0xBF⟩)
      else (replacement :: (start byte).1, (start byte).2)

def decodeFrom : Option Pending → List UInt8 → List Char
  | none, [] => []
  | some _, [] => [replacement]
  | pending, byte :: rest =>
      (advance pending byte).1 ++ decodeFrom (advance pending byte).2 rest

def decode (bytes : List UInt8) : List Char := decodeFrom none bytes

example : decode [0x61, 0xC3, 0xA9, 0xE2, 0x82, 0x28] = ['a', 'é', '\ufffd', '('] := by decide

/-- A surrogate is no character: none of its three bytes belongs to one. -/
example : decode [0xED, 0xA0, 0x80] = ['\ufffd', '\ufffd', '\ufffd'] := by decide

end Utf8

end BenchScope
