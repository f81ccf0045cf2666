import BenchScope.Link.Error
import BenchScope.Text.Blank

namespace BenchScope.Serial

/-! How a serial line moves bytes. Settings are written as a baud rate, a slash, and a letter or
digit each for data bits, parity and stop bits. -/

inductive DataBits
  | five | six | seven | eight
deriving DecidableEq, Repr

inductive Parity
  | none | odd | even
deriving DecidableEq, Repr

inductive StopBits
  | one | two
deriving DecidableEq, Repr

namespace DataBits

def count : DataBits → Nat
  | .five => 5
  | .six => 6
  | .seven => 7
  | .eight => 8

def name : DataBits → String
  | .five => "Five"
  | .six => "Six"
  | .seven => "Seven"
  | .eight => "Eight"

def ofChar? : Char → Option DataBits
  | '5' => some .five
  | '6' => some .six
  | '7' => some .seven
  | '8' => some .eight
  | _ => Option.none

end DataBits

namespace Parity

def count : Parity → Nat
  | .none => 0
  | .odd => 1
  | .even => 1

def name : Parity → String
  | .none => "None"
  | .odd => "Odd"
  | .even => "Even"

def ofChar? : Char → Option Parity
  | 'n' | 'N' => some .none
  | 'o' | 'O' => some .odd
  | 'e' | 'E' => some .even
  | _ => Option.none

end Parity

namespace StopBits

def count : StopBits → Nat
  | .one => 1
  | .two => 2

def name : StopBits → String
  | .one => "One"
  | .two => "Two"

def ofChar? : Char → Option StopBits
  | '1' => some .one
  | '2' => some .two
  | _ => Option.none

end StopBits

structure Settings where
  baudRate : UInt32 := 1000000
  dataBits : DataBits := .eight
  parity : Parity := .none
  stopBits : StopBits := .one
deriving DecidableEq, Repr

namespace Settings

/-! Reading settings. -/

def digitsValue? : List Char → Option Nat
  | [] => none
  | digits =>
      if digits.all Char.isDigit then
        some (digits.foldl (fun value digit => 10 * value + (digit.toNat - '0'.toNat)) 0)
      else none

/-- A baud rate may have one plus sign in front. It is not zero and fits 32 bits. -/
def baudRate? (text : List Char) : Option UInt32 :=
  let digits := match text with
    | '+' :: rest => rest
    | _ => text
  match digitsValue? digits with
  | some value => if 0 < value ∧ value < 4294967296 then some (UInt32.ofNat value) else none
  | none => none

def splitAtSlash? (text : List Char) : Option (List Char × List Char) :=
  match text.dropWhile (· ≠ '/') with
  | [] => none
  | _ :: behind => some (text.takeWhile (· ≠ '/'), behind)

def ofChars? (text : List Char) : Option Settings := do
  let (baud, format) ← splitAtSlash? (trim text)
  let baudRate ← baudRate? baud
  match format with
  | [bits, parity, stop] =>
      return {
        baudRate
        dataBits := ← DataBits.ofChar? bits
        parity := ← Parity.ofChar? parity
        stopBits := ← StopBits.ofChar? stop }
  | _ => none

/-- White space around the settings is ignored, but kept in the error. -/
def parse (text : String) : Except LinkError Settings :=
  match ofChars? text.toList with
  | some settings => .ok settings
  | none => .error (.settings text)

/-- A device that says nothing of settings is used with the usual ones. -/
def choose : Option String → Except LinkError Settings
  | some text => parse text
  | none => .ok {}

/-! How long a transfer may take. -/

def bitsPerByte (settings : Settings) : Nat :=
  1 + settings.dataBits.count + settings.parity.count + settings.stopBits.count

def timeoutMargin : Nat := 10000000

/-- The whole microseconds that `count` bytes take on the wire, computed in 64-bit words. The
product of bits and microseconds wraps around only for transfers of more than a terabyte. -/
def wireTime (settings : Settings) (count : Nat) : UInt64 :=
  UInt64.ofNat settings.bitsPerByte * UInt64.ofNat count * 1000000 / settings.baudRate.toUInt64

def timeout (settings : Settings) (count : Nat) : Nat :=
  (settings.wireTime count).toNat * 1000 + timeoutMargin

example : parse " +0115200/7E2\n" =
    .ok { baudRate := 115200, dataBits := .seven, parity := .even, stopBits := .two } := by
  rfl

example : timeout { baudRate := 9600 } 96 = 110000000 := by decide

end Settings

end BenchScope.Serial
