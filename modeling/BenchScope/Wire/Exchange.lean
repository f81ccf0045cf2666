import BenchScope.Host
import BenchScope.Text.Blank
import BenchScope.Text.Utf8
import BenchScope.Wire.Error
import BenchScope.Wire.Parameter

namespace BenchScope

/-! Sending commands and reading replies. -/

namespace Exchange

variable {σ : Type} [Link σ]

def write (bytes : List UInt8) : Exchange ProtocolError σ Nat := Action.of fun host =>
  let (outcome, link) := Link.write bytes host.link
  (outcome.result.mapError .link, host.after outcome link)

def read (count : Nat) : Exchange ProtocolError σ (List UInt8) := Action.of fun host =>
  let (outcome, link) := Link.read count host.link
  (outcome.result.mapError .link, host.after outcome link)

/-- Each parameter is a write call of its own. A parameter that is not taken whole is noticed and
stops nothing. -/
def send : List Parameter → Exchange ProtocolError σ Unit
  | [] => pure ()
  | parameter :: rest => do
      let sent ← write parameter.bytes
      if sent < parameter.width then
        modify (·.note (.shortWrite parameter sent))
      send rest

def sendCommand (command : Command) : Exchange ProtocolError σ Unit := send command.parameters

def awaitAcknowledgement : Exchange ProtocolError σ UInt8 := do
  match ← read 1 with
  | [] => throw (.noAcknowledgement none)
  | byte :: _ =>
      if isAcknowledgement byte then return byte
      else throw (.noAcknowledgement (some byte))

def readByte : Exchange ProtocolError σ UInt8 := do
  match ← read 1 with
  | [] => throw (.shortRead 1 0)
  | byte :: _ => return byte

def readWord : Exchange ProtocolError σ UInt16 := do
  match ← read 2 with
  | low :: high :: _ => return wordOfBytes low high
  | bytes => throw (.shortRead 2 bytes.length)

def request (command : Command) (parameters : List Parameter) : Exchange ProtocolError σ Unit := do
  sendCommand command
  send parameters

def perform (command : Command) (parameters : List Parameter) : Exchange ProtocolError σ Unit := do
  request command parameters
  let _ ← awaitAcknowledgement

/-! The version of a device is a line of text. -/

def versionLength : Nat := 15

/-- The bytes before a line feed, before the device falls silent, or up to the given number. -/
def readLine : Nat → Exchange ProtocolError σ (List UInt8)
  | 0 => return []
  | limit + 1 => do
      match ← read 1 with
      | [] => return []
      | byte :: _ =>
          if byte = 0x0A then return []
          else return byte :: (← readLine limit)

def versionText (line : List UInt8) : String := String.ofList (trimEnd (Utf8.decode line))

def handshake : Exchange ProtocolError σ String := do
  sendCommand .version
  return versionText (← readLine versionLength)

end Exchange

end BenchScope
