import BenchScope.Device.Basic
import BenchScope.Serial.Link

namespace BenchScope

/-! Finding out what is at the other end of a link, by the version that it reports. -/

inductive ConnectError
  | link (error : LinkError)
  | protocol (error : ProtocolError)
  | incompatible (line version : String)
deriving DecidableEq, Repr

def ConnectError.message : ConnectError → String
  | .link error => s!"Link error: {error.message}"
  | .protocol error => s!"Protocol error: {error.message}"
  | .incompatible line version =>
      s!"Device on {line} reported version '{version}', which is not a PSLab"

namespace Device

/-- Versions of devices that understand the commands begin with one of these. -/
def compatibleFamilies : List String := ["PSLab", "CSpark"]

def isCompatible (version : String) : Bool :=
  compatibleFamilies.any fun family => family.toList.isPrefixOf version.toList

variable {σ : Type}

def probe [Link σ] (line : String) (host : Host σ) :
    Except ConnectError (Device σ) × Host σ :=
  match Exchange.handshake.apply host with
  | (.error error, host) => (.error (.protocol error), host)
  | (.ok version, host) =>
      if isCompatible version then (.ok { version, host }, host)
      else (.error (.incompatible line version), host)

def reach (openLine : String → Serial.Settings → Except LinkError Serial.Line) (line : String)
    (settings : Option String) : Except LinkError (Host Serial.Connection) := do
  let settings ← Serial.Settings.choose settings
  let opened ← openLine line settings
  let connection ← Serial.Connection.establish opened settings
  return { link := connection }

def connect (openLine : String → Serial.Settings → Except LinkError Serial.Line) (line : String)
    (settings : Option String) : Except ConnectError (Device Serial.Connection) :=
  match reach openLine line settings with
  | .error error => .error (.link error)
  | .ok host => (probe line host).1

end Device

end BenchScope
