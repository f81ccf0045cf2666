import BenchScope.Link.Error

namespace BenchScope

/-! What can go wrong in an exchange with the device. -/

inductive ProtocolError
  | noAcknowledgement (received : Option UInt8)
  | shortRead (expected actual : Nat)
  | link (error : LinkError)
deriving DecidableEq, Repr

def receivedText : Option UInt8 → String
  | none => "None"
  | some byte => s!"Some({byte})"

def ProtocolError.message : ProtocolError → String
  | .noAcknowledgement received => s!"Did not receive ACK, got {receivedText received}"
  | .shortRead expected actual => s!"Short read: expected {expected} bytes, got {actual}"
  | .link error => s!"Link error: {error.message}"

/-- An odd byte acknowledges a command. -/
def isAcknowledgement (byte : UInt8) : Bool := byte &&& 1 = 1

end BenchScope
