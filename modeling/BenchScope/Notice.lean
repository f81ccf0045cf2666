import BenchScope.Capture.Error
import BenchScope.Capture.Phase
import BenchScope.Wire.Parameter

namespace BenchScope

/-! What the operator should know of, beside the result of an operation. -/

inductive Notice
  | shortWrite (parameter : Parameter) (sent : Nat)
  | shortRead (input : Input) (kept wanted : Nat)
  | captureAborted (phase : Phase) (error : CaptureError Float)
  | wavesUnacknowledged
  | stateUnacknowledged

namespace Notice

inductive Severity
  | warning | error
deriving DecidableEq, Repr

def Severity.label : Severity → String
  | .warning => "WARN"
  | .error => "ERROR"

def severity : Notice → Severity
  | .shortWrite .. | .shortRead .. | .captureAborted .. => .warning
  | .wavesUnacknowledged | .stateUnacknowledged => .error

def message : Notice → String
  | .shortWrite parameter sent =>
      s!"Short write for {parameter.text}: {sent} of {parameter.width} bytes sent"
  | .shortRead input kept wanted =>
      s!"Short read from {input.name}, keeping {kept} of {wanted} samples"
  | .captureAborted phase error => s!"Capture aborted in {phase.name}: {error.message}"
  | .wavesUnacknowledged => "Did not receive ACK for PWM generate commands"
  | .stateUnacknowledged => "Did not receive ACK for set state"

def text (notice : Notice) : String := notice.severity.label ++ " " ++ notice.message

end Notice

end BenchScope
