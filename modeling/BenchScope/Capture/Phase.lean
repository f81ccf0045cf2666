namespace BenchScope

/-! A capture runs through configuring, triggering (when it waits for a trigger), capturing and
polling, then through retrieving and emitting once for each channel, and ends idle. It ends aborted
when anything fails. -/

inductive Phase
  | idle
  | configuring
  | triggering
  | capturing
  | polling
  | retrieving
  | emitting
  | aborted
deriving DecidableEq, Repr

namespace Phase

def name : Phase → String
  | .idle => "Idle"
  | .configuring => "Configuring"
  | .triggering => "Triggering"
  | .capturing => "Capturing"
  | .polling => "Polling"
  | .retrieving => "Retrieving"
  | .emitting => "Emitting"
  | .aborted => "Aborted"

def isFinished (phase : Phase) : Bool := phase = .idle ∨ phase = .aborted

end Phase

end BenchScope
