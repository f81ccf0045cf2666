import BenchScope.Capture.Step

namespace BenchScope

/-! Running a capture to its end. On a link that delivers only so many bytes a capture ends after a
number of steps that is known beforehand: each question for the status uses up four bytes. -/

namespace Capture

variable {σ : Type}

inductive Ending
  | completed
  | failed (error : CaptureError Float)
  | unfinished

section

variable [Link σ]

def runFor : Nat → Stage σ → Ending × Stage σ
  | 0, stage => (.unfinished, stage)
  | steps + 1, stage =>
      match step stage with
      | (.error error, stage) => (.failed error, stage)
      | (.ok .idle, stage) => (.completed, stage)
      | (.ok .aborted, stage) => (.failed .aborted, stage)
      | (.ok _, stage) => runFor steps stage

end

variable [FiniteLink σ]

def stepBound (stage : Stage σ) : Nat :=
  FiniteLink.supply stage.host.link / 4 + 2 * stage.capture.channels.length + 4

def run (stage : Stage σ) : Ending × Stage σ := runFor (stepBound stage) stage

end Capture

end BenchScope
