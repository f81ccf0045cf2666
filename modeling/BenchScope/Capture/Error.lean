import BenchScope.Capture.Limits
import BenchScope.Number.Style
import BenchScope.Text.Elapsed
import BenchScope.Trigger
import BenchScope.Wire.Error

namespace BenchScope

/-! Why a capture is refused, and why it fails. -/

inductive ParameterError (α : Type)
  | channelCount (count : Nat)
  | notAnalog (output : Output)
  | enabledTwice (channel : Channel)
  | sampleCount (requested fewest : UInt16) (most channels : Nat)
  | rate (requested slowest fastest : α) (mode : Mode) (triggered : Bool)
  | interval (ticks : α)
  | noOffset

def ParameterError.message : ParameterError Float → String
  | .channelCount count =>
      s!"{count} channels requested, between 1 and {maxChannels} are supported"
  | .notAnalog output => (Channel.Error.notAnalog output).message
  | .enabledTwice channel => s!"channel {channel.name} enabled twice"
  | .sampleCount requested fewest most channels =>
      s!"{requested} samples requested, {fewest} to {most} allowed with {channels} channel(s)"
  | .rate requested slowest fastest mode triggered =>
      s!"samplerate {NumberStyle.message.text requested} Hz outside " ++
        s!"{NumberStyle.wholeText slowest}..={NumberStyle.wholeText fastest} Hz " ++
        s!"for {mode.name} mode" ++ (if triggered then " with trigger" else "")
  | .interval ticks => s!"sample interval of {NumberStyle.message.text ticks} ticks"
  | .noOffset => "buffer offset not assigned"

inductive CaptureError (α : Type)
  | parameters (error : ParameterError α)
  | protocol (error : ProtocolError)
  | timeout (allowed : Nat)
  | aborted
  | trigger (error : TriggerError)
  | channel (error : Channel.Error)

def CaptureError.message : CaptureError Float → String
  | .parameters error => s!"Invalid capture parameters: {error.message}"
  | .protocol error => s!"Protocol error: {error.message}"
  | .timeout allowed => s!"Capture did not complete within {elapsedText allowed}"
  | .aborted => "Capture aborted"
  | .trigger error => s!"Trigger error: {error.message}"
  | .channel error => s!"Channel error: {error.message}"

end BenchScope
