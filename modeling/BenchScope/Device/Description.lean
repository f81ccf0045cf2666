import BenchScope.Device.Capturing
import BenchScope.Text.Quoted

namespace BenchScope

/-! The description of an instrument on one line, for the eyes of a developer. -/

namespace Description

def fields (name : String) (parts : List String) : String :=
  name ++ " \x7b " ++ String.intercalate ", " parts ++ " \x7d"

def list (items : List String) : String := "[" ++ String.intercalate ", " items ++ "]"

def optional (item : Option String) : String :=
  match item with
  | none => "None"
  | some text => s!"Some({text})"

def number (value : Float) : String := NumberStyle.description.text value

def modeTicks (ticks : ModeTicks) : String :=
  list [toString ticks.one, toString ticks.two, toString ticks.four]

def limits (limits : Limits) : String :=
  fields "CaptureLimits" [
    s!"capacity: {limits.capacity}",
    s!"min_samples: {limits.minSamples}",
    "min_timegap_ticks: " ++ list [modeTicks limits.untriggered, modeTicks limits.triggered]]

def policy (policy : PollPolicy) : String :=
  fields "PollPolicy" [
    s!"margin: {elapsedText policy.margin}",
    s!"interval: {elapsedText policy.interval}"]

def channel (channel : Channel) : String := s!"ChannelId({channel.position})"

def trigger (trigger : Trigger Float) : String :=
  fields "AnalogTrigger" [
    "channel: " ++ channel trigger.channel,
    "volts: " ++ number trigger.volts,
    s!"prescaler: {trigger.prescaler}"]

def parameters (parameters : Parameters Float) : String :=
  fields "CaptureParameters" [
    "channels: " ++ list (parameters.channels.map channel),
    s!"sample_count: {parameters.sampleCount}",
    "samplerate: " ++ number parameters.rate,
    "trigger: " ++ optional (parameters.trigger.map trigger)]

def session (capture : Capture) : String :=
  fields "CaptureSession" [
    "params: " ++ parameters capture.parameters,
    s!"mode: {capture.sampling.mode.name}",
    s!"timegap: {capture.sampling.interval}",
    s!"cursor: {capture.cursor}",
    "samples: " ++ list (capture.samples.map number),
    "poll_deadline: " ++ optional (capture.deadline.map elapsedText),
    s!"samples_acquired: {capture.acquired}"]

def capture (capture : Capture) (abortRequested : Bool) : String :=
  fields "CaptureOrchestrator" [
    s!"state: {capture.phase.name}",
    "session: " ++ session capture,
    "limits: " ++ limits capture.limits,
    "poll: " ++ policy capture.policy,
    s!"abort: AbortHandle({abortRequested})"]

end Description

def Device.description {σ : Type} (device : Device σ) : String :=
  Description.fields "IdlePslab" [
    "version: " ++ quoted device.version,
    "limits: " ++ Description.limits device.limits,
    "poll: " ++ Description.policy device.policy,
    ".."]

def Capturing.description {σ : Type} (capturing : Capturing σ) : String :=
  Description.fields "CapturingPslab" [
    "pslab: " ++ capturing.device.description,
    "orchestrator: " ++
      Description.capture capturing.capture capturing.device.host.abortRequested,
    ".."]

end BenchScope
