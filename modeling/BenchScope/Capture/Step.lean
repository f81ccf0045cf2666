import BenchScope.Capture.Basic
import BenchScope.Wire.Exchange

namespace BenchScope

/-! A step does the work of one phase and moves on to the next. A step that fails ends the
capture. -/

abbrev Work (σ β : Type) := Action (CaptureError Float) (Stage σ) β

namespace Work

variable {σ β : Type}

def exchange (action : Exchange ProtocolError σ β) : Work σ β := Action.of fun stage =>
  let (result, host) := action.apply stage.host
  (result.mapError .protocol, { stage with host })

def ofExcept {ε : Type} (wrap : ε → CaptureError Float) : Except ε β → Work σ β
  | .ok value => pure value
  | .error error => throw (wrap error)

def modifyCapture (change : Capture → Capture) : Work σ Unit :=
  modify fun stage => { stage with capture := change stage.capture }

def modifyPanel (change : Panel → Panel) : Work σ Unit :=
  modify fun stage => { stage with panel := change stage.panel }

def modifyHost (change : Host σ → Host σ) : Work σ Unit :=
  modify fun stage => { stage with host := change stage.host }

@[simp] theorem mapError_ok {ε η : Type} (wrap : ε → η) (value : β) :
    (Except.ok value).mapError wrap = .ok value := rfl

variable (stage : Stage σ)

@[simp] theorem apply_exchange (action : Exchange ProtocolError σ β) :
    (exchange action).apply stage =
      ((action.apply stage.host).1.mapError .protocol,
        { stage with host := (action.apply stage.host).2 }) := rfl

@[simp] theorem apply_ofExcept_ok {ε : Type} (wrap : ε → CaptureError Float) (value : β) :
    (ofExcept wrap (.ok value)).apply stage = (.ok value, stage) := rfl

@[simp] theorem apply_ofExcept_error {ε : Type} (wrap : ε → CaptureError Float) (error : ε) :
    (ofExcept wrap (.error error) : Work σ β).apply stage = (.error (wrap error), stage) := rfl

@[simp] theorem apply_modifyCapture (change : Capture → Capture) :
    (modifyCapture change).apply stage =
      (.ok (), { stage with capture := change stage.capture }) := rfl

@[simp] theorem apply_modifyPanel (change : Panel → Panel) :
    (modifyPanel change).apply stage = (.ok (), { stage with panel := change stage.panel }) := rfl

@[simp] theorem apply_modifyHost (change : Host σ → Host σ) :
    (modifyHost change).apply stage = (.ok (), { stage with host := change stage.host }) := rfl

end Work

namespace Stage

variable {σ : Type}

def aborting (stage : Stage σ) : Bool := stage.capture.abortable && stage.host.abortRequested

end Stage

namespace Capture

variable {σ : Type}

open Exchange Work

/-! Configuring: the parameters are checked, and nothing changes when they are refused. -/

def configure : Work σ Phase := do
  let stage ← get
  let parameters := stage.capture.parameters
  let sampling ← ofExcept id (parameters.validate stage.panel stage.capture.limits)
  modifyPanel (·.configure parameters.channels)
  modifyCapture ({ · with sampling, cursor := 0, samples := [] })
  return if parameters.isTriggered then .triggering else .capturing

variable [Link σ]

/-! Triggering: the device is told what to wait for. -/

def sendTrigger : Work σ Phase := do
  let stage ← get
  match stage.capture.parameters.trigger, stage.capture.channels with
  | some trigger, first :: _ =>
      let fields ← ofExcept .trigger (trigger.fields stage.panel first)
      exchange (perform .configureTrigger [.byte fields.source, .word fields.level])
      return .capturing
  | _, _ => return .capturing

/-! Capturing: every channel gets its place in the buffer, and the device starts. -/

def waitForTrigger : UInt8 := 0x80

/-- The selector names the first channel. The device knows the others from the mode. -/
def selector (parameters : Parameters Float) : Except Channel.Error UInt8 :=
  match parameters.channels with
  | [] => .ok 0
  | first :: _ => do
      let input ← first.asInput
      return if parameters.isTriggered then input.selector ||| waitForTrigger else input.selector

def assignOffsets : Work σ Unit := do
  let stage ← get
  let (result, panel) := stage.panel.assignOffsets stage.capture.parameters.sampleCount
  set { stage with panel }
  ofExcept .channel result

def startDevice : Work σ Phase := do
  assignOffsets
  let stage ← get
  let parameters := stage.capture.parameters
  let sampling := stage.capture.sampling
  let selected ← ofExcept .channel (selector parameters)
  exchange (perform sampling.mode.command
    [.byte selected, .word parameters.sampleCount, .word sampling.interval])
  let stage ← get
  modifyCapture ({ · with deadline := some (stage.host.clock + stage.capture.allowedTime) })
  return .polling

/-! Polling: the device is asked whether it is done. -/

structure Status where
  done : Bool
  acquired : UInt16
deriving DecidableEq, Repr

def askStatus : Exchange ProtocolError σ Status := do
  sendCommand .captureStatus
  let done ← readByte
  let acquired ← readWord
  let _ ← awaitAcknowledgement
  return { done := done ≠ 0, acquired }

def poll : Work σ Phase := do
  let status ← exchange askStatus
  modifyCapture ({ · with acquired := status.acquired })
  if status.done then return .retrieving
  let stage ← get
  if stage.capture.deadline.any (· ≤ stage.host.clock) then
    throw (.timeout stage.capture.allowedTime)
  modifyHost (·.pause stage.capture.policy.interval)
  return .polling

/-! Retrieving: the samples of the channel at the cursor are read, one word each. -/

inductive ReadEnd
  | complete
  | short
  | aborted
  | failed (error : ProtocolError)

/-- Read up to `count` samples behind those in `taken`, whose latest comes first. The operator's
wish to abort is looked at before each sample, if it is heeded at all. -/
def readSamples (calibration : Calibration Float) (abortable : Bool) :
    (count : Nat) → (taken : List Float) → Host σ → (ReadEnd × List Float) × Host σ
  | 0, taken, host => ((.complete, taken.reverse), host)
  | count + 1, taken, host =>
      if abortable && host.abortRequested then ((.aborted, taken.reverse), host)
      else
        match readWord.apply host with
        | (.ok code, host) =>
            readSamples calibration abortable count (calibration.scale code :: taken) host
        | (.error (.shortRead ..), host) => ((.short, taken.reverse), host)
        | (.error error, host) => ((.failed error, taken.reverse), host)

def collect (input : Input) : Work σ Phase := do
  let stage ← get
  let capture := stage.capture
  let wanted := capture.parameters.sampleCount.toNat
  let ((finish, samples), host) :=
    readSamples (Calibration.ofPanel stage.panel input) capture.abortable wanted [] stage.host
  set { stage with capture := { capture with samples }, host }
  match finish with
  | .complete => return .emitting
  | .short =>
      modifyHost (·.note (.shortRead input samples.length wanted))
      return .emitting
  | .aborted => throw .aborted
  | .failed error => throw (.protocol error)

def source (stage : Stage σ) : Except (CaptureError Float) (Input × UInt16) :=
  match stage.capture.current? with
  | some (.analog input) =>
      match (stage.panel.state input).offset with
      | some offset => .ok (input, offset)
      | none => .error (.parameters .noOffset)
  | some (.logic output) => .error (.channel (.notAnalog output))
  | none => .error (.parameters .noOffset)

def retrieve : Work σ Phase := do
  let stage ← get
  let (input, offset) ← ofExcept id (source stage)
  exchange (request .retrieveBuffer
    [.word offset, .word stage.capture.parameters.sampleCount])
  collect input

/-! Emitting: the frame is handed over, and stays so when the acknowledgement behind the samples is
missing. -/

def emit : Work σ Phase := do
  modifyCapture handOver
  let _ ← exchange awaitAcknowledgement
  modifyCapture fun capture => { capture with cursor := capture.cursor + 1 }
  let stage ← get
  if stage.capture.cursor < stage.capture.channels.length then return .retrieving
  modifyPanel Panel.clearOffsets
  return .idle

/-! A step as a whole. -/

def work : Phase → Work σ Phase
  | .configuring => configure
  | .triggering => sendTrigger
  | .capturing => startDevice
  | .polling => poll
  | .retrieving => retrieve
  | .emitting => emit
  | .idle => return .idle
  | .aborted => return .aborted

/-- An abort keeps the samples at hand as a last frame; any other error drops them. -/
def lastFrame (capture : Capture) : CaptureError Float → List Frame
  | .aborted => if capture.samples.isEmpty then [] else capture.frameAtHand
  | _ => []

/-- End the capture. Places in the buffer are given up, unless there were none to begin with. -/
def fail (error : CaptureError Float) (stage : Stage σ) : Stage σ where
  capture := { stage.capture with
    samples := []
    frames := stage.capture.frames ++ stage.capture.lastFrame error
    phase := .aborted }
  panel := if stage.capture.phase = .configuring then stage.panel else stage.panel.clearOffsets
  host := stage.host.note (.captureAborted stage.capture.phase error)

def step (stage : Stage σ) : Except (CaptureError Float) Phase × Stage σ :=
  if stage.capture.isFinished then (.ok stage.capture.phase, stage)
  else if stage.aborting then (.error .aborted, fail .aborted stage)
  else
    match (work stage.capture.phase).apply stage with
    | (.ok next, stage) =>
        (.ok next, { stage with capture := { stage.capture with phase := next } })
    | (.error error, stage) => (.error error, fail error stage)

end Capture

end BenchScope
