import BenchScope.Proofs.Device.Usage

namespace BenchScope

/-! A capture gives the instrument back as it got it, but for what the host has gone through. -/

namespace Capture

variable {σ : Type}

private theorem unplaced_of_finished {origin stage : Stage σ} (sound : Sound origin stage)
    (unplaced : origin.panel.Unplaced) (finished : stage.capture.isFinished = true) :
    stage.panel.Unplaced := by
  have holds := sound.phase
  rw [isFinished] at finished
  cases phase : stage.capture.phase <;> rw [phase] at holds finished
  case idle => exact holds.2.2.1
  case aborted =>
    rcases holds with ⟨-, ⟨same, -⟩ | ⟨-, frameless, -⟩⟩
    · rw [same]
      exact unplaced
    · exact frameless
  all_goals cases finished

variable [Link σ]

private theorem isFinished_of_aborting {stage : Stage σ} (aborting : stage.aborting = true) :
    (step stage).2.capture.isFinished = true := by
  rcases equal : step stage with ⟨result, after⟩
  have stepped := stepped_step stage
  rw [equal] at stepped
  cases stepped with
  | rested finished => exact finished
  | stopped => rfl
  | advanced _ goesOn | failed _ goesOn =>
      rw [goesOn] at aborting
      cases aborting

private theorem isFinished_of_runFor {steps : Nat} {stage : Stage σ}
    (ended : (runFor steps stage).1 ≠ .unfinished) :
    (runFor steps stage).2.capture.isFinished = true := by
  induction steps generalizing stage with
  | zero => exact absurd rfl ended
  | succ steps induction =>
      rw [runFor] at ended ⊢
      rcases stepped : step stage with ⟨error | next, after⟩
      · exact isFinished_of_phase (phase_of_failed_step stepped)
      · have phase := phase_of_step stepped
        rw [stepped] at ended
        cases next with
        | idle | aborted => exact isFinished_of_phase phase
        | _ => exact induction ended

theorem sound_runFor {origin stage : Stage σ} (sound : Sound origin stage) (steps : Nat) :
    Sound origin (runFor steps stage).2 := by
  rcases runFor_eq_play steps stage with ⟨count, played⟩
  rw [played]
  exact sound_play sound _

end Capture

namespace Device

variable {σ : Type}

structure Same (start device : Device σ) : Prop where
  version : device.version = start.version
  limits : device.limits = start.limits
  policy : device.policy = start.policy

structure Resting (start : Device σ) (done : List Deed) (device : Device σ) : Prop
    extends start.Same device where
  set : device.panel.SetBy done
  unplaced : device.panel.Unplaced

structure Running (start : Device σ) (done : List Deed) (abortable : Bool)
    (capturing : Capturing σ) : Prop extends start.Same capturing.device where
  origin : ∃ origin : Stage σ, Capture.Sound origin capturing.stage ∧
    origin.capture.abortable = abortable ∧ origin.panel.SetBy done ∧ origin.panel.Unplaced

variable {start device : Device σ} {done : List Deed} {abortable : Bool} {capturing : Capturing σ}

namespace Resting

theorem afterwards {later : List Deed} (resting : start.Resting done device)
    (factors : ∀ name, lastFactor name later = lastFactor name done)
    (bits : ∀ name, lastBits name later = lastBits name done) : start.Resting later device where
  toSame := resting.toSame
  set := resting.set.afterwards factors bits
  unplaced := resting.unplaced

theorem withHost (resting : start.Resting done device) (host : Host σ) :
    start.Resting done { device with host } where
  toSame := ⟨resting.version, resting.limits, resting.policy⟩
  set := resting.set
  unplaced := resting.unplaced

theorem running (resting : start.Resting done device) (parameters : Parameters Float)
    (abortable : Bool) :
    start.Running done abortable (device.withCapture parameters abortable) := by
  rcases resting with ⟨⟨version, limits, policy⟩, set, unplaced⟩
  cases abortable <;>
    exact ⟨⟨version, limits, policy⟩, _, Capture.sound_fresh .., rfl, set, unplaced⟩

end Resting

namespace Running

theorem afterwards {later : List Deed} (running : start.Running done abortable capturing)
    (factors : ∀ name, lastFactor name later = lastFactor name done)
    (bits : ∀ name, lastBits name later = lastBits name done) :
    start.Running later abortable capturing := by
  rcases running with ⟨same, origin, sound, fixed, set, unplaced⟩
  exact ⟨same, origin, sound, fixed, set.afterwards factors bits, unplaced⟩

theorem withHost (running : start.Running done abortable capturing) (host : Host σ) :
    start.Running done abortable
      { capturing with device := { capturing.device with host } } := by
  rcases running with ⟨⟨version, limits, policy⟩, origin, sound, kept⟩
  exact ⟨⟨version, limits, policy⟩, origin, Capture.sound_host host sound, kept⟩

theorem set (running : start.Running done abortable capturing) :
    capturing.device.panel.SetBy done := by
  rcases running with ⟨-, origin, sound, -, set, -⟩
  exact set.ofSameSettings sound.settings

theorem reaches (running : start.Running done abortable capturing) {stage : Stage σ}
    (sound : ∀ origin, Capture.Sound origin capturing.stage → Capture.Sound origin stage) :
    start.Running done abortable (capturing.withStage stage) := by
  rcases running with ⟨⟨version, limits, policy⟩, origin, holds, kept⟩
  exact ⟨⟨version, limits, policy⟩, origin, sound origin holds, kept⟩

theorem resting (running : start.Running done abortable capturing)
    (finished : capturing.capture.isFinished = true) : start.Resting done capturing.device := by
  have set := running.set
  rcases running with ⟨same, origin, sound, -, -, unplaced⟩
  exact ⟨same, set, Capture.unplaced_of_finished sound unplaced finished⟩

end Running

def Progressing (start : Device σ) (done : List Deed) (abortable : Bool) :
    Capturing.Progress σ → Prop
  | .pending capturing => start.Running done abortable capturing
  | .completed _ device | .failed _ device => start.Resting done device

variable [Link σ]

theorem Running.step (running : start.Running done abortable capturing) :
    start.Running done abortable (capturing.withStage (Capture.step capturing.stage).2) :=
  running.reaches fun _ => Capture.sound_step

theorem Running.waitFor (running : start.Running done abortable capturing) (steps : Nat) :
    start.Progressing done abortable (capturing.waitFor steps) := by
  have reached := running.reaches fun _ sound => Capture.sound_runFor sound steps
  rw [Capturing.waitFor_eq]
  cases ending : (Capture.runFor steps capturing.stage).1 with
  | unfinished => exact reached
  | completed | failed =>
      exact reached.resting (Capture.isFinished_of_runFor (by rw [ending]; nofun))

theorem Running.cancel (running : start.Running done true capturing) :
    start.Resting done capturing.cancel.2 := by
  have asked := running.withHost capturing.device.host.requestAbort
  refine (asked.reaches fun _ => Capture.sound_step).resting ?_
  rcases running with ⟨-, origin, sound, fixed, -⟩
  apply Capture.isFinished_of_aborting
  have abortable := sound.abortable.trans fixed
  exact Bool.and_eq_true_iff.mpr ⟨abortable, rfl⟩

def Beginning (start : Device σ) (done : List Deed) : Started σ → Prop
  | .capturing capturing => start.Running done true capturing
  | .refused _ device => start.Resting done device

theorem Resting.startCapture (resting : start.Resting done device) (parameters : Parameters Float) :
    start.Beginning done (device.startCapture parameters) := by
  have reached := (resting.running parameters true).step
  rw [Device.startCapture]
  rcases stepped : Capture.step (device.withCapture parameters true).stage with
    ⟨error | next, after⟩
  · rw [stepped] at reached
    exact reached.resting (Capture.isFinished_of_phase (Capture.phase_of_failed_step stepped))
  · rw [stepped] at reached
    exact reached

end Device

/-! Nothing that is done puts the instrument out of order. -/

namespace Held

variable {σ : Type} {start device : Device σ} {done : List Deed} {capturing : Capturing σ}

def InOrder (start : Device σ) (done : List Deed) : Held σ → Prop
  | .resting device => start.Resting done device
  | .running capturing => start.Running done true capturing
  | .nothing => True

/-- What a deed leaves at hand is in order, once it is known whether the deed has succeeded. -/
def Keeps (start : Device σ) (done : List Deed) (deed : Deed) (outcome : Bool × Held σ) : Prop :=
  outcome.2.InOrder start (if outcome.1 then deed :: done else done)

theorem keeps_of_inOrder {deed : Deed} {outcome : Bool × Held σ}
    (inOrder : outcome.2.InOrder start done)
    (factors : ∀ name, lastFactor name (deed :: done) = lastFactor name done)
    (bits : ∀ name, lastBits name (deed :: done) = lastBits name done) :
    Keeps start done deed outcome := by
  rcases outcome with ⟨_ | _, held⟩
  · exact inOrder
  · cases held with
    | resting device => exact inOrder.afterwards factors bits
    | running capturing => exact inOrder.afterwards factors bits
    | nothing => trivial

theorem inOrder_returned {abortable : Bool} {progress : Capturing.Progress σ}
    (progressing : start.Progressing done abortable progress) :
    (returned progress).2.InOrder start done := by
  cases progress with
  | pending => trivial
  | completed | failed => exact progressing

private theorem operate_of_talks {ε β : Type} {operation : Device.Operation ε σ β}
    (talks : Device.Talks operation) (device : Device σ) :
    ∃ host, (operate operation device).2 = .resting { device with host } := by
  rcases talks device with ⟨host, kept⟩
  refine ⟨host, ?_⟩
  rw [operate]
  rcases applied : operation.apply device with ⟨error | value, after⟩ <;>
  · rw [applied] at kept
    exact congrArg Held.resting kept

theorem inOrder_operate {ε β : Type} {operation : Device.Operation ε σ β}
    (talks : Device.Talks operation) (resting : start.Resting done device) :
    (operate operation device).2.InOrder start done := by
  rcases operate_of_talks talks device with ⟨host, kept⟩
  rw [kept]
  exact resting.withHost host

private theorem keeps_setResolution (resting : start.Resting done device) (name : String)
    (bits : UInt8) : Keeps start done (.setResolution name bits)
      (operate (Device.setResolution name bits) device) := by
  rw [operate]
  rcases device.setResolution_cases name bits with
    ⟨error, applied⟩ | ⟨input, resolution, rfl, rfl, amplified, applied⟩
  · rw [applied]
    exact resting
  · rw [applied]
    exact ⟨⟨resting.version, resting.limits, resting.policy⟩,
      resting.set.setResolution resolution amplified, resting.unplaced.modify input _ fun _ => rfl⟩

variable [FiniteLink σ]

private theorem keeps_setGain (resting : start.Resting done device) (name : String)
    (factor : UInt8) :
    Keeps start done (.setGain name factor) (operate (Device.setGain name factor) device) := by
  rw [operate]
  rcases device.setGain_cases name factor with
    ⟨error, host, applied⟩ | ⟨change, host, rfl, rfl, amplified, applied⟩
  · rw [applied]
    exact resting.withHost host
  · rw [applied]
    exact ⟨⟨resting.version, resting.limits, resting.policy⟩,
      resting.set.setGain change.gain amplified, resting.unplaced.modify _ _ fun _ => rfl⟩

private theorem keeps_performResting (resting : start.Resting done device) (deed : Deed) :
    Keeps start done deed (performResting device deed) := by
  cases deed with
  | setGain name factor => exact keeps_setGain resting name factor
  | setResolution name bits => exact keeps_setResolution resting name bits
  | generateWaves settings =>
      exact keeps_of_inOrder (inOrder_operate (Device.talks_generateWaves settings) resting)
        (fun _ => rfl) fun _ => rfl
  | setDigitalState levels =>
      exact keeps_of_inOrder (inOrder_operate (Device.talks_setDigitalState levels) resting)
        (fun _ => rfl) fun _ => rfl
  | captureNow parameters =>
      rw [performResting, Device.captureNow_eq_captureFor]
      have captured := (resting.running parameters false).waitFor
        (Capture.stepBound (device.withCapture parameters false).stage)
      exact keeps_of_inOrder (inOrder_returned captured) (fun _ => rfl) fun _ => rfl
  | startCapture parameters =>
      have begun := resting.startCapture parameters
      rw [performResting]
      cases started : device.startCapture parameters with
      | capturing capturing =>
          rw [started] at begun
          exact begun.afterwards (fun _ => rfl) fun _ => rfl
      | refused error after =>
          rw [started] at begun
          exact begun
  | abort => exact (resting.withHost _).afterwards (fun _ => rfl) fun _ => rfl
  | pause nanoseconds => exact (resting.withHost _).afterwards (fun _ => rfl) fun _ => rfl
  | tryResult | wait | cancel => exact resting

private theorem keeps_performRunning (running : start.Running done true capturing) (deed : Deed) :
    Keeps start done deed (performRunning capturing deed) := by
  cases deed with
  | tryResult =>
      have progressed := running.waitFor 1
      change start.Progressing done true capturing.tryResult at progressed
      rw [performRunning]
      cases stepped : capturing.tryResult with
      | pending later =>
          rw [stepped] at progressed
          exact progressed.afterwards (fun _ => rfl) fun _ => rfl
      | completed | failed =>
          rw [stepped] at progressed
          exact keeps_of_inOrder (inOrder_returned progressed) (fun _ => rfl) fun _ => rfl
  | wait =>
      rw [performRunning, Capturing.wait_eq_waitFor]
      have ended := running.waitFor (Capture.stepBound capturing.stage)
      exact keeps_of_inOrder (inOrder_returned ended) (fun _ => rfl) fun _ => rfl
  | cancel => exact running.cancel.afterwards (fun _ => rfl) fun _ => rfl
  | abort => exact (running.withHost _).afterwards (fun _ => rfl) fun _ => rfl
  | pause nanoseconds => exact (running.withHost _).afterwards (fun _ => rfl) fun _ => rfl
  | _ => exact running

end Held

namespace Usage

variable {σ : Type} [FiniteLink σ] {start : Device σ}

theorem inOrder_act {usage : Usage σ} (inOrder : usage.held.InOrder start usage.done)
    (deed : Deed) :
    (usage.act deed).held.InOrder start (usage.act deed).done := by
  rcases usage with ⟨held, done⟩
  cases held with
  | resting device => exact Held.keeps_performResting inOrder deed
  | running capturing => exact Held.keeps_performRunning inOrder deed
  | nothing => trivial

theorem inOrder_play {usage : Usage σ} (inOrder : usage.held.InOrder start usage.done)
    (deeds : List Deed) : (usage.play deeds).held.InOrder start (usage.play deeds).done := by
  induction deeds generalizing usage with
  | nil => exact inOrder
  | cons deed deeds induction => exact induction (inOrder_act inOrder deed)

end Usage

/-! What the channels of an instrument at rest are like. -/

inductive Entry
  | input (name : String) (index : Fin 8) (selector : UInt8) (voltsAtZero voltsAtFullScale : Float)
      (amplifier? : Option UInt8) (gain : UInt8) (fullScale : UInt16) (offset : Option UInt16)
  | output (name : String) (index : Fin 4) (mask : UInt8)

def Panel.entry (panel : Panel) : Channel → Entry
  | .analog input =>
      let state := panel.state input
      .input input.name input.index input.selector input.voltsAtZero input.voltsAtFullScale
        input.amplifier? state.gain.factor state.resolution.fullScale state.offset
  | .logic output => .output output.name output.index output.mask

def Entry.asSet (done : List Deed) : Entry → Entry
  | .input name index selector voltsAtZero voltsAtFullScale amplifier? _ _ _ =>
      .input name index selector voltsAtZero voltsAtFullScale amplifier?
        (lastFactor name done) (highestCode (lastBits name done)) none
  | .output name index mask => .output name index mask

namespace Usage

variable {σ : Type}

structure AtRest (start : Device σ) (done : List Deed) (device : Device σ) : Prop
    extends start.Same device where
  unplaced : device.panel.Unplaced
  entries : ∀ channel, device.panel.entry channel = (start.panel.entry channel).asSet done
  gains : ∀ input : Input, lastFactor input.name done ∈ Gain.factors
  resolutions : ∀ input : Input, lastBits input.name done ∈ [10, 12]
  /-- Only the first two inputs can be set. -/
  others : ∀ input, input ≠ Input.ch1 → input ≠ Input.ch2 →
    lastFactor input.name done = 1 ∧ highestCode (lastBits input.name done) = 1023

structure Calibrated (done : List Deed) (panel : Panel) (input : Input) : Prop where
  line : (Calibration.ofPanel panel input : Calibration Float) =
    .between input.voltsAtZero input.voltsAtFullScale (lastFactor input.name done)
      (highestCode (lastBits input.name done))
  gain : lastFactor input.name done ≠ 0
  fullScale : highestCode (lastBits input.name done) ≠ 0

structure Orderly (start : Device σ) (usage : Usage σ) : Prop where
  resting : ∀ device, usage.held = .resting device → AtRest start usage.done device
  calibrated : ∀ device, usage.held.device? = some device →
    ∀ input, Calibrated usage.done device.panel input

private theorem calibrated_of_setBy {done : List Deed} {panel : Panel} (set : panel.SetBy done)
    (input : Input) : Calibrated done panel input where
  line := by
    rw [Calibration.ofPanel, set.gain, Resolution.fullScale_eq_highestCode, set.resolution]
  gain := by
    rw [← set.gain]
    exact (panel.state input).gain.factor_ne_zero
  fullScale := by
    rw [← set.resolution, ← Resolution.fullScale_eq_highestCode]
    exact (panel.state input).resolution.fullScale_ne_zero

private theorem atRest_of_resting {start device : Device σ} {done : List Deed}
    (resting : start.Resting done device) : AtRest start done device where
  toSame := resting.toSame
  unplaced := resting.unplaced
  entries channel := by
    cases channel with
    | logic output => rfl
    | analog input =>
        simp only [Panel.entry, Entry.asSet, resting.set.gain, resting.unplaced input,
          Resolution.fullScale_eq_highestCode, resting.set.resolution]
  gains input := by
    rw [← resting.set.gain]
    exact (device.panel.state input).gain.factor_mem_factors
  resolutions input := by
    rw [← resting.set.resolution]
    exact (device.panel.state input).resolution.bits_mem_all
  others input notFirst notSecond := by
    have without : input.amplifier? = none := by
      cases input <;> first | rfl | contradiction
    rcases resting.set.plain input without with ⟨gain, resolution⟩
    rw [← resting.set.gain, ← resting.set.resolution, gain, resolution]
    exact ⟨rfl, rfl⟩

theorem orderly_of_inOrder {start : Device σ} {usage : Usage σ}
    (inOrder : usage.held.InOrder start usage.done) : Orderly start usage := by
  rcases usage with ⟨held, done⟩
  cases held with
  | resting device =>
      have resting : start.Resting done device := inOrder
      refine ⟨fun other same => ?_, fun other same => ?_⟩
      · cases same
        exact atRest_of_resting resting
      · cases same
        exact calibrated_of_setBy resting.set
  | running capturing =>
      have running : start.Running done true capturing := inOrder
      refine ⟨fun _ resting => (nomatch resting), fun other same => ?_⟩
      cases same
      exact calibrated_of_setBy running.set
  | nothing => exact ⟨fun _ resting => (nomatch resting), fun _ same => nomatch same⟩

/-- However a new instrument is used, it stays in order. A call may take any number of steps before
it comes back, as a link may claim any supply. -/
theorem orderly_play [FiniteLink σ] (version : String) (limits : Limits) (policy : PollPolicy)
    (host : Host σ) (deeds : List Deed) :
    let start : Device σ := { version, limits, policy, host }
    Orderly start (Usage.play { held := .resting start } deeds) := by
  intro start
  have begun : start.Resting [] start := ⟨⟨rfl, rfl, rfl⟩, .start, Panel.unplaced_start⟩
  have inOrder : (Held.resting start).InOrder start [] := begun
  exact orderly_of_inOrder (inOrder_play inOrder deeds)

def terseDevice : Device Script where
  version := "PSLab V6"
  host := { link := { incoming := [.byte 1] } }

example :
    let usage := Usage.play { held := .resting terseDevice } [.setGain "CH1" 5, .setGain "CH1" 2]
    lastFactor "CH1" usage.done = 5 ∧
      usage.held.device?.map (fun device => (device.panel.state .ch1).gain) = some .x5 := by
  decide +kernel

end Usage

end BenchScope
