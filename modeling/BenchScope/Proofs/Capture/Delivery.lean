import BenchScope.Proofs.Capture.Conversation
import BenchScope.Proofs.Wire.Delivery

namespace BenchScope

open Exchange

/-! A capture on a device that does what it is asked for. The bytes that the device sends are not
framed, so each phase has to read exactly those that are meant for it. -/

structure Delay where
  counter : UInt16
  acknowledgement : UInt8

structure Block where
  codes : List UInt16
  acknowledgement : UInt8

structure Replies where
  armed : UInt8
  started : UInt8
  delays : List Delay
  flag : UInt8
  counter : UInt16
  ready : UInt8
  blocks : List Block

def statusBytes (flag : UInt8) (counter : UInt16) (acknowledgement : UInt8) : List UInt8 :=
  flag :: wordBytes counter ++ [acknowledgement]

def Delay.bytes (delay : Delay) : List UInt8 := statusBytes 0 delay.counter delay.acknowledgement

def Block.bytes (block : Block) : List UInt8 :=
  block.codes.flatMap wordBytes ++ [block.acknowledgement]

namespace Replies

def bytes (replies : Replies) (triggered : Bool) : List UInt8 :=
  (if triggered then [replies.armed] else []) ++ ([replies.started] ++
    (replies.delays.flatMap Delay.bytes ++
      (statusBytes replies.flag replies.counter replies.ready ++
        replies.blocks.flatMap Block.bytes)))

structure Suits (replies : Replies) (parameters : Parameters Float) : Prop where
  armed : isAcknowledgement replies.armed = true
  started : isAcknowledgement replies.started = true
  delays : ∀ delay ∈ replies.delays, isAcknowledgement delay.acknowledgement = true
  flag : replies.flag ≠ 0
  ready : isAcknowledgement replies.ready = true
  count : replies.blocks.length = parameters.channels.length
  blocks : ∀ block ∈ replies.blocks, block.codes.length = parameters.sampleCount.toNat ∧
    isAcknowledgement block.acknowledgement = true

end Replies

def Block.frame (block : Block) (rate : Float) (panel : Panel) (input : Input) : Frame :=
  ⟨input, rate, block.codes.map (Calibration.ofPanel panel input).scale⟩

namespace Capture

variable {σ : Type} [FiniteLink σ]

/-- No answer that the device is not done comes at the deadline or later. -/
def Punctual (stage : Stage σ) : Prop :=
  ∀ steps status host deadline,
    (stage.play (List.replicate steps .step)).capture.phase = .polling →
    (stage.play (List.replicate steps .step)).capture.deadline = some deadline →
    askStatus.apply (stage.play (List.replicate steps .step)).host = (.ok status, host) →
    status.done = false → host.clock < deadline

theorem Punctual.later {steps : Nat} {stage after : Stage σ} (punctual : Punctual stage)
    (leads : Leads steps stage after) : Punctual after := by
  intro more status host deadline
  rw [← leads.plays, ← Stage.play_append, ← List.replicate_add]
  exact punctual (steps + more) status host deadline

private theorem punctual_of_finished {stage : Stage σ} (count : Nat)
    (finished : (stage.play (List.replicate count .step)).capture.isFinished = true)
    (early : ∀ steps < count,
      (stage.play (List.replicate steps .step)).capture.phase = .polling →
      (askStatus.apply (stage.play (List.replicate steps .step)).host).2.clock <
        (stage.play (List.replicate steps .step)).capture.deadline.getD 0) : Punctual stage := by
  intro steps status host deadline polling timed asked _
  by_cases bound : steps < count
  · have before := early steps bound polling
    rwa [asked, timed] at before
  · rcases Nat.exists_eq_add_of_le (Nat.le_of_not_lt bound) with ⟨more, rfl⟩
    rw [List.replicate_add, Stage.play_append] at polling
    rw [(play_of_finished finished _).1] at polling
    rw [isFinished_of_phase polling] at finished
    cases finished

variable {brings : List UInt8 → σ → Prop} {session : Session} {origin stage : Stage σ}

structure Ready (brings : List UInt8 → σ → Prop) (origin : Stage σ) (bytes : List UInt8)
    (stage : Stage σ) : Prop extends Sound origin stage where
  host : stage.host.Expects brings bytes

private theorem step_of_work {after : Stage σ} {next : Phase}
    (unfinished : stage.capture.isFinished = false) (calm : stage.host.abortRequested = false)
    (worked : (work stage.capture.phase).apply stage = (.ok next, after)) :
    step stage = (.ok next, { after with capture := { after.capture with phase := next } }) := by
  rw [step, if_neg (by simp [unfinished]), if_neg (by simp [Stage.aborting, calm]), worked]

private theorem ready_of_work {bytes rest : List UInt8} {after : Stage σ} {next : Phase}
    (ready : Ready brings origin bytes stage) (unfinished : stage.capture.isFinished = false)
    (worked : (work stage.capture.phase).apply stage = (.ok next, after))
    (expects : after.host.Expects brings rest) :
    Ready brings origin rest { after with capture := { after.capture with phase := next } } := by
  have sound := sound_step ready.toSound
  rw [step_of_work unfinished ready.host.calm worked] at sound
  exact ⟨sound, expects⟩

def Advances (brings : List UInt8 → σ → Prop) (origin : Stage σ) (steps : Nat) (stage : Stage σ)
    (next : Phase) (rest : List UInt8) (holds : Capture → Prop) : Prop :=
  ∃ after, Leads steps stage after ∧ Ready brings origin rest after ∧
    after.capture.phase = next ∧ holds after.capture

private theorem advances_of_work {bytes rest : List UInt8} {next : Phase} {holds : Capture → Prop}
    (after : Stage σ) (ready : Ready brings origin bytes stage)
    (unfinished : stage.capture.isFinished = false) (going : next.isFinished = false)
    (worked : (work stage.capture.phase).apply stage = (.ok next, after))
    (expects : after.host.Expects brings rest)
    (known : holds { after.capture with phase := next }) :
    Advances brings origin 1 stage next rest holds :=
  ⟨_, leads_of_step (step_of_work unfinished ready.host.calm worked) going,
    ready_of_work ready unfinished worked expects, rfl, known⟩

/-! The phases before the samples. -/

theorem selector_of_accepted {parameters : Parameters Float} {panel : Panel} {sampling : Sampling}
    (accepted : parameters.Accepted panel sampling) :
    ∃ selected, selector parameters = .ok selected := by
  rcases accepted.inputs with ⟨inputs, channels, -⟩
  rw [selector, channels]
  cases inputs with
  | nil => exact ⟨_, rfl⟩
  | cons first rest => exact ⟨_, rfl⟩

private theorem advances_configure {bytes : List UInt8} (begins : session.Begins origin)
    (ready : Ready brings origin bytes stage) (phase : stage.capture.phase = .configuring) :
    Advances brings origin 1 stage
      (if session.parameters.isTriggered then .triggering else .capturing) bytes fun _ => True := by
  have holds := ready.phase
  rw [phase] at holds
  have valid := begins.valid
  rw [← parameters_of_begins begins ready.toInherits, ← begins.panel, ← holds.2, ← ready.limits]
    at valid
  rw [← parameters_of_begins begins ready.toInherits]
  refine advances_of_work { stage with
    capture := { stage.capture with sampling := session.sampling, cursor := 0, samples := [] }
    panel := stage.panel.configure stage.capture.parameters.channels }
    ready (isFinished_of_phase phase) ?_ ?_ ready.host trivial
  · split <;> rfl
  · rw [phase, work]
    simp only [configure, Action.apply_bind, Action.apply_get, valid]
    rfl

private theorem advances_sendTrigger {byte : UInt8} {rest : List UInt8} (steady : Steady brings)
    (begins : session.Begins origin) (odd : isAcknowledgement byte = true)
    (ready : Ready brings origin ([byte] ++ rest) stage)
    (phase : stage.capture.phase = .triggering) :
    Advances brings origin 1 stage .capturing rest fun _ => True := by
  have holds := ready.phase
  rw [phase] at holds
  have parameters := parameters_of_begins begins ready.toInherits
  have triggered := holds.2.2.2
  rw [parameters] at triggered
  rcases Option.isSome_iff_exists.mp triggered with ⟨trigger, wanted⟩
  rcases (accepted_of_begins begins).trigger trigger wanted with ⟨first, others, fields, channels,
    encoded⟩
  rw [← parameters] at wanted channels
  rw [← (settings_of_begins begins ready.toInherits).fields_eq] at encoded
  rcases yields_perform steady .configureTrigger [.byte fields.source, .word fields.level] odd rest
    stage.host ready.host with ⟨host, performed, expects⟩
  refine advances_of_work { stage with host } ready (isFinished_of_phase phase) rfl ?_ expects
    trivial
  rw [phase, work]
  simp only [sendTrigger, Action.apply_bind, Action.apply_get, Capture.channels, wanted, channels,
    encoded, Work.apply_ofExcept_ok, Work.apply_exchange, performed]
  rfl

private theorem advances_startDevice {byte : UInt8} {rest : List UInt8} (steady : Steady brings)
    (begins : session.Begins origin) (odd : isAcknowledgement byte = true)
    (fits : (session.parameters.channels.length - 1) * session.parameters.sampleCount.toNat < 65536)
    (ready : Ready brings origin ([byte] ++ rest) stage)
    (phase : stage.capture.phase = .capturing) :
    Advances brings origin 1 stage .polling rest fun _ => True := by
  have holds := ready.phase
  rw [phase] at holds
  have parameters := parameters_of_begins begins ready.toInherits
  have enabled : stage.panel.enabled = session.parameters.channels :=
    holds.2.2.1.trans (congrArg Parameters.channels parameters)
  have places : ∀ index < stage.panel.enabled.length,
      (0 + index) * session.parameters.sampleCount.toNat < 65536 := by
    intro index bound
    rw [enabled] at bound
    rw [Nat.zero_add]
    exact Nat.lt_of_le_of_lt (Nat.mul_le_mul_right _ (Nat.le_sub_one_of_lt bound)) fits
  rcases Panel.assignFrom_of_fits stage.panel places with ⟨panel, assigned⟩
  rw [← Panel.assignOffsets] at assigned
  rcases selector_of_accepted (accepted_of_begins begins) with ⟨selected, selection⟩
  rcases yields_perform steady stage.capture.sampling.mode.command
    [.byte selected, .word session.parameters.sampleCount, .word stage.capture.sampling.interval]
    odd rest stage.host ready.host with ⟨host, performed, expects⟩
  rw [← parameters] at assigned selection performed
  refine advances_of_work {
    capture := { stage.capture with
      deadline := some (host.clock + stage.capture.allowedTime) }
    panel
    host } ready (isFinished_of_phase phase) rfl ?_ expects trivial
  rw [phase, work]
  simp only [startDevice, assignOffsets, Action.apply_bind, Action.apply_get, Action.apply_set,
    assigned, selection, Work.apply_ofExcept_ok, Work.apply_exchange, performed]
  rfl

theorem advances_delay {delay : Delay} {rest : List UInt8} (steady : Steady brings)
    (odd : isAcknowledgement delay.acknowledgement = true) (punctual : Punctual stage)
    (ready : Ready brings origin (delay.bytes ++ rest) stage)
    (phase : stage.capture.phase = .polling) :
    Advances brings origin 1 stage .polling rest fun _ => True := by
  have holds := ready.phase
  rw [phase] at holds
  rcases Option.isSome_iff_exists.mp holds.2.2.2 with ⟨deadline, timed⟩
  rcases yields_askStatus steady 0 delay.counter odd rest stage.host ready.host with
    ⟨host, asked, expects⟩
  have before : host.clock < deadline := punctual 0 _ host deadline phase timed asked rfl
  refine advances_of_work { stage with
    capture := { stage.capture with acquired := delay.counter }
    host := host.pause stage.capture.policy.interval }
    ready (isFinished_of_phase phase) rfl ?_ ⟨expects.link, expects.calm⟩ trivial
  have early : stage.capture.deadline.any (· ≤ host.clock) = false := by simp [timed, before]
  have busy : (decide ((0 : UInt8) ≠ 0)) = false := rfl
  rw [phase, work]
  simp only [poll, Action.apply_bind, Work.apply_exchange, asked, Work.mapError_ok,
    Work.apply_modifyCapture, busy, Bool.false_eq_true, if_false, Action.apply_get, early]
  rfl

theorem advances_done {flag : UInt8} {counter : UInt16} {byte : UInt8} {rest : List UInt8}
    (steady : Steady brings) (odd : isAcknowledgement byte = true) (done : flag ≠ 0)
    (ready : Ready brings origin (statusBytes flag counter byte ++ rest) stage)
    (phase : stage.capture.phase = .polling) :
    Advances brings origin 1 stage .retrieving rest Blank := by
  have holds := ready.phase
  rw [phase] at holds
  rcases yields_askStatus steady flag counter odd rest stage.host ready.host with
    ⟨host, asked, expects⟩
  refine advances_of_work { stage with capture := { stage.capture with acquired := counter }, host }
    ready (isFinished_of_phase phase) rfl ?_ expects holds.2.1
  rw [phase, work]
  simp only [poll, Action.apply_bind, Work.apply_exchange, asked, Work.mapError_ok,
    Work.apply_modifyCapture, decide_eq_true done, if_true]
  rfl

/-! The samples. -/

private theorem advances_retrieve {codes : List UInt16} {rest : List UInt8} {input : Input}
    (steady : Steady brings) (begins : session.Begins origin)
    (length : codes.length = session.parameters.sampleCount.toNat)
    (current : stage.capture.current? = some (.analog input))
    (ready : Ready brings origin (codes.flatMap wordBytes ++ rest) stage)
    (phase : stage.capture.phase = .retrieving) :
    Advances brings origin 1 stage .emitting rest fun capture =>
      capture.cursor = stage.capture.cursor ∧ capture.frames = stage.capture.frames ∧
        capture.samples = codes.map (Calibration.ofPanel session.panel input).scale := by
  have holds := ready.phase
  rw [phase] at holds
  have parameters := parameters_of_begins begins ready.toInherits
  rcases Option.map_eq_some_iff.mp (holds.2.2.2.1.enabled _ _ current) with ⟨offset, placed, -⟩
  have located := (source_eq_ok_iff stage input offset).mpr ⟨current, placed⟩
  rcases yields_request steady .retrieveBuffer
    [.word offset, .word session.parameters.sampleCount] _ stage.host ready.host with
    ⟨asked, requested, expects⟩
  rcases readSamples_of_expects steady (Calibration.ofPanel session.panel input)
    stage.capture.abortable codes [] expects with ⟨host, heard, expects⟩
  rw [length, ← (settings_of_begins begins ready.toInherits).calibration_eq] at heard
  rw [← parameters] at requested heard
  refine advances_of_work { stage with capture := { stage.capture with samples := _ }, host }
    ready (isFinished_of_phase phase) rfl ?_ expects ⟨rfl, rfl, rfl⟩
  rw [phase, work]
  simp only [retrieve, collect, Action.apply_bind, Action.apply_get, located,
    Work.apply_ofExcept_ok, Work.apply_exchange, requested, Work.mapError_ok, heard]
  rw [(settings_of_begins begins ready.toInherits).calibration_eq]
  rfl

private theorem apply_emit {acknowledgement : UInt8} {host : Host σ}
    (awaited : awaitAcknowledgement.apply stage.host = (.ok acknowledgement, host)) :
    emit.apply stage =
      if stage.capture.cursor + 1 < stage.capture.channels.length then
        (.ok .retrieving, { stage with
          capture := { stage.capture.handOver with cursor := stage.capture.cursor + 1 }
          host })
      else
        (.ok .idle, {
          capture := { stage.capture.handOver with cursor := stage.capture.cursor + 1 }
          panel := stage.panel.clearOffsets
          host }) := by
  simp only [emit, Action.apply_bind, Work.apply_modifyCapture, Work.apply_exchange, awaited,
    Work.mapError_ok, Action.apply_get]
  split
  case isTrue more => exact (if_pos more).symm
  case isFalse last => exact (if_neg last).symm

theorem advances_emit {byte : UInt8} {rest : List UInt8} {input : Input} (steady : Steady brings)
    (odd : isAcknowledgement byte = true) (current : stage.capture.current? = some (.analog input))
    (more : stage.capture.cursor + 1 < stage.capture.channels.length)
    (ready : Ready brings origin ([byte] ++ rest) stage) (phase : stage.capture.phase = .emitting) :
    Advances brings origin 1 stage .retrieving rest fun capture =>
      capture.cursor = stage.capture.cursor + 1 ∧
        capture.frames =
          stage.capture.frames ++ [⟨input, stage.capture.rate, stage.capture.samples⟩] := by
  rcases yields_awaitAcknowledgement steady odd rest stage.host ready.host with
    ⟨host, awaited, expects⟩
  refine advances_of_work { stage with
    capture := { stage.capture.handOver with cursor := stage.capture.cursor + 1 }
    host } ready (isFinished_of_phase phase) rfl ?_ expects ⟨rfl, ?_⟩
  · rw [phase, work, apply_emit awaited, if_pos more]
  · rw [← frameAtHand_of_current current]
    rfl

structure Completes (brings : List UInt8 → σ → Prop) (origin : Stage σ) (steps : Nat)
    (stage : Stage σ) (rest : List UInt8) (final : Stage σ) : Prop where
  runs (more : Nat) : runFor (steps + more) stage = (.completed, final)
  idle : final.capture.phase = .idle
  ready : Ready brings origin rest final

theorem Leads.completes {first second : Nat} {middle final : Stage σ} {rest : List UInt8}
    (leads : Leads first stage middle)
    (completes : Completes brings origin second middle rest final) :
    Completes brings origin (first + second) stage rest final where
  runs more := by rw [Nat.add_assoc, leads.runs, completes.runs]
  idle := completes.idle
  ready := completes.ready

theorem completes_emit {byte : UInt8} {rest : List UInt8} {input : Input} (steady : Steady brings)
    (odd : isAcknowledgement byte = true) (current : stage.capture.current? = some (.analog input))
    (last : ¬ stage.capture.cursor + 1 < stage.capture.channels.length)
    (ready : Ready brings origin ([byte] ++ rest) stage) (phase : stage.capture.phase = .emitting) :
    ∃ final, Completes brings origin 1 stage rest final ∧
      final.capture.frames =
        stage.capture.frames ++ [⟨input, stage.capture.rate, stage.capture.samples⟩] := by
  rcases yields_awaitAcknowledgement steady odd rest stage.host ready.host with
    ⟨host, awaited, expects⟩
  have unfinished : stage.capture.isFinished = false := isFinished_of_phase phase
  have worked : (work stage.capture.phase).apply stage = (.ok .idle, {
      capture := { stage.capture.handOver with cursor := stage.capture.cursor + 1 }
      panel := stage.panel.clearOffsets
      host }) := by
    rw [phase, work, apply_emit awaited, if_neg last]
  refine ⟨_, ⟨fun more => ?_, rfl, ready_of_work ready unfinished worked expects⟩, ?_⟩
  · rw [Nat.add_comm, runFor, step_of_work unfinished ready.host.calm worked]
  · rw [← frameAtHand_of_current current]
    rfl

/-! The rest of the run, from the first samples on. -/

def effectiveRate (session : Session) : Float :=
  if session.sampling.interval = 0 then session.parameters.rate else session.rate

private theorem rate_of_begins {σ : Type} {origin stage : Stage σ} (begins : session.Begins origin)
    (inherits : Inherits origin stage) (checked : Checked origin stage) :
    stage.capture.rate = effectiveRate session := by
  rw [Capture.rate, sampling_of_begins begins checked, parameters_of_begins begins inherits]
  rfl

private theorem current_of_ahead {σ : Type} {origin stage : Stage σ}
    (begins : session.Begins origin) (inherits : Inherits origin stage) {input : Input}
    {ahead : List Channel}
    (next : session.parameters.channels.drop stage.capture.cursor = .analog input :: ahead) :
    stage.capture.current? = some (.analog input) := by
  rw [current?, Capture.channels, parameters_of_begins begins inherits, ← List.head?_drop, next]
  rfl

theorem completes_blocks {blocks : List Block} {rest : List UInt8} {ahead : List Input}
    (steady : Steady brings) (begins : session.Begins origin)
    (suits : ∀ block ∈ blocks, block.codes.length = session.parameters.sampleCount.toNat ∧
      isAcknowledgement block.acknowledgement = true)
    (next : session.parameters.channels.drop stage.capture.cursor = ahead.map .analog)
    (positive : 0 < blocks.length) (all : blocks.length = ahead.length)
    (ready : Ready brings origin (blocks.flatMap Block.bytes ++ rest) stage)
    (phase : stage.capture.phase = .retrieving) :
    ∃ final, Completes brings origin (2 * blocks.length) stage rest final ∧
      final.capture.frames = stage.capture.frames ++
        List.zipWith (fun input block => block.frame (effectiveRate session) session.panel input)
          ahead blocks := by
  induction blocks generalizing stage ahead with
  | nil => exact absurd positive (Nat.lt_irrefl 0)
  | cons block blocks induction =>
      cases ahead with
      | nil => simp at all
      | cons input ahead =>
          rw [List.map_cons] at next
          have current := current_of_ahead begins ready.toInherits next
          rcases suits block (List.mem_cons_self ..) with ⟨length, odd⟩
          rw [List.flatMap_cons, Block.bytes, List.append_assoc, List.append_assoc] at ready
          rcases advances_retrieve steady begins length current ready phase with
            ⟨emitting, retrieved, ready, phase, cursor, frames, samples⟩
          have holds := ready.phase
          rw [phase] at holds
          have rate := rate_of_begins begins ready.toInherits holds.1
          have channels := congrArg Parameters.channels
            (parameters_of_begins begins ready.toInherits)
          rw [← cursor] at next
          have current := current_of_ahead begins ready.toInherits next
          have left := congrArg List.length next
          rw [List.length_drop, List.length_cons, List.length_map] at left
          rw [List.length_cons, List.length_cons, Nat.succ_inj] at all
          -- The acknowledgement behind the last block ends the run.
          cases blocks with
          | nil =>
              have last : ¬ emitting.capture.cursor + 1 < emitting.capture.channels.length := by
                rw [Capture.channels, channels]
                rw [List.length_nil] at all
                omega
              rcases completes_emit steady odd current last ready phase with
                ⟨final, completes, kept⟩
              refine ⟨final, retrieved.completes completes, ?_⟩
              rw [kept, frames, rate, samples, List.zipWith_cons_cons, List.zipWith_nil_right]
              rfl
          | cons second blocks =>
              have more : emitting.capture.cursor + 1 < emitting.capture.channels.length := by
                rw [Capture.channels, channels]
                rw [List.length_cons] at all
                omega
              rcases advances_emit steady odd current more ready phase with
                ⟨retrieving, emitted, ready, phase, moved, kept⟩
              have next : session.parameters.channels.drop retrieving.capture.cursor =
                  ahead.map .analog := by
                rw [moved, ← List.tail_drop, next]
                rfl
              rcases induction (fun block member => suits block (List.mem_cons_of_mem _ member))
                next
                (Nat.zero_lt_succ _) all ready phase with ⟨final, completes, all_frames⟩
              have steps : 2 * (block :: second :: blocks).length =
                  1 + 1 + 2 * (second :: blocks).length := by
                rw [List.length_cons]
                omega
              refine ⟨final, ?_, ?_⟩
              · rw [steps]
                exact (retrieved.trans emitted).completes completes
              · rw [all_frames, kept, frames, rate, samples, List.append_assoc]
                rfl

theorem advances_delays {delays : List Delay} {flag : UInt8} {counter : UInt16} {byte : UInt8}
    {rest : List UInt8} (steady : Steady brings)
    (odds : ∀ delay ∈ delays, isAcknowledgement delay.acknowledgement = true)
    (odd : isAcknowledgement byte = true) (done : flag ≠ 0) (punctual : Punctual stage)
    (ready : Ready brings origin (delays.flatMap Delay.bytes ++
      (statusBytes flag counter byte ++ rest)) stage)
    (phase : stage.capture.phase = .polling) :
    Advances brings origin (delays.length + 1) stage .retrieving rest Blank := by
  induction delays generalizing stage with
  | nil => exact advances_done steady odd done ready phase
  | cons delay delays induction =>
      rw [List.flatMap_cons, List.append_assoc] at ready
      rcases advances_delay steady (odds delay (List.mem_cons_self ..)) punctual ready phase with
        ⟨middle, waited, ready, phase, -⟩
      rcases induction (fun delay member => odds delay (List.mem_cons_of_mem _ member))
        (punctual.later waited) ready phase with ⟨after, advanced, ready, phase, blank⟩
      refine ⟨after, ?_, ready, phase, blank⟩
      rw [List.length_cons, Nat.add_right_comm, Nat.add_comm _ 1]
      exact waited.trans advanced

theorem advances_opening {replies : Replies} {rest : List UInt8} (steady : Steady brings)
    (begins : session.Begins origin) (suits : replies.Suits session.parameters)
    (ready : Ready brings origin
      ((if session.parameters.isTriggered then [replies.armed] else []) ++ rest) stage)
    (phase : stage.capture.phase = .configuring) :
    ∃ steps ≤ 2, Advances brings origin steps stage .capturing rest fun _ => True := by
  rcases advances_configure begins ready phase with ⟨middle, configured, ready, phase, -⟩
  cases triggered : session.parameters.isTriggered with
  | false =>
      rw [triggered] at ready phase
      exact ⟨1, by decide, middle, configured, ready, phase, trivial⟩
  | true =>
      rw [triggered] at ready phase
      rcases advances_sendTrigger steady begins suits.armed ready phase with
        ⟨after, armed, ready, phase, -⟩
      exact ⟨1 + 1, by decide, after, configured.trans armed, ready, phase, trivial⟩

private theorem delays_le_bytes (replies : Replies) (triggered : Bool) :
    4 * (replies.delays.length + 1) ≤ (replies.bytes triggered).length := by
  have each (delays : List Delay) : (delays.flatMap Delay.bytes).length = 4 * delays.length := by
    induction delays with
    | nil => rfl
    | cons delay delays induction =>
        rw [List.flatMap_cons, List.length_append, induction, List.length_cons]
        change 4 + 4 * delays.length = _
        omega
  simp only [Replies.bytes, List.length_append, each, statusBytes, wordBytes, List.length_cons,
    List.length_nil]
  omega

structure Succeeds (parameters : Parameters Float) (panel : Panel) (sampling : Sampling)
    (replies : Replies) (final : Stage σ) : Prop where
  idle : final.capture.phase = .idle
  ended : final.capture.sessionsEnded = 1
  sampling : final.capture.sampling = sampling
  count : final.capture.frames.length = parameters.channels.length
  names : final.capture.frames.map Frame.name = parameters.channels.map Channel.name
  frames (index : Nat) (input : Input) (block : Block) :
    parameters.channels[index]? = some (.analog input) → replies.blocks[index]? = some block →
      final.capture.frames[index]? = some {
        input
        rate := final.capture.rate
        samples := block.codes.map (Calibration.ofPanel panel input).scale }
  offsets : final.panel.Unplaced

private theorem succeeds_of_completes {replies : Replies} {steps : Nat} {final : Stage σ}
    {rest : List UInt8} {inputs : List Input} (begins : session.Begins origin)
    (channels : session.parameters.channels = inputs.map .analog)
    (completes : Completes brings origin steps stage rest final)
    (frames : final.capture.frames =
      List.zipWith (fun input block => block.frame (effectiveRate session) session.panel input)
        inputs replies.blocks) :
    Succeeds session.parameters session.panel session.sampling replies final := by
  have inherits := completes.ready.toInherits
  have holds := completes.ready.phase
  rw [completes.idle] at holds
  rcases holds with ⟨checked, -, unplaced, -, delivered⟩
  rw [Delivered, List.take_length, Capture.channels, parameters_of_begins begins inherits]
    at delivered
  refine {
    idle := completes.idle
    ended := if_pos completes.idle
    sampling := sampling_of_begins begins checked
    count := by rw [← delivered, List.length_map]
    names := by rw [← delivered, List.map_map]; rfl
    frames := ?_
    offsets := unplaced }
  intro index input block channel received
  rw [channels, List.getElem?_map, Option.map_eq_some_iff] at channel
  rcases channel with ⟨_, found, same⟩
  cases same
  rw [frames, List.getElem?_zipWith, found, received, rate_of_begins begins inherits checked]
  rfl

/-- A capture on a device that does what it is asked for yields the samples that the device sends,
and reads nothing beyond them. -/
theorem run_steady (steady : Steady brings) (parameters : Parameters Float) (limits : Limits)
    (policy : PollPolicy) (abortable : Bool) (panel : Panel) (host : Host σ) (sampling : Sampling)
    (replies : Replies) (rest : List UInt8)
    (valid : parameters.validate panel limits = .ok sampling)
    (fits : (parameters.channels.length - 1) * parameters.sampleCount.toNat ≤ 65535)
    (suits : replies.Suits parameters)
    (expects : host.Expects brings (replies.bytes parameters.isTriggered ++ rest))
    (punctual : Punctual (Stage.fresh parameters limits policy abortable panel host)) :
    ∃ final, Succeeds parameters panel sampling replies final ∧ brings rest final.host.link ∧
      run (Stage.fresh parameters limits policy abortable panel host) = (.completed, final) ∧
      ∀ steps, replies.delays.length + 2 * parameters.channels.length + 4 ≤ steps →
        runFor steps (Stage.fresh parameters limits policy abortable panel host) =
          (.completed, final) := by
  have begins : (Session.mk parameters panel sampling).Begins
      (Stage.fresh parameters limits policy abortable panel host) := ⟨rfl, rfl, valid⟩
  have start : Ready brings (Stage.fresh parameters limits policy abortable panel host) _
      (Stage.fresh parameters limits policy abortable panel host) :=
    ⟨sound_fresh parameters limits policy abortable panel host, expects⟩
  have supply := steady.supply _ _ expects.link
  rw [Replies.bytes, List.append_assoc, List.append_assoc, List.append_assoc, List.append_assoc]
    at start
  rcases advances_opening steady begins suits start rfl with
    ⟨opening, few, capturing, opened, ready, phase, -⟩
  rcases advances_startDevice steady begins suits.started (Nat.lt_succ_of_le fits) ready phase with
    ⟨polling, started, ready, phase, -⟩
  rcases advances_delays steady suits.delays suits.ready suits.flag
    (punctual.later (opened.trans started)) ready phase with
    ⟨retrieving, polled, ready, phase, cursor, -, nothing⟩
  have accepted := accepted_of_begins begins
  rcases accepted.inputs with ⟨inputs, channels, -⟩
  have next : parameters.channels.drop retrieving.capture.cursor = inputs.map .analog := by
    rw [cursor, List.drop_zero]
    exact channels
  have all : replies.blocks.length = inputs.length := by
    rw [suits.count]
    exact (congrArg List.length channels).trans (List.length_map _)
  rcases completes_blocks steady begins suits.blocks next (suits.count ▸ accepted.count_pos) all
    ready phase with ⟨final, completes, frames⟩
  rw [nothing, List.nil_append] at frames
  have whole := ((opened.trans started).trans polled).completes completes
  -- Two steps at most for the trigger, one to start, one for each answer, two for each channel.
  have enough (steps : Nat)
      (bound : replies.delays.length + 2 * parameters.channels.length + 4 ≤ steps) :
      runFor steps (Stage.fresh parameters limits policy abortable panel host) =
        (.completed, final) := by
    have taken : opening + 1 + (replies.delays.length + 1) + 2 * replies.blocks.length ≤ steps := by
      rw [suits.count]
      omega
    rcases Nat.exists_eq_add_of_le taken with ⟨more, rfl⟩
    exact whole.runs more
  refine ⟨final, succeeds_of_completes begins channels whole frames, whole.ready.host.link, ?_,
    enough⟩
  -- A run allows a step for four bytes, as many as each answer has.
  refine enough _ ?_
  have needed := delays_le_bytes replies parameters.isTriggered
  rw [List.length_append] at supply
  change _ ≤ FiniteLink.supply host.link / 4 + 2 * parameters.channels.length + 4
  omega

/-! Two samples of each of two channels, once a trigger has fired. The device is slow to begin with,
and a byte of something else follows. -/

def shortParameters : Parameters Float where
  channels := [.analog .ch2, .analog .mic]
  sampleCount := 2
  rate := 100000.0
  trigger := some ⟨.analog .mic, 1.0, 3⟩

def shortReplies : Replies where
  armed := 1
  started := 3
  delays := [⟨1, 5⟩]
  flag := 1
  counter := 2
  ready := 255
  blocks := [⟨[0, 1023], 1⟩, ⟨[512, 65535], 7⟩]

def shortHost : Host Script where
  link := { incoming := .stall 40 :: (shortReplies.bytes true ++ [7]).map .byte }

theorem run_steady_short :
    shortParameters.validate {} { minSamples := 2 } = .ok ⟨.two, 80⟩ ∧
      ∃ final, Succeeds shortParameters {} ⟨.two, 80⟩ shortReplies final ∧
        Script.Brings [7] final.host.link ∧
        run (Stage.fresh shortParameters { minSamples := 2 } {} true {} shortHost) =
          (.completed, final) ∧
        ∀ steps, 9 ≤ steps →
          runFor steps (Stage.fresh shortParameters { minSamples := 2 } {} true {} shortHost) =
            (.completed, final) := by
  have valid : shortParameters.validate {} { minSamples := 2 } = .ok ⟨.two, 80⟩ := by rfl
  have suits : shortReplies.Suits shortParameters :=
    ⟨by decide, by decide, by decide, by decide, by decide, by decide, by decide⟩
  have expects : shortHost.Expects Script.Brings (shortReplies.bytes true ++ [7]) :=
    ⟨⟨rfl, rfl, .stall 40 (Script.carries_bytes _)⟩, rfl⟩
  have punctual : Punctual (Stage.fresh shortParameters { minSamples := 2 } {} true {} shortHost) :=
    punctual_of_finished 9 (by decide +kernel) (by decide +kernel)
  exact ⟨valid, run_steady Script.steady shortParameters { minSamples := 2 } {} true {} shortHost
    ⟨.two, 80⟩ shortReplies [7] valid (by decide) suits expects punctual⟩

end Capture

end BenchScope
