import BenchScope.Proofs.Capture.Invariant
import BenchScope.Proofs.Capture.Turns

namespace BenchScope

open LinkCall Exchange

/-! The conversation of a capture with the device. Each phase continues it by at most one turn, and
where the capture fails it breaks off within a turn. -/

structure Retrieval where
  before : List LinkCall
  said : List LinkCall
  reads : List LinkCall
  after : List LinkCall
  codes : List UInt16

namespace Retrieval

def calls (retrieval : Retrieval) : List LinkCall :=
  retrieval.before ++ (retrieval.said ++ (retrieval.reads ++ retrieval.after))

def IsWhole (retrieval : Retrieval) (count : Nat) : Prop :=
  retrieval.codes.length = count ∨
    ∃ call rest, retrieval.after = call :: rest ∧ call.isShort = true

end Retrieval

namespace Session

variable (session : Session)

def rate : Float := Float.ofNat 8000000 / Float.ofNat session.sampling.interval.toNat

structure Explains (retrieval : Retrieval) (position : Nat) (frame : Frame) : Prop where
  before : ∃ waits, session.Conversed (session.script waits position) retrieval.before
  said : Offer retrieval.said (session.words (.retrieve position))
  reads : retrieval.reads.map word? = retrieval.codes.map some
  channel : session.parameters.channels[position]? = some (.analog frame.input)
  rate : session.sampling.interval ≠ 0 → frame.rate = session.rate
  samples : frame.samples =
    retrieval.codes.map (Calibration.ofPanel session.panel frame.input).scale
  bound : retrieval.codes.length ≤ session.parameters.sampleCount.toNat

structure Begins {σ : Type} (origin : Stage σ) : Prop where
  parameters : origin.capture.parameters = session.parameters
  panel : origin.panel = session.panel
  valid : session.parameters.validate session.panel origin.capture.limits = .ok session.sampling

end Session

namespace Capture

variable {σ : Type}

/-- The samples at hand are those of the channel at the cursor, and nothing has been said since they
were asked for. -/
def Gathered (session : Session) (stage : Stage (Traced σ)) (finish : ReadEnd) : Prop :=
  ∃ waits retrieval frame, retrieval.calls = stage.host.calls ∧
    session.Conversed (session.script waits stage.capture.cursor) retrieval.before ∧
    written (retrieval.reads ++ retrieval.after) = [] ∧
    finish.Shows session.parameters.sampleCount.toNat retrieval.codes retrieval.after ∧
    stage.capture.frameAtHand = [frame] ∧
    session.Explains retrieval stage.capture.cursor frame

def Told (session : Session) (stage : Stage (Traced σ)) : Phase → Prop
  | .configuring | .triggering => stage.host.calls = []
  | .capturing => session.Conversed session.opening stage.host.calls
  | .polling => ∃ waits, session.Conversed (session.waiting waits) stage.host.calls
  | .retrieving =>
      ∃ waits, session.Conversed (session.script waits stage.capture.cursor) stage.host.calls
  | .emitting => ∃ finish, finish.result = .ok .emitting ∧ Gathered session stage finish
  | .idle => ∃ waits, session.Conversed (session.schedule waits) stage.host.calls
  | .aborted => ∃ waits, session.Partway waits stage.host.calls

variable {session : Session}

section Direction

variable {origin stage : Stage σ}

theorem accepted_of_begins (begins : session.Begins origin) :
    session.parameters.Accepted session.panel session.sampling :=
  Parameters.accepted_of_validate begins.valid

theorem parameters_of_begins (begins : session.Begins origin) (inherits : Inherits origin stage) :
    stage.capture.parameters = session.parameters :=
  inherits.parameters.trans begins.parameters

theorem settings_of_begins (begins : session.Begins origin) (inherits : Inherits origin stage) :
    stage.panel.SameSettings session.panel :=
  begins.panel ▸ inherits.settings

theorem sampling_of_begins (begins : session.Begins origin) (checked : Checked origin stage) :
    stage.capture.sampling = session.sampling := by
  rw [Checked, begins.parameters, begins.panel, begins.valid] at checked
  exact (Except.ok.inj checked).symm

end Direction

theorem source_eq_ok_iff (stage : Stage σ) (input : Input) (offset : UInt16) :
    source stage = .ok (input, offset) ↔
      stage.capture.current? = some (.analog input) ∧
        (stage.panel.state input).offset = some offset := by
  rw [source]
  rcases stage.capture.current? with _ | ⟨other | output⟩
  · simp
  · constructor
    · intro found
      simp only at found
      split at found
      case h_1 offset located =>
        cases found
        exact ⟨rfl, located⟩
      case h_2 => cases found
    · intro state
      rcases state with ⟨same, located⟩
      cases same
      simp only [located]
  · simp

/-! Where the conversation can break off. -/

variable {origin stage : Stage (Traced σ)}

private theorem partway_silent : session.Partway 0 [] :=
  Session.partway_of_conversed (List.nil_append _).symm .silence

private theorem partway_of_gathered {finish : ReadEnd} (gathered : Gathered session stage finish)
    (bound : stage.capture.cursor < session.parameters.channels.length) :
    ∃ waits, session.Partway waits stage.host.calls := by
  rcases gathered with ⟨waits, retrieval, frame, calls, conversed, silent, -, -, explains⟩
  rcases Session.schedule_of_script waits bound with ⟨rest, schedule⟩
  have asked : session.Partway waits (retrieval.before ++ retrieval.said) :=
    Session.partway_of_part schedule conversed rfl
      (explains.said.written ▸ List.prefix_refl _)
  refine ⟨waits, asked.listen ?_ silent⟩
  rw [← calls, Retrieval.calls, List.append_assoc]

theorem partway_of_told (begins : session.Begins origin) (sound : Sound origin stage)
    (told : Told session stage stage.capture.phase) :
    ∃ waits, session.Partway waits stage.host.calls := by
  have parameters := parameters_of_begins begins sound.toInherits
  have holds := sound.phase
  cases phase : stage.capture.phase <;> rw [phase] at told holds
  case configuring | triggering =>
    have silent : stage.host.calls = [] := told
    exact ⟨0, silent ▸ partway_silent⟩
  case capturing =>
    rcases session.schedule_of_opening 0 with ⟨rest, schedule⟩
    exact ⟨0, Session.partway_of_conversed schedule told⟩
  case polling =>
    rcases told with ⟨waits, conversed⟩
    rcases session.schedule_of_waiting waits with ⟨rest, schedule⟩
    exact ⟨waits, Session.partway_of_conversed schedule conversed⟩
  case retrieving =>
    rcases told with ⟨waits, conversed⟩
    rcases holds with ⟨-, -, ⟨bound, -⟩, -⟩
    rw [Capture.channels, parameters] at bound
    rcases Session.schedule_of_script waits bound with ⟨rest, schedule⟩
    exact ⟨waits, Session.partway_of_conversed schedule conversed⟩
  case emitting =>
    rcases told with ⟨finish, -, gathered⟩
    rcases holds with ⟨-, ⟨bound, -⟩, -⟩
    rw [Capture.channels, parameters] at bound
    exact partway_of_gathered gathered bound
  case idle =>
    rcases told with ⟨waits, conversed⟩
    exact ⟨waits, Session.partway_of_conversed (List.append_nil _).symm conversed⟩
  case aborted => exact told

/-! What each exchange contributes. -/

variable [Link σ]

theorem converses_arm (begins : session.Begins origin) (inherits : Inherits origin stage)
    {trigger : Trigger Float} {first : Channel} {rest : List Channel} {fields : Trigger.Fields}
    {result : Except ProtocolError Unit} {host : Host (Traced σ)}
    (wanted : stage.capture.parameters.trigger = some trigger)
    (channels : stage.capture.channels = first :: rest)
    (encoded : trigger.fields stage.panel first = .ok fields)
    (performed : (perform .configureTrigger [.byte fields.source, .word fields.level]).apply
      stage.host = (result, host)) :
    ∃ calls, host.calls = stage.host.calls ++ calls ∧
      Converses (session.words .arm) (fun _ => Acknowledged) result calls := by
  have parameters := parameters_of_begins begins inherits
  rw [(settings_of_begins begins inherits).fields_eq] at encoded
  rw [parameters] at wanted
  rw [Capture.channels, parameters] at channels
  rw [Session.words_arm wanted channels encoded]
  exact (makes_perform _ _).of_apply performed

theorem converses_start (begins : session.Begins origin) (inherits : Inherits origin stage)
    (checked : Checked origin stage) {selected : UInt8} {result : Except ProtocolError Unit}
    {host : Host (Traced σ)} (selection : selector stage.capture.parameters = .ok selected)
    (performed : (perform stage.capture.sampling.mode.command
      [.byte selected, .word stage.capture.parameters.sampleCount,
        .word stage.capture.sampling.interval]).apply stage.host = (result, host)) :
    ∃ calls, host.calls = stage.host.calls ++ calls ∧
      Converses (session.words .start) (fun _ => Acknowledged) result calls := by
  rw [parameters_of_begins begins inherits] at selection performed
  rw [sampling_of_begins begins checked] at performed
  rw [Session.words_start (accepted_of_begins begins) selection]
  exact (makes_perform _ _).of_apply performed

private theorem sends_retrieve (begins : session.Begins origin) (inherits : Inherits origin stage)
    (started : Started stage) {input : Input} {offset : UInt16} {result : Except ProtocolError Unit}
    {host : Host (Traced σ)} (located : source stage = .ok (input, offset))
    (requested : (request .retrieveBuffer
      [.word offset, .word stage.capture.parameters.sampleCount]).apply stage.host =
        (result, host)) :
    ∃ calls, host.calls = stage.host.calls ++ calls ∧
      Sends (session.words (.retrieve stage.capture.cursor)) result calls := by
  rcases (source_eq_ok_iff stage input offset).mp located with ⟨current, placed⟩
  have place := started.1.enabled _ _ current
  rw [placed, Option.map_some, Option.some.injEq, parameters_of_begins begins inherits] at place
  rw [parameters_of_begins begins inherits] at requested
  have offset_eq : offset =
      UInt16.ofNat (stage.capture.cursor * session.parameters.sampleCount.toNat) := by
    rw [← place, UInt16.ofNat_toNat]
  rw [Session.words, ← offset_eq]
  exact (makes_request _ _).of_apply requested

theorem gathered_retrieved (begins : session.Begins origin) (inherits : Inherits origin stage)
    (checked : Checked origin stage) (started : Started stage) {waits : Nat}
    (conversed : session.Conversed (session.script waits stage.capture.cursor) stage.host.calls)
    {input : Input} {offset : UInt16} {asked host : Host (Traced σ)} {finish : ReadEnd}
    {samples : List Float} (located : source stage = .ok (input, offset))
    (requested : (request .retrieveBuffer
      [.word offset, .word stage.capture.parameters.sampleCount]).apply stage.host =
        (.ok (), asked))
    (heard : readSamples (Calibration.ofPanel stage.panel input) stage.capture.abortable
      stage.capture.parameters.sampleCount.toNat [] asked = ((finish, samples), host)) :
    Gathered session { stage with
      capture := { stage.capture with samples }
      host := finish.noted input samples.length stage.capture.parameters.sampleCount.toNat host }
      finish := by
  rcases sends_retrieve begins inherits started located requested with
    ⟨said, saidRecorded, words, -, offer, complete⟩
  rcases heard_of_readSamples heard with ⟨calls, codes, reads, rest, recorded, heard⟩
  have parameters := parameters_of_begins begins inherits
  have current := ((source_eq_ok_iff stage input offset).mp located).1
  have noted (kept wanted : Nat) : (finish.noted input kept wanted host).calls = host.calls := by
    cases finish <;> rfl
  refine ⟨waits, ⟨stage.host.calls, said, reads, rest, codes⟩, ⟨input, stage.capture.rate, samples⟩,
    ?calls, conversed, ?silent, ?shows, ?frame, ?explains⟩
  case calls =>
    rw [noted, recorded, saidRecorded, heard.calls, List.append_assoc, Retrieval.calls]
  case silent => rw [written_append, written_of_words heard.reads, heard.silent]; rfl
  case shows => exact parameters ▸ heard.finish
  case frame =>
    have atHand : frameAtHand { stage.capture with samples } = _ := frameAtHand_of_current current
    exact atHand
  case explains => exact {
    before := ⟨waits, conversed⟩
    said := complete rfl ▸ offer
    reads := heard.reads
    channel := by rw [← parameters]; exact current
    rate := by
      intro chosen
      rw [← sampling_of_begins begins checked] at chosen
      exact (if_neg chosen).trans (by rw [sampling_of_begins begins checked]; rfl)
    samples := by
      rw [← (settings_of_begins begins inherits).calibration_eq input]
      exact heard.samples
    bound := parameters ▸ heard.bound }

private theorem conversed_of_asked {turns : List Turn} {status : Status} {host : Host (Traced σ)}
    (conversed : session.Conversed turns stage.host.calls)
    (asked : askStatus.apply stage.host = (.ok status, host)) :
    session.Conversed (turns ++ [.ask status.done]) host.calls := by
  rcases makes_askStatus.of_apply asked with ⟨calls, recorded, converses⟩
  exact conversed.converse recorded converses rfl fun _ => id

private theorem conversed_of_gathered {finish : ReadEnd} (gathered : Gathered session stage finish)
    {acknowledgement : UInt8} {host : Host (Traced σ)}
    (awaited : awaitAcknowledgement.apply stage.host = (.ok acknowledgement, host)) :
    ∃ waits, session.Conversed (session.script waits (stage.capture.cursor + 1)) host.calls := by
  rcases gathered with ⟨waits, retrieval, frame, calls, conversed, silent, -, -, explains⟩
  rcases hears_awaitAcknowledgement.of_apply awaited with ⟨last, recorded, quiet, acknowledged⟩
  rcases acknowledged acknowledgement rfl with ⟨call, rfl, odd⟩
  have taken : session.Taken (.retrieve stage.capture.cursor)
      (retrieval.said ++ (retrieval.reads ++ retrieval.after ++ [call])) :=
    ⟨_, _, rfl, explains.said, by rw [written_append, silent, quiet]; rfl, _, _, rfl, odd⟩
  refine ⟨waits, ?_⟩
  rw [Session.script_succ, recorded, ← calls, Retrieval.calls]
  simpa only [List.append_assoc] using conversed.turn taken

/-! Work that succeeds is a turn of its own, or the first half of one. -/

theorem told_worked {outcome : Except (CaptureError Float) Phase × Stage (Traced σ)} {next : Phase}
    (begins : session.Begins origin) (sound : Sound origin stage)
    (told : Told session stage stage.capture.phase) (worked : Worked stage outcome)
    (succeeded : outcome.1 = .ok next) : Told session outcome.2 next := by
  have inherits := sound.toInherits
  have parameters := parameters_of_begins begins inherits
  have holds := sound.phase
  cases worked with
  | configured phase =>
      rw [phase] at told
      have silent : stage.host.calls = [] := told
      cases succeeded
      rw [parameters]
      split
      case isTrue => exact silent
      case isFalse untriggered =>
        have unopened : session.opening = [] := if_neg untriggered
        rw [Told, unopened, silent]
        exact .silence
  | untriggered phase unwanted => exact absurd unwanted (triggers_of_sound sound phase)
  | armed phase wanted channels encoded performed =>
      rw [phase] at told
      have silent : stage.host.calls = [] := told
      rcases converses_arm begins inherits wanted channels encoded performed with
        ⟨calls, recorded, converses⟩
      rw [parameters] at wanted
      have arm : session.opening = [.arm] := if_pos (by rw [wanted]; rfl)
      rw [silent] at recorded
      cases succeeded
      rw [Told, arm]
      exact Session.Conversed.silence.converse recorded converses rfl fun _ => id
  | started phase assigned selection performed =>
      rw [phase] at told holds
      rcases converses_start begins inherits holds.1 selection performed with
        ⟨calls, recorded, converses⟩
      cases succeeded
      exact ⟨0, Session.Conversed.converse told recorded converses rfl fun _ => id⟩
  | done phase asked ready =>
      rw [phase] at told holds
      rcases told with ⟨waits, conversed⟩
      have asked := conversed_of_asked conversed asked
      have start : stage.capture.cursor = 0 := holds.2.1.1
      rw [ready, ← Session.script_zero, ← start] at asked
      cases succeeded
      exact ⟨waits, asked⟩
  | waiting phase asked ready =>
      rw [phase] at told
      rcases told with ⟨waits, conversed⟩
      have asked := conversed_of_asked conversed asked
      rw [ready, ← Session.waiting_succ] at asked
      cases succeeded
      exact ⟨waits + 1, asked⟩
  | @retrieved _ _ _ _ finish _ phase located requested heard =>
      rw [phase] at told holds
      rcases told with ⟨waits, conversed⟩
      have gathered := gathered_retrieved begins inherits holds.1 holds.2.2.2 conversed located
        requested heard
      cases finish <;> cases succeeded <;> exact ⟨_, rfl, gathered⟩
  | emitted phase awaited =>
      rw [phase] at told
      rcases told with ⟨finish, -, gathered⟩
      cases succeeded
      exact conversed_of_gathered gathered awaited
  | completed phase awaited last =>
      rw [phase] at told holds
      rcases told with ⟨finish, -, gathered⟩
      rcases holds with ⟨-, ⟨bound, -⟩, -⟩
      have all : stage.capture.cursor + 1 = session.parameters.channels.length := by
        rw [Capture.channels, parameters] at bound last
        omega
      cases succeeded
      rcases conversed_of_gathered gathered awaited with ⟨waits, conversed⟩
      rw [all] at conversed
      exact ⟨waits, conversed⟩
  | _ => cases succeeded

theorem partway_worked {outcome : Except (CaptureError Float) Phase × Stage (Traced σ)}
    {error : CaptureError Float} (begins : session.Begins origin) (sound : Sound origin stage)
    (told : Told session stage stage.capture.phase) (worked : Worked stage outcome)
    (failed : outcome.1 = .error error) : ∃ waits, session.Partway waits outcome.2.host.calls := by
  have inherits := sound.toInherits
  have parameters := parameters_of_begins begins inherits
  have holds := sound.phase
  have interrupted := partway_of_told begins sound told
  cases worked with
  -- These fail before anything is said.
  | refused | unencodable | overflowed | unselectable | sourceless => exact interrupted
  | unarmed phase wanted channels encoded performed =>
      rw [phase] at told
      have silent : stage.host.calls = [] := told
      rcases converses_arm begins inherits wanted channels encoded performed with
        ⟨calls, recorded, converses⟩
      rcases session.schedule_of_opening 0 with ⟨rest, schedule⟩
      rw [parameters] at wanted
      have arm : session.opening = [.arm] := if_pos (by rw [wanted]; rfl)
      have schedule : session.schedule 0 = [] ++ .arm :: .start :: rest := by
        rw [schedule, arm]
        rfl
      rw [silent] at recorded
      exact ⟨0, Session.partway_of_part schedule .silence recorded converses.written⟩
  | unstarted phase assigned selection performed =>
      rw [phase] at told holds
      rcases converses_start begins inherits holds.1 selection performed with
        ⟨calls, recorded, converses⟩
      rcases session.schedule_of_opening 0 with ⟨rest, schedule⟩
      exact ⟨0, Session.partway_of_part schedule told recorded converses.written⟩
  | unanswered phase asked | late phase asked =>
      rw [phase] at told
      rcases told with ⟨waits, conversed⟩
      rcases makes_askStatus.of_apply asked with ⟨calls, recorded, converses⟩
      rcases session.schedule_of_waiting waits with ⟨rest, schedule⟩
      exact ⟨waits, Session.partway_of_part schedule conversed recorded converses.written⟩
  | unrequested phase located requested =>
      rw [phase] at told holds
      rcases told with ⟨waits, conversed⟩
      rcases holds with ⟨-, -, ⟨bound, -⟩, started⟩
      rw [Capture.channels, parameters] at bound
      rcases sends_retrieve begins inherits started located requested with ⟨calls, recorded, sends⟩
      rcases Session.schedule_of_script waits bound with ⟨rest, schedule⟩
      exact ⟨waits, Session.partway_of_part schedule conversed recorded sends.written⟩
  | retrieved phase located requested heard =>
      rw [phase] at told holds
      rcases told with ⟨waits, conversed⟩
      rcases holds with ⟨checked, -, ⟨bound, -⟩, started⟩
      rw [Capture.channels, parameters] at bound
      exact partway_of_gathered (gathered_retrieved begins inherits checked started conversed
        located requested heard) bound
  | unacknowledged phase awaited =>
      rcases interrupted with ⟨waits, partway⟩
      rcases hears_awaitAcknowledgement.of_apply awaited with ⟨heard, recorded, silent, -⟩
      exact ⟨waits, partway.listen recorded silent⟩
  | _ => cases failed

/-! The conversation from the beginning to any moment. -/

structure Follows (session : Session) (origin stage : Stage (Traced σ)) : Prop
    extends Sound origin stage where
  told : Told session stage stage.capture.phase

omit [Link σ] in
private theorem told_phase (stage : Stage (Traced σ)) (phase next : Phase) :
    Told session { stage with capture := { stage.capture with phase } } next ↔
      Told session stage next := by
  cases next <;> exact Iff.rfl

omit [Link σ] in
private theorem told_host {stage : Stage (Traced σ)} {host : Host (Traced σ)}
    (same : host.calls = stage.host.calls) (phase : Phase) :
    Told session { stage with host } phase ↔ Told session stage phase := by
  cases phase <;> simp only [Told, Gathered, same]

theorem follows_step (begins : session.Begins origin) (follows : Follows session origin stage) :
    Follows session origin (step stage).2 := by
  refine ⟨sound_step follows.toSound, ?_⟩
  rcases equal : step stage with ⟨result, after⟩
  have stepped := stepped_step stage
  rw [equal] at stepped
  cases stepped with
  | rested => exact follows.told
  | stopped =>
      have partway := partway_of_told begins follows.toSound follows.told
      exact partway
  | advanced _ _ worked =>
      exact (told_phase _ _ _).mpr (told_worked begins follows.toSound follows.told worked rfl)
  | failed _ _ worked =>
      have partway := partway_worked begins follows.toSound follows.told worked rfl
      exact partway

omit [Link σ] in
theorem follows_host {host : Host (Traced σ)} (same : host.link = stage.host.link)
    (follows : Follows session origin stage) : Follows session origin { stage with host } where
  toSound := sound_host host follows.toSound
  told := (told_host (congrArg Traced.calls same) _).mpr follows.told

theorem follows_play (begins : session.Begins origin) (follows : Follows session origin stage)
    (events : List Event) : Follows session origin (stage.play events) :=
  Stage.play_keeps _ (fun _ => follows_step begins)
    (fun _ _ same follows => follows_host same follows) stage events follows

/-! A capture whose parameters are refused says nothing. -/

private theorem step_of_invalid {stage : Stage (Traced σ)} {error : CaptureError Float}
    (phase : stage.capture.phase = .configuring)
    (invalid : stage.capture.parameters.validate stage.panel stage.capture.limits = .error error) :
    ∃ reason, step stage = (.error reason, fail reason stage) := by
  have refused : configure.apply stage = (.error error, stage) := by
    simp [configure, Action.apply_bind, invalid]
  have unfinished : stage.capture.isFinished = false := isFinished_of_phase phase
  rw [step, if_neg (by simp [unfinished])]
  split
  case isTrue => exact ⟨_, rfl⟩
  case isFalse =>
    rw [phase, work, refused]
    exact ⟨error, rfl⟩

private theorem silent_play {stage : Stage (Traced σ)} {error : CaptureError Float}
    (phase : stage.capture.phase = .configuring) (silent : stage.host.calls = [])
    (invalid : stage.capture.parameters.validate stage.panel stage.capture.limits = .error error)
    (events : List Event) : (stage.play events).host.calls = [] := by
  refine (Stage.play_keeps (fun later => later.host.calls = [] ∧
    (later.capture.phase = .aborted ∨ later.capture.phase = .configuring ∧
      later.capture.parameters.validate later.panel later.capture.limits = .error error))
    ?step ?host stage events ⟨silent, .inr ⟨phase, invalid⟩⟩).1
  case step =>
    intro later state
    rcases state with ⟨silent, aborted | ⟨phase, invalid⟩⟩
    · rw [step_of_finished (isFinished_of_phase aborted)]
      exact ⟨silent, .inl aborted⟩
    · rcases step_of_invalid phase invalid with ⟨reason, stepped⟩
      rw [stepped]
      exact ⟨silent, .inl rfl⟩
  case host =>
    intro later host same state
    rcases state with ⟨silent, state⟩
    exact ⟨(congrArg Traced.calls same).trans silent, state⟩

/-- What a capture says to the device, whatever the link does and whenever the operator asks for an
abort. -/
theorem calls_play (parameters : Parameters Float) (limits : Limits) (policy : PollPolicy)
    (abortable : Bool) (panel : Panel) (host : Host σ) :
    let origin := Stage.fresh parameters limits policy abortable panel host.traced
    match parameters.validate panel limits with
    | .error _ => ∀ events, (origin.play events).host.calls = []
    | .ok sampling =>
        let session : Session := ⟨parameters, panel, sampling⟩
        (∀ events, ∃ waits, session.Partway waits (origin.play events).host.calls ∧
          written (origin.play events).host.calls <+:
            (session.schedule waits).flatMap session.words) ∧
        ∀ steps final, runFor steps origin = (.completed, final) →
          ∃ waits, session.Conversed (session.schedule waits) final.host.calls ∧
            written final.host.calls = (session.schedule waits).flatMap session.words := by
  intro origin
  split
  case h_1 error invalid => exact silent_play rfl rfl invalid
  case h_2 sampling valid =>
    intro session
    have begins : session.Begins origin := ⟨rfl, rfl, valid⟩
    have follows (events : List Event) : Follows session origin (origin.play events) :=
      follows_play begins ⟨sound_fresh _ _ _ _ _ _, rfl⟩ events
    constructor
    · intro events
      rcases partway_of_told begins (follows events).toSound (follows events).told with
        ⟨waits, partway⟩
      exact ⟨waits, partway, Session.written_of_partway partway⟩
    · intro steps final ran
      rcases runFor_eq_play steps origin with ⟨count, equal⟩
      have told := (follows (List.replicate count .step)).told
      rw [← equal, ran, idle_of_runFor ran] at told
      rcases told with ⟨waits, conversed⟩
      exact ⟨waits, conversed, Session.written_of_conversed conversed⟩

end Capture

end BenchScope
