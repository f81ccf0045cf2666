import BenchScope.Device.Capturing
import BenchScope.Proofs.Capture.Delivery
import BenchScope.Proofs.Capture.Frames
import BenchScope.Proofs.Capture.Pairs
import BenchScope.Proofs.Capture.Readings

namespace BenchScope

open LinkCall Exchange

/-! Aborting a capture. The wish to abort is looked at before each step and before each sample, and
nowhere else, so what becomes of the capture depends on the read call that the wish comes with. -/

namespace Stage

variable {σ : Type}

def alarmed (stage : Stage (Traced σ)) (reads : Option Nat) : Stage (Traced (Alarmed σ)) where
  capture := stage.capture
  panel := stage.panel
  host := stage.host.alarmed reads

end Stage

namespace Capture

variable {σ : Type}

/-! Nothing that is known of a capture depends on wishes that are to come. -/

section Alarmed

variable {session : Session} {origin stage : Stage (Traced σ)}

private theorem phaseHolds_alarmed (reads : Option Nat) {phase : Phase}
    (holds : PhaseHolds origin stage phase) :
    PhaseHolds (origin.alarmed none) (stage.alarmed reads) phase := by
  cases phase <;> exact holds

private theorem sound_alarmed (sound : Sound origin stage) (reads : Option Nat) :
    Sound (origin.alarmed none) (stage.alarmed reads) where
  parameters := sound.parameters
  limits := sound.limits
  policy := sound.policy
  abortable := sound.abortable
  settings := sound.settings
  phase := phaseHolds_alarmed reads sound.phase

private theorem told_alarmed (reads : Option Nat) {phase : Phase}
    (told : Told session stage phase) : Told session (stage.alarmed reads) phase := by
  cases phase <;> exact told

private theorem follows_alarmed (follows : Follows session origin stage) (reads : Option Nat) :
    Follows session (origin.alarmed none) (stage.alarmed reads) where
  toSound := sound_alarmed follows.toSound reads
  told := told_alarmed reads follows.told

end Alarmed

/-! A step that is begun when an abort has been asked for. -/

/-- The capture has been stopped before the work of a step. Nothing was said or read any more, and
the samples at hand, if there were any, have become a last frame. -/
structure Stopped (parameters : Parameters Float) (limits : Limits) (panel : Panel)
    (stage after : Stage (Traced σ)) : Prop where
  phase : after.capture.phase = .aborted
  link : after.host.link = stage.host.link
  nothing : stage.capture.phase ≠ .emitting ∨ stage.capture.samples = [] →
    after.capture.frames = stage.capture.frames
  last : stage.capture.phase = .emitting → stage.capture.samples ≠ [] →
    ∃ frame, after.capture.frames = stage.capture.frames ++ [frame] ∧
      frame.samples = stage.capture.samples ∧
      ∃ sampling retrieval, parameters.validate panel limits = .ok sampling ∧
        retrieval.calls = stage.host.calls ∧
        (Session.mk parameters panel sampling).Explains retrieval stage.capture.cursor frame ∧
        retrieval.IsWhole parameters.sampleCount.toNat

structure Known (origin stage : Stage (Traced σ)) : Prop extends Sound origin stage where
  follows (session : Session) : session.Begins origin → Follows session origin stage
  heeds : origin.capture.abortable = true

theorem known_alarmed {origin stage : Stage (Traced σ)} (known : Known origin stage)
    (reads : Option Nat) : Known (origin.alarmed none) (stage.alarmed reads) where
  toSound := sound_alarmed known.toSound reads
  follows session begins :=
    follows_alarmed (known.follows session ⟨begins.1, begins.2, begins.3⟩) reads
  heeds := known.heeds

section Stopping

variable [Link σ] {origin stage : Stage (Traced σ)}

theorem known_step (known : Known origin stage) : Known origin (step stage).2 where
  toSound := sound_step known.toSound
  follows session begins := follows_step begins (known.follows session begins)
  heeds := known.heeds

omit [Link σ] in
theorem known_host {host : Host (Traced σ)} (same : host.link = stage.host.link)
    (known : Known origin stage) : Known origin { stage with host } where
  toSound := sound_host host known.toSound
  follows session begins := follows_host same (known.follows session begins)
  heeds := known.heeds

omit [Link σ] in
theorem known_fresh (parameters : Parameters Float) (limits : Limits) (policy : PollPolicy)
    (panel : Panel) (host : Host σ) :
    Known (Stage.fresh parameters limits policy true panel host.traced)
      (Stage.fresh parameters limits policy true panel host.traced) where
  toSound := sound_fresh parameters limits policy true panel host.traced
  follows _ _ := ⟨sound_fresh parameters limits policy true panel host.traced, rfl⟩
  heeds := rfl

theorem known_play (known : Known origin stage) (events : List Event) :
    Known origin (stage.play events) :=
  Stage.play_keeps _ (fun _ => known_step) (fun _ _ same known => known_host same known) stage
    events known

omit [Link σ] in
theorem stopped_fail (known : Known origin stage) :
    Stopped origin.capture.parameters origin.capture.limits origin.panel stage
      (fail .aborted stage) where
  phase := rfl
  link := rfl
  nothing empty := by
    have samples : stage.capture.samples = [] :=
      empty.elim (samples_of_sound known.toSound) id
    simp [fail, lastFrame, samples]
  last emitting samples := by
    have holds := known.phase
    rw [emitting] at holds
    rcases holds with ⟨checked, underway, -⟩
    have begins : (Session.mk origin.capture.parameters origin.panel stage.capture.sampling).Begins
      origin := ⟨rfl, rfl, checked⟩
    have told := (known.follows _ begins).told
    rw [emitting] at told
    rcases told with ⟨finish, ended, waits, retrieval, frame, calls, -, -, shows, atHand, explains⟩
    rcases current_of_underway known.toInherits checked underway.1 with ⟨input, current⟩
    refine ⟨frame, ?_, ?_, _, retrieval, begins.valid, calls, explains,
      isWhole_of_shows ended shows⟩
    · simp [fail, lastFrame, samples, atHand]
    · rw [frameAtHand_of_current current] at atHand
      rw [← (List.cons.inj atHand).1]

theorem step_of_asked (unfinished : stage.capture.isFinished = false) (known : Known origin stage)
    (asked : stage.host.abortRequested = true) :
    step stage = (.error .aborted, fail .aborted stage) := by
  have aborting : stage.aborting = true := by
    rw [Stage.aborting, known.abortable, known.heeds, asked]
    rfl
  rw [step, unfinished, aborting]
  rfl

end Stopping

/-! A step with which the wish comes. -/

section Interruption

variable [Link σ] {origin stage : Stage (Traced σ)}

theorem calls_step (unfinished : stage.capture.isFinished = false)
    (goesOn : stage.aborting = false) :
    (step stage).2.host.calls = ((work stage.capture.phase).apply stage).2.host.calls := by
  rw [step, unfinished, goesOn]
  rcases (work stage.capture.phase).apply stage with ⟨_ | _, after⟩ <;> rfl

private theorem apply_retrieve {input : Input} {offset : UInt16} {asked : Host (Traced σ)}
    (located : source stage = .ok (input, offset)) (requested : (request .retrieveBuffer
      [.word offset, .word stage.capture.parameters.sampleCount]).apply stage.host =
        (.ok (), asked)) :
    retrieve.apply stage = collected stage input (readInput stage input asked) := by
  simp only [retrieve, Action.apply_bind, Action.apply_get, located, Work.apply_ofExcept_ok,
    Work.apply_exchange, requested, Work.mapError_ok, apply_collect]
  rfl

omit [Link σ] in
private theorem calls_collected (input : Input)
    (reading : (ReadEnd × List Float) × Host (Traced σ)) :
    (collected stage input reading).2.host.calls = reading.2.calls := by
  rcases reading with ⟨⟨finish, samples⟩, host⟩
  cases finish <;> rfl

private theorem silent_request {offset sampleCount : UInt16} {host asked : Host (Traced σ)}
    {result : Except ProtocolError Unit}
    (requested : (request .retrieveBuffer [.word offset, .word sampleCount]).apply host =
      (result, asked)) :
    ∃ said, asked.calls = host.calls ++ said ∧ countReads said = 0 := by
  rcases (makes_request _ _).of_apply requested with ⟨said, recorded, words, -, offer, -⟩
  exact ⟨said, recorded, offer.countReads_eq_zero⟩

private theorem requested_of_reads (phase : stage.capture.phase = .retrieving)
    (goesOn : stage.aborting = false) {calls : List LinkCall}
    (recorded : (step stage).2.host.calls = stage.host.calls ++ calls)
    (reads : countReads calls ≠ 0) :
    ∃ input offset asked, source stage = .ok (input, offset) ∧
      (request .retrieveBuffer [.word offset, .word stage.capture.parameters.sampleCount]).apply
        stage.host = (.ok (), asked) := by
  rw [calls_step (isFinished_of_phase phase) goesOn, phase, work] at recorded
  rcases located : source stage with error | ⟨input, offset⟩
  · have stays : retrieve.apply stage = (.error error, stage) := by
      simp only [retrieve, Action.apply_bind, Action.apply_get, located]
      rfl
    rw [stays, List.self_eq_append_right] at recorded
    rw [recorded] at reads
    exact absurd rfl reads
  · rcases requested : (request .retrieveBuffer
      [.word offset, .word stage.capture.parameters.sampleCount]).apply stage.host with
      ⟨error | _, asked⟩
    · have unasked : retrieve.apply stage =
          (.error (.protocol error), { stage with host := asked }) := by
        simp only [retrieve, Action.apply_bind, Action.apply_get, located, Work.apply_ofExcept_ok,
          Work.apply_exchange, requested]
        rfl
      rcases silent_request requested with ⟨said, also, silent⟩
      rw [unasked, also, List.append_cancel_left_eq] at recorded
      rw [← recorded, silent] at reads
      exact absurd rfl reads
    · exact ⟨input, offset, asked, rfl, requested⟩

private theorem split_of_silent {said made before rest : List LinkCall} {call : LinkCall}
    (same : said ++ made = before ++ call :: rest) (silent : countReads said = 0)
    (read : call.isRead = true) :
    ∃ later, before = said ++ later ∧ made = later ++ call :: rest := by
  rcases List.append_eq_append_iff.mp same with ⟨later, before_eq, made_eq⟩ |
    ⟨later, said_eq, rest_eq⟩
  · exact ⟨later, before_eq, made_eq⟩
  · cases later with
    | nil => exact ⟨[], by simpa using said_eq.symm, rest_eq.symm⟩
    | cons first later =>
        rcases List.cons.inj rest_eq with ⟨rfl, -⟩
        rw [said_eq, countReads_append, countReads_cons read] at silent
        omega

structure Within (stage : Stage (Traced (Alarmed σ))) (input : Input)
    (asked : Host (Traced (Alarmed σ))) (before rest : List LinkCall) (call : LinkCall)
    (said later : List LinkCall) : Prop where
  recorded : asked.calls = stage.host.calls ++ said
  silent : countReads said = 0
  split : before = said ++ later
  reads : countReads later = later.length
  calls : (readInput stage input asked).2.calls = asked.calls ++ (later ++ call :: rest)
  unbroken : Unbroken (Calibration.ofPanel stage.panel input)
    stage.capture.parameters.sampleCount.toNat (readInput stage input asked).1.1
    (readInput stage input asked).1.2 (later ++ call :: rest)

theorem within_of_split {stage : Stage (Traced (Alarmed σ))}
    (phase : stage.capture.phase = .retrieving)
    (goesOn : stage.aborting = false) {input : Input} {offset : UInt16}
    {asked : Host (Traced (Alarmed σ))} (located : source stage = .ok (input, offset))
    (requested : (request .retrieveBuffer
      [.word offset, .word stage.capture.parameters.sampleCount]).apply stage.host =
        (.ok (), asked))
    (quiet : asked.Unalarmed) {before rest : List LinkCall} {call : LinkCall}
    (recorded : (step stage).2.host.calls = stage.host.calls ++ (before ++ call :: rest))
    (read : call.isRead = true) :
    ∃ said later, Within stage input asked before rest call said later := by
  rcases silent_request requested with ⟨said, also, silent⟩
  rcases unbroken_readSamples (Calibration.ofPanel stage.panel input) stage.capture.abortable
    stage.capture.parameters.sampleCount.toNat [] quiet with ⟨samples, made, kept, calls, unbroken⟩
  rw [calls_step (isFinished_of_phase phase) goesOn, phase, work, apply_retrieve located requested,
    calls_collected, readInput, calls, also, List.append_assoc, List.append_cancel_left_eq]
      at recorded
  rcases split_of_silent recorded silent read with ⟨later, before_eq, rfl⟩
  have reads := List.countP_eq_length.mp unbroken.countReads_eq
  obtain rfl : _ = samples := kept
  refine ⟨said, later, also, silent, before_eq, ?_, calls, unbroken⟩
  exact List.countP_eq_length.mpr
    fun earlier member => reads earlier (List.mem_append_left _ member)

section Within

variable {stage : Stage (Traced (Alarmed σ))} {input : Input} {asked : Host (Traced (Alarmed σ))}
  {before rest said later : List LinkCall} {call : LinkCall} {code : UInt16}

private theorem Within.scaled_eq (within : Within stage input asked before rest call said later)
    (calibration : Calibration Float) :
    scaled calibration (before ++ [call]) = scaled calibration (later ++ [call]) := by
  rw [scaled, within.split, List.append_assoc, List.filterMap_append, words_of_silent within.silent]
  rfl

theorem Within.position (within : Within stage input asked before rest call said later) :
    countReads before = later.length := by
  rw [within.split, countReads_append, within.silent, within.reads, Nat.zero_add]

private theorem Within.calls_behind
    (within : Within stage input asked before rest call said later) :
    asked.calls ++ (later ++ [call]) = stage.host.calls ++ (before ++ [call]) := by
  rw [within.recorded, within.split, List.append_assoc, List.append_assoc]

theorem Within.length_scaled (within : Within stage input asked before rest call said later)
    (word : call.word? = some code) :
    (scaled (Calibration.ofPanel stage.panel input) (later ++ [call])).length =
      countReads (before ++ [call]) := by
  rw [within.unbroken.length_scaled rfl word, countReads_append, within.position,
    countReads_cons (isRead_of_word? word)]
  rfl

private theorem Within.scaled_ne_nil (within : Within stage input asked before rest call said later)
    (word : call.word? = some code) :
    scaled (Calibration.ofPanel stage.panel input) (later ++ [call]) ≠ [] := by
  intro empty
  have length := within.unbroken.length_scaled rfl word
  rw [empty] at length
  cases length

end Within

/-! The same step with the wish and without. -/

omit [Link σ] in
theorem watched_alarmed (unasked : stage.host.abortRequested = false) (reads : Nat) :
    Watched (countReads stage.host.calls + reads) (stage.alarmed none).host
      (stage.alarmed (some reads)).host where
  unalarmed := ⟨rfl, unasked⟩
  disturbed := by
    have calls : (stage.alarmed none).host.calls = stage.host.calls := rfl
    rw [calls, due, if_pos (Nat.le_add_right _ _), Nat.add_sub_cancel_left,
      decide_eq_false (Nat.not_lt_of_le (Nat.le_add_right _ _)), ← unasked]
    rfl

omit [Link σ] in
theorem paired_alarmed (unasked : stage.host.abortRequested = false) (reads : Nat) :
    Paired (Watched (countReads stage.host.calls + reads)) (stage.alarmed none)
      (stage.alarmed (some reads)) :=
  .mk stage.capture stage.capture.abortable stage.panel (watched_alarmed unasked reads)

omit [Link σ] in
theorem goesOn_alarmed (unasked : stage.host.abortRequested = false) (reads : Option Nat) :
    (stage.alarmed reads).aborting = false := by
  have same : (stage.alarmed reads).host.abortRequested = stage.host.abortRequested := rfl
  rw [Stage.aborting, same, unasked, Bool.and_false]

/-- The call is a read call of the step on the stage, behind others of its calls, when nobody asks
for an abort during the step. -/
def ReadsBehind (stage : Stage (Traced σ)) (before : List LinkCall) (call : LinkCall) : Prop :=
  call.isRead = true ∧ ∃ rest,
    (step (stage.alarmed none)).2.host.calls = stage.host.calls ++ (before ++ call :: rest)

def Midway (stage : Stage (Traced σ)) (before : List LinkCall) (call : LinkCall) : Prop :=
  stage.capture.phase = .retrieving ∧ (∃ code, call.word? = some code) ∧
    countReads before + 1 < stage.capture.parameters.sampleCount.toNat

def interrupted (stage : Stage (Traced σ)) (before : List LinkCall) :
    Except (CaptureError Float) Phase × Stage (Traced (Alarmed σ)) :=
  step (stage.alarmed (some (countReads before)))

private theorem agreesOnReading_alarmed (unasked : stage.host.abortRequested = false)
    {before : List LinkCall} {call : LinkCall} (reads : ReadsBehind stage before call)
    (aside : ¬ Midway stage before call) (phase : stage.capture.phase = .retrieving) :
    AgreesOnReading (Watched (countReads stage.host.calls + countReads before)) (stage.alarmed none)
      (stage.alarmed (some (countReads before))) := by
  rcases reads with ⟨read, rest, recorded⟩
  intro input offset leftAsked rightAsked located requested watched
  rcases within_of_split phase (goesOn_alarmed unasked none) located requested watched.unalarmed
    recorded read with ⟨said, later, within⟩
  refine readSamples_of_watched _ _ _ _ watched ?_
  have position := within.position
  have last : rest = [] := by
    by_contra more
    rcases within.unbroken.goes_on rfl more with ⟨word, wanted⟩
    exact aside ⟨phase, word, position ▸ wanted⟩
  have calls := within.calls
  rw [readInput] at calls
  rw [calls, within.recorded, last]
  simp only [countReads_append, within.silent, countReads_cons read, within.reads, position]
  exact Nat.le_refl _

private theorem matching_interrupted (unasked : stage.host.abortRequested = false)
    {before : List LinkCall} {call : LinkCall} (reads : ReadsBehind stage before call)
    (aside : ¬ Midway stage before call) :
    Matching (Watched (countReads stage.host.calls + countReads before)) (step (stage.alarmed none))
      (interrupted stage before) :=
  matching_step (lockstep_watched _) (paired_alarmed unasked _)
    (agreesOnReading_alarmed unasked reads aside) (goesOn_alarmed unasked _)
    (goesOn_alarmed unasked _)

/-! A wish that makes no difference to the step. -/

/-- The step is the same with the wish as without. The next one carries out the wish, unless the
capture has failed already or is complete. -/
structure Carried (parameters : Parameters Float) (limits : Limits) (panel : Panel)
    (plain wished : Except (CaptureError Float) Phase × Stage (Traced (Alarmed σ))) : Prop where
  result : wished.1 = plain.1
  capture : wished.2.capture = plain.2.capture
  panels : wished.2.panel = plain.2.panel
  calls : wished.2.host.calls = plain.2.host.calls
  link : wished.2.host.link.link.link = plain.2.host.link.link.link
  clock : wished.2.host.clock = plain.2.host.clock
  notices : wished.2.host.notices = plain.2.host.notices
  asked : wished.2.host.abortRequested = true
  genuine : plain.1 ≠ .error .aborted
  failed (error : CaptureError Float) : plain.1 = .error error → wished.2.capture.phase = .aborted
  completed : plain.1 = .ok .idle → wished.2.capture.phase = .idle
  stopped (next : Phase) : plain.1 = .ok next → next ≠ .idle →
    ∃ after, step wished.2 = (.error .aborted, after) ∧
      Stopped parameters limits panel wished.2 after

omit [Link σ] in
private theorem source_ne_aborted (stage : Stage σ) : source stage ≠ .error .aborted := by
  intro aborted
  rw [source] at aborted
  split at aborted
  · split at aborted <;> cases aborted
  · cases aborted
  · cases aborted

private theorem validate_ne_aborted (parameters : Parameters Float) (panel : Panel)
    (limits : Limits) : parameters.validate panel limits ≠ .error .aborted := by
  intro aborted
  rw [Parameters.validate] at aborted
  split at aborted
  · cases aborted
  · split at aborted <;> cases aborted

private theorem unalarmed_request {command : Command} {parameters : List Parameter}
    {host asked : Host (Traced (Alarmed σ))} {result : Except ProtocolError Unit}
    (quiet : host.Unalarmed)
    (requested : (request command parameters).apply host = (result, asked)) :
    asked.Unalarmed := by
  rcases (uniform_request (lockstep_watched 0) command parameters).of_apply ⟨quiet, rfl⟩ requested
    with ⟨_, _, watched⟩
  exact watched.unalarmed

private theorem worked_ne_aborted {stage : Stage (Traced (Alarmed σ))}
    (quiet : stage.host.Unalarmed)
    {outcome : Except (CaptureError Float) Phase × Stage (Traced (Alarmed σ))}
    (worked : Worked stage outcome) : outcome.1 ≠ .error .aborted := by
  intro aborted
  cases worked with
  | refused _ refused =>
      rw [Except.error.inj aborted] at refused
      exact validate_ne_aborted _ _ _ refused
  | sourceless _ located =>
      rw [Except.error.inj aborted] at located
      exact source_ne_aborted _ located
  | @retrieved input _ asked _ finish _ _ _ requested heard =>
      rcases unbroken_readSamples (Calibration.ofPanel stage.panel input) stage.capture.abortable
        stage.capture.parameters.sampleCount.toNat [] (unalarmed_request quiet requested) with
        ⟨samples, calls, -, -, unbroken⟩
      rw [heard] at unbroken
      have genuine := unbroken.finish_ne
      cases finish with
      | aborted => exact genuine rfl
      | _ => cases aborted
  | _ => cases aborted

theorem step_ne_aborted {stage : Stage (Traced (Alarmed σ))} (quiet : stage.host.Unalarmed) :
    (step stage).1 ≠ .error .aborted := by
  intro aborted
  rcases stepped : step stage with ⟨result, after⟩
  have possible := stepped_step stage
  rw [stepped] at possible aborted
  cases possible with
  | rested | advanced => cases aborted
  | stopped _ aborting =>
      rw [Stage.aborting, quiet.unasked, Bool.and_false] at aborting
      cases aborting
  | failed _ _ worked => exact worked_ne_aborted quiet worked aborted

private theorem isFinished_of_step {σ : Type} [Link σ] {stage after : Stage σ} {next : Phase}
    (unfinished : stage.capture.isFinished = false) (stepped : step stage = (.ok next, after))
    (going : next ≠ .idle) : after.capture.isFinished = false := by
  have possible := stepped_step stage
  rw [stepped] at possible
  cases possible with
  | rested finished =>
      rw [finished] at unfinished
      cases unfinished
  | advanced _ _ worked =>
      have running := (next_worked worked rfl).2
      exact decide_eq_false (not_or.mpr ⟨going, running⟩)

theorem carried_interrupted (known : Known origin stage)
    (unfinished : stage.capture.isFinished = false) (unasked : stage.host.abortRequested = false)
    {before : List LinkCall} {call : LinkCall} (reads : ReadsBehind stage before call)
    (aside : ¬ Midway stage before call) :
    Carried origin.capture.parameters origin.capture.limits origin.panel
      (step (stage.alarmed none)) (interrupted stage before) := by
  rcases matching_interrupted unasked reads aside with ⟨results, paired⟩
  have watched := paired.host
  have captures : (interrupted stage before).2.capture = (step (stage.alarmed none)).2.capture := by
    have wished := (inherits_step (stage.alarmed (some (countReads before)))).abortable
    have plain := (inherits_step (stage.alarmed none)).abortable
    exact paired.capture_eq (wished.trans plain.symm)
  have asked : (interrupted stage before).2.host.abortRequested = true := by
    rcases reads with ⟨read, rest, recorded⟩
    rw [asked_of_watched watched, recorded]
    simp only [countReads_append, countReads_cons read]
    exact decide_eq_true (by omega)
  exact {
    result := results.symm
    capture := captures
    panels := paired.panel.symm
    calls := watched.calls_eq
    link := by rw [watched.disturbed]; rfl
    clock := by rw [watched.disturbed]; rfl
    notices := by rw [watched.disturbed]; rfl
    asked := asked
    genuine := step_ne_aborted ⟨rfl, unasked⟩
    failed := fun error failed =>
      phase_of_failed_step (Prod.ext (results.symm.trans failed) rfl)
    completed := fun completed => phase_of_step (Prod.ext (results.symm.trans completed) rfl)
    stopped := fun next advanced going => by
      have later : Known (origin.alarmed none) (interrupted stage before).2 :=
        known_step (known_alarmed known _)
      have running : (interrupted stage before).2.capture.isFinished = false :=
        isFinished_of_step unfinished (Prod.ext (results.symm.trans advanced) rfl) going
      exact ⟨_, step_of_asked running later asked, stopped_fail later⟩ }

/-! A wish that comes with a sample. -/

structure FrameOf (parameters : Parameters Float) (panel : Panel) (capture : Capture)
    (calls : List LinkCall) (frame : Frame) : Prop where
  channel : parameters.channels[capture.cursor]? = some (.analog frame.input)
  rate : frame.rate = capture.rate
  samples : frame.samples = scaled (Calibration.ofPanel panel frame.input) calls

/-- The capture is cut off behind the calls that a step on the stage has made, and the samples that
they have brought are a last frame. -/
structure Cut (parameters : Parameters Float) (panel : Panel) (stage : Stage (Traced σ))
    (made : List LinkCall) (after : Stage (Traced (Alarmed σ))) : Prop where
  phase : after.capture.phase = .aborted
  calls : after.host.calls = stage.host.calls ++ made
  last : ∃ frame, after.capture.frames = stage.capture.frames ++ [frame] ∧
    FrameOf parameters panel stage.capture made frame ∧ frame.samples.length = countReads made

private theorem reading_of_reads (unasked : stage.host.abortRequested = false)
    {before : List LinkCall} {call : LinkCall} (reads : ReadsBehind stage before call)
    (phase : stage.capture.phase = .retrieving) :
    ∃ input offset plainAsked wishedAsked rest said later,
      source stage = .ok (input, offset) ∧
      (request .retrieveBuffer [.word offset, .word stage.capture.parameters.sampleCount]).apply
        (stage.alarmed none).host = (.ok (), plainAsked) ∧
      (request .retrieveBuffer [.word offset, .word stage.capture.parameters.sampleCount]).apply
        (stage.alarmed (some (countReads before))).host = (.ok (), wishedAsked) ∧
      Watched (countReads stage.host.calls + countReads before) plainAsked wishedAsked ∧
      Within (stage.alarmed none) input plainAsked before rest call said later := by
  rcases reads with ⟨read, rest, recorded⟩
  have counted : countReads (before ++ call :: rest) ≠ 0 := by
    rw [countReads_append, countReads_cons read]
    omega
  have plainPhase : (stage.alarmed none).capture.phase = .retrieving := phase
  have goesOn := goesOn_alarmed unasked none
  rcases requested_of_reads plainPhase goesOn recorded counted with
    ⟨input, offset, plainAsked, located, requested⟩
  rcases (uniform_request (lockstep_watched _) _ _).of_apply
    (watched_alarmed unasked (countReads before)) requested with ⟨wishedAsked, wished, watched⟩
  rcases within_of_split plainPhase goesOn located requested watched.unalarmed recorded read with
    ⟨said, later, within⟩
  exact ⟨input, offset, plainAsked, wishedAsked, rest, said, later, located, requested, wished,
    watched, within⟩

omit [Link σ] in
private theorem frames_fail (stage : Stage σ) {input : Input}
    (current : stage.capture.current? = some (.analog input))
    (atHand : stage.capture.samples ≠ []) :
    (fail .aborted stage).capture.frames =
      stage.capture.frames ++ [⟨input, stage.capture.rate, stage.capture.samples⟩] := by
  simp [fail, lastFrame, atHand, frameAtHand_of_current current]

theorem step_of_reading {stage : Stage (Traced (Alarmed σ))}
    (phase : stage.capture.phase = .retrieving)
    (goesOn : stage.aborting = false) {input : Input} {offset : UInt16}
    {asked host : Host (Traced (Alarmed σ))} {samples : List Float}
    (located : source stage = .ok (input, offset))
    (requested : (request .retrieveBuffer
      [.word offset, .word stage.capture.parameters.sampleCount]).apply stage.host =
        (.ok (), asked)) :
    (readInput stage input asked = ((.aborted, samples), host) →
      step stage = (.error .aborted,
        fail .aborted { stage with capture := { stage.capture with samples }, host })) ∧
    (readInput stage input asked = ((.complete, samples), host) →
      step stage = (.ok .emitting,
        { stage with capture := { stage.capture with samples, phase := .emitting }, host })) := by
  have worked := apply_retrieve located requested
  constructor
  all_goals
    intro reading
    rw [step, isFinished_of_phase phase, goesOn, phase, work, worked, reading]
    rfl

theorem frameOf_within (known : Known origin stage) {input : Input} {offset : UInt16}
    (located : source stage = .ok (input, offset)) {asked : Host (Traced (Alarmed σ))}
    {before rest said later : List LinkCall} {call : LinkCall}
    (within : Within (stage.alarmed none) input asked before rest call said later) :
    FrameOf origin.capture.parameters origin.panel stage.capture (before ++ [call])
      ⟨input, stage.capture.rate,
        scaled (Calibration.ofPanel stage.panel input) (later ++ [call])⟩ where
  channel := by
    have current := ((source_eq_ok_iff stage input offset).mp located).1
    rw [Capture.current?, known.channels] at current
    exact current
  rate := rfl
  samples := by rw [within.scaled_eq, known.settings.calibration_eq input]

theorem cut_interrupted (known : Known origin stage)
    (unasked : stage.host.abortRequested = false) {before : List LinkCall} {call : LinkCall}
    (reads : ReadsBehind stage before call) (midway : Midway stage before call) :
    ∃ after, interrupted stage before = (.error .aborted, after) ∧
      Cut origin.capture.parameters origin.panel stage (before ++ [call]) after := by
  rcases midway with ⟨phase, ⟨code, word⟩, wanted⟩
  rcases reading_of_reads unasked reads phase with
    ⟨input, offset, plainAsked, wishedAsked, rest, said, later, located, requested, wished,
      watched, within⟩
  have heeds : (stage.alarmed none).capture.abortable = true := known.abortable.trans known.heeds
  have calls := within.calls
  rw [readInput, heeds] at calls
  rw [within.position] at wanted
  have moment : countReads plainAsked.calls + later.length =
      countReads stage.host.calls + countReads before := by
    rw [within.recorded, countReads_append, within.silent, within.position]
    rfl
  rcases readSamples_cut _ _ _ watched calls moment word wanted with ⟨host, reading, made⟩
  rw [← heeds] at reading
  have wishedPhase : (stage.alarmed (some (countReads before))).capture.phase = .retrieving := phase
  have stepped := (step_of_reading wishedPhase (goesOn_alarmed unasked _) located wished).1 reading
  have current := ((source_eq_ok_iff stage input offset).mp located).1
  have recorded : host.calls = stage.host.calls ++ (before ++ [call]) :=
    made.trans within.calls_behind
  exact ⟨_, stepped, rfl, recorded, _, frames_fail _ current (within.scaled_ne_nil word),
    frameOf_within known located within, within.length_scaled word⟩

/-- The last sample of a channel ends the step as ever, and the next step hands over the samples
without waiting for their acknowledgement. -/
theorem full_interrupted (known : Known origin stage)
    (unasked : stage.host.abortRequested = false) {before : List LinkCall} {call : LinkCall}
    {code : UInt16} (reads : ReadsBehind stage before call)
    (phase : stage.capture.phase = .retrieving) (word : call.word? = some code)
    (last : countReads before + 1 = stage.capture.parameters.sampleCount.toNat) :
    ∃ middle after, interrupted stage before = (.ok .emitting, middle) ∧
      step middle = (.error .aborted, after) ∧ after.host.link = middle.host.link ∧
      Cut origin.capture.parameters origin.panel stage (before ++ [call]) after := by
  have aside : ¬ Midway stage before call := fun midway => absurd last (Nat.ne_of_lt midway.2.2)
  have carried := carried_interrupted known (isFinished_of_phase phase) unasked reads aside
  rcases reading_of_reads unasked reads phase with
    ⟨input, offset, asked, -, rest, said, later, located, requested, -, -, within⟩
  rw [within.position] at last
  rcases within.unbroken.complete_of_last rfl word last with ⟨complete, rfl⟩
  have samples := within.unbroken.samples_eq
  have plainPhase : (stage.alarmed none).capture.phase = .retrieving := phase
  have plain := (step_of_reading plainPhase (goesOn_alarmed unasked _) located requested).2
    (Prod.ext (Prod.ext complete samples) rfl)
  have result := carried.result
  have captures := carried.capture
  have calls := carried.calls
  rw [plain] at result captures calls
  have stepped : interrupted stage before = (.ok .emitting, (interrupted stage before).2) :=
    Prod.ext result rfl
  have knownLater : Known (origin.alarmed none) (interrupted stage before).2 :=
    known_step (known_alarmed known _)
  have running : (interrupted stage before).2.capture.isFinished = false :=
    isFinished_of_phase (phase_of_step stepped)
  have current := ((source_eq_ok_iff stage input offset).mp located).1
  have frames := @frames_fail _ (interrupted stage before).2 input
  rw [captures] at frames
  exact ⟨_, _, stepped, step_of_asked running knownLater carried.asked, rfl, rfl,
    (calls.trans within.calls).trans within.calls_behind, _,
    frames current (within.scaled_ne_nil word), frameOf_within known located within,
    within.length_scaled word⟩

end Interruption

/-! Aborting at any moment. -/

structure AbortSafe [Link σ] (parameters : Parameters Float) (limits : Limits) (panel : Panel)
    (stage : Stage (Traced σ)) : Prop where
  stopped : stage.host.abortRequested = true →
    ∃ after, step stage = (.error .aborted, after) ∧ Stopped parameters limits panel stage after
  cancelled (capturing : Capturing (Traced σ)) : capturing.stage = stage →
    ∃ after, capturing.cancel = (after.capture.reading, (capturing.withStage after).device) ∧
      Stopped parameters limits panel stage after
  /-- An abort that is asked for while a sample arrives, but not the last one of its channel. -/
  midway (before : List LinkCall) (call : LinkCall) : stage.host.abortRequested = false →
    ReadsBehind stage before call → Midway stage before call →
    ∃ after, interrupted stage before = (.error .aborted, after) ∧
      Cut parameters panel stage (before ++ [call]) after
  /-- An abort that is asked for while the last sample of a channel arrives. -/
  full (before : List LinkCall) (call : LinkCall) (code : UInt16) :
    stage.host.abortRequested = false → ReadsBehind stage before call →
    stage.capture.phase = .retrieving → call.word? = some code →
    countReads before + 1 = parameters.sampleCount.toNat →
    ∃ middle after, interrupted stage before = (.ok .emitting, middle) ∧
      step middle = (.error .aborted, after) ∧ after.host.link = middle.host.link ∧
      Cut parameters panel stage (before ++ [call]) after
  /-- An abort that is asked for during any other read call, or while the last sample arrives. -/
  carried (before : List LinkCall) (call : LinkCall) : stage.host.abortRequested = false →
    ReadsBehind stage before call → ¬ Midway stage before call →
    Carried parameters limits panel (step (stage.alarmed none)) (interrupted stage before)
  kept (before : List LinkCall) :
    stage.capture.frames <+: (interrupted stage before).2.capture.frames

/-- Aborting is safe in every state that an unfinished capture can be in, whatever the link does. -/
theorem abortSafe_play [Link σ] (parameters : Parameters Float) (limits : Limits)
    (policy : PollPolicy)
    (panel : Panel) (host : Host σ) (events : List Event)
    (unfinished : ((Stage.fresh parameters limits policy true panel host.traced).play
      events).capture.isFinished = false) :
    AbortSafe parameters limits panel
      ((Stage.fresh parameters limits policy true panel host.traced).play events) := by
  have known := known_play (known_fresh parameters limits policy panel host) events
  generalize (Stage.fresh parameters limits policy true panel host.traced).play events = stage at *
  have counts : parameters.sampleCount = stage.capture.parameters.sampleCount :=
    congrArg Parameters.sampleCount known.parameters.symm
  have cancelled (capturing : Capturing (Traced σ)) (same : capturing.stage = stage) :
      ∃ after, capturing.cancel = (after.capture.reading, (capturing.withStage after).device) ∧
        Stopped parameters limits panel stage after := by
    have asked : Known _ { stage with host := stage.host.requestAbort } := known_host rfl known
    have stopped := stopped_fail asked
    have running : ({ stage with host := stage.host.requestAbort } : Stage _).capture.isFinished =
        false := unfinished
    refine ⟨_, ?_, stopped.phase, stopped.link, stopped.nothing, stopped.last⟩
    rw [Capturing.cancel, same, step_of_asked running asked rfl]
    rfl
  exact {
    stopped := fun asked => ⟨_, step_of_asked unfinished known asked, stopped_fail known⟩
    cancelled := cancelled
    midway := fun before call unasked reads midway => cut_interrupted known unasked reads midway
    full := fun before call code unasked reads phase word last =>
      full_interrupted known unasked reads phase word (counts ▸ last)
    carried := fun before call unasked reads aside =>
      carried_interrupted known unfinished unasked reads aside
    kept := fun before => frames_step (stage.alarmed (some (countReads before))) }

def shortStage : Stage (Traced Script) :=
  (Stage.fresh shortParameters { minSamples := 2 } {} true {} shortHost.traced).play
    (List.replicate 5 .step)

theorem abortSafe_short : shortStage.capture.isFinished = false ∧
    AbortSafe shortParameters { minSamples := 2 } {} shortStage ∧
    ∃ before call, ReadsBehind shortStage before call ∧ Midway shortStage before call := by
  have unfinished : shortStage.capture.isFinished = false := by decide +kernel
  refine ⟨unfinished, abortSafe_play _ _ _ _ _ _ unfinished, ?_⟩
  exact ⟨[.write [0x0b] (.ok 1), .write [0x08] (.ok 1), .write [0, 0] (.ok 2),
    .write [2, 0] (.ok 2)],
    .read 2 (.ok [0, 0]), ⟨rfl, [.read 2 (.ok [0xff, 0x03])], by decide +kernel⟩,
    by decide +kernel, ⟨0, rfl⟩, by decide +kernel⟩

end Capture

end BenchScope
