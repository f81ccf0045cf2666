import BenchScope.Proofs.Capture.Consistency
import BenchScope.Proofs.Capture.Conversation

namespace BenchScope

open LinkCall Exchange

/-! The frames of a capture, and where their samples come from. Frames are handed over in the
emitting phase, and once more when a capture is aborted with samples at hand. -/

namespace Retrieval

def extend (retrieval : Retrieval) (more : List LinkCall) : Retrieval :=
  { retrieval with after := retrieval.after ++ more }

private theorem calls_extend (retrieval : Retrieval) (more : List LinkCall) :
    (retrieval.extend more).calls = retrieval.calls ++ more := by
  simp only [calls, extend, List.append_assoc]

theorem IsWhole.extend {retrieval : Retrieval} {count : Nat} (whole : retrieval.IsWhole count)
    (more : List LinkCall) : (retrieval.extend more).IsWhole count := by
  rcases whole with all | ⟨call, rest, after, short⟩
  · exact .inl all
  · refine .inr ⟨call, rest ++ more, ?_, short⟩
    rw [Retrieval.extend, after, List.cons_append]

end Retrieval

namespace Capture

variable {σ : Type} {session : Session}

def Explained (session : Session) (stage : Stage (Traced σ)) (which : Retrieval → Prop) : Prop :=
  ∀ position frame, stage.capture.frames[position]? = some frame →
    ∃ retrieval : Retrieval, retrieval.calls = stage.host.calls ∧
      session.Explains retrieval position frame ∧ which retrieval

def Whole (session : Session) (retrieval : Retrieval) : Prop :=
  retrieval.IsWhole session.parameters.sampleCount.toNat

theorem Explained.extend {stage after : Stage (Traced σ)} {more : List LinkCall}
    (explained : Explained session stage (Whole session))
    (frames : after.capture.frames = stage.capture.frames)
    (recorded : after.host.calls = stage.host.calls ++ more) :
    Explained session after (Whole session) := by
  intro position frame found
  rw [frames] at found
  rcases explained position frame found with ⟨retrieval, calls, explains, whole⟩
  refine ⟨retrieval.extend more, ?_, ⟨explains.before, explains.said, explains.reads,
    explains.channel, explains.rate, explains.samples, explains.bound⟩, whole.extend more⟩
  rw [retrieval.calls_extend, calls, recorded]

theorem Explained.weaken {stage : Stage (Traced σ)} {which weaker : Retrieval → Prop}
    (explained : Explained session stage which)
    (implies : ∀ retrieval, which retrieval → weaker retrieval) :
    Explained session stage weaker := by
  intro position frame found
  rcases explained position frame found with ⟨retrieval, calls, explains, holds⟩
  exact ⟨retrieval, calls, explains, implies retrieval holds⟩

theorem Explained.snoc {stage after : Stage (Traced σ)} {which : Retrieval → Prop} {frame : Frame}
    {retrieval : Retrieval} (explained : Explained session stage which)
    (frames : after.capture.frames = stage.capture.frames ++ [frame])
    (recorded : after.host.calls = stage.host.calls) (calls : retrieval.calls = stage.host.calls)
    (explains : session.Explains retrieval stage.capture.frames.length frame)
    (holds : which retrieval) : Explained session after which := by
  intro position found at_position
  rw [frames, List.getElem?_append] at at_position
  rw [recorded]
  split at at_position
  case isTrue => exact explained position found at_position
  case isFalse bound =>
    have last : position - stage.capture.frames.length < [frame].length :=
      (List.getElem?_eq_some_iff.mp at_position).1
    have same : position = stage.capture.frames.length := by
      rw [List.length_singleton] at last
      omega
    subst same
    rw [Nat.sub_self] at at_position
    cases at_position
    exact ⟨retrieval, calls, explains, holds⟩

variable [Link σ] {origin stage : Stage (Traced σ)}

theorem isWhole_of_shows {finish : ReadEnd} {retrieval : Retrieval} {count : Nat}
    (ended : finish.result = .ok .emitting)
    (shows : finish.Shows count retrieval.codes retrieval.after) : retrieval.IsWhole count := by
  cases finish with
  | complete => exact .inl shows
  | short =>
      rcases shows with ⟨call, after, short⟩
      exact .inr ⟨call, [], after, short⟩
  | aborted => cases ended
  | failed error => cases ended

theorem grows_worked {outcome : Except (CaptureError Float) Phase × Stage (Traced σ)}
    (worked : Worked stage outcome) :
    ∃ more, outcome.2.host.calls = stage.host.calls ++ more := by
  cases worked with
  | unarmed _ _ _ _ performed | armed _ _ _ _ performed | unstarted _ _ _ performed
  | started _ _ _ performed =>
      rcases (makes_perform _ _).of_apply performed with ⟨more, recorded, -⟩
      exact ⟨more, recorded⟩
  | unanswered _ asked | done _ asked | late _ asked | waiting _ asked =>
      rcases makes_askStatus.of_apply asked with ⟨more, recorded, -⟩
      exact ⟨more, recorded⟩
  | unrequested _ _ requested =>
      rcases (makes_request _ _).of_apply requested with ⟨more, recorded, -⟩
      exact ⟨more, recorded⟩
  | @retrieved _ _ _ _ finish _ _ _ requested heard =>
      rcases (makes_request _ _).of_apply requested with ⟨said, first, -⟩
      rcases heard_of_readSamples heard with ⟨more, _, _, _, recorded, -⟩
      refine ⟨said ++ more, ?_⟩
      rw [← List.append_assoc, ← first, ← recorded]
      cases finish <;> rfl
  | unacknowledged _ awaited | emitted _ awaited | completed _ awaited =>
      rcases hears_awaitAcknowledgement.of_apply awaited with ⟨more, recorded, -⟩
      exact ⟨more, recorded⟩
  | _ => exact ⟨[], (List.append_nil _).symm⟩

/-! Handing over a frame. -/

omit [Link σ] in
private theorem explained_handOver (explained : Explained session stage (Whole session))
    (underway : stage.capture.Underway) {finish : ReadEnd} (ended : finish.result = .ok .emitting)
    (gathered : Gathered session stage finish) :
    Explained session { stage with capture := stage.capture.handOver } (Whole session) := by
  rcases gathered with ⟨waits, retrieval, frame, calls, -, -, shows, atHand, explains⟩
  rw [← length_of_underway underway] at explains
  refine explained.snoc ?_ rfl calls explains (isWhole_of_shows ended shows)
  rw [← atHand]
  rfl

theorem explained_worked {outcome : Except (CaptureError Float) Phase × Stage (Traced σ)}
    (follows : Follows session origin stage) (explained : Explained session stage (Whole session))
    (worked : Worked stage outcome) : Explained session outcome.2 (Whole session) := by
  have holds := follows.phase
  have told := follows.told
  rcases grows_worked worked with ⟨more, recorded⟩
  cases worked with
  -- The frame is handed over before the acknowledgement is awaited, so that it is the same with and
  -- without one.
  | unacknowledged phase | emitted phase | completed phase =>
      rw [phase] at holds told
      rcases told with ⟨finish, ended, gathered⟩
      exact (explained_handOver explained holds.2.1 ended gathered).extend rfl recorded
  | _ => exact explained.extend rfl recorded

/-! The last frame of a capture that fails. -/

omit [Link σ] in
theorem explained_fail (explained : Explained session stage (Whole session))
    {error : CaptureError Float} (genuine : error ≠ .aborted) :
    Explained session (fail error stage) (Whole session) := by
  rcases stage.capture.lastFrame_cases error with nothing | ⟨aborted, -⟩
  · have recorded : (fail error stage).host.calls = stage.host.calls ++ [] :=
      (List.append_nil _).symm
    refine explained.extend ?_ recorded
    simp [fail, nothing]
  · exact absurd aborted genuine

omit [Link σ] in
private theorem explained_abort (explained : Explained session stage (Whole session))
    (gathered : stage.capture.samples = [] ∨
      stage.capture.Underway ∧ ∃ finish, Gathered session stage finish) :
    Explained session (fail .aborted stage) fun _ => True := by
  have all : Explained session stage fun _ => True := explained.weaken fun _ _ => trivial
  rcases stage.capture.lastFrame_cases .aborted with nothing | ⟨-, samples, last⟩
  · intro position frame found
    rw [fail, nothing, List.append_nil] at found
    exact all position frame found
  · rcases gathered with empty | ⟨underway, finish, waits, retrieval, frame, calls, -, -, -, atHand,
      explains⟩
    · exact absurd empty samples
    · rw [← length_of_underway underway] at explains
      refine all.snoc ?_ rfl calls explains trivial
      rw [fail, last, atHand]

theorem gathered_worked {outcome : Except (CaptureError Float) Phase × Stage (Traced σ)}
    (begins : session.Begins origin) (follows : Follows session origin stage)
    (worked : Worked stage outcome) (aborted : outcome.1 = .error .aborted) :
    outcome.2.capture.samples = [] ∨
      outcome.2.capture.Underway ∧ ∃ finish, Gathered session outcome.2 finish := by
  have holds := follows.phase
  have told := follows.told
  cases worked with
  -- These are never aborted, but there are no samples at hand either.
  | refused phase | sourceless phase =>
      exact .inl (samples_of_sound follows.toSound (by simp [phase]))
  | retrieved phase located requested heard =>
      rw [phase] at holds told
      rcases told with ⟨waits, conversed⟩
      rcases holds with ⟨checked, -, underway, started⟩
      exact .inr ⟨underway, _, gathered_retrieved begins follows.toInherits checked started
        conversed located requested heard⟩
  | _ => cases aborted

/-! A step as a whole. -/

theorem explained_step {result : Except (CaptureError Float) Phase} {after : Stage (Traced σ)}
    (follows : Follows session origin stage) (explained : Explained session stage (Whole session))
    (stepped : step stage = (result, after)) (genuine : result ≠ .error .aborted) :
    Explained session after (Whole session) := by
  have possible := stepped_step stage
  rw [stepped] at possible
  cases possible with
  | rested => exact explained
  | stopped => exact absurd rfl genuine
  | advanced _ _ worked => exact explained_worked follows explained worked
  | failed _ _ worked =>
      refine explained_fail (explained_worked follows explained worked) ?_
      exact fun aborted => genuine (congrArg Except.error aborted)

private theorem explained_aborted_step {after : Stage (Traced σ)} (begins : session.Begins origin)
    (follows : Follows session origin stage) (explained : Explained session stage (Whole session))
    (stepped : step stage = (.error .aborted, after)) :
    Explained session after fun _ => True := by
  have possible := stepped_step stage
  rw [stepped] at possible
  cases possible with
  | stopped =>
      refine explained_abort explained ?_
      by_cases phase : stage.capture.phase = .emitting
      · have holds := follows.phase
        have told := follows.told
        rw [phase] at holds told
        rcases told with ⟨finish, -, gathered⟩
        exact .inr ⟨holds.2.1, finish, gathered⟩
      · exact .inl (samples_of_sound follows.toSound phase)
  | failed _ _ worked =>
      exact explained_abort (explained_worked follows explained worked)
        (gathered_worked begins follows worked rfl)

/-- Only the last frame of an aborted capture may fall short. -/
structure Credited (session : Session) (origin stage : Stage (Traced σ)) : Prop
    extends Follows session origin stage where
  frames : Explained session stage fun retrieval =>
    stage.capture.phase = .aborted ∨ Whole session retrieval

omit [Link σ] in
theorem Credited.whole (credited : Credited session origin stage)
    (running : stage.capture.phase ≠ .aborted) : Explained session stage (Whole session) :=
  credited.frames.weaken fun _ state => state.resolve_left running

theorem credited_step (begins : session.Begins origin) (credited : Credited session origin stage) :
    Credited session origin (step stage).2 := by
  refine ⟨follows_step begins credited.toFollows, ?_⟩
  by_cases aborted : stage.capture.phase = .aborted
  · rw [step_of_finished (isFinished_of_phase aborted)]
    exact credited.frames
  · have whole := credited.whole aborted
    rcases stepped : step stage with ⟨result, after⟩
    by_cases ended : result = .error .aborted
    · subst ended
      have last : after.capture.phase = .aborted := phase_of_failed_step stepped
      exact (explained_aborted_step begins credited.toFollows whole stepped).weaken
        fun _ _ => .inl last
    · exact (explained_step credited.toFollows whole stepped ended).weaken fun _ => .inr

theorem credited_play (begins : session.Begins origin) (credited : Credited session origin stage)
    (events : List Event) : Credited session origin (stage.play events) := by
  refine Stage.play_keeps _ (fun _ => credited_step begins) ?_ stage events credited
  intro stage host same credited
  refine ⟨follows_host same credited.toFollows, ?_⟩
  intro position frame found
  rw [Host.calls, same]
  exact credited.frames position frame found

/-! Frames are never taken back. -/

theorem frames_worked {σ : Type} [Link σ] {stage : Stage σ}
    {outcome : Except (CaptureError Float) Phase × Stage σ} (worked : Worked stage outcome) :
    stage.capture.frames <+: outcome.2.capture.frames := by
  cases worked with
  | unacknowledged | emitted | completed => exact List.prefix_append _ _
  | _ => exact List.prefix_refl _

theorem frames_step {σ : Type} [Link σ] (stage : Stage σ) :
    stage.capture.frames <+: (step stage).2.capture.frames := by
  rcases equal : step stage with ⟨result, after⟩
  have stepped := stepped_step stage
  rw [equal] at stepped
  cases stepped with
  | rested => exact List.prefix_refl _
  | stopped => exact List.prefix_append _ _
  | advanced _ _ worked =>
      have grown := frames_worked worked
      exact grown
  | failed _ _ worked => exact (frames_worked worked).trans (List.prefix_append _ _)

theorem frames_play {σ : Type} [Link σ] (stage : Stage σ) (events : List Event) :
    stage.capture.frames <+: (stage.play events).capture.frames :=
  Stage.play_keeps (fun later => stage.capture.frames <+: later.capture.frames)
    (fun later grown => grown.trans (frames_step later)) (fun _ _ _ grown => grown) stage events
    (List.prefix_refl _)

/-- The frame is there before its acknowledgement is awaited. -/
private theorem frames_of_unacknowledged {σ : Type} [Link σ] {stage after : Stage σ}
    {error : CaptureError Float} (phase : stage.capture.phase = .emitting)
    (stepped : step stage = (.error error, after)) (genuine : error ≠ .aborted) :
    after.capture.frames = stage.capture.frames ++ stage.capture.frameAtHand := by
  have handed {outcome : Except (CaptureError Float) Phase × Stage σ}
      (worked : Worked stage outcome) :
      outcome.2.capture.frames = stage.capture.frames ++ stage.capture.frameAtHand := by
    cases worked with
    | unacknowledged | emitted | completed => rfl
    -- All other work belongs to other phases.
    | _ => simp_all
  have possible := stepped_step stage
  rw [stepped] at possible
  cases possible with
  | stopped => exact absurd rfl genuine
  | @failed _ last _ _ worked =>
      rcases last.capture.lastFrame_cases error with nothing | ⟨aborted, -⟩
      · rw [fail, nothing, List.append_nil]
        exact handed worked
      · exact absurd aborted genuine

/-! The frames as they can be read off a capture. -/

def Traceable (parameters : Parameters Float) (limits : Limits) (panel : Panel)
    (which : Retrieval → Prop) (stage : Stage (Traced σ)) : Prop :=
  ∀ position frame, stage.capture.frames[position]? = some frame →
    ∃ sampling retrieval, parameters.validate panel limits = .ok sampling ∧
      retrieval.calls = stage.host.calls ∧
      (Session.mk parameters panel sampling).Explains retrieval position frame ∧ which retrieval

/-- What can be relied on when a capture begins on this stage. -/
structure Faithful (parameters : Parameters Float) (limits : Limits) (panel : Panel)
    (origin : Stage (Traced σ)) : Prop where
  order (events : List Event) :
    (origin.play events).capture.frames.map (fun frame => Channel.analog frame.input) <+:
      parameters.channels
  distinct (events : List Event) : ((origin.play events).capture.frames.map Frame.input).Nodup
  names (events : List Event) :
    (origin.play events).capture.frames.map Frame.name <+: parameters.channels.map Channel.name
  kept (first second : List Event) :
    (origin.play first).capture.frames <+: (origin.play (first ++ second)).capture.frames
  sources (events : List Event) :
    Traceable parameters limits panel (fun _ => True) (origin.play events)
  completed (steps : Nat) (final : Stage (Traced σ)) :
    runFor steps origin = (.completed, final) →
      final.capture.frames.map (fun frame => Channel.analog frame.input) = parameters.channels
  failed (steps : Nat) (error : CaptureError Float) (final : Stage (Traced σ)) :
    runFor steps origin = (.failed error, final) → error ≠ .aborted →
      Traceable parameters limits panel (·.IsWhole parameters.sampleCount.toNat) final
  failedStep (events : List Event) (error : CaptureError Float) (after : Stage (Traced σ)) :
    step (origin.play events) = (.error error, after) → error ≠ .aborted →
      Traceable parameters limits panel (·.IsWhole parameters.sampleCount.toNat) after
  unacknowledged (events : List Event) (error : CaptureError Float) (after : Stage (Traced σ)) :
    (origin.play events).capture.phase = .emitting →
    step (origin.play events) = (.error error, after) → error ≠ .aborted →
      ∃ frame, parameters.channels[(origin.play events).capture.cursor]? =
          some (.analog frame.input) ∧
        ∀ more, (after.play more).capture.frames = (origin.play events).capture.frames ++ [frame]

section Reading

variable {σ : Type} {origin stage : Stage σ}

private theorem order_of_sound (sound : Sound origin stage) :
    stage.capture.frames.map (fun frame => Channel.analog frame.input) <+:
      origin.capture.channels := by
  rcases delivered_of_sound sound with ⟨count, delivered⟩
  rw [delivered, ← sound.channels]
  exact List.take_prefix _ _

private theorem order_of_idle (sound : Sound origin stage) (idle : stage.capture.phase = .idle) :
    stage.capture.frames.map (fun frame => Channel.analog frame.input) =
      origin.capture.channels := by
  have holds := sound.phase
  rw [idle] at holds
  rw [holds.2.2.2.2, sound.channels, List.take_length]

theorem distinct_of_sound (sound : Sound origin stage) :
    (stage.capture.frames.map Frame.input).Nodup := by
  by_cases empty : stage.capture.frames = []
  · rw [empty]
    exact List.nodup_nil
  · have distinct :=
      (Parameters.accepted_of_validate (checked_of_frames sound empty)).channels_nodup
    have order : ((stage.capture.frames.map Frame.input).map Channel.analog).Nodup := by
      rw [List.map_map]
      exact distinct.sublist (order_of_sound sound).sublist
    exact order.of_map

private theorem begins_of_frame (sound : Sound origin stage) {position : Nat} {frame : Frame}
    (found : stage.capture.frames[position]? = some frame) :
    (Session.mk origin.capture.parameters origin.panel stage.capture.sampling).Begins origin := by
  refine ⟨rfl, rfl, checked_of_frames sound ?_⟩
  intro same
  rw [same] at found
  cases found

private theorem frame_of_unacknowledged [Link σ] {after : Stage σ} {error : CaptureError Float}
    (sound : Sound origin stage) (phase : stage.capture.phase = .emitting)
    (stepped : step stage = (.error error, after)) (genuine : error ≠ .aborted) :
    ∃ frame : Frame, origin.capture.channels[stage.capture.cursor]? = some (.analog frame.input) ∧
      ∀ more, (after.play more).capture.frames = stage.capture.frames ++ [frame] := by
  have holds := sound.phase
  rw [phase] at holds
  rcases current_of_underway sound.toInherits holds.1 holds.2.1.1 with ⟨input, current⟩
  have frames := frames_of_unacknowledged phase stepped genuine
  rw [frameAtHand_of_current current] at frames
  refine ⟨⟨input, stage.capture.rate, stage.capture.samples⟩, ?channel, fun more => ?later⟩
  case channel =>
    rw [current?, sound.channels] at current
    exact current
  case later =>
    have finished : after.capture.isFinished = true :=
      isFinished_of_phase (phase_of_failed_step stepped)
    rw [(play_of_finished finished more).1]
    exact frames

end Reading

private theorem traceable_of_step {error : CaptureError Float} {after : Stage (Traced σ)}
    (sound : Sound origin stage)
    (credited : ∀ session : Session, session.Begins origin → Credited session origin stage)
    (stepped : step stage = (.error error, after)) (genuine : error ≠ .aborted) :
    Traceable origin.capture.parameters origin.capture.limits origin.panel
      (·.IsWhole origin.capture.parameters.sampleCount.toNat) after := by
  intro position frame found
  have later : Sound origin after := by
    have next := sound_step sound
    rwa [stepped] at next
  have begins := begins_of_frame later found
  have known := credited _ begins
  have running : stage.capture.phase ≠ .aborted := by
    intro aborted
    rw [step_of_finished (isFinished_of_phase aborted)] at stepped
    cases stepped
  have explained := explained_step known.toFollows (known.whole running) stepped
    fun same => genuine (Except.error.inj same)
  rcases explained position frame found with ⟨retrieval, calls, explains, whole⟩
  exact ⟨_, retrieval, begins.valid, calls, explains, whole⟩

/-- Frames are not lost, repeated, reordered or mixed, whatever the link does and whenever the
operator asks for an abort. -/
theorem faithful_fresh (parameters : Parameters Float) (limits : Limits) (policy : PollPolicy)
    (abortable : Bool) (panel : Panel) (host : Host σ) :
    Faithful parameters limits panel
      (Stage.fresh parameters limits policy abortable panel host.traced) := by
  have fresh := sound_fresh parameters limits policy abortable panel host.traced
  have nothing (session : Session) : Credited session _ _ :=
    ⟨⟨fresh, rfl⟩, fun _ _ found => by cases found⟩
  have sound (events : List Event) := sound_play fresh events
  have credited (events : List Event) (session : Session) (begins : session.Begins _) :=
    credited_play begins (nothing session) events
  have failedStep (events : List Event) (error : CaptureError Float) (after : Stage (Traced σ))
      (stepped : step ((Stage.fresh parameters limits policy abortable panel host.traced).play
        events) = (.error error, after)) (genuine : error ≠ .aborted) :=
    traceable_of_step (sound events) (credited events) stepped genuine
  refine {
    order := fun events => order_of_sound (sound events)
    distinct := fun events => distinct_of_sound (sound events)
    names := ?names, kept := ?kept, sources := ?sources, completed := ?completed
    failed := ?failed, failedStep := failedStep, unacknowledged := ?unacknowledged }
  case names =>
    intro events
    have names := (order_of_sound (sound events)).map Channel.name
    rwa [List.map_map] at names
  case kept =>
    intro first second
    rw [Stage.play_append]
    exact frames_play _ second
  case sources =>
    intro events position frame found
    have begins := begins_of_frame (sound events) found
    rcases (credited events _ begins).frames position frame found with
      ⟨retrieval, calls, explains, -⟩
    exact ⟨_, retrieval, begins.valid, calls, explains, trivial⟩
  case completed =>
    intro steps final ran
    rcases runFor_eq_play steps (Stage.fresh parameters limits policy abortable panel host.traced)
      with ⟨count, equal⟩
    have ended := sound (List.replicate count .step)
    rw [← equal, ran] at ended
    exact order_of_idle ended (idle_of_runFor ran)
  case failed =>
    intro steps error final ran genuine
    rcases step_of_runFor ran genuine with ⟨count, stepped⟩
    exact failedStep _ error final stepped genuine
  case unacknowledged =>
    intro events error after phase stepped genuine
    exact frame_of_unacknowledged (sound events) phase stepped genuine

end Capture

end BenchScope
