import Mathlib.Order.Interval.Set.Disjoint
import BenchScope.Link.Script
import BenchScope.Proofs.Capture.Conversation

namespace BenchScope

open LinkCall

/-! The parts of the buffer that the channels of a capture have. The check of the parameters bounds
all samples together, and the offsets are products that have to fit a word. -/

def window (offset sampleCount : UInt16) : Set Nat :=
  Set.Ico offset.toNat (offset.toNat + sampleCount.toNat)

def windowRequest (sampleCount offset : UInt16) : List (List UInt8) :=
  [[0x0b], [0x08], wordBytes offset, wordBytes sampleCount]

def consecutiveOffsets (sampleCount : UInt16) (count : Nat) : List UInt16 :=
  (List.range count).map fun index => UInt16.ofNat (index * sampleCount.toNat)

/-- The buffer is shared out: the windows follow each other from its beginning, none of them
overlap, and all of them lie within it. -/
structure SharesBuffer (sampleCount : UInt16) (capacity : Nat) (offsets : List UInt16) : Prop where
  consecutive (index : Nat) (offset : UInt16) :
    offsets[index]? = some offset → offset.toNat = index * sampleCount.toNat
  disjoint : offsets.Pairwise fun left right =>
    window left sampleCount ∩ window right sampleCount = ∅
  within : ∀ offset ∈ offsets, window offset sampleCount ⊆ Set.Ico 0 capacity

section Offsets

variable {sampleCount : UInt16} {count : Nat}

private theorem toNat_offset_of_fits (fits : (count - 1) * sampleCount.toNat ≤ 65535) {index : Nat}
    (bound : index < count) :
    (UInt16.ofNat (index * sampleCount.toNat)).toNat = index * sampleCount.toNat := by
  have small : index * sampleCount.toNat ≤ 65535 :=
    (Nat.mul_le_mul_right _ (Nat.le_sub_one_of_lt bound)).trans fits
  rw [UInt16.toNat_ofNat']
  omega

private theorem getElem?_consecutiveOffsets {index : Nat} (bound : index < count) :
    (consecutiveOffsets sampleCount count)[index]? =
      some (UInt16.ofNat (index * sampleCount.toNat)) := by
  simp [consecutiveOffsets, bound]

theorem sharesBuffer_consecutiveOffsets {capacity : Nat}
    (fits : (count - 1) * sampleCount.toNat ≤ 65535)
    (enough : count * sampleCount.toNat ≤ capacity) :
    SharesBuffer sampleCount capacity (consecutiveOffsets sampleCount count) where
  consecutive index offset found := by
    rcases List.getElem?_eq_some_iff.mp found with ⟨bound, same⟩
    rw [consecutiveOffsets, List.length_map, List.length_range] at bound
    rw [getElem?_consecutiveOffsets bound, Option.some.injEq] at found
    rw [← found, toNat_offset_of_fits fits bound]
  disjoint := by
    rw [consecutiveOffsets, List.pairwise_map]
    refine List.pairwise_lt_range.imp_of_mem ?_
    intro left right leftMember rightMember before
    rw [window, window, toNat_offset_of_fits fits (List.mem_range.mp leftMember),
      toNat_offset_of_fits fits (List.mem_range.mp rightMember), ← Set.disjoint_iff_inter_eq_empty,
      Set.Ico_disjoint_Ico]
    have next : (left + 1) * sampleCount.toNat ≤ right * sampleCount.toNat :=
      Nat.mul_le_mul_right _ before
    rw [Nat.succ_mul] at next
    exact (min_le_left _ _).trans (next.trans (le_max_right _ _))
  within := by
    intro offset member
    rcases List.mem_map.mp member with ⟨index, bound, rfl⟩
    rw [List.mem_range] at bound
    rw [window, toNat_offset_of_fits fits bound, ← Nat.succ_mul]
    exact Set.Ico_subset_Ico (Nat.zero_le _)
      ((Nat.mul_le_mul_right _ (Nat.succ_le_of_lt bound)).trans enough)

end Offsets

namespace Session

variable (session : Session)

def preamble (waits : Nat) : List (List UInt8) :=
  (session.waiting waits ++ [Turn.ask true]).flatMap session.words

private theorem words_schedule (waits : Nat) :
    (session.schedule waits).flatMap session.words = session.preamble waits ++
      (consecutiveOffsets session.parameters.sampleCount session.parameters.channels.length).flatMap
        (windowRequest session.parameters.sampleCount) := by
  rw [schedule, script, ← List.singleton_append, ← List.append_assoc, List.flatMap_append, preamble,
    consecutiveOffsets, List.flatMap_map, List.flatMap_map]
  rfl

end Session

namespace Capture

variable {σ : Type} {session : Session}

/-! Offsets that fit a word, and offsets that do not. -/

def Fits (parameters : Parameters Float) : Prop :=
  (parameters.channels.length - 1) * parameters.sampleCount.toNat ≤ 65535

section Assignment

variable {origin stage : Stage σ} {panel : Panel}

private theorem fits_of_assignOffsets (begins : session.Begins origin)
    (inherits : Inherits origin stage) (prepared : Prepared stage)
    (assigned : stage.panel.assignOffsets stage.capture.parameters.sampleCount = (.ok (), panel)) :
    Fits session.parameters := by
  have accepted := accepted_of_begins begins
  have last := Nat.sub_one_lt (Nat.ne_of_gt accepted.count_pos)
  rcases accepted.analog_getElem last with ⟨input, found⟩
  have parameters := parameters_of_begins begins inherits
  rw [parameters, Panel.assignOffsets, prepared.1, Capture.channels, parameters] at assigned
  have fits := Panel.fits_of_assignFrom assigned found
  rw [Nat.zero_add] at fits
  exact Nat.le_of_lt_succ fits

theorem overflow_of_assignOffsets (begins : session.Begins origin)
    (inherits : Inherits origin stage)
    (prepared : Prepared stage) {error : Channel.Error}
    (assigned : stage.panel.assignOffsets stage.capture.parameters.sampleCount =
      (.error error, panel)) :
    ∃ index input, session.parameters.channels[index]? = some (.analog input) ∧
      error = .offsetOverflow input ∧ 65535 < index * session.parameters.sampleCount.toNat ∧
      ∀ earlier < index, earlier * session.parameters.sampleCount.toNat ≤ 65535 := by
  have parameters := parameters_of_begins begins inherits
  rw [parameters, Panel.assignOffsets, prepared.1, Capture.channels, parameters] at assigned
  rcases Panel.overflow_of_assignFrom assigned with ⟨index, input, found, named, exceeds, before⟩
  rw [Nat.zero_add] at exceeds
  refine ⟨index, input, found, named, exceeds, fun earlier bound => ?_⟩
  -- All channels are inputs.
  have within := (List.getElem?_eq_some_iff.mp found).1
  rcases (accepted_of_begins begins).analog_getElem (bound.trans within) with ⟨other, enabled⟩
  have fits := before earlier bound other enabled
  rw [Nat.zero_add] at fits
  exact Nat.le_of_lt_succ fits

theorem not_fits_of_overflow {parameters : Parameters Float} {index : Nat} {channel : Channel}
    (found : parameters.channels[index]? = some channel)
    (exceeds : 65535 < index * parameters.sampleCount.toNat) : ¬ Fits parameters := by
  have bound := (List.getElem?_eq_some_iff.mp found).1
  have last : index * parameters.sampleCount.toNat ≤ (parameters.channels.length - 1) * _ :=
    Nat.mul_le_mul_right _ (Nat.le_sub_one_of_lt bound)
  rw [Fits]
  omega

end Assignment

private theorem fits_of_capacity {parameters : Parameters Float} {capacity : Nat}
    (enough : parameters.channels.length * parameters.sampleCount.toNat ≤ capacity)
    (small : capacity ≤ 65536) : Fits parameters := by
  rw [Fits, Nat.sub_mul, Nat.one_mul]
  rcases Nat.eq_zero_or_pos parameters.sampleCount.toNat with nothing | positive
  · simp [nothing]
  · omega

variable [Link σ]

private theorem step_of_overflow {stage : Stage σ} {panel : Panel} {error : Channel.Error}
    (phase : stage.capture.phase = .capturing) (calm : stage.aborting = false)
    (assigned : stage.panel.assignOffsets stage.capture.parameters.sampleCount =
      (.error error, panel)) :
    step stage = (.error (.channel error), fail (.channel error) { stage with panel }) := by
  have worked : startDevice.apply stage = (.error (.channel error), { stage with panel }) := by
    simp only [startDevice, assignOffsets, Action.apply_bind, Action.apply_get, Action.apply_set,
      assigned, Work.apply_ofExcept_error]
  rw [step, if_neg (by simp [isFinished_of_phase phase, Phase.isFinished]), if_neg (by simp [calm]),
    phase, work, worked]

private theorem assigned_of_overflow {stage after : Stage σ} {input : Input}
    (worked : Worked stage (.error (.channel (.offsetOverflow input)), after)) :
    stage.capture.phase = .capturing ∧ ∃ panel,
      stage.panel.assignOffsets stage.capture.parameters.sampleCount =
        (.error (.offsetOverflow input), panel) := by
  generalize outcome_eq : ((.error (.channel (.offsetOverflow input)), after) :
    Except (CaptureError Float) Phase × Stage σ) = outcome at worked
  cases worked with
  | refused _ refused =>
      cases outcome_eq
      rw [Parameters.validate] at refused
      split at refused
      · cases refused
      · split at refused <;> cases refused
  | overflowed phase assigned =>
      cases outcome_eq
      exact ⟨phase, _, assigned⟩
  | unselectable _ _ selection =>
      cases outcome_eq
      rw [selector] at selection
      split at selection
      · cases selection
      case h_2 first _ _ => cases first <;> cases selection
  | sourceless _ located =>
      cases outcome_eq
      rw [source] at located
      split at located
      · split at located <;> cases located
      · cases located
      · cases located
  | @retrieved _ _ _ _ finish => cases finish <;> cases outcome_eq
  | _ => cases outcome_eq

/-! When the offsets do not fit, the device is never started. -/

variable {origin stage : Stage (Traced σ)}

def Unstarted (phase : Phase) : Prop :=
  phase = .configuring ∨ phase = .triggering ∨ phase = .capturing

def Unsent (session : Session) (stage : Stage (Traced σ)) : Prop :=
  written stage.host.calls <+: session.opening.flatMap session.words

omit [Link σ] in
private theorem unsent_of_told (told : Told session stage stage.capture.phase)
    (unstarted : Unstarted stage.capture.phase) : Unsent session stage := by
  rcases unstarted with phase | phase | phase <;> rw [phase] at told
  · have silent : stage.host.calls = [] := told
    rw [Unsent, silent]
    exact List.nil_prefix
  · have silent : stage.host.calls = [] := told
    rw [Unsent, silent]
    exact List.nil_prefix
  · exact ⟨[], (List.append_nil _).trans (Session.written_of_conversed told)⟩

private theorem unsent_armed {result : Except ProtocolError Unit} {host : Host (Traced σ)}
    (begins : session.Begins origin) (follows : Follows session origin stage)
    (phase : stage.capture.phase = .triggering) {trigger : Trigger Float} {first : Channel}
    {rest : List Channel} {fields : Trigger.Fields}
    (wanted : stage.capture.parameters.trigger = some trigger)
    (channels : stage.capture.channels = first :: rest)
    (encoded : trigger.fields stage.panel first = .ok fields)
    (performed : (Exchange.perform .configureTrigger
      [.byte fields.source, .word fields.level]).apply stage.host = (result, host)) :
    written host.calls <+: session.opening.flatMap session.words := by
  have told := follows.told
  rw [phase] at told
  have silent : stage.host.calls = [] := told
  rcases converses_arm begins follows.toInherits wanted channels encoded performed with
    ⟨calls, recorded, converses⟩
  rw [parameters_of_begins begins follows.toInherits] at wanted
  have arm : session.opening = [.arm] := if_pos (by rw [wanted]; rfl)
  rw [recorded, silent, List.nil_append, arm, List.flatMap_singleton]
  exact converses.written

theorem unsent_worked {outcome : Except (CaptureError Float) Phase × Stage (Traced σ)}
    (begins : session.Begins origin) (follows : Follows session origin stage)
    (exceeds : ¬ Fits session.parameters) (unstarted : Unstarted stage.capture.phase)
    (worked : Worked stage outcome) :
    Unsent session outcome.2 ∧ ∀ next, outcome.1 = .ok next → Unstarted next := by
  have unsent := unsent_of_told follows.told unstarted
  have holds := follows.phase
  cases worked with
  | configured =>
      refine ⟨unsent, fun next same => ?_⟩
      cases same
      split
      · exact .inr (.inl rfl)
      · exact .inr (.inr rfl)
  | untriggered =>
      refine ⟨unsent, fun next same => ?_⟩
      cases same
      exact .inr (.inr rfl)
  | unarmed phase wanted channels encoded performed =>
      exact ⟨unsent_armed begins follows phase wanted channels encoded performed,
        fun _ impossible => by cases impossible⟩
  | armed phase wanted channels encoded performed =>
      refine ⟨unsent_armed begins follows phase wanted channels encoded performed,
        fun next same => ?_⟩
      cases same
      exact .inr (.inr rfl)
  | refused | unencodable | overflowed | unselectable =>
      exact ⟨unsent, fun _ impossible => by cases impossible⟩
  | unstarted phase assigned | started phase assigned =>
      rw [phase] at holds
      exact absurd (fits_of_assignOffsets begins follows.toInherits holds.2.2 assigned) exceeds
  -- The other phases come after the start.
  | _ => simp_all [Unstarted]

theorem unsent_step (begins : session.Begins origin) (follows : Follows session origin stage)
    (exceeds : ¬ Fits session.parameters)
    (unsent : Unsent session stage ∧
      (Unstarted stage.capture.phase ∨ stage.capture.phase = .aborted)) :
    Unsent session (step stage).2 ∧
      (Unstarted (step stage).2.capture.phase ∨ (step stage).2.capture.phase = .aborted) := by
  rcases unsent with ⟨unsent, unstarted | aborted⟩
  · rcases equal : step stage with ⟨result, after⟩
    have stepped := stepped_step stage
    rw [equal] at stepped
    cases stepped with
    | rested => exact ⟨unsent, .inl unstarted⟩
    | stopped => exact ⟨unsent, .inr rfl⟩
    | advanced _ _ worked =>
        rcases unsent_worked begins follows exceeds unstarted worked with ⟨unsent, next⟩
        exact ⟨unsent, .inl (next _ rfl)⟩
    | failed _ _ worked =>
        exact ⟨(unsent_worked begins follows exceeds unstarted worked).1, .inr rfl⟩
  · rw [step_of_finished (isFinished_of_phase aborted)]
    exact ⟨unsent, .inr aborted⟩

theorem unsent_play (begins : session.Begins origin) (follows : Follows session origin origin)
    (fresh : origin.capture.phase = .configuring) (exceeds : ¬ Fits session.parameters)
    (events : List Event) : Unsent session (origin.play events) ∧
      (Unstarted (origin.play events).capture.phase ∨
        (origin.play events).capture.phase = .aborted) := by
  have start : Unstarted origin.capture.phase := .inl fresh
  refine (Stage.play_keeps (fun later => Follows session origin later ∧ Unsent session later ∧
    (Unstarted later.capture.phase ∨ later.capture.phase = .aborted)) ?_ ?_ origin events
    ⟨follows, unsent_of_told follows.told start, .inl start⟩).2
  · intro later state
    exact ⟨follows_step begins state.1, unsent_step begins state.1 exceeds state.2⟩
  · intro later host same state
    refine ⟨follows_host same state.1, ?_, state.2.2⟩
    rw [Unsent, Host.calls, same]
    exact state.2.1

/-! The buffer during a capture. -/

structure SharesOut (session : Session) (capacity : Nat) (origin : Stage (Traced σ)) : Prop where
  shared : Fits session.parameters → SharesBuffer session.parameters.sampleCount capacity
    (consecutiveOffsets session.parameters.sampleCount session.parameters.channels.length)
  sent (events : List Event) : Unsent session (origin.play events) ∨ Fits session.parameters
  held (events : List Event) : (origin.play events).capture.phase = .polling ∨
      (origin.play events).capture.phase = .retrieving ∨
      (origin.play events).capture.phase = .emitting →
    Fits session.parameters ∧
      (∀ (index : Nat) (input : Input), session.parameters.channels[index]? = some (.analog input) →
        ((origin.play events).panel.state input).offset =
          (consecutiveOffsets session.parameters.sampleCount
            session.parameters.channels.length)[index]?) ∧
      ∀ input, .analog input ∉ session.parameters.channels →
        ((origin.play events).panel.state input).offset = none
  requested (events : List Event) : ∃ waits, written (origin.play events).host.calls <+:
    session.preamble waits ++
      (consecutiveOffsets session.parameters.sampleCount session.parameters.channels.length).flatMap
        (windowRequest session.parameters.sampleCount)
  /-- When an offset does not fit, the first such one is the error, and nothing is said. -/
  overflow (events : List Event) : ¬ Fits session.parameters →
    (origin.play events).capture.phase = .capturing → (origin.play events).aborting = false →
    ∃ (index : Nat) (input : Input) (after : Stage (Traced σ)),
      session.parameters.channels[index]? = some (.analog input) ∧
      65535 < index * session.parameters.sampleCount.toNat ∧
      (∀ earlier < index, earlier * session.parameters.sampleCount.toNat ≤ 65535) ∧
      step (origin.play events) = (.error (.channel (.offsetOverflow input)), after) ∧
      after.host.link = (origin.play events).host.link ∧ after.panel.Unplaced
  small : capacity ≤ 65536 → ∀ events input after,
    step (origin.play events) ≠ (.error (.channel (.offsetOverflow input)), after)

omit [Link σ] in
private theorem offset_of_placed {panel : Panel} {sampleCount : UInt16} {channels : List Channel}
    (placed : panel.Placed sampleCount channels) {index : Nat} {input : Input}
    (found : channels[index]? = some (.analog input)) :
    (panel.state input).offset = (consecutiveOffsets sampleCount channels.length)[index]? := by
  rw [getElem?_consecutiveOffsets (List.getElem?_eq_some_iff.mp found).1]
  rcases Option.map_eq_some_iff.mp (placed.enabled index input found) with ⟨offset, held, place⟩
  rw [held, ← place, UInt16.ofNat_toNat]

private theorem overflow_step (begins : session.Begins origin) (sound : Sound origin stage)
    (exceeds : ¬ Fits session.parameters) (phase : stage.capture.phase = .capturing)
    (calm : stage.aborting = false) :
    ∃ (index : Nat) (input : Input) (after : Stage (Traced σ)),
      session.parameters.channels[index]? = some (.analog input) ∧
      65535 < index * session.parameters.sampleCount.toNat ∧
      (∀ earlier < index, earlier * session.parameters.sampleCount.toNat ≤ 65535) ∧
      step stage = (.error (.channel (.offsetOverflow input)), after) ∧
      after.host.link = stage.host.link ∧ after.panel.Unplaced := by
  have holds := sound.phase
  rw [phase] at holds
  rcases assigned : stage.panel.assignOffsets stage.capture.parameters.sampleCount with
    ⟨error | _, panel⟩
  · rcases overflow_of_assignOffsets begins sound.toInherits holds.2.2 assigned with
      ⟨index, input, found, rfl, first, before⟩
    refine ⟨index, input, _, found, first, before, step_of_overflow phase calm assigned, rfl, ?_⟩
    rw [fail, if_neg (by simp [phase])]
    exact panel.unplaced_clearOffsets
  · exact absurd (fits_of_assignOffsets begins sound.toInherits holds.2.2 assigned) exceeds

/-- In the capturing phase the parameters have been accepted, so that a small buffer leaves no room
for an offset that does not fit. -/
private theorem no_overflow_of_capacity {σ : Type} [Link σ] {origin stage : Stage σ}
    (sound : Sound origin stage) (small : origin.capture.limits.capacity.toNat ≤ 65536)
    (input : Input) (after : Stage σ) :
    step stage ≠ (.error (.channel (.offsetOverflow input)), after) := by
  intro stepped
  have possible := stepped_step stage
  rw [stepped] at possible
  cases possible with
  | failed _ _ worked =>
      rcases assigned_of_overflow worked with ⟨phase, panel, assigned⟩
      have holds := sound.phase
      rw [phase] at holds
      have begins : (Session.mk origin.capture.parameters origin.panel
        stage.capture.sampling).Begins origin := ⟨rfl, rfl, holds.1⟩
      rcases overflow_of_assignOffsets begins sound.toInherits holds.2.2 assigned with
        ⟨index, input, found, -, exceeds, -⟩
      exact not_fits_of_overflow found exceeds
        (fits_of_capacity (Parameters.total_le_capacity_of_validate holds.1) small)

/-- The channels of a capture never share a place in the buffer, and have none outside of it. -/
theorem sharesOut_fresh (parameters : Parameters Float) (limits : Limits) (policy : PollPolicy)
    (abortable : Bool) (panel : Panel) (host : Host σ) (sampling : Sampling)
    (valid : parameters.validate panel limits = .ok sampling) :
    SharesOut ⟨parameters, panel, sampling⟩ limits.capacity.toNat
      (Stage.fresh parameters limits policy abortable panel host.traced) := by
  have begins : (Session.mk parameters panel sampling).Begins
      (Stage.fresh parameters limits policy abortable panel host.traced) := ⟨rfl, rfl, valid⟩
  have start : Follows ⟨parameters, panel, sampling⟩ _
      (Stage.fresh parameters limits policy abortable panel host.traced) :=
    ⟨sound_fresh parameters limits policy abortable panel host.traced, rfl⟩
  have follows (events : List Event) := follows_play begins start events
  refine {
    shared := fun fits =>
      sharesBuffer_consecutiveOffsets fits (Parameters.total_le_capacity_of_validate valid)
    sent := ?sent, held := ?held, requested := ?requested
    overflow := fun events exceeds phase calm =>
      overflow_step begins (follows events).toSound exceeds phase calm
    small := fun small events => no_overflow_of_capacity (follows events).toSound small }
  case sent =>
    intro events
    by_cases fits : Fits parameters
    · exact .inr fits
    · exact .inl (unsent_play begins start rfl fits events).1
  case held =>
    intro events which
    have fits : Fits parameters := by
      by_contra exceeds
      rcases (unsent_play begins start rfl exceeds events).2 with
        (phase | phase | phase) | phase <;>
        simp [phase] at which
    have started : Started
        ((Stage.fresh parameters limits policy abortable panel host.traced).play events) := by
      have holds := (follows events).phase
      rcases which with phase | phase | phase <;> rw [phase] at holds
      · exact holds.2.2
      · exact holds.2.2.2
      · exact holds.2.2
    have placed := started.1
    rw [Capture.channels, parameters_of_begins begins (follows events).toInherits] at placed
    exact ⟨fits, fun index input found => offset_of_placed placed found, placed.others⟩
  case requested =>
    intro events
    rcases partway_of_told begins (follows events).toSound (follows events).told with
      ⟨waits, partway⟩
    exact ⟨waits, Session.words_schedule _ waits ▸ Session.written_of_partway partway⟩

/-! Four channels, once with a quarter of the usual buffer for each, and once with a buffer so large
that the fourth offset does not fit a word. -/

def fourChannels (sampleCount : UInt16) : Parameters Float where
  channels := [.analog .ch1, .analog .ch2, .analog .ch3, .analog .mic]
  sampleCount
  rate := 100000.0

theorem sharesOut_four :
    (fourChannels 2500).validate {} {} = .ok ⟨.four, 80⟩ ∧ Fits (fourChannels 2500) ∧
      SharesOut ⟨fourChannels 2500, {}, ⟨.four, 80⟩⟩ 10000
        (Stage.fresh (fourChannels 2500) {} {} true {} (Host.traced { link := ({} : Script) })) ∧
    (fourChannels 30000).validate {} { capacity := 200000 } = .ok ⟨.four, 80⟩ ∧
      ¬ Fits (fourChannels 30000) ∧
      SharesOut ⟨fourChannels 30000, {}, ⟨.four, 80⟩⟩ 200000
        (Stage.fresh (fourChannels 30000) { capacity := 200000 } {} true {}
          (Host.traced { link := ({} : Script) })) := by
  have usual : (fourChannels 2500).validate {} {} = .ok ⟨.four, 80⟩ := by rfl
  have large : (fourChannels 30000).validate {} { capacity := 200000 } = .ok ⟨.four, 80⟩ := by rfl
  exact ⟨usual, by unfold Fits; decide, sharesOut_fresh _ _ _ _ _ _ _ usual,
    large, by unfold Fits; decide, sharesOut_fresh _ _ _ _ _ _ _ large⟩

end Capture

end BenchScope
