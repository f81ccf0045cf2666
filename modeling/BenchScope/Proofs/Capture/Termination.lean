import BenchScope.Proofs.Device.Agreement
import BenchScope.Proofs.Wire.Supply

namespace BenchScope

open Exchange LinkCall

/-! A capture on a link that can deliver only so many bytes comes to an end. Going round while the
device is not done uses up the link, and going round for the samples moves the cursor. -/

namespace Capture

def remaining (capture : Capture) : Nat := capture.channels.length - capture.cursor

/-- The steps that can come from a phase on, with so many bytes to be delivered and so many channels
that are not through. -/
def stepsLeft (supply remaining : Nat) : Phase → Nat
  | .configuring => supply / 4 + 2 * remaining + 4
  | .triggering => supply / 4 + 2 * remaining + 3
  | .capturing => supply / 4 + 2 * remaining + 2
  | .polling => supply / 4 + 2 * remaining + 1
  | .retrieving => 2 * remaining
  | .emitting => 2 * remaining - 1
  | .idle | .aborted => 0

end Capture

def Stage.stepsLeft {σ : Type} [FiniteLink σ] (stage : Stage σ) : Nat :=
  Capture.stepsLeft stage.host.supply stage.capture.remaining stage.capture.phase

def Event.countSteps (events : List Event) : Nat := events.countP (· matches .step)

namespace Capture

variable {σ : Type} [FiniteLink σ] {origin stage : Stage σ}

theorem stepsLeft_pos (sound : Sound origin stage) (unfinished : stage.capture.isFinished = false) :
    0 < stage.stepsLeft := by
  have holds := sound.phase
  rw [Stage.stepsLeft, remaining]
  cases phase : stage.capture.phase <;> rw [phase] at holds
  case configuring | triggering | capturing | polling => exact Nat.succ_pos _
  case retrieving =>
    have bound := holds.2.2.1.1
    rw [stepsLeft]
    omega
  case emitting =>
    have bound := holds.2.1.1
    rw [stepsLeft]
    omega
  case idle | aborted =>
    rw [isFinished_of_phase phase] at unfinished
    cases unfinished

omit [FiniteLink σ] in
private theorem stepsLeft_mono {less supply : Nat} (fewer : less ≤ supply) (remaining : Nat)
    (phase : Phase) : stepsLeft less remaining phase ≤ stepsLeft supply remaining phase := by
  have quarter := Nat.div_le_div_right (c := 4) fewer
  cases phase <;> simp only [stepsLeft] <;> omega

variable [LawfulFiniteLink σ]

theorem stepsLeft_worked {outcome : Except (CaptureError Float) Phase × Stage σ} {next : Phase}
    (sound : Sound origin stage) (worked : Worked stage outcome)
    (succeeded : outcome.1 = .ok next) :
    stepsLeft outcome.2.host.supply outcome.2.capture.remaining next < stage.stepsLeft := by
  have holds := sound.phase
  have keeps := stepsLeft_mono (becomes_worked worked).supply_le outcome.2.capture.remaining next
  rw [Stage.stepsLeft]
  cases worked with
  | @waiting status host phase asked =>
      -- Only here the supply matters: one question less can be answered.
      have drawn : host.supply + 4 ≤ stage.host.supply := draws_askStatus _ _ _ asked
      rw [phase]
      cases succeeded
      change host.supply / 4 + 2 * stage.capture.remaining + 1 <
        stage.host.supply / 4 + 2 * stage.capture.remaining + 1
      omega
  | configured phase valid =>
      refine Nat.lt_of_le_of_lt keeps ?_
      rw [phase] at holds ⊢
      have same : stage.capture.remaining = stage.capture.channels.length := by
        rw [remaining, holds.1.1, Nat.sub_zero]
      cases succeeded
      rw [same]
      split
      · exact Nat.lt_succ_self _
      · exact Nat.lt_add_of_pos_right Nat.two_pos
  | untriggered phase | armed phase | started phase =>
      refine Nat.lt_of_le_of_lt keeps ?_
      rw [phase]
      cases succeeded
      exact Nat.lt_succ_self _
  | done phase =>
      refine Nat.lt_of_le_of_lt keeps ?_
      rw [phase]
      cases succeeded
      exact Nat.lt_succ_of_le (Nat.le_add_left _ _)
  | @retrieved _ _ _ _ finish _ phase =>
      refine Nat.lt_of_le_of_lt keeps ?_
      rw [phase] at holds ⊢
      have positive : 0 < stage.capture.remaining := Nat.sub_pos_of_lt holds.2.2.1.1
      have fewer : 2 * stage.capture.remaining - 1 < 2 * stage.capture.remaining := by omega
      cases finish <;> cases succeeded <;> exact fewer
  | emitted phase _ more =>
      refine Nat.lt_of_le_of_lt keeps ?_
      rw [phase]
      cases succeeded
      change 2 * (stage.capture.channels.length - (stage.capture.cursor + 1)) <
        2 * (stage.capture.channels.length - stage.capture.cursor) - 1
      omega
  | completed phase =>
      rw [phase] at holds ⊢
      have positive : 0 < stage.capture.remaining := Nat.sub_pos_of_lt holds.2.1.1
      cases succeeded
      change 0 < 2 * stage.capture.remaining - 1
      omega
  | _ => cases succeeded

theorem stepsLeft_step (sound : Sound origin stage)
    (unfinished : stage.capture.isFinished = false) :
    (step stage).2.stepsLeft < stage.stepsLeft := by
  rcases equal : step stage with ⟨result, after⟩
  have stepped := stepped_step stage
  rw [equal] at stepped
  cases stepped with
  | rested finished => simp [finished] at unfinished
  | advanced _ _ worked =>
      have fewer := stepsLeft_worked sound worked rfl
      exact fewer
  | stopped | failed => exact stepsLeft_pos sound unfinished

/-! The steps come to an end, whatever happens between them. -/

private theorem isFinished_play (sound : Sound origin stage) (events : List Event)
    (enough : stage.stepsLeft ≤ Event.countSteps events) :
    (stage.play events).capture.isFinished = true := by
  induction events generalizing stage with
  | nil =>
      cases finished : stage.capture.isFinished with
      | true => exact finished
      | false => exact absurd enough (Nat.not_le_of_lt (stepsLeft_pos sound finished))
  | cons event events induction =>
      rw [Stage.play_cons]
      cases event with
      | step =>
          have counted : Event.countSteps (.step :: events) = Event.countSteps events + 1 :=
            List.countP_cons_of_pos rfl
          cases finished : stage.capture.isFinished with
          | true =>
              rw [Stage.react, step_of_finished finished, isFinished,
                (play_of_finished finished events).1]
              exact finished
          | false =>
              have fewer := Nat.lt_of_lt_of_le (stepsLeft_step sound finished) enough
              rw [counted] at fewer
              exact induction (sound_step sound) (Nat.le_of_lt_succ fewer)
      | abort | pause =>
          refine induction (sound_host _ sound) (Nat.le_trans enough (Nat.le_of_eq ?_))
          exact List.countP_cons_of_neg (by simp)

private theorem ended_of_stepsLeft {steps : Nat} (sound : Sound origin stage)
    (unfinished : stage.capture.isFinished = false) (enough : stage.stepsLeft ≤ steps) :
    (runFor steps stage).1 ≠ .unfinished := by
  induction steps generalizing stage with
  | zero => exact absurd enough (Nat.not_le_of_lt (stepsLeft_pos sound unfinished))
  | succ steps induction =>
      have fewer := stepsLeft_step sound unfinished
      rw [runFor]
      split
      case h_4 next after running notAborted stepped =>
        have kept := sound_step sound
        rw [stepped] at kept fewer
        refine induction kept ?_ (Nat.le_of_lt_succ (Nat.lt_of_lt_of_le fewer enough))
        rw [isFinished_of_phase (phase_of_step stepped)]
        cases next <;> simp_all [Phase.isFinished]
      all_goals simp

/-! Going round. -/

def GoesRound (stage after : Stage (Traced σ)) (next : Phase) : Phase → Prop
  | .polling =>
      (next = .polling ∨ next = .retrieving) ∧
        received after.host.calls = received stage.host.calls + 4
  | .retrieving => next = .emitting ∧ after.capture.cursor = stage.capture.cursor
  | .emitting =>
      after.capture.cursor = stage.capture.cursor + 1 ∧
        (next = .retrieving ∧ after.capture.cursor < stage.capture.channels.length ∨
          next = .idle ∧ after.capture.cursor = stage.capture.channels.length)
  | _ => True

private theorem received_askStatus {host after : Host (Traced σ)} {status : Status}
    (asked : askStatus.apply host = (.ok status, after)) :
    received after.calls = received host.calls + 4 := by
  rcases makes_askStatus.of_apply asked with
    ⟨calls, recorded, words, said, heard, rfl, -, offer, -, replied⟩
  rcases (proceeds_askStatus.of_apply asked).fit with ⟨same, again, fit⟩
  obtain rfl : said ++ heard = same := List.append_cancel_left (recorded.symm.trans again)
  have reply := (replied status rfl).2
  have four := received_of_statusReply reply fun call member => fit call (by simp [member])
  rw [recorded, received_append, received_append, offer.received_eq_zero, four, Nat.zero_add]

theorem goesRound_worked {origin stage : Stage (Traced σ)}
    {outcome : Except (CaptureError Float) Phase × Stage (Traced σ)} {next : Phase}
    (sound : Sound origin stage) (worked : Worked stage outcome)
    (succeeded : outcome.1 = .ok next) :
    GoesRound stage outcome.2 next stage.capture.phase := by
  have holds := sound.phase
  cases worked with
  | configured phase | untriggered phase | armed phase | started phase =>
      rw [phase]
      trivial
  | done phase asked =>
      rw [phase]
      cases succeeded
      exact ⟨.inr rfl, received_askStatus asked⟩
  | waiting phase asked =>
      rw [phase]
      cases succeeded
      have four := received_askStatus asked
      exact ⟨.inl rfl, four⟩
  | @retrieved _ _ _ _ finish _ phase =>
      rw [phase]
      cases finish <;> cases succeeded <;> exact ⟨rfl, rfl⟩
  | emitted phase _ more =>
      rw [phase]
      cases succeeded
      exact ⟨rfl, .inl ⟨rfl, more⟩⟩
  | completed phase _ last =>
      rw [phase] at holds ⊢
      cases succeeded
      exact ⟨rfl, .inr ⟨rfl, Nat.le_antisymm holds.2.1.1 (Nat.le_of_not_lt last)⟩⟩
  | _ => cases succeeded

theorem goesRound_step {origin stage after : Stage (Traced σ)} {next : Phase}
    (sound : Sound origin stage) (stepped : step stage = (.ok next, after)) :
    GoesRound stage after next stage.capture.phase := by
  have possible := stepped_step stage
  rw [stepped] at possible
  cases possible with
  | rested finished =>
      cases phase : stage.capture.phase <;> rw [isFinished_of_phase phase] at finished
      case idle | aborted => trivial
      all_goals cases finished
  | advanced _ _ worked =>
      have round := goesRound_worked sound worked rfl
      cases phase : stage.capture.phase <;> rw [phase] at round <;> exact round

structure Ends (parameters : Parameters Float) (limits : Limits) (policy : PollPolicy)
    (abortable : Bool) (panel : Panel) (host : Host σ) : Prop where
  run : ∃ ending final, ending ≠ .unfinished ∧
    run (Stage.fresh parameters limits policy abortable panel host) = (ending, final) ∧
    ∀ steps, host.supply / 4 + 2 * parameters.channels.length + 4 ≤ steps →
      runFor steps (Stage.fresh parameters limits policy abortable panel host) = (ending, final)
  play : ∀ events,
    host.supply / 4 + 2 * parameters.channels.length + 4 ≤ Event.countSteps events →
      ((Stage.fresh parameters limits policy abortable panel host).play
        events).capture.isFinished = true
  /-- A question for the status that the capture goes on after takes four bytes, and the cursor is
  moved on for each channel. -/
  round : ∀ events stage after next,
    (Stage.fresh parameters limits policy abortable panel host.traced).play events = stage →
      step stage = (.ok next, after) → GoesRound stage after next stage.capture.phase

theorem ends_fresh (parameters : Parameters Float) (limits : Limits) (policy : PollPolicy)
    (abortable : Bool) (panel : Panel) (host : Host σ) :
    Ends parameters limits policy abortable panel host := by
  have sound := sound_fresh parameters limits policy abortable panel host
  refine { run := ?run, play := ?play, round := ?round }
  case run =>
    have ended := ended_of_stepsLeft sound rfl (Nat.le_refl _)
    exact ⟨_, _, ended, rfl, fun steps enough => runFor_of_ended ended enough⟩
  case play => exact fun events enough => isFinished_play sound events enough
  case round =>
    intro events stage after next played stepped
    have traced := sound_fresh parameters limits policy abortable panel host.traced
    exact goesRound_step (played ▸ sound_play traced events) stepped

def waitingHost : Host Script where
  link := {
    incoming := [.byte 1, .stall 40, .byte 1, .byte 0, .byte 0, .byte 0, .byte 1, .stall 7, .byte 0,
      .byte 3, .byte 0, .byte 1, .gap] }

theorem ends_waiting : waitingHost.supply = 10 ∧
    ((Stage.fresh shortParameters { minSamples := 2 } {} true {} waitingHost).play
      (List.replicate 5 .step)).capture.phase = .polling ∧
    Ends shortParameters { minSamples := 2 } {} true {} waitingHost :=
  ⟨rfl, by decide +kernel, ends_fresh _ _ _ _ _ _⟩

end Capture

end BenchScope
