import BenchScope.Proofs.Capture.Step
import BenchScope.Proofs.Wire.Alarm

namespace BenchScope

open LinkCall Exchange

namespace Capture

/-! Reading samples, to the end or until an abort is asked for. The wish for an abort is looked at
before each sample, so that the one that it comes with is kept and the next one is not read. -/

/-- A reading that no wish for an abort breaks off: its end, its samples and its calls. -/
inductive Unbroken (calibration : Calibration Float) :
    Nat → ReadEnd → List Float → List LinkCall → Prop
  | complete : Unbroken calibration 0 .complete [] []
  | stopped {count : Nat} {finish : ReadEnd} {call : LinkCall} :
      call.isRead = true → call.word? = none → finish ≠ .complete → finish ≠ .aborted →
      Unbroken calibration (count + 1) finish [] [call]
  | word {count : Nat} {finish : ReadEnd} {samples : List Float} {call : LinkCall}
      {calls : List LinkCall} {code : UInt16} :
      call.word? = some code → Unbroken calibration count finish samples calls →
      Unbroken calibration (count + 1) finish (calibration.scale code :: samples) (call :: calls)

def scaled (calibration : Calibration Float) (calls : List LinkCall) : List Float :=
  (calls.filterMap word?).map calibration.scale

namespace Unbroken

variable {calibration : Calibration Float} {count : Nat} {finish : ReadEnd} {samples : List Float}
  {calls : List LinkCall}

theorem finish_ne (unbroken : Unbroken calibration count finish samples calls) :
    finish ≠ .aborted := by
  induction unbroken with
  | complete => exact ReadEnd.noConfusion
  | stopped _ _ _ other => exact other
  | word _ _ induction => exact induction

theorem samples_eq (unbroken : Unbroken calibration count finish samples calls) :
    samples = scaled calibration calls := by
  induction unbroken with
  | complete => rfl
  | stopped _ nothing => rw [scaled, List.filterMap_cons, nothing]; rfl
  | word word _ induction => rw [scaled, List.filterMap_cons, word, induction]; rfl

theorem countReads_eq (unbroken : Unbroken calibration count finish samples calls) :
    countReads calls = calls.length := by
  induction unbroken with
  | complete => rfl
  | stopped read => exact countReads_cons read []
  | word word _ induction =>
      rw [countReads_cons (isRead_of_word? word), induction, List.length_cons]

theorem goes_on (unbroken : Unbroken calibration count finish samples calls)
    {before rest : List LinkCall} {call : LinkCall} (split : calls = before ++ call :: rest)
    (more : rest ≠ []) : (∃ code, call.word? = some code) ∧ before.length + 1 < count := by
  induction unbroken generalizing before with
  | complete => simp at split
  | stopped =>
      cases before with
      | nil =>
          rcases List.cons.inj split with ⟨-, nothing⟩
          exact absurd nothing.symm more
      | cons => simp at split
  | @word count _ _ first calls code word unbroken induction =>
      cases before with
      | nil =>
          rcases List.cons.inj split with ⟨rfl, rfl⟩
          refine ⟨⟨code, word⟩, ?_⟩
          cases unbroken with
          | complete => exact absurd rfl more
          | _ => simp
      | cons earlier before =>
          rcases List.cons.inj split with ⟨-, split⟩
          rcases induction split with ⟨found, bound⟩
          exact ⟨found, Nat.succ_lt_succ bound⟩

theorem length_scaled (unbroken : Unbroken calibration count finish samples calls)
    {before rest : List LinkCall} {call : LinkCall} {code : UInt16}
    (split : calls = before ++ call :: rest) (word : call.word? = some code) :
    (scaled calibration (before ++ [call])).length = before.length + 1 := by
  induction unbroken generalizing before with
  | complete => simp at split
  | stopped _ nothing =>
      cases before with
      | nil =>
          rcases List.cons.inj split with ⟨rfl, -⟩
          rw [nothing] at word
          cases word
      | cons => simp at split
  | word first _ induction =>
      cases before with
      | nil => simp [scaled, word]
      | cons earlier before =>
          rcases List.cons.inj split with ⟨rfl, same⟩
          have further := induction same
          rw [scaled, List.length_map] at further ⊢
          rw [List.cons_append, List.filterMap_cons, first, List.length_cons, further,
            List.length_cons]

theorem complete_of_last (unbroken : Unbroken calibration count finish samples calls)
    {before rest : List LinkCall} {call : LinkCall} {code : UInt16}
    (split : calls = before ++ call :: rest) (word : call.word? = some code)
    (last : before.length + 1 = count) : finish = .complete ∧ rest = [] := by
  induction unbroken generalizing before with
  | complete => simp at last
  | stopped _ nothing =>
      cases before with
      | nil =>
          rcases List.cons.inj split with ⟨rfl, -⟩
          rw [nothing] at word
          cases word
      | cons => simp at split
  | word _ unbroken induction =>
      cases before with
      | nil =>
          rcases List.cons.inj split with ⟨-, rfl⟩
          obtain rfl : _ = 0 := (Nat.succ.inj last).symm
          cases unbroken
          exact ⟨rfl, rfl⟩
      | cons earlier before =>
          rcases List.cons.inj split with ⟨-, split⟩
          exact induction split (Nat.succ.inj last)

end Unbroken

variable {σ : Type} [Link σ] {alarm : Nat}

def readFurther (calibration : Calibration Float) (abortable : Bool) (count : Nat)
    (taken : List Float) (heard : Except LinkError (List UInt8)) (host : Host σ) :
    (ReadEnd × List Float) × Host σ :=
  match answer wordOf heard with
  | .ok code => readSamples calibration abortable count (calibration.scale code :: taken) host
  | .error (.shortRead ..) => ((.short, taken.reverse), host)
  | .error error => ((.failed error, taken.reverse), host)

private theorem readSamples_succ (calibration : Calibration Float) {abortable : Bool} (count : Nat)
    (taken : List Float) {host : Host σ} (goesOn : (abortable && host.abortRequested) = false) :
    readSamples calibration abortable (count + 1) taken host =
      readFurther calibration abortable count taken (Link.read 2 host.link).1.result
        (host.after (Link.read 2 host.link).1 (Link.read 2 host.link).2) := by
  rw [readSamples, goesOn, reads_readWord host, readFurther]
  generalize answer wordOf (Link.read 2 host.link).1.result = answered
  match answered with
  | .ok _ => rfl
  | .error (.shortRead _ _) => rfl
  | .error (.link _) => rfl
  | .error (.noAcknowledgement _) => rfl

private theorem readFurther_cases (calibration : Calibration Float) (abortable : Bool) (count : Nat)
    (taken : List Float) (heard : Except LinkError (List UInt8)) :
    (∃ code, (LinkCall.read 2 heard).word? = some code ∧ ∀ host : Host σ,
      readFurther calibration abortable count taken heard host =
        readSamples calibration abortable count (calibration.scale code :: taken) host) ∨
    ((LinkCall.read 2 heard).word? = none ∧ ∃ finish : ReadEnd, finish ≠ .complete ∧
      finish ≠ .aborted ∧ ∀ host : Host σ,
        readFurther calibration abortable count taken heard host =
          ((finish, taken.reverse), host)) := by
  rcases heard with error | _ | ⟨low, _ | ⟨high, more⟩⟩
  · exact .inr ⟨rfl, .failed _, ReadEnd.noConfusion, ReadEnd.noConfusion, fun _ => rfl⟩
  · exact .inr ⟨rfl, .short, ReadEnd.noConfusion, ReadEnd.noConfusion, fun _ => rfl⟩
  · exact .inr ⟨rfl, .short, ReadEnd.noConfusion, ReadEnd.noConfusion, fun _ => rfl⟩
  · exact .inl ⟨wordOfBytes low high, rfl, fun _ => rfl⟩

private theorem unalarmed_read {host : Host (Traced (Alarmed σ))} (quiet : host.Unalarmed)
    (count : Nat) :
    (host.after (Link.read count host.link).1 (Link.read count host.link).2).Unalarmed :=
  ((lockstep_watched 0).read count host _ ⟨quiet, rfl⟩).2.unalarmed

theorem unbroken_readSamples (calibration : Calibration Float) (abortable : Bool) (count : Nat)
    (taken : List Float) {host : Host (Traced (Alarmed σ))} (quiet : host.Unalarmed) :
    ∃ samples calls,
      (readSamples calibration abortable count taken host).1.2 = taken.reverse ++ samples ∧
      (readSamples calibration abortable count taken host).2.calls = host.calls ++ calls ∧
      Unbroken calibration count (readSamples calibration abortable count taken host).1.1 samples
        calls := by
  induction count generalizing taken host with
  | zero => exact ⟨[], [], (List.append_nil _).symm, (List.append_nil _).symm, .complete⟩
  | succ count induction =>
      have recorded := host.calls_after_read 2
      rw [readSamples_succ calibration count taken (by rw [quiet.unasked, Bool.and_false])]
      rcases readFurther_cases (σ := Traced (Alarmed σ)) calibration abortable count taken
        (Link.read 2 host.link).1.result with ⟨code, word, further⟩ |
          ⟨nothing, finish, incomplete, unaborted, further⟩
      · rcases induction (calibration.scale code :: taken) (unalarmed_read quiet 2) with
          ⟨samples, calls, kept, made, unbroken⟩
        rw [further]
        refine ⟨_, _, ?_, ?_, unbroken.word word⟩
        · rw [kept, List.reverse_cons, List.append_assoc]
          rfl
        · rw [made, recorded, List.append_assoc]
          rfl
      · rw [further]
        exact ⟨[], _, (List.append_nil _).symm, recorded,
          .stopped rfl nothing incomplete unaborted⟩

omit [Link σ] in
theorem asked_of_watched {left right : Host (Traced (Alarmed σ))}
    (watched : Watched alarm left right) :
    right.abortRequested = decide (alarm < countReads left.calls) := by
  rw [watched.disturbed]
  rfl

omit [Link σ] in
private theorem goesOn_of_watched {left right : Host (Traced (Alarmed σ))}
    (watched : Watched alarm left right) (early : countReads left.calls ≤ alarm)
    (abortable : Bool) :
    (abortable && left.abortRequested) = false ∧ (abortable && right.abortRequested) = false := by
  rw [watched.unalarmed.unasked, asked_of_watched watched, decide_eq_false (by omega),
    Bool.and_false]
  exact ⟨rfl, rfl⟩

/-- A wish that comes with the last call of the reading or later makes no difference to it. -/
theorem readSamples_of_watched (calibration : Calibration Float) (abortable : Bool) (count : Nat)
    (taken : List Float) {left right : Host (Traced (Alarmed σ))}
    (watched : Watched alarm left right)
    (inTime : countReads (readSamples calibration abortable count taken left).2.calls ≤ alarm + 1) :
    (readSamples calibration abortable count taken left).1 =
        (readSamples calibration abortable count taken right).1 ∧
      Watched alarm (readSamples calibration abortable count taken left).2
        (readSamples calibration abortable count taken right).2 := by
  induction count generalizing taken left right with
  | zero => exact ⟨rfl, watched⟩
  | succ count induction =>
      have quiet := watched.unalarmed
      have early : countReads left.calls ≤ alarm := by
        rcases unbroken_readSamples calibration abortable (count + 1) taken quiet with
          ⟨samples, calls, -, made, unbroken⟩
        rw [made, countReads_append, unbroken.countReads_eq] at inTime
        cases unbroken <;> rw [List.length_cons] at inTime <;> omega
      rcases goesOn_of_watched watched early abortable with ⟨leftGoesOn, rightGoesOn⟩
      rcases (lockstep_watched alarm).read 2 left right watched with ⟨results, later⟩
      rw [readSamples_succ calibration count taken leftGoesOn] at inTime ⊢
      rw [readSamples_succ calibration count taken rightGoesOn, ← results]
      rcases readFurther_cases (σ := Traced (Alarmed σ)) calibration abortable count taken
        (Link.read 2 left.link).1.result with ⟨code, -, further⟩ | ⟨-, finish, -, -, further⟩
      · rw [further] at inTime ⊢
        rw [further]
        exact induction _ later inTime
      · rw [further, further]
        exact ⟨rfl, later⟩

/-- A wish that comes with a sample, while more samples are wanted, ends the reading there. -/
theorem readSamples_cut (calibration : Calibration Float) (count : Nat) (taken : List Float)
    {left right : Host (Traced (Alarmed σ))} (watched : Watched alarm left right)
    {before rest : List LinkCall} {call : LinkCall} {code : UInt16}
    (calls : (readSamples calibration true count taken left).2.calls =
      left.calls ++ (before ++ call :: rest))
    (moment : countReads left.calls + before.length = alarm) (word : call.word? = some code)
    (wanted : before.length + 1 < count) :
    ∃ host, readSamples calibration true count taken right =
        ((.aborted, taken.reverse ++ scaled calibration (before ++ [call])), host) ∧
      host.calls = left.calls ++ (before ++ [call]) := by
  induction count generalizing taken left right before with
  | zero => omega
  | succ count induction =>
      have recorded := left.calls_after_read 2
      rcases goesOn_of_watched watched (by omega) true with ⟨leftGoesOn, rightGoesOn⟩
      rcases (lockstep_watched alarm).read 2 left right watched with ⟨results, later⟩
      rw [readSamples_succ calibration count taken leftGoesOn] at calls
      rw [readSamples_succ calibration count taken rightGoesOn, ← results]
      rcases readFurther_cases (σ := Traced (Alarmed σ)) calibration true count taken
        (Link.read 2 left.link).1.result with ⟨first, wordFirst, further⟩ |
          ⟨nothing, finish, -, -, further⟩
      · rcases unbroken_readSamples calibration true count (calibration.scale first :: taken)
          later.unalarmed with ⟨samples, more, -, made, -⟩
        have counted := countReads_read left 2
        rw [further, made, recorded, List.append_assoc, List.append_cancel_left_eq] at calls
        rw [further]
        cases before with
        | nil =>
            rcases List.cons.inj calls with ⟨rfl, -⟩
            have asked := asked_of_watched later
            rw [counted, decide_eq_true (by rw [List.length_nil] at moment; omega)] at asked
            rcases Nat.exists_eq_succ_of_ne_zero (n := count) (by omega) with ⟨fewer, rfl⟩
            rw [readSamples, asked]
            refine ⟨_, ?_, later.calls_eq.trans recorded⟩
            simp [scaled, wordFirst]
        | cons earlier before =>
            rcases List.cons.inj calls with ⟨rfl, same⟩
            have same : more = before ++ call :: rest := same
            rw [List.length_cons] at moment wanted
            rcases induction (calibration.scale first :: taken) later (by rw [made, same])
              (by omega) (by omega) with ⟨host, reading, made⟩
            refine ⟨host, ?_, ?_⟩
            · simp [reading, scaled, wordFirst]
            · rw [made, recorded, List.append_assoc]
              rfl
      · -- Nothing comes behind a call that brings no word, so the word would be that call.
        rw [further, recorded, List.append_cancel_left_eq] at calls
        cases before with
        | nil =>
            rcases List.cons.inj calls with ⟨rfl, -⟩
            rw [nothing] at word
            cases word
        | cons => simp at calls

end Capture

end BenchScope
