import BenchScope.Serial.Link

namespace BenchScope.Serial

/-! Blocking transfers. The line answers one call after the other, and each answer comes with its
own delay. A transfer is over when all bytes are moved, when its time is up, or when a call fails.
It makes no call after that and stops no earlier, and what it moves is what the calls moved, in
order. -/

section Calls

variable {β : Type}

def Call.failure? (call : Call β) : Option LinkError :=
  match call.answer with
  | .failed error => some error
  | .moved _ | .timedOut | .interrupted => none

def failure? (calls : List (Call β)) : Option LinkError := calls.findSome? Call.failure?

def lasting : List (Call β) → Nat
  | [] => 0
  | call :: calls => call.elapsed + lasting calls

variable (size : Call β → Nat)

def moving : List (Call β) → Nat
  | [] => 0
  | call :: calls => size call + moving calls

/-- A transfer of `wanted` bytes in the time `allowed` does not go on after these calls. -/
inductive Over (allowed wanted : Nat) (calls : List (Call β)) : Prop
  | complete (all : wanted ≤ moving size calls)
  | late (expired : allowed ≤ lasting calls)
  | broken (error : LinkError) (failed : failure? calls = some error)

/-- The calls of a transfer. Each of them gets the next answer of the line. When the line has none
left, `closing` says what it answers, from the time and the bytes that are left. -/
structure Called (closing : Nat → Nat → Call β) (allowed wanted : Nat)
    (answers upcoming calls : List (Call β)) : Prop where
  inTurn : answers = calls ++ upcoming ∨ upcoming = [] ∧
    calls = answers ++ [closing (allowed - lasting answers) (wanted - moving size answers)]
  finished : Over size allowed wanted calls
  unfinished : ∀ before call after, calls = before ++ call :: after →
    ¬ Over size allowed wanted before

@[simp] theorem failure?_nil : failure? ([] : List (Call β)) = none := rfl

@[simp] theorem failure?_cons (call : Call β) (calls : List (Call β)) :
    failure? (call :: calls) = call.failure?.or (failure? calls) := by
  rw [failure?, List.findSome?_cons]
  cases call.failure? <;> rfl

@[simp] theorem lasting_nil : lasting ([] : List (Call β)) = 0 := rfl

@[simp] theorem lasting_cons (call : Call β) (calls : List (Call β)) :
    lasting (call :: calls) = call.elapsed + lasting calls := rfl

@[simp] theorem moving_nil : moving size [] = 0 := rfl

@[simp] theorem moving_cons (call : Call β) (calls : List (Call β)) :
    moving size (call :: calls) = size call + moving size calls := rfl

variable {size} {closing : Nat → Nat → Call β} {allowed wanted : Nat}
variable {answers upcoming calls : List (Call β)} {call : Call β}

private theorem not_over_nil (time : 0 < allowed) (missing : 0 < wanted) :
    ¬ Over size allowed wanted [] := by
  rintro (all | expired | ⟨error, failed⟩)
  · exact absurd all (Nat.not_le.mpr missing)
  · exact absurd expired (Nat.not_le.mpr time)
  · cases failed

theorem over_cons_iff (sound : call.failure? = none) :
    Over size allowed wanted (call :: calls) ↔
      Over size (allowed - call.elapsed) (wanted - size call) calls := by
  constructor
  · rintro (all | expired | ⟨error, failed⟩)
    · exact .complete (Nat.sub_le_iff_le_add'.mpr all)
    · exact .late (Nat.sub_le_iff_le_add'.mpr expired)
    · exact .broken error (by simpa [sound] using failed)
  · rintro (all | expired | ⟨error, failed⟩)
    · exact .complete (Nat.sub_le_iff_le_add'.mp all)
    · exact .late (Nat.sub_le_iff_le_add'.mp expired)
    · exact .broken error (by simpa [sound] using failed)

namespace Called

theorem nothing (allowed : Nat) (answers : List (Call β)) :
    Called size closing allowed 0 answers answers [] where
  inTurn := .inl rfl
  finished := .complete (Nat.zero_le _)
  unfinished before call after parts := by simp at parts

theorem single (time : 0 < allowed) (missing : 0 < wanted)
    (finished : Over size allowed wanted [call])
    (inTurn : answers = call :: upcoming ∨
      answers = [] ∧ upcoming = [] ∧ call = closing allowed wanted) :
    Called size closing allowed wanted answers upcoming [call] where
  inTurn := by
    rcases inTurn with rfl | ⟨rfl, rfl, rfl⟩
    · exact .inl rfl
    · exact .inr ⟨rfl, rfl⟩
  finished := finished
  unfinished before other after parts := by
    rcases List.cons_eq_append_iff.mp parts with ⟨rfl, -⟩ | ⟨tail, -, nothing⟩
    · exact not_over_nil time missing
    · simp at nothing

private theorem cons (time : 0 < allowed) (missing : 0 < wanted) (sound : call.failure? = none)
    (called : Called size closing (allowed - call.elapsed) (wanted - size call) answers upcoming
      calls) :
    Called size closing allowed wanted (call :: answers) upcoming (call :: calls) where
  inTurn := by
    rcases called.inTurn with rfl | ⟨rfl, rfl⟩
    · exact .inl rfl
    · exact .inr ⟨rfl, by simp [Nat.sub_sub]⟩
  finished := (over_cons_iff sound).mpr called.finished
  unfinished before other after parts := by
    rcases List.cons_eq_append_iff.mp parts with ⟨rfl, -⟩ | ⟨tail, rfl, rest⟩
    · exact not_over_nil time missing
    · rw [over_cons_iff sound]
      exact called.unfinished tail other after rest

end Called

structure Persistent (size : Call β → Nat) (allowed wanted : Nat) (calls : List (Call β)) :
    Prop where
  needed : ∀ before call after, calls = before ++ call :: after →
    moving size before < wanted ∧ lasting before < allowed ∧ failure? before = none
  patient : ∀ before call, calls = before ++ [call] →
    call.answer = .timedOut ∨ call.answer = .interrupted → allowed ≤ lasting calls
  atOnce : ∀ before call after error, calls = before ++ call :: after →
    call.answer = .failed error → after = [] ∧ failure? calls = some error
  ended : failure? calls = none → moving size calls < wanted → allowed ≤ lasting calls

theorem Call.failure?_of_failed {error : LinkError} (failed : call.answer = .failed error) :
    call.failure? = some error := by
  rw [failure?, failed]

theorem Call.failure?_of_moved {amount : β} (moved : call.answer = .moved amount) :
    call.failure? = none := by
  rw [failure?, moved]

@[simp] theorem failure?_append (before after : List (Call β)) :
    failure? (before ++ after) = (failure? before).or (failure? after) := by
  simp [failure?]

@[simp] theorem moving_append (before after : List (Call β)) :
    moving size (before ++ after) = moving size before + moving size after := by
  induction before with
  | nil => simp
  | cons call before induction => simp [induction, Nat.add_assoc]

theorem Called.persistent (called : Called size closing allowed wanted answers upcoming calls)
    (still : ∀ call : Call β, call.answer = .timedOut ∨ call.answer = .interrupted →
      size call = 0) : Persistent size allowed wanted calls where
  needed before call after parts := by
    have goesOn := called.unfinished before call after parts
    refine ⟨Nat.lt_of_not_le fun all => goesOn (.complete all),
      Nat.lt_of_not_le fun expired => goesOn (.late expired), ?_⟩
    exact Option.eq_none_iff_forall_ne_some.mpr fun error failed => goesOn (.broken error failed)
  patient before call parts silent := by
    have sound : call.failure? = none := by
      rcases silent with silent | silent <;> rw [Call.failure?, silent]
    have goesOn := called.unfinished before call [] parts
    rcases called.finished with all | expired | ⟨error, failed⟩
    · rw [parts] at all
      exact absurd (.complete (by simpa [still call silent] using all)) goesOn
    · exact expired
    · rw [parts] at failed
      exact absurd (.broken error (by simpa [sound] using failed)) goesOn
  atOnce before call after error parts failed := by
    have goesOn := called.unfinished before call after parts
    have unbroken : failure? before = none :=
      Option.eq_none_iff_forall_ne_some.mpr fun error failed => goesOn (.broken error failed)
    have broken : failure? (before ++ [call]) = some error := by
      simp [unbroken, Call.failure?_of_failed failed]
    cases after with
    | nil => exact ⟨rfl, by rw [parts, broken]⟩
    | cons next after =>
        have further := called.unfinished (before ++ [call]) next after (by simp [parts])
        exact absurd (.broken error broken) further
  ended sound missing := by
    rcases called.finished with all | expired | ⟨error, failed⟩
    · exact absurd all (Nat.not_le.mpr missing)
    · exact expired
    · rw [sound] at failed
      cases failed

end Calls

/-! Receiving. -/

def Call.bytes (call : Call (List UInt8)) : List UInt8 :=
  match call.answer with
  | .moved bytes => bytes
  | .timedOut | .interrupted | .failed _ => []

def Call.arriving (call : Call (List UInt8)) : Nat := call.bytes.length

def delivered (calls : List (Call (List UInt8))) : List UInt8 := calls.flatMap Call.bytes

def silence (allowed _ : Nat) : Call (List UInt8) := ⟨.timedOut, allowed⟩

@[simp] theorem delivered_nil : delivered [] = [] := rfl

@[simp] theorem delivered_cons (call : Call (List UInt8)) (calls : List (Call (List UInt8))) :
    delivered (call :: calls) = call.bytes ++ delivered calls := rfl

theorem length_delivered (calls : List (Call (List UInt8))) :
    (delivered calls).length = moving Call.arriving calls := by
  induction calls with
  | nil => rfl
  | cons call calls induction => simp [induction, Call.arriving]

@[simp] theorem Received.elapsed_behind (bytes : List UInt8) (received : Received) :
    (received.behind bytes).elapsed = received.elapsed := rfl

@[simp] theorem Received.upcoming_behind (bytes : List UInt8) (received : Received) :
    (received.behind bytes).upcoming = received.upcoming := rfl

@[simp] theorem Received.surplus_behind (bytes : List UInt8) (received : Received) :
    (received.behind bytes).surplus = received.surplus := rfl

@[simp] theorem Received.behind_nil (received : Received) : received.behind [] = received := by
  rcases received with ⟨_ | _, _⟩ <;> rfl

structure Receipt (allowed elapsed wanted : Nat) (answers calls : List (Call (List UInt8)))
    (received : Received) : Prop where
  called : Called Call.arriving silence (allowed - elapsed) wanted answers received.upcoming calls
  elapsed : received.elapsed = elapsed + lasting calls
  result : received.result =
    (failure? calls).elim (.ok ((delivered calls).take wanted)) .error
  kept : failure? calls = none → delivered answers =
    (delivered calls).take wanted ++ received.surplus ++ delivered received.upcoming

namespace Receipt

variable {allowed elapsed wanted : Nat} {answers calls rest : List (Call (List UInt8))}
variable {call : Call (List UInt8)} {received : Received}

private theorem single {result : Except LinkError (List UInt8)} {surplus : List UInt8}
    (early : elapsed < allowed)
    (finished : Over Call.arriving (allowed - elapsed) (wanted + 1) [call])
    (settled : result = call.failure?.elim (.ok (call.bytes.take (wanted + 1))) .error)
    (left : call.failure? = none → surplus = call.bytes.drop (wanted + 1)) :
    Receipt allowed elapsed (wanted + 1) (call :: rest) [call]
      ⟨result, elapsed + call.elapsed, surplus, rest⟩ where
  called := .single (Nat.sub_pos_of_lt early) (Nat.zero_lt_succ wanted) finished (.inl rfl)
  elapsed := rfl
  result := by simpa using settled
  kept sound := by simp [left (by simpa using sound)]

private theorem cons (early : elapsed < allowed) (sound : call.failure? = none)
    (missing : call.arriving < wanted)
    (receipt : Receipt allowed (elapsed + call.elapsed) (wanted - call.arriving) answers calls
      received) :
    Receipt allowed elapsed wanted (call :: answers) (call :: calls)
      (received.behind call.bytes) := by
  have taken (bytes : List UInt8) :
      (call.bytes ++ bytes).take wanted = call.bytes ++ bytes.take (wanted - call.arriving) := by
    rw [List.take_append, List.take_of_length_le (Nat.le_of_lt missing), Call.arriving]
  constructor
  case called =>
    exact .cons (Nat.sub_pos_of_lt early) (Nat.zero_lt_of_lt missing) sound
      (by simpa [Nat.sub_sub] using receipt.called)
  case elapsed => simpa [Nat.add_assoc] using receipt.elapsed
  case result =>
    rw [Received.behind, receipt.result]
    cases failed : failure? calls <;> simp [sound, failed, taken, Except.map]
  case kept =>
    intro nothing
    have rest := receipt.kept (by simpa [sound] using nothing)
    simp [rest, taken]

private theorem quiet (early : elapsed < allowed) (sound : call.failure? = none)
    (nothing : call.bytes = [])
    (receipt : Receipt allowed (elapsed + call.elapsed) (wanted + 1) answers calls received) :
    Receipt allowed elapsed (wanted + 1) (call :: answers) (call :: calls) received := by
  have missing : call.arriving < wanted + 1 := by simp [Call.arriving, nothing]
  have whole := cons early sound missing (by simpa [Call.arriving, nothing] using receipt)
  simpa [nothing] using whole

end Receipt

theorem receipt_receive (allowed wanted : Nat) {elapsed : Nat} (answers : List (Call (List UInt8)))
    (early : elapsed < allowed) :
    ∃ calls, Receipt allowed elapsed wanted answers calls
      (receive allowed elapsed wanted answers) := by
  fun_induction receive allowed elapsed wanted answers with
  | case1 elapsed answers => exact ⟨[], .nothing _ _, rfl, rfl, fun _ => rfl⟩
  | case2 elapsed wanted =>
      -- The line has no answer left.
      refine ⟨[silence (allowed - elapsed) (wanted + 1)], ?_, ?_, rfl, fun _ => rfl⟩
      · exact .single (Nat.sub_pos_of_lt early) (Nat.zero_lt_succ wanted) (.late (Nat.le_refl _))
          (.inr ⟨rfl, rfl, rfl⟩)
      · simp [silence]
        omega
  | case3 elapsed wanted call rest now error failed =>
      have broken := Call.failure?_of_failed failed
      refine ⟨[call], .single early (.broken error ?_) ?_ ?_⟩ <;> simp [broken]
  | case4 elapsed wanted call rest now silent expired
  | case6 elapsed wanted call rest now silent expired =>
      refine ⟨[call], .single early (.late ?_) ?_ ?_⟩
      · exact Nat.sub_le_iff_le_add'.mpr expired
      · simp [Call.failure?, Call.bytes, silent]
      · simp [Call.bytes, silent]
  | case5 elapsed wanted call rest now silent remains induction
  | case7 elapsed wanted call rest now silent remains induction =>
      rcases induction (Nat.lt_of_not_le remains) with ⟨calls, receipt⟩
      refine ⟨call :: calls, .quiet early ?_ ?_ receipt⟩
      · rw [Call.failure?, silent]
      · rw [Call.bytes, silent]
  | case8 elapsed wanted call rest now bytes moved enough =>
      have brought : call.bytes = bytes := by rw [Call.bytes, moved]
      refine ⟨[call], .single early (.complete ?_) ?_ ?_⟩
      · simpa [Call.arriving, brought] using enough
      · simp [Call.failure?_of_moved moved, brought]
      · simp [brought]
  | case9 elapsed wanted call rest now bytes moved missing expired =>
      have brought : call.bytes = bytes := by rw [Call.bytes, moved]
      have short : bytes.length ≤ wanted + 1 := by omega
      refine ⟨[call], .single early (.late ?_) ?_ ?_⟩
      · exact Nat.sub_le_iff_le_add'.mpr expired
      · simp [Call.failure?_of_moved moved, brought, List.take_of_length_le short]
      · simp [brought, List.drop_of_length_le short]
  | case10 elapsed wanted call rest now bytes moved missing remains induction =>
      have brought : call.bytes = bytes := by rw [Call.bytes, moved]
      subst brought
      rcases induction (Nat.lt_of_not_le remains) with ⟨calls, receipt⟩
      exact ⟨call :: calls, .cons early (Call.failure?_of_moved moved) (Nat.lt_of_not_le missing)
        receipt⟩

/-! Transmitting. -/

def Call.accepting (call : Call Nat) : Nat :=
  match call.answer with
  | .moved limit => limit
  | .timedOut | .interrupted | .failed _ => 0

def acceptance (_ wanted : Nat) : Call Nat := ⟨.moved wanted, 0⟩

structure Shipment (allowed elapsed : Nat) (bytes : List UInt8) (answers calls : List (Call Nat))
    (transmitted : Transmitted) : Prop where
  called : Called Call.accepting acceptance (allowed - elapsed) bytes.length answers
    transmitted.upcoming calls
  elapsed : transmitted.elapsed = elapsed + lasting calls
  taken : transmitted.taken = bytes.take (moving Call.accepting calls)
  result : transmitted.result = (failure? calls).elim (.ok transmitted.taken.length) .error

@[simp] theorem Transmitted.elapsed_behind (bytes : List UInt8) (transmitted : Transmitted) :
    (transmitted.behind bytes).elapsed = transmitted.elapsed := rfl

@[simp] theorem Transmitted.upcoming_behind (bytes : List UInt8) (transmitted : Transmitted) :
    (transmitted.behind bytes).upcoming = transmitted.upcoming := rfl

@[simp] theorem Transmitted.taken_behind (bytes : List UInt8) (transmitted : Transmitted) :
    (transmitted.behind bytes).taken = bytes ++ transmitted.taken := rfl

@[simp] theorem Transmitted.behind_nil (transmitted : Transmitted) :
    transmitted.behind [] = transmitted := by
  rcases transmitted with ⟨_ | _, _⟩ <;> simp [Transmitted.behind, Except.map]

namespace Shipment

variable {allowed elapsed : Nat} {bytes : List UInt8} {answers calls rest : List (Call Nat)}
variable {call : Call Nat} {transmitted : Transmitted}

private theorem single {result : Except LinkError Nat} {taken : List UInt8}
    (early : elapsed < allowed) (missing : bytes ≠ [])
    (finished : Over Call.accepting (allowed - elapsed) bytes.length [call])
    (took : taken = bytes.take call.accepting)
    (settled : result = call.failure?.elim (.ok taken.length) .error) :
    Shipment allowed elapsed bytes (call :: rest) [call]
      ⟨result, taken, elapsed + call.elapsed, rest⟩ where
  called := .single (Nat.sub_pos_of_lt early) (List.length_pos_iff.mpr missing) finished (.inl rfl)
  elapsed := rfl
  taken := by simpa using took
  result := by simpa using settled

private theorem cons (early : elapsed < allowed) (missing : bytes ≠ [])
    (sound : call.failure? = none)
    (shipment : Shipment allowed (elapsed + call.elapsed) (bytes.drop call.accepting) answers calls
      transmitted) :
    Shipment allowed elapsed bytes (call :: answers) (call :: calls)
      (transmitted.behind (bytes.take call.accepting)) where
  called := .cons (Nat.sub_pos_of_lt early) (List.length_pos_iff.mpr missing) sound
    (by simpa [Nat.sub_sub] using shipment.called)
  elapsed := by simpa [Nat.add_assoc] using shipment.elapsed
  taken := by simp [shipment.taken, List.take_add]
  result := by
    rw [Transmitted.behind, shipment.result]
    cases failed : failure? calls <;> simp [sound, failed, Except.map]

private theorem quiet (early : elapsed < allowed) (missing : bytes ≠ [])
    (sound : call.failure? = none) (nothing : call.accepting = 0)
    (shipment : Shipment allowed (elapsed + call.elapsed) bytes answers calls transmitted) :
    Shipment allowed elapsed bytes (call :: answers) (call :: calls) transmitted := by
  have whole := cons early missing sound (by simpa [nothing] using shipment)
  simpa [nothing] using whole

end Shipment

theorem shipment_transmit (allowed : Nat) {elapsed : Nat} (bytes : List UInt8)
    (answers : List (Call Nat)) (early : elapsed < allowed) :
    ∃ calls, Shipment allowed elapsed bytes answers calls
      (transmit allowed elapsed bytes answers) := by
  fun_induction transmit allowed elapsed bytes answers with
  | case1 elapsed answers => exact ⟨[], .nothing _ _, rfl, rfl, rfl⟩
  | case2 elapsed bytes missing =>
      -- The line has no answer left.
      refine ⟨[acceptance 0 bytes.length], ?_, ?_, ?_, rfl⟩
      · exact .single (Nat.sub_pos_of_lt early) (List.length_pos_iff.mpr missing)
          (.complete (Nat.le_refl _)) (.inr ⟨rfl, rfl, rfl⟩)
      · simp [acceptance]
      · simp [acceptance, Call.accepting]
  | case3 elapsed bytes call rest missing now error failed =>
      have broken := Call.failure?_of_failed failed
      refine ⟨[call], .single early missing (.broken error ?_) ?_ ?_⟩
      · simp [broken]
      · simp [Call.accepting, failed]
      · simp [broken]
  | case4 elapsed bytes call rest missing now silent expired
  | case6 elapsed bytes call rest missing now silent expired =>
      refine ⟨[call], .single early missing (.late ?_) ?_ ?_⟩
      · exact Nat.sub_le_iff_le_add'.mpr expired
      · simp [Call.accepting, silent]
      · simp [Call.failure?, silent]
  | case5 elapsed bytes call rest missing now silent remains induction
  | case7 elapsed bytes call rest missing now silent remains induction =>
      rcases induction (Nat.lt_of_not_le remains) with ⟨calls, shipment⟩
      refine ⟨call :: calls, .quiet early missing ?_ ?_ shipment⟩
      · rw [Call.failure?, silent]
      · rw [Call.accepting, silent]
  | case8 elapsed bytes call rest missing now limit moved taken enough =>
      have accepts : call.accepting = limit := by rw [Call.accepting, moved]
      refine ⟨[call], .single early missing ?_ ?_ ?_⟩
      · rcases enough with enough | expired
        · exact .complete (by simpa [accepts] using enough)
        · exact .late (Nat.sub_le_iff_le_add'.mpr expired)
      · rw [accepts]
      · simp [Call.failure?_of_moved moved]
  | case9 elapsed bytes call rest missing now limit moved taken goesOn induction =>
      have accepts : call.accepting = limit := by rw [Call.accepting, moved]
      subst accepts
      rcases induction (Nat.lt_of_not_le fun expired => goesOn (.inr expired)) with
        ⟨calls, shipment⟩
      exact ⟨call :: calls, .cons early missing (Call.failure?_of_moved moved) shipment⟩

/-! The transfers of a connection. -/

def Line.stream (line : Line) : List UInt8 := line.received ++ delivered line.incoming

@[simp] theorem delivered_readCalls (line : Line) : delivered line.readCalls = line.stream := by
  rw [Line.readCalls, Line.stream]
  split
  case isTrue empty => simp [List.isEmpty_iff.mp empty]
  case isFalse => rfl

def Line.readAnswers (line : Line) : List (Call (List UInt8)) :=
  if line.hungUp then hangup else line.readCalls

private theorem Line.read_eq (allowed count : Nat) (line : Line) :
    line.read allowed count =
      let received := receive allowed 0 count line.readAnswers
      ((received.result, received.elapsed),
        if line.hungUp ∨ count = 0 then line
        else { line with received := received.surplus, incoming := received.upcoming }) := by
  cases hungUp : line.hungUp <;> cases count <;>
    simp [Line.read, Line.readAnswers, hungUp, hangup, receive]

private theorem Line.flush_written (line : Line) (transmitted : Transmitted) :
    (line.written transmitted).flush =
      (line.flush.1, { line.written transmitted with flushes := line.flush.2.flushes }) := by
  by_cases hungUp : line.hungUp
  · simp only [written, flush, if_pos hungUp]
  · simp only [written, flush, if_neg hungUp]
    cases flushes : line.flushes <;> simp only [flushes]

private theorem Line.flushes_written (line : Line) (transmitted : Transmitted) :
    (line.written transmitted).flushes = line.flushes := by
  rw [written]
  split <;> rfl

private theorem Line.sent_written (allowed : Nat) (bytes : List UInt8) (line : Line) :
    (line.written (transmit allowed 0 bytes line.writeAnswers)).sent =
      line.sent ++ (transmit allowed 0 bytes line.writeAnswers).taken := by
  cases hungUp : line.hungUp <;> cases bytes <;>
    simp [written, writeAnswers, hungUp, hangup, transmit]

namespace Connection

structure Reads (connection : Connection) (count : Nat) (calls upcoming : List (Call (List UInt8)))
    (outcome : Outcome (List UInt8)) (after : Connection) : Prop
    extends Persistent Call.arriving (connection.settings.timeout count) count calls,
      Called Call.arriving silence (connection.settings.timeout count) count
        connection.line.readAnswers upcoming calls where
  elapsed : outcome.elapsed = lasting calls
  fails_iff : ∀ error, outcome.result = .error error ↔ failure? calls = some error
  /-- Nothing in front of the bytes, between them or out of order. The last answer may come with
  more bytes than are still wanted. -/
  received : ∀ bytes, outcome.result = .ok bytes → bytes = (delivered calls).take count
  short : ∀ bytes, outcome.result = .ok bytes → bytes.length < count →
    connection.settings.timeout count ≤ outcome.elapsed
  kept : ∀ bytes, outcome.result = .ok bytes → connection.line.stream = bytes ++ after.line.stream
  left : connection.line.hungUp = false → 0 < count → after.line.incoming = upcoming

/-- A blocking write and its calls. It is flushed when none of them has failed. -/
structure Writes (connection : Connection) (bytes : List UInt8) (calls upcoming : List (Call Nat))
    (outcome : Outcome Nat) (after : Connection) : Prop
    extends Persistent Call.accepting (connection.settings.timeout bytes.length) bytes.length calls,
      Called Call.accepting acceptance (connection.settings.timeout bytes.length) bytes.length
        connection.line.writeAnswers upcoming calls where
  elapsed : outcome.elapsed =
    lasting calls + if failure? calls = none then connection.line.flush.1.elapsed else 0
  fails_iff : ∀ error, outcome.result = .error error ↔ failure? calls = some error ∨
    (failure? calls = none ∧ connection.line.flush.1.failure? = some error)
  taken : after.line.sent =
    connection.line.sent ++ bytes.take (moving Call.accepting calls)
  sent : ∀ count, outcome.result = .ok count → count ≤ bytes.length ∧
    after.line.sent = connection.line.sent ++ bytes.take count
  short : ∀ count, outcome.result = .ok count → count < bytes.length →
    connection.settings.timeout bytes.length ≤ lasting calls
  left : connection.line.hungUp = false → after.line.outgoing = upcoming
  flushed : after.line.flushes =
    if failure? calls = none then connection.line.flush.2.flushes else connection.line.flushes

private theorem timeout_pos (connection : Connection) (count : Nat) :
    0 < connection.settings.timeout count := by
  rw [Settings.timeout, Settings.timeoutMargin]
  omega

theorem reads_read (connection : Connection) (count : Nat) :
    ∃ calls upcoming, Reads connection count calls upcoming (connection.read count).1
      (connection.read count).2 := by
  rcases receipt_receive (connection.settings.timeout count) count connection.line.readAnswers
    (connection.timeout_pos count) with ⟨calls, receipt⟩
  simp only [read, Line.read_eq]
  generalize receive _ 0 count connection.line.readAnswers = received at receipt
  have persistent := receipt.called.persistent fun call silent => by
    rcases silent with silent | silent <;> simp [Call.arriving, Call.bytes, silent]
  have elapsed : received.elapsed = lasting calls := by simpa using receipt.elapsed
  have handed {bytes : List UInt8} (result : received.result = .ok bytes) :
      failure? calls = none ∧ bytes = (delivered calls).take count := by
    rw [receipt.result] at result
    cases failed : failure? calls <;> simp_all
  refine ⟨calls, received.upcoming, ?_⟩
  constructor
  case toPersistent => exact persistent
  case toCalled => exact receipt.called
  case elapsed => exact elapsed
  case fails_iff =>
    intro error
    rw [receipt.result]
    cases failed : failure? calls <;> simp
  case received => exact fun bytes result => (handed result).2
  case short =>
    intro bytes result missing
    rcases handed result with ⟨sound, rfl⟩
    rw [List.length_take, length_delivered] at missing
    rw [elapsed]
    exact persistent.ended sound (by omega)
  case kept =>
    intro bytes result
    rcases handed result with ⟨sound, rfl⟩
    have kept := receipt.kept sound
    by_cases hungUp : connection.line.hungUp = true
    · rw [Line.readAnswers, if_pos hungUp] at kept
      have nothing := (List.append_eq_nil_iff.mp kept.symm).1
      simp [hungUp, (List.append_eq_nil_iff.mp nothing).1]
    · rw [Line.readAnswers, if_neg hungUp, delivered_readCalls] at kept
      cases count with
      | zero => simp
      | succ count =>
          rw [if_neg (by simp [hungUp]), kept, List.append_assoc]
          rfl
  case left =>
    intro sound wanted
    simp [sound, Nat.pos_iff_ne_zero.mp wanted]

private theorem write_of_failure {connection : Connection} {bytes : List UInt8} {error : LinkError}
    {transmitted : Transmitted} (result : transmitted.result = .error error)
    (equal : transmit (connection.settings.timeout bytes.length) 0 bytes
      connection.line.writeAnswers = transmitted) :
    connection.write bytes = ({ result := .error error, elapsed := transmitted.elapsed },
      { connection with line := connection.line.written transmitted }) := by
  rw [write, Line.write, equal]
  simp only [result]

private theorem write_of_sound {connection : Connection} {bytes : List UInt8} {count : Nat}
    {transmitted : Transmitted} (result : transmitted.result = .ok count)
    (equal : transmit (connection.settings.timeout bytes.length) 0 bytes
      connection.line.writeAnswers = transmitted) :
    connection.write bytes =
      ({ result := connection.line.flush.1.failure?.elim (.ok count) .error
         elapsed := transmitted.elapsed + connection.line.flush.1.elapsed },
        { connection with line := { connection.line.written transmitted with
            flushes := connection.line.flush.2.flushes } }) := by
  rw [write, Line.write, equal]
  simp only [result, Line.flush_written]

theorem writes_write (connection : Connection) (bytes : List UInt8) :
    ∃ calls upcoming, Writes connection bytes calls upcoming (connection.write bytes).1
      (connection.write bytes).2 := by
  rcases shipment_transmit (connection.settings.timeout bytes.length) bytes
    connection.line.writeAnswers (connection.timeout_pos bytes.length) with ⟨calls, shipment⟩
  have sent := connection.line.sent_written (connection.settings.timeout bytes.length) bytes
  generalize equal : transmit _ 0 bytes connection.line.writeAnswers = transmitted at shipment sent
  rw [shipment.taken] at sent
  have persistent := shipment.called.persistent fun call silent => by
    rcases silent with silent | silent <;> simp [Call.accepting, silent]
  have elapsed : transmitted.elapsed = lasting calls := by simpa using shipment.elapsed
  have left (sound : connection.line.hungUp = false) :
      (connection.line.written transmitted).outgoing = transmitted.upcoming := by
    simp [Line.written, sound]
  have result := shipment.result
  refine ⟨calls, transmitted.upcoming, ?_⟩
  cases failed : failure? calls with
  | some error =>
      rw [failed] at result
      rw [write_of_failure result equal]
      constructor
      case toPersistent => exact persistent
      case toCalled => exact shipment.called
      case elapsed => simpa [failed] using elapsed
      case fails_iff => simp [failed]
      case taken => exact sent
      case sent | short => exact nofun
      case left => exact left
      case flushed => simpa [failed] using connection.line.flushes_written transmitted
  | none =>
      rw [failed] at result
      rw [write_of_sound result equal]
      have handed {count : Nat} (accepted : connection.line.flush.1.failure?.elim
          (.ok transmitted.taken.length) .error = (.ok count : Except LinkError Nat)) :
          count = (bytes.take (moving Call.accepting calls)).length := by
        rw [shipment.taken] at accepted
        cases flush : connection.line.flush.1.failure? <;> simp_all
      constructor
      case toPersistent => exact persistent
      case toCalled => exact shipment.called
      case elapsed => simp [failed, elapsed]
      case fails_iff =>
        intro error
        cases flush : connection.line.flush.1.failure? <;> simp [failed]
      case taken => exact sent
      case sent =>
        intro count accepted
        rcases handed accepted with rfl
        refine ⟨List.length_take_le' .., ?_⟩
        rw [List.length_take, ← List.take_eq_take_min]
        exact sent
      case short =>
        intro count accepted missing
        rcases handed accepted with rfl
        rw [List.length_take] at missing
        exact persistent.ended failed (by omega)
      case left => exact left
      case flushed => simp [failed]

/-- Transfers lose nothing and repeat nothing. -/
theorem faithful_transfers (connection : Connection) :
    (∀ count, ∃ calls upcoming, Reads connection count calls upcoming (connection.read count).1
      (connection.read count).2) ∧
    ∀ bytes, ∃ calls upcoming, Writes connection bytes calls upcoming (connection.write bytes).1
      (connection.write bytes).2 :=
  ⟨reads_read connection, writes_write connection⟩

example :
    let incoming := [⟨.moved [1], 5⟩, ⟨.interrupted, 5⟩, ⟨.moved [2, 3, 4], 5⟩]
    let (outcome, after) := read 3 { line := { name := "line", incoming }, settings := {} }
    (outcome.result, outcome.elapsed, after.line.stream) = (.ok [1, 2, 3], 15, [4]) := by rfl

end Connection

end BenchScope.Serial
