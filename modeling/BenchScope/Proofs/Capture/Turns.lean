import BenchScope.Capture.Step
import BenchScope.Proofs.Capture.Parameters
import BenchScope.Proofs.Wire.Calls

namespace BenchScope

open LinkCall Exchange

/-! What a capture says to the device, turn by turn, and what it has to hear before it says more. A
turn is a command with its parameters. -/

structure Session where
  parameters : Parameters Float
  panel : Panel
  sampling : Sampling

inductive Turn
  | arm
  | start
  /-- A question for the status, to which the answer is that the device is done, or that it is
  not. -/
  | ask (done : Bool)
  | retrieve (position : Nat)

namespace Session

def captureCode : Nat → UInt8
  | 1 => 0x01
  | 2 => 0x02
  | _ => 0x04

variable (session : Session)

def words : Turn → List (List UInt8)
  | .arm =>
      match session.parameters.trigger, session.parameters.channels with
      | some ⟨.analog input, volts, prescaler⟩, first :: _ =>
          [[0x02], [0x05],
            [(prescaler <<< 4) ||| (1 <<< UInt8.ofNat (Trigger.sourceBit input first))],
            wordBytes ((Calibration.ofPanel session.panel input).unscale volts)]
      | _, _ => []
  | .start =>
      match session.parameters.channels with
      | .analog first :: _ =>
          [[0x02], [captureCode session.parameters.channels.length],
            [if session.parameters.trigger.isSome then first.selector ||| 0x80 else first.selector],
            wordBytes session.parameters.sampleCount, wordBytes session.sampling.interval]
      | _ => []
  | .ask _ => [[0x02], [0x06]]
  | .retrieve position =>
      [[0x0b], [0x08],
        wordBytes (UInt16.ofNat (position * session.parameters.sampleCount.toNat)),
        wordBytes session.parameters.sampleCount]

def StatusReply (done : Bool) (heard : List LinkCall) : Prop :=
  ∃ flag counter acknowledgement byte word, heard = [flag, counter, acknowledgement] ∧
    flag.byte? = some byte ∧ counter.word? = some word ∧
    acknowledgement.isAcknowledged = true ∧ (done = true ↔ byte ≠ 0)

def Replied : Turn → List LinkCall → Prop
  | .arm | .start => Acknowledged
  | .ask done => StatusReply done
  | .retrieve _ => fun heard => ∃ samples acknowledgement, heard = samples ++ [acknowledgement] ∧
      acknowledgement.isAcknowledged = true

def Taken (turn : Turn) (calls : List LinkCall) : Prop :=
  ∃ said heard, calls = said ++ heard ∧ Offer said (session.words turn) ∧ written heard = [] ∧
    Replied turn heard

/-- The calls of turns that are over, each of them before the next began. -/
inductive Conversed : List Turn → List LinkCall → Prop
  | silence : Conversed [] []
  | turn {turns : List Turn} {calls : List LinkCall} {turn : Turn} {part : List LinkCall} :
      Conversed turns calls → session.Taken turn part → Conversed (turns ++ [turn]) (calls ++ part)

def opening : List Turn := if session.parameters.trigger.isSome then [.arm] else []

def waiting (waits : Nat) : List Turn :=
  session.opening ++ .start :: List.replicate waits (.ask false)

def script (waits count : Nat) : List Turn :=
  session.waiting waits ++ .ask true :: (List.range count).map .retrieve

def schedule (waits : Nat) : List Turn := session.script waits session.parameters.channels.length

/-- The calls of a number of turns of the schedule, each of which is over, and then of a part of one
more. -/
def Partway (waits : Nat) (calls : List LinkCall) : Prop :=
  ∃ turns rest before part, session.schedule waits = turns ++ rest ∧ calls = before ++ part ∧
    session.Conversed turns before ∧ written part <+: (rest.take 1).flatMap session.words

variable {session}

theorem written_of_conversed {turns : List Turn} {calls : List LinkCall}
    (conversed : session.Conversed turns calls) : written calls = turns.flatMap session.words := by
  induction conversed with
  | silence => rfl
  | turn _ taken induction =>
      rcases taken with ⟨said, heard, rfl, offer, silent, -⟩
      rw [written_append, written_append, induction, offer.written, silent, List.append_nil,
        List.flatMap_append, List.flatMap_singleton]

theorem written_of_partway {waits : Nat} {calls : List LinkCall}
    (partway : session.Partway waits calls) :
    written calls <+: (session.schedule waits).flatMap session.words := by
  rcases partway with ⟨turns, rest, before, part, schedule, rfl, conversed, isPrefix⟩
  rw [schedule, List.flatMap_append, written_append, written_of_conversed conversed,
    List.prefix_append_right_inj]
  refine isPrefix.trans ?_
  nth_rewrite 2 [← List.take_append_drop 1 rest]
  rw [List.flatMap_append]
  exact List.prefix_append _ _

/-! What comes after what. -/

theorem waiting_succ (waits : Nat) :
    session.waiting (waits + 1) = session.waiting waits ++ [.ask false] := by
  rw [waiting, List.replicate_succ', waiting, List.append_assoc, List.cons_append]

theorem script_zero (waits : Nat) : session.script waits 0 = session.waiting waits ++ [.ask true] :=
  rfl

theorem script_succ (waits count : Nat) :
    session.script waits (count + 1) = session.script waits count ++ [.retrieve count] := by
  rw [script, List.range_succ, List.map_append, script, List.append_assoc, List.cons_append]
  rfl

theorem schedule_of_opening (waits : Nat) :
    ∃ rest, session.schedule waits = session.opening ++ .start :: rest :=
  ⟨List.replicate waits (.ask false) ++ _, by rw [schedule, script, waiting, List.append_assoc,
    List.cons_append]⟩

theorem schedule_of_waiting (waits : Nat) :
    ∃ rest, session.schedule waits = session.waiting waits ++ .ask true :: rest := ⟨_, rfl⟩

theorem schedule_of_script (waits : Nat) {count : Nat}
    (bound : count < session.parameters.channels.length) :
    ∃ rest, session.schedule waits = session.script waits count ++ .retrieve count :: rest := by
  rcases Nat.exists_eq_add_of_lt bound with ⟨more, length⟩
  refine ⟨((List.range more).map (count + 1 + ·)).map .retrieve, ?_⟩
  rw [schedule, length, Nat.add_right_comm, script, List.range_add, List.map_append,
    ← List.cons_append, ← List.append_assoc, ← script, script_succ, List.append_assoc]
  rfl

theorem partway_of_conversed {waits : Nat} {turns rest : List Turn} {calls : List LinkCall}
    (schedule : session.schedule waits = turns ++ rest)
    (conversed : session.Conversed turns calls) :
    session.Partway waits calls :=
  ⟨turns, rest, calls, [], schedule, (List.append_nil calls).symm, conversed, List.nil_prefix⟩

theorem partway_of_part {waits : Nat} {turns rest : List Turn} {turn : Turn}
    {calls before part : List LinkCall} (schedule : session.schedule waits = turns ++ turn :: rest)
    (conversed : session.Conversed turns before) (recorded : calls = before ++ part)
    (isPart : written part <+: session.words turn) : session.Partway waits calls :=
  ⟨turns, turn :: rest, before, part, schedule, recorded, conversed, by simpa using isPart⟩

theorem Partway.listen {waits : Nat} {calls before heard : List LinkCall}
    (partway : session.Partway waits before) (recorded : calls = before ++ heard)
    (silent : written heard = []) : session.Partway waits calls := by
  subst recorded
  rcases partway with ⟨turns, rest, before, part, schedule, rfl, conversed, isPrefix⟩
  refine ⟨turns, rest, before, part ++ heard, schedule, List.append_assoc .., conversed, ?_⟩
  rwa [written_append, silent, List.append_nil]

/-! A turn is over when the exchange that makes it has succeeded. -/

theorem taken_of_converses {β : Type} {turn : Turn} {payload : List (List UInt8)}
    {reply : β → List LinkCall → Prop} {value : β} {calls : List LinkCall}
    (converses : Converses payload reply (.ok value) calls) (same : session.words turn = payload)
    (replied : ∀ heard, reply value heard → Replied turn heard) : session.Taken turn calls := by
  rcases converses with ⟨words, said, heard, rfl, -, offer, silent, answered⟩
  rcases answered value rfl with ⟨rfl, reply⟩
  exact ⟨said, heard, rfl, same ▸ offer, silent, replied heard reply⟩

theorem Conversed.converse {β : Type} {turns : List Turn} {turn : Turn}
    {payload : List (List UInt8)} {reply : β → List LinkCall → Prop} {value : β}
    {before part calls : List LinkCall} (conversed : session.Conversed turns before)
    (recorded : calls = before ++ part) (converses : Converses payload reply (.ok value) part)
    (same : session.words turn = payload)
    (replied : ∀ heard, reply value heard → Replied turn heard) :
    session.Conversed (turns ++ [turn]) calls := by
  rw [recorded]
  exact conversed.turn (taken_of_converses converses same replied)

theorem words_arm {trigger : Trigger Float} {first : Channel} {rest : List Channel}
    {fields : Trigger.Fields} (wanted : session.parameters.trigger = some trigger)
    (channels : session.parameters.channels = first :: rest)
    (encoded : trigger.fields session.panel first = .ok fields) :
    session.words .arm = [[0x02], [0x05], [fields.source], wordBytes fields.level] := by
  rcases trigger with ⟨input | output, volts, prescaler⟩
  · simp only [Trigger.fields] at encoded
    split at encoded
    case isFalse => cases encoded
    case isTrue =>
      cases encoded
      simp only [words, wanted, channels]
  · cases encoded

private theorem captureCode_eq {count : Nat} {mode : Mode}
    (chosen : Mode.ofCount? count = some mode) : captureCode count = mode.command.code := by
  revert chosen
  fun_cases Mode.ofCount? count <;> intro chosen <;> cases chosen <;> rfl

theorem words_start {selected : UInt8}
    (accepted : session.parameters.Accepted session.panel session.sampling)
    (selection : Capture.selector session.parameters = .ok selected) :
    session.words .start =
      [[session.sampling.mode.command.group], [session.sampling.mode.command.code], [selected],
        wordBytes session.parameters.sampleCount, wordBytes session.sampling.interval] := by
  rcases accepted.inputs with ⟨inputs, channels, -⟩
  cases inputs with
  | nil =>
      have positive := accepted.count_pos
      simp [channels] at positive
  | cons first rest =>
      rw [List.map_cons] at channels
      have group : session.sampling.mode.command.group = 0x02 := by
        cases session.sampling.mode <;> rfl
      rw [Capture.selector, channels] at selection
      have selected : selected = if session.parameters.trigger.isSome then first.selector ||| 0x80
          else first.selector := (Except.ok.inj selection).symm
      rw [words, channels, group, ← captureCode_eq accepted.mode, channels, selected]

end Session

namespace Capture

variable {σ : Type} [Link σ]

theorem makes_askStatus :
    Makes (askStatus (σ := Traced σ))
      (Converses [[0x02], [0x06]] fun status => Session.StatusReply status.done) := by
  refine Sends.converses (makes_send (Command.parameters .captureStatus)) ?_
  refine (hears_readByte.listen fun _ => hears_readWord.listen fun _ =>
    hears_awaitAcknowledgement.listen fun _ => hears_pure _).mono fun result calls hears => ?_
  refine hears.imp ?_
  intro status replied
  rcases replied with ⟨byte, _, _, rfl, ⟨flag, rfl, done⟩, word, _, _, rfl,
    ⟨counter, rfl, acquired⟩, _, _, _, rfl, ⟨acknowledgement, rfl, acknowledged⟩, rfl, rfl⟩
  exact ⟨flag, counter, acknowledgement, byte, word, rfl, done, acquired, acknowledged, by simp⟩

def ReadEnd.Shows (finish : ReadEnd) (count : Nat) (codes : List UInt16) (rest : List LinkCall) :
    Prop :=
  match finish with
  | .complete => codes.length = count
  | .short => ∃ call, rest = [call] ∧ call.isShort = true
  | .aborted | .failed _ => True

structure Heard (calibration : Calibration Float) (count : Nat) (finish : ReadEnd)
    (samples : List Float) (calls : List LinkCall) (codes : List UInt16)
    (reads rest : List LinkCall) : Prop where
  calls : calls = reads ++ rest
  reads : reads.map word? = codes.map some
  samples : samples = codes.map calibration.scale
  bound : codes.length ≤ count
  silent : written rest = []
  finish : finish.Shows count codes rest

namespace Heard

variable {calibration : Calibration Float} {count : Nat} {finish : ReadEnd}

theorem nothing {rest : List LinkCall} (silent : written rest = [])
    (shows : finish.Shows count [] rest) : Heard calibration count finish [] rest [] [] rest where
  calls := rfl
  reads := rfl
  samples := rfl
  bound := Nat.zero_le count
  silent := silent
  finish := shows

theorem cons {samples : List Float} {calls reads rest : List LinkCall} {codes : List UInt16}
    {call : LinkCall} {code : UInt16}
    (heard : Heard calibration count finish samples calls codes reads rest)
    (word : call.word? = some code) :
    Heard calibration (count + 1) finish (calibration.scale code :: samples) (call :: calls)
      (code :: codes) (call :: reads) rest where
  calls := by rw [heard.calls, List.cons_append]
  reads := by rw [List.map_cons, List.map_cons, word, heard.reads]
  samples := by rw [heard.samples, List.map_cons]
  bound := Nat.succ_le_succ heard.bound
  silent := heard.silent
  finish := by
    have shows := heard.finish
    cases finish with
    | complete => exact congrArg (· + 1) shows
    | _ => exact shows

end Heard

private theorem heard_readSamples (calibration : Calibration Float) (abortable : Bool) (count : Nat)
    (taken : List Float) (host : Host (Traced σ)) : ∃ samples calls codes reads rest,
      (readSamples calibration abortable count taken host).1.2 = taken.reverse ++ samples ∧
      (readSamples calibration abortable count taken host).2.calls = host.calls ++ calls ∧
      Heard calibration count (readSamples calibration abortable count taken host).1.1 samples calls
        codes reads rest := by
  induction count generalizing taken host with
  | zero =>
      exact ⟨[], [], [], [], [], by simp [readSamples], by simp [readSamples], .nothing rfl rfl⟩
  | succ count induction =>
      rw [readSamples]
      split
      case isTrue => exact ⟨[], [], [], [], [], by simp, by simp, .nothing rfl trivial⟩
      case isFalse =>
        rw [reads_readWord host]
        have recorded := host.calls_after_read 2
        generalize (Link.read 2 host.link).1.result = answer at recorded
        generalize host.after (Link.read 2 host.link).1 (Link.read 2 host.link).2 = after
          at recorded
        rcases answer with error | _ | ⟨low, _ | ⟨high, more⟩⟩
        · exact ⟨[], _, [], [], _, by simp [answer], recorded, .nothing rfl trivial⟩
        · exact ⟨[], _, [], [], _, by simp [answer, wordOf], recorded, .nothing rfl ⟨_, rfl, rfl⟩⟩
        · exact ⟨[], _, [], [], _, by simp [answer, wordOf], recorded, .nothing rfl ⟨_, rfl, rfl⟩⟩
        · simp only [answer, wordOf]
          rcases induction (calibration.scale (wordOfBytes low high) :: taken) after with
            ⟨samples, calls, codes, reads, rest, kept, further, heard⟩
          have word : (LinkCall.read 2 (.ok (low :: high :: more))).word? =
              some (wordOfBytes low high) := rfl
          exact ⟨_, _, _, _, _, by simp [kept], by simp [further, recorded], heard.cons word⟩

theorem heard_of_readSamples {calibration : Calibration Float} {abortable : Bool} {count : Nat}
    {host after : Host (Traced σ)} {finish : ReadEnd} {samples : List Float}
    (ran : readSamples calibration abortable count [] host = ((finish, samples), after)) :
    ∃ calls codes reads rest, after.calls = host.calls ++ calls ∧
      Heard calibration count finish samples calls codes reads rest := by
  rcases heard_readSamples calibration abortable count [] host with
    ⟨kept, calls, codes, reads, rest, same, recorded, heard⟩
  rw [ran] at same recorded heard
  obtain rfl : samples = kept := same
  exact ⟨calls, codes, reads, rest, recorded, heard⟩

end Capture

end BenchScope
