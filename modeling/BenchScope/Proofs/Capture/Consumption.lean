import BenchScope.Proofs.Capture.Delivery
import BenchScope.Proofs.Wire.Consumption

namespace BenchScope

open Exchange

/-! What a capture leaves of the reply that is meant for it. A capture that stops early leaves bytes
behind, but it never takes a byte from behind its reply, however it goes. -/

def Replies.ahead (replies : Replies) (position : Nat) : List UInt8 :=
  (replies.blocks.drop position).flatMap Block.bytes

private theorem length_flatMap_wordBytes (codes : List UInt16) :
    (codes.flatMap wordBytes).length = 2 * codes.length := by
  induction codes with
  | nil => rfl
  | cons code codes induction =>
      rw [List.flatMap_cons, List.length_append, induction, List.length_cons]
      change 2 + 2 * codes.length = _
      omega

theorem Replies.length_ahead {replies : Replies} {parameters : Parameters Float}
    (suits : replies.Suits parameters) {position : Nat}
    (bound : position < parameters.channels.length) :
    (replies.ahead position).length =
      2 * parameters.sampleCount.toNat + 1 + (replies.ahead (position + 1)).length := by
  rw [← suits.count] at bound
  have codes := (suits.blocks _ (List.getElem_mem bound)).1
  rw [ahead, List.drop_eq_getElem_cons bound, List.flatMap_cons, List.length_append, Block.bytes,
    List.length_append, length_flatMap_wordBytes, codes]
  rfl

def Replies.polled (replies : Replies) (delays : List Delay) : List UInt8 :=
  delays.flatMap Delay.bytes ++
    (statusBytes replies.flag replies.counter replies.ready ++ replies.ahead 0)

namespace Replies

variable (replies : Replies) (triggered : Bool)

private theorem bytes_of_untriggered :
    replies.bytes false = [replies.started] ++ replies.polled replies.delays :=
  rfl

private theorem bytes_of_triggered :
    replies.bytes true = [replies.armed] ++ replies.bytes false := rfl

private theorem bytes_false_suffix : replies.bytes false <:+ replies.bytes triggered := by
  cases triggered with
  | false => exact List.suffix_refl _
  | true => exact List.suffix_append _ _

theorem polled_suffix {delays : List Delay} (fewer : delays <:+ replies.delays) :
    replies.polled delays <:+ replies.bytes triggered := by
  rcases fewer with ⟨past, all⟩
  refine List.IsSuffix.trans ⟨[replies.started] ++ past.flatMap Delay.bytes, ?_⟩
    (replies.bytes_false_suffix triggered)
  rw [bytes_of_untriggered, polled, polled, ← all, List.flatMap_append]
  simp only [List.append_assoc]

theorem ahead_suffix : replies.ahead 0 <:+ replies.bytes triggered :=
  List.IsSuffix.trans (List.suffix_append _ _)
    (replies.polled_suffix triggered (List.nil_suffix (l := replies.delays)))

private theorem length_bytes_pos : 1 ≤ (replies.bytes triggered).length :=
  Nat.le_trans (Nat.succ_le_of_lt (Nat.zero_lt_succ _))
    (replies.bytes_false_suffix triggered).length_le

private theorem length_polled (delays : List Delay) : 4 ≤ (replies.polled delays).length := by
  simp only [polled, statusBytes, wordBytes, List.length_append, List.length_cons, List.length_nil]
  omega

end Replies

private theorem drop_of_taken {before after : List UInt8} {taken : Nat}
    (bound : taken ≤ before.length)
    (length : ((before ++ after).take taken).length = before.length) :
    (before ++ after).drop taken = after := by
  rw [List.length_take, List.length_append] at length
  have whole : taken = before.length := by omega
  rw [whole, List.drop_left]

namespace Capture

def reached : Except (CaptureError Float) Phase → Phase
  | .ok next => next
  | .error _ => .aborted

/-- What can be left of the reply in a phase. Once samples have been missing, bytes of a block may
be read in the place of what comes behind it, so that more is left than was meant to be. -/
def Leaves (replies : Replies) (triggered : Bool) (cursor : Nat) (left : List UInt8) : Phase → Prop
  | .configuring | .triggering => left = replies.bytes triggered
  | .capturing => left = replies.bytes false
  | .polling => ∃ delays, delays <:+ replies.delays ∧ left = replies.polled delays
  | .retrieving => left <:+ replies.ahead 0 ∧ (replies.ahead cursor).length ≤ left.length
  | .emitting => left <:+ replies.ahead 0 ∧ (replies.ahead (cursor + 1)).length < left.length
  | .idle | .aborted => left <:+ replies.bytes triggered

theorem suffix_of_leaves {replies : Replies} {triggered : Bool} {cursor : Nat} {left : List UInt8}
    {phase : Phase} (leaves : Leaves replies triggered cursor left phase) :
    left <:+ replies.bytes triggered := by
  cases phase with
  | configuring | triggering => exact leaves ▸ List.suffix_refl _
  | capturing => exact leaves ▸ replies.bytes_false_suffix triggered
  | polling =>
      rcases leaves with ⟨delays, fewer, rfl⟩
      exact replies.polled_suffix triggered fewer
  | retrieving | emitting => exact leaves.1.trans (replies.ahead_suffix triggered)
  | idle | aborted => exact leaves

variable {σ : Type}

def Owes (holds : List UInt8 → σ → Prop) (replies : Replies) (triggered : Bool)
    (rest : List UInt8) (stage : Stage σ) (phase : Phase) : Prop :=
  ∃ left, Leaves replies triggered stage.capture.cursor left phase ∧
    holds (left ++ rest) stage.host.link

variable {holds : List UInt8 → σ → Prop} {replies : Replies} {rest : List UInt8}
  {origin stage : Stage σ}

private theorem owes_of_failure {triggered : Bool} {left : List UInt8} (taken : Nat)
    (suffix : left <:+ replies.bytes triggered) {after : Stage σ}
    (holding : holds (left.drop taken ++ rest) after.host.link) :
    Owes holds replies triggered rest after .aborted :=
  ⟨_, (List.drop_suffix taken left).trans suffix, holding⟩

private theorem owes_of_taking {ε β : Type} {action : Exchange ε σ β} {limit : Nat}
    {meaning : β → List UInt8 → Prop} {triggered : Bool} {left : List UInt8} {before : Host σ}
    {result : Except ε β} {after : Stage σ} (takes : Takes holds action limit meaning)
    (suffix : left <:+ replies.bytes triggered) (holding : holds (left ++ rest) before.link)
    (enough : limit ≤ left.length) (applied : action.apply before = (result, after.host)) :
    Owes holds replies triggered rest after .aborted := by
  rcases takes.within holding enough applied with ⟨taken, -, holding, -⟩
  exact owes_of_failure taken suffix holding

variable [Link σ]

private theorem holds_of_performed {command : Command} {words : List Parameter} {byte : UInt8}
    {left : List UInt8} {host after : Host σ} (conveys : Conveys holds)
    (holding : holds ([byte] ++ left ++ rest) host.link)
    (performed : (perform command words).apply host = (.ok (), after)) :
    holds (left ++ rest) after.link := by
  rcases (takes_perform conveys _ _).within holding (Nat.succ_pos _) performed with
    ⟨taken, bound, holding, means⟩
  rwa [drop_of_taken bound (means () rfl)] at holding

/-- An answer to the question for the status is taken whole. The samples come behind the one that
says that they are there, and further answers behind any other. -/
private theorem holds_of_status {delays : List Delay} {host after : Host σ} {status : Status}
    (conveys : Conveys holds) (ready : replies.flag ≠ 0)
    (holding : holds (replies.polled delays ++ rest) host.link)
    (asked : askStatus.apply host = (.ok status, after)) :
    (status.done = true → holds (replies.ahead 0 ++ rest) after.link) ∧
      (status.done = false →
        ∃ later, later <:+ delays ∧ holds (replies.polled later ++ rest) after.link) := by
  rcases (takes_askStatus conveys).within holding (replies.length_polled delays) asked with
    ⟨taken, bound, left, means⟩
  rcases means status rfl with ⟨length, flag, head, done⟩
  rw [List.length_take] at length
  obtain rfl : taken = 4 := by omega
  rw [done]
  cases delays with
  | nil =>
      cases head
      simp only [decide_eq_true ready]
      exact ⟨fun _ => left, nofun⟩
  | cons delay later =>
      cases head
      exact ⟨nofun, fun _ => ⟨later, List.suffix_cons _ _, left⟩⟩

/-- The acknowledgement behind the samples is still to come, or a byte that is taken for it. -/
private theorem owes_retrieved {calibration : Calibration Float} {abortable triggered : Bool}
    {parameters : Parameters Float} {left : List UInt8} {asked host : Host σ} {finish : ReadEnd}
    {samples : List Float} {after : Stage σ} (conveys : Conveys holds)
    (suits : replies.Suits parameters) (bound : after.capture.cursor < parameters.channels.length)
    (suffix : left <:+ replies.ahead 0)
    (enough : (replies.ahead after.capture.cursor).length ≤ left.length)
    (holding : holds (left ++ rest) asked.link)
    (heard : readSamples calibration abortable parameters.sampleCount.toNat [] asked =
      ((finish, samples), host))
    (same : after.host.link = host.link) :
    Owes holds replies triggered rest after (reached finish.result) := by
  rw [Replies.length_ahead suits bound] at enough
  have room : 2 * parameters.sampleCount.toNat ≤ left.length := by omega
  rcases taken_of_readSamples conveys calibration abortable _ [] holding room with
    ⟨taken, few, holding⟩
  rw [heard, ← same] at holding
  have fewer := (List.drop_suffix taken left).trans suffix
  cases finish with
  | complete | short =>
      refine ⟨_, ⟨fewer, ?_⟩, holding⟩
      rw [List.length_drop]
      omega
  | aborted | failed => exact ⟨_, fewer.trans (replies.ahead_suffix triggered), holding⟩

/-- The acknowledgement behind a block is a byte, and no byte of the blocks that are ahead is needed
for it. -/
private theorem owes_emitted {triggered : Bool} {left : List UInt8} {cursor : Nat} {host : Host σ}
    {acknowledgement : UInt8} {after : Stage σ} (conveys : Conveys holds)
    (leaves : Leaves replies triggered cursor left .emitting)
    (holding : holds (left ++ rest) host.link)
    (awaited : awaitAcknowledgement.apply host = (.ok acknowledgement, after.host))
    (next : after.capture.cursor = cursor + 1) :
    Owes holds replies triggered rest after .retrieving := by
  rcases leaves with ⟨suffix, more⟩
  rcases (takes_awaitAcknowledgement conveys).within holding
    (Nat.succ_le_of_lt (Nat.zero_lt_of_lt more)) awaited with ⟨taken, bound, holding, -⟩
  refine ⟨_, ⟨(List.drop_suffix taken left).trans suffix, ?_⟩, holding⟩
  rw [next, List.length_drop]
  exact Nat.le_trans (Nat.le_sub_one_of_lt more) (Nat.sub_le_sub_left bound _)

theorem owes_worked {outcome : Except (CaptureError Float) Phase × Stage σ}
    (conveys : Conveys holds) (suits : replies.Suits origin.capture.parameters)
    (sound : Sound origin stage)
    (owes : Owes holds replies origin.capture.parameters.isTriggered rest stage
      stage.capture.phase) (worked : Worked stage outcome) :
    Owes holds replies origin.capture.parameters.isTriggered rest outcome.2
      (reached outcome.1) := by
  have same := sound.phase
  rcases owes with ⟨left, leaves, holding⟩
  have suffix := suffix_of_leaves leaves
  cases worked with
  | refused | unencodable | overflowed | unselectable | sourceless =>
      exact owes_of_failure 0 suffix holding
  | configured phase =>
      rw [phase] at leaves
      obtain rfl : left = _ := leaves
      rw [sound.parameters, reached]
      split
      case isTrue => exact ⟨_, rfl, holding⟩
      case isFalse untriggered =>
        rw [Bool.not_eq_true] at untriggered
        exact ⟨_, congrArg replies.bytes untriggered, holding⟩
  | untriggered phase without => exact absurd without (triggers_of_sound sound phase)
  | unarmed phase _ _ _ performed | unstarted phase _ _ performed =>
      rw [phase] at leaves
      obtain rfl : left = _ := leaves
      exact owes_of_taking (takes_perform conveys _ _) suffix holding (replies.length_bytes_pos _)
        performed
  | armed phase _ _ _ performed =>
      rw [phase] at leaves same
      obtain rfl : left = _ := leaves
      have triggered : origin.capture.parameters.isTriggered = true :=
        sound.parameters ▸ same.2.2.2
      rw [triggered, replies.bytes_of_triggered] at holding
      exact ⟨_, rfl, holds_of_performed conveys holding performed⟩
  | started phase _ _ performed =>
      rw [phase] at leaves
      obtain rfl : left = _ := leaves
      rw [replies.bytes_of_untriggered] at holding
      exact ⟨_, ⟨_, List.suffix_refl _, rfl⟩, holds_of_performed conveys holding performed⟩
  | unanswered phase asked | late phase asked =>
      rw [phase] at leaves
      rcases leaves with ⟨delays, -, rfl⟩
      exact owes_of_taking (takes_askStatus conveys) suffix holding (replies.length_polled delays)
        asked
  | done phase asked done =>
      rw [phase] at leaves same
      rcases leaves with ⟨delays, -, rfl⟩
      have begun : stage.capture.cursor = 0 := same.2.1.1
      exact ⟨replies.ahead 0, ⟨List.suffix_refl _, Nat.le_of_eq (by rw [begun])⟩,
        (holds_of_status conveys suits.flag holding asked).1 done⟩
  | waiting phase asked done =>
      rw [phase] at leaves
      rcases leaves with ⟨delays, fewer, rfl⟩
      rcases (holds_of_status conveys suits.flag holding asked).2 done with ⟨later, left, holding⟩
      exact ⟨_, ⟨later, left.trans fewer, rfl⟩, holding⟩
  | unrequested phase _ requested =>
      exact owes_of_taking ((compositional_takes conveys).request _ _) suffix holding
        (Nat.zero_le _) requested
  | @retrieved _ _ _ _ finish _ phase _ requested heard =>
      rw [phase] at leaves same
      rcases same with ⟨-, -, ⟨bound, -⟩, -⟩
      rw [sound.channels] at bound
      rw [sound.parameters] at heard
      rcases ((compositional_takes conveys).request _ _).within holding
        (Nat.zero_le _) requested with
        ⟨_, nothing, asked, -⟩
      rw [Nat.le_zero.mp nothing, List.drop_zero] at asked
      refine owes_retrieved conveys suits bound leaves.1 leaves.2 asked heard ?_
      -- A notice leaves the link alone.
      cases finish <;> rfl
  | unacknowledged phase awaited | completed phase awaited =>
      rw [phase] at leaves
      exact owes_of_taking (takes_awaitAcknowledgement conveys) suffix holding
        (Nat.succ_le_of_lt (Nat.zero_lt_of_lt leaves.2)) awaited
  | emitted phase awaited =>
      rw [phase] at leaves
      exact owes_emitted conveys leaves holding awaited rfl

theorem owes_step (conveys : Conveys holds) (suits : replies.Suits origin.capture.parameters)
    (sound : Sound origin stage)
    (owes : Owes holds replies origin.capture.parameters.isTriggered rest stage
      stage.capture.phase) :
    Owes holds replies origin.capture.parameters.isTriggered rest (step stage).2
      (step stage).2.capture.phase := by
  rcases equal : step stage with ⟨result, after⟩
  have stepped := stepped_step stage
  rw [equal] at stepped
  cases stepped with
  | rested => exact owes
  | stopped =>
      rcases owes with ⟨left, leaves, holding⟩
      exact owes_of_failure 0 (suffix_of_leaves leaves) holding
  | advanced _ _ worked =>
      rcases owes_worked conveys suits sound owes worked with ⟨left, leaves, holding⟩
      exact ⟨left, leaves, holding⟩
  | failed _ _ worked =>
      rcases owes_worked conveys suits sound owes worked with ⟨left, leaves, holding⟩
      exact ⟨left, leaves, holding⟩

/-- Whatever the link does and whenever the operator asks for an abort, the bytes behind the reply
are still to come, and in front of them nothing but the end of the reply. -/
theorem left_of_play (conveys : Conveys holds) (parameters : Parameters Float) (limits : Limits)
    (policy : PollPolicy) (abortable : Bool) (panel : Panel) (host : Host σ)
    (suits : replies.Suits parameters)
    (holding : holds (replies.bytes parameters.isTriggered ++ rest) host.link)
    (events : List Event) :
    ∃ left, left <:+ replies.bytes parameters.isTriggered ∧
      holds (left ++ rest)
        ((Stage.fresh parameters limits policy abortable panel host).play events).host.link := by
  have kept := Stage.play_keeps (fun stage =>
    Sound (Stage.fresh parameters limits policy abortable panel host) stage ∧
      Owes holds replies parameters.isTriggered rest stage stage.capture.phase)
    (fun _ state => ⟨sound_step state.1, owes_step conveys suits state.1 state.2⟩)
    (fun stage host same state => ⟨sound_host host state.1, ?later⟩)
    (Stage.fresh parameters limits policy abortable panel host) events
    ⟨sound_fresh parameters limits policy abortable panel host, _, rfl, holding⟩
  case later =>
    rcases state.2 with ⟨left, leaves, holding⟩
    exact ⟨left, leaves, same ▸ holding⟩
  rcases kept.2 with ⟨left, leaves, holding⟩
  exact ⟨left, suffix_of_leaves leaves, holding⟩

end Capture

end BenchScope
