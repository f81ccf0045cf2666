import BenchScope.Capture.Step
import BenchScope.Link.Script
import BenchScope.Proofs.Wire.Replies

namespace BenchScope

/-! Exchanges on a link that takes every write and brings the bytes that are expected of it. The
link may take its time. -/

/-- The relation tells which bytes a link is going to bring. -/
structure Steady {σ : Type} [FiniteLink σ] (brings : List UInt8 → σ → Prop) : Prop where
  write (words bytes : List UInt8) (link : σ) : brings bytes link →
    (Link.write words link).1.result = .ok words.length ∧
      (Link.write words link).1.abort = false ∧ brings bytes (Link.write words link).2
  read (bytes rest : List UInt8) (link : σ) : brings (bytes ++ rest) link →
    (Link.read bytes.length link).1.result = .ok bytes ∧
      (Link.read bytes.length link).1.abort = false ∧ brings rest (Link.read bytes.length link).2
  supply (bytes : List UInt8) (link : σ) : brings bytes link →
    bytes.length ≤ FiniteLink.supply link

/-! Scripts of bytes and pauses make such links. -/

namespace Script

inductive Carries : List Item → List UInt8 → Prop
  | nothing : Carries [] []
  | byte (value : UInt8) {items : List Item} {bytes : List UInt8} :
      Carries items bytes → Carries (.byte value :: items) (value :: bytes)
  | stall (nanoseconds : Nat) {items : List Item} {bytes : List UInt8} :
      Carries items bytes → Carries (.stall nanoseconds :: items) bytes

theorem carries_bytes (bytes : List UInt8) : Carries (bytes.map .byte) bytes := by
  induction bytes with
  | nil => exact .nothing
  | cons value bytes induction => exact .byte value induction

private theorem take_of_carries {items : List Item} {bytes rest : List UInt8}
    (carries : Carries items (bytes ++ rest)) :
    (take bytes.length items).outcome.result = .ok bytes ∧
      (take bytes.length items).outcome.abort = false ∧
      Carries (take bytes.length items).rest rest := by
  generalize all_eq : bytes ++ rest = all at carries
  induction carries generalizing bytes with
  | nothing =>
      rcases List.append_eq_nil_iff.mp all_eq with ⟨rfl, rfl⟩
      exact ⟨rfl, rfl, .nothing⟩
  | byte value carries induction =>
      cases bytes with
      | nil =>
          rw [List.nil_append] at all_eq
          subst all_eq
          exact ⟨rfl, rfl, .byte value carries⟩
      | cons first bytes =>
          rw [List.cons_append, List.cons.injEq] at all_eq
          rcases all_eq with ⟨rfl, all_eq⟩
          rcases induction all_eq with ⟨result, quiet, left⟩
          refine ⟨?_, quiet, left⟩
          rw [List.length_cons, take, Progress.withByte, result]
          rfl
  | stall nanoseconds carries induction =>
      cases bytes with
      | nil =>
          rw [List.nil_append] at all_eq
          subst all_eq
          exact ⟨rfl, rfl, .stall nanoseconds carries⟩
      | cons first bytes => exact induction all_eq

private theorem pending_of_carries {items : List Item} {bytes : List UInt8}
    (carries : Carries items bytes) : items.countP Item.isByte = bytes.length := by
  induction carries with
  | nothing => rfl
  | byte value _ induction => rw [List.countP_cons_of_pos rfl, induction, List.length_cons]
  | stall nanoseconds _ induction =>
      rw [List.countP_cons_of_neg (by simp [Item.isByte]), induction]

structure Brings (bytes : List UInt8) (script : Script) : Prop where
  budget : script.budget = none
  failing : script.failing = []
  incoming : Carries script.incoming bytes

theorem write_of_boundless {script : Script} (budget : script.budget = none)
    (failing : script.failing = []) (words : List UInt8) :
    Link.write words script =
      ({ result := .ok words.length }, { script with writes := script.writes + 1 }) := by
  change write words script = _
  simp [write, budget, failing]

theorem steady : Steady Brings where
  write words bytes script brings := by
    rw [write_of_boundless brings.budget brings.failing]
    exact ⟨rfl, rfl, brings.budget, brings.failing, brings.incoming⟩
  read bytes rest script brings := by
    rcases take_of_carries brings.incoming with ⟨result, quiet, left⟩
    exact ⟨result, quiet, brings.budget, brings.failing, left⟩
  supply bytes script brings := Nat.le_of_eq (pending_of_carries brings.incoming).symm

end Script

structure Host.Expects {σ : Type} (brings : List UInt8 → σ → Prop) (bytes : List UInt8)
    (host : Host σ) : Prop where
  link : brings bytes host.link
  calm : host.abortRequested = false

namespace Exchange

variable {σ ε β γ : Type} {brings : List UInt8 → σ → Prop}

/-- The action reads these bytes and no others, and comes to this value. -/
def Yields (brings : List UInt8 → σ → Prop) (action : Exchange ε σ β) (bytes : List UInt8)
    (value : β) : Prop :=
  ∀ rest host, host.Expects brings (bytes ++ rest) →
    ∃ after, action.apply host = (.ok value, after) ∧ after.Expects brings rest

theorem yields_pure (value : β) : Yields brings (pure value : Exchange ε σ β) [] value :=
  fun _ host expects => ⟨host, rfl, expects⟩

theorem Yields.bind {action : Exchange ε σ β} {next : β → Exchange ε σ γ}
    {before after : List UInt8} {value : β} {answer : γ} (first : Yields brings action before value)
    (second : Yields brings (next value) after answer) :
    Yields brings (action >>= next) (before ++ after) answer := by
  intro rest host expects
  rw [List.append_assoc] at expects
  rcases first _ host expects with ⟨middle, applied, expects⟩
  rcases second rest middle expects with ⟨last, continued, expects⟩
  refine ⟨last, ?_, expects⟩
  rw [Action.apply_bind, applied]
  exact continued

variable [FiniteLink σ]

theorem yields_write (steady : Steady brings) (words : List UInt8) :
    Yields brings (write words) [] words.length := by
  intro rest host expects
  rcases steady.write words rest host.link expects.link with ⟨taken, quiet, link⟩
  refine ⟨_, apply_write_of_taken taken, link, ?_⟩
  rw [Host.after, expects.calm, quiet]
  rfl

theorem Reads.yields (steady : Steady brings) {action : Exchange ProtocolError σ β} {count : Nat}
    {reading : List UInt8 → Except ProtocolError β} (reads : Reads action count reading)
    {bytes : List UInt8} {value : β} (length : bytes.length = count)
    (answered : reading bytes = .ok value) : Yields brings action bytes value := by
  subst length
  intro rest host expects
  rcases steady.read bytes rest host.link expects.link with ⟨brought, quiet, link⟩
  refine ⟨host.after (Link.read bytes.length host.link).1 (Link.read bytes.length host.link).2, ?_,
    link, ?_⟩
  · rw [reads host, brought, answer, answered]
  · rw [Host.after, expects.calm, quiet]
    rfl

theorem yields_send (steady : Steady brings) (parameters : List Parameter) :
    Yields brings (send parameters) [] () := by
  induction parameters with
  | nil => exact yields_pure ()
  | cons parameter rest induction =>
      refine (yields_write steady parameter.bytes).bind ?_
      rw [parameter.length_bytes, if_neg (Nat.lt_irrefl _)]
      exact induction

theorem yields_awaitAcknowledgement (steady : Steady brings) {byte : UInt8}
    (odd : isAcknowledgement byte = true) : Yields brings awaitAcknowledgement [byte] byte :=
  reads_awaitAcknowledgement.yields steady rfl (if_pos odd)

theorem yields_readByte (steady : Steady brings) (byte : UInt8) :
    Yields brings readByte [byte] byte :=
  reads_readByte.yields steady rfl rfl

theorem yields_readWord (steady : Steady brings) (word : UInt16) :
    Yields brings readWord (wordBytes word) word :=
  reads_readWord.yields steady rfl (congrArg Except.ok (wordOfBytes_wordBytes word))

theorem yields_request (steady : Steady brings) (command : Command) (parameters : List Parameter) :
    Yields brings (request command parameters) [] () :=
  (yields_send steady _).bind (yields_send steady _)

theorem yields_perform (steady : Steady brings) (command : Command) (parameters : List Parameter)
    {byte : UInt8} (odd : isAcknowledgement byte = true) :
    Yields brings (perform command parameters) [byte] () :=
  (yields_request steady command parameters).bind
    ((yields_awaitAcknowledgement steady odd).bind (yields_pure ()))

theorem yields_askStatus (steady : Steady brings) (flag : UInt8) (counter : UInt16) {byte : UInt8}
    (odd : isAcknowledgement byte = true) :
    Yields brings Capture.askStatus (flag :: wordBytes counter ++ [byte])
      { done := flag ≠ 0, acquired := counter } :=
  (yields_send steady _).bind ((yields_readByte steady flag).bind
    ((yields_readWord steady counter).bind
      ((yields_awaitAcknowledgement steady odd).bind (yields_pure _))))

end Exchange

namespace Capture

variable {σ : Type} [FiniteLink σ] {brings : List UInt8 → σ → Prop}

theorem readSamples_of_expects (steady : Steady brings) (calibration : Calibration Float)
    (abortable : Bool) (codes : List UInt16) (taken : List Float) {rest : List UInt8}
    {host : Host σ} (expects : host.Expects brings (codes.flatMap wordBytes ++ rest)) :
    ∃ after, readSamples calibration abortable codes.length taken host =
        ((.complete, taken.reverse ++ codes.map calibration.scale), after) ∧
      after.Expects brings rest := by
  induction codes generalizing taken host with
  | nil => exact ⟨host, by simp [readSamples], expects⟩
  | cons code codes induction =>
      rw [List.flatMap_cons, List.append_assoc] at expects
      rcases Exchange.yields_readWord steady code _ host expects with ⟨middle, heard, expects'⟩
      rcases induction (calibration.scale code :: taken) expects' with ⟨after, continued, done⟩
      refine ⟨after, ?_, done⟩
      rw [List.length_cons, readSamples, if_neg (by simp [expects.calm]), heard]
      simp only [continued]
      simp

end Capture

end BenchScope
