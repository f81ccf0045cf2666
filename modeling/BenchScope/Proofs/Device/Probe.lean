import BenchScope.Device.Connect
import BenchScope.Proofs.Text.Utf8
import BenchScope.Proofs.Wire.Line

namespace BenchScope

open LinkCall

/-! Finding out whether there is an instrument at the other end of a link. The version is compared
as text, after damaged bytes have been replaced and white space at the end has been dropped. All the
same the bytes at the beginning of the line decide alone. -/

namespace Exchange

/-- The calls of a handshake: the device is asked for its version, and if nothing fails a line is
heard. -/
inductive Greeted : Except ProtocolError String → List LinkCall → Prop
  | unasked {error : ProtocolError} {calls : List LinkCall} :
      Sent [[0x0B], [0x05]] (.error error) calls → Greeted (.error error) calls
  | asked {said heard : List LinkCall} {line : Except ProtocolError (List UInt8)} :
      Sent [[0x0B], [0x05]] (.ok ()) said → Lined versionLength line heard →
      Greeted (line.map versionText) (said ++ heard)

namespace Greeted

variable {result : Except ProtocolError String} {calls : List LinkCall}

theorem written_prefix (greeted : Greeted result calls) :
    written calls <+: [[0x0B], [0x05]] := by
  cases greeted with
  | unasked sent => exact sent.sends.written
  | asked sent lined =>
      rw [written_append, lined.written_eq_nil, List.append_nil]
      exact sent.sends.written

theorem received_le (greeted : Greeted result calls) (fit : ∀ call ∈ calls, call.Fits) :
    received calls ≤ versionLength := by
  cases greeted with
  | unasked sent =>
      rw [sent.received_eq_zero]
      exact Nat.zero_le _
  | asked sent lined =>
      rw [received_append, sent.received_eq_zero, Nat.zero_add]
      exact lined.received_le fun call member => fit call (List.mem_append_right _ member)

theorem result_of_failure (greeted : Greeted result calls) {call : LinkCall}
    (member : call ∈ calls) {reason : LinkError} (failed : call.failure? = some reason) :
    result = .error (.link reason) := by
  cases greeted with
  | unasked sent =>
      cases sent.result_of_failure member failed
      rfl
  | asked sent lined =>
      rcases List.mem_append.mp member with said | heard
      · cases sent.result_of_failure said failed
      · rw [lined.result_of_failure heard failed]
        rfl

private theorem exists_line (greeted : Greeted result calls)
    (sound : ∀ call ∈ calls, call.failure? = none) : ∃ first second line reads,
      calls = .write [0x0B] (.ok first) :: .write [0x05] (.ok second) :: reads ∧
        IsLine versionLength line reads ∧ result = .ok (versionText line) := by
  cases greeted with
  | unasked sent =>
      rcases sent.exists_failure with ⟨call, member, failed⟩
      exact absurd (sound call member) failed
  | @asked said heard _ sent lined =>
      rcases lined.isLine fun call member => sound call (List.mem_append_right _ member) with
        ⟨line, rfl, isLine⟩
      rcases sent with - | ⟨-, first, - | ⟨-, second, - | -⟩⟩
      exact ⟨first, second, line, heard, rfl, isLine, rfl⟩

end Greeted

theorem greeted_handshake {σ : Type} [Link σ] :
    Makes (handshake (σ := Traced σ)) Greeted := by
  refine ((sent_send Command.version.parameters).bind fun _ =>
    (lined_readLine versionLength).bind fun line => makes_pure (versionText line)).mono ?_
  intro result calls described
  rcases described with ⟨error, rfl, sent⟩ | ⟨_, said, heard, rfl, sent, described⟩
  · exact .unasked sent
  · rcases described with ⟨error, rfl, lined⟩ | ⟨line, _, _, rfl, lined, rfl, rfl⟩
    · exact .asked sent lined
    · rw [List.append_nil]
      exact .asked sent lined

end Exchange

namespace Device

def IsFamiliar (line : List UInt8) : Prop :=
  [0x50, 0x53, 0x4C, 0x61, 0x62] <+: line ∨ [0x43, 0x53, 0x70, 0x61, 0x72, 0x6B] <+: line

private theorem prefix_versionText_iff {word : List Char}
    (plain : ∀ character ∈ word, Utf8.IsPlain character)
    (firm : ∀ character, word.getLast? = some character → isBlank character = false)
    (line : List UInt8) :
    word <+: (Exchange.versionText line).toList ↔ word.map Utf8.byteOf <+: line := by
  rw [Exchange.versionText, String.toList_ofList, prefix_trimEnd_iff firm,
    Utf8.prefix_decode_iff plain]

/-- The bytes that come behind, damaged or not, make no difference. -/
private theorem isCompatible_versionText_iff (line : List UInt8) :
    isCompatible (Exchange.versionText line) = true ↔ IsFamiliar line := by
  have begins (family : String)
      (plain : family.toList.all (fun character => Utf8.IsPlain character) = true)
      (firm : family.toList.getLast?.any isBlank = false) :
      family.toList.isPrefixOf (Exchange.versionText line).toList = true ↔
        family.toList.map Utf8.byteOf <+: line := by
    rw [List.isPrefixOf_iff_prefix]
    refine prefix_versionText_iff (fun character member => ?_) (fun character last => ?_) line
    · exact of_decide_eq_true (List.all_eq_true.mp plain character member)
    · rwa [last] at firm
  rw [isCompatible, compatibleFamilies, List.any_cons, List.any_cons, List.any_nil, Bool.or_false,
    Bool.or_eq_true, begins "PSLab" (by decide) (by decide),
    begins "CSpark" (by decide) (by decide)]
  rfl

example :
    isCompatible (Exchange.versionText [0x50, 0x53, 0x4C, 0x61, 0x62, 0xFF, 0xC3]) = true := by
  decide

variable {σ : Type}

structure Judged (name : String) (line : List UInt8)
    (outcome : Except ConnectError (Device (Traced σ)) × Host (Traced σ)) : Prop where
  familiar : IsFamiliar line → ∃ version, Trimmed (Utf8.decode line) version.toList ∧
    outcome.1 = .ok { version, host := outcome.2 }
  strange : ¬ IsFamiliar line → ∃ version, Trimmed (Utf8.decode line) version.toList ∧
    outcome.1 = .error (.incompatible name version)

structure Probed (name : String) (host : Host (Traced σ))
    (outcome : Except ConnectError (Device (Traced σ)) × Host (Traced σ))
    (calls : List LinkCall) : Prop where
  recorded : outcome.2.calls = host.calls ++ calls
  written : written calls <+: [[0x0B], [0x05]]
  /-- A link that delivers no more than it is asked for loses no more than the line. -/
  received : (∀ call ∈ calls, call.Fits) → received calls ≤ 15
  failed : ∀ call ∈ calls, ∀ reason, call.failure? = some reason →
    outcome.1 = .error (.protocol (.link reason))
  sound : (∀ call ∈ calls, call.failure? = none) → ∃ first second line reads,
    calls = .write [0x0B] (.ok first) :: .write [0x05] (.ok second) :: reads ∧
      IsLine 15 line reads ∧ Judged name line outcome

private theorem judged_of_handshake {name : String} {line : List UInt8}
    {host after : Host (Traced σ)} [Link σ]
    (greeted : Exchange.handshake.apply host = (.ok (Exchange.versionText line), after)) :
    Judged name line (probe name host) := by
  have trimmed : Trimmed (Utf8.decode line) (Exchange.versionText line).toList := by
    rw [Exchange.versionText, String.toList_ofList]
    exact trimmed_trimEnd _
  constructor
  case familiar =>
    intro familiar
    refine ⟨_, trimmed, ?_⟩
    rw [probe, greeted]
    simp only [(isCompatible_versionText_iff line).mpr familiar, if_true]
  case strange =>
    intro strange
    refine ⟨_, trimmed, ?_⟩
    rw [← isCompatible_versionText_iff, Bool.not_eq_true] at strange
    rw [probe, greeted]
    simp only [strange, Bool.false_eq_true, if_false]

private theorem probe_of_failed {name : String} {error : ProtocolError}
    {host after : Host (Traced σ)} [Link σ]
    (failed : Exchange.handshake.apply host = (.error error, after)) :
    probe name host = (.error (.protocol error), after) := by
  rw [probe, failed]

private theorem host_of_probe [Link σ] (name : String) (host : Host (Traced σ)) :
    (probe name host).2 = (Exchange.handshake.apply host).2 := by
  rw [probe]
  split
  case h_1 failed => rw [failed]
  case h_2 heard =>
    rw [heard]
    split <;> rfl

/-- Whatever the link does, and whatever arrives on it. -/
theorem probed_probe [Link σ] (name : String) (host : Host (Traced σ)) :
    ∃ calls, Probed name host (probe name host) calls := by
  rcases Exchange.greeted_handshake host with ⟨calls, recorded, greeted⟩
  refine ⟨calls, ?recorded, greeted.written_prefix, greeted.received_le, ?failed, ?sound⟩
  case recorded =>
    rw [host_of_probe]
    exact recorded
  case failed =>
    intro call member reason failed
    have result := greeted.result_of_failure member failed
    rw [probe_of_failed (Prod.ext result rfl)]
  case sound =>
    intro sound
    rcases greeted.exists_line sound with ⟨first, second, line, reads, rfl, isLine, result⟩
    exact ⟨first, second, line, reads, rfl, isLine, judged_of_handshake (Prod.ext result rfl)⟩

end Device

end BenchScope
