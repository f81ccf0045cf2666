import BenchScope.Proofs.Wire.Delivery

namespace BenchScope

/-! The version of a device is a line that ends in a line feed. What the handshake leaves unread of
the line is read as the answer to whatever is said next. -/

/-- The relation tells which bytes a link is going to bring when it is asked for one after the
other. The link takes what it is given, whole or not. -/
structure Fluent {σ : Type} [Link σ] (brings : List UInt8 → σ → Prop) : Prop where
  write (words bytes : List UInt8) (link : σ) : brings bytes link →
    (∃ count, (Link.write words link).1.result = .ok count) ∧
      brings bytes (Link.write words link).2
  read (byte : UInt8) (rest : List UInt8) (link : σ) : brings (byte :: rest) link →
    (Link.read 1 link).1.result = .ok [byte] ∧ brings rest (Link.read 1 link).2

theorem Steady.fluent {σ : Type} [FiniteLink σ] {brings : List UInt8 → σ → Prop}
    (steady : Steady brings) : Fluent brings where
  write words bytes link state := by
    rcases steady.write words bytes link state with ⟨taken, -, later⟩
    exact ⟨⟨_, taken⟩, later⟩
  read byte rest link state := by
    rcases steady.read [byte] rest link state with ⟨brought, -, later⟩
    exact ⟨brought, later⟩

namespace Exchange

/-- What stays unread of a line and of what comes after it, when so many bytes are read at most. The
line feed counts as one of them. -/
def unread (limit : Nat) (line rest : List UInt8) : List UInt8 :=
  if line.length < limit then rest else line.drop limit ++ 0x0A :: rest

@[simp] theorem unread_zero (line rest : List UInt8) :
    unread 0 line rest = line ++ 0x0A :: rest := rfl

@[simp] theorem unread_nil (limit : Nat) (rest : List UInt8) :
    unread (limit + 1) [] rest = rest := by
  simp [unread]

@[simp] theorem unread_cons (limit : Nat) (byte : UInt8) (line rest : List UInt8) :
    unread (limit + 1) (byte :: line) rest = unread limit line rest := by
  simp [unread]

variable {σ : Type} [Link σ] {brings : List UInt8 → σ → Prop}

private theorem read_of_fluent (fluent : Fluent brings) {byte : UInt8} {rest : List UInt8}
    {host : Host σ} (coming : brings (byte :: rest) host.link) :
    ∃ after, (read 1).apply host = (.ok [byte], after) ∧ brings rest after.link := by
  rcases fluent.read byte rest host.link coming with ⟨brought, later⟩
  refine ⟨host.after (Link.read 1 host.link).1 (Link.read 1 host.link).2, ?_, later⟩
  rw [read, Action.apply_of]
  simp only [brought]
  rfl

private theorem awaitAcknowledgement_of_fluent (fluent : Fluent brings) {byte : UInt8}
    {rest : List UInt8} {host : Host σ} (coming : brings (byte :: rest) host.link) :
    (awaitAcknowledgement.apply host).1 = acknowledgementOf [byte] := by
  rw [reads_awaitAcknowledgement host, (fluent.read byte rest host.link coming).1]
  rfl

private theorem readLine_of_fluent (fluent : Fluent brings) {line rest : List UInt8}
    (whole : 0x0A ∉ line) (limit : Nat) {host : Host σ}
    (coming : brings (line ++ 0x0A :: rest) host.link) :
    ∃ after, (readLine limit).apply host = (.ok (line.take limit), after) ∧
      brings (unread limit line rest) after.link := by
  induction limit generalizing line host with
  | zero => exact ⟨host, rfl, coming⟩
  | succ limit induction =>
      cases line with
      | nil =>
          rcases read_of_fluent fluent coming with ⟨after, ended, later⟩
          refine ⟨after, ?_, by simpa using later⟩
          rw [readLine, Action.apply_bind, ended]
          rfl
      | cons byte line =>
          rw [List.mem_cons, not_or] at whole
          rcases whole with ⟨other, whole⟩
          rcases read_of_fluent fluent coming with ⟨middle, heard, coming⟩
          rcases induction whole coming with ⟨after, continued, later⟩
          refine ⟨after, ?_, by simpa using later⟩
          rw [readLine, Action.apply_bind, heard]
          simp only [if_neg (Ne.symm other)]
          rw [Action.apply_bind, continued]
          rfl

theorem handshake_of_fluent (fluent : Fluent brings) {line rest : List UInt8} (whole : 0x0A ∉ line)
    {host : Host σ} (coming : brings (line ++ 0x0A :: rest) host.link) :
    ∃ after, handshake.apply host = (.ok (versionText (line.take versionLength)), after) ∧
      brings (unread versionLength line rest) after.link := by
  rcases send_of_writes _ (fun words link state => fluent.write words _ link state)
    Command.version.parameters coming with ⟨asked, sent, coming⟩
  rcases readLine_of_fluent fluent whole versionLength coming with ⟨after, heard, later⟩
  refine ⟨after, ?_, later⟩
  rw [handshake, sendCommand, Action.apply_bind, sent]
  simp only
  rw [Action.apply_bind, heard]
  rfl

/-- A line that is shorter than the limit is taken whole, so that the next command is answered by
what comes after it. Of a line as long as the limit the line feed stays behind, and it is taken for
the answer to the next command, which it does not acknowledge. -/
theorem handshake_of_line (fluent : Fluent brings) {line rest : List UInt8} (whole : 0x0A ∉ line)
    (bounded : line.length ≤ versionLength) {host : Host σ}
    (coming : brings (line ++ 0x0A :: rest) host.link) :
    ∃ text after, handshake.apply host = (.ok text, after) ∧
      Trimmed (Utf8.decode line) text.toList ∧
      (line.length < versionLength → brings rest after.link ∧
        ∀ byte further, rest = byte :: further →
          (awaitAcknowledgement.apply after).1 = acknowledgementOf [byte]) ∧
      (line.length = versionLength → brings (0x0A :: rest) after.link ∧
        (awaitAcknowledgement.apply after).1 = .error (.noAcknowledgement (some 0x0A))) := by
  rcases handshake_of_fluent fluent whole coming with ⟨after, greeted, later⟩
  rw [List.take_of_length_le bounded] at greeted
  refine ⟨versionText line, after, greeted, ?_, fun shorter => ?_, fun longest => ?_⟩
  · rw [versionText, String.toList_ofList]
    exact trimmed_trimEnd _
  · rw [unread, if_pos shorter] at later
    refine ⟨later, fun byte further split => ?_⟩
    subst split
    exact awaitAcknowledgement_of_fluent fluent later
  · rw [unread, if_neg (by omega), List.drop_of_length_le (by omega), List.nil_append] at later
    exact ⟨later, awaitAcknowledgement_of_fluent fluent later⟩

/-! Two lines of a device, each followed by an acknowledgement. The second one is as long as the
limit. -/

def shortLine : List UInt8 := [0x50, 0x53, 0x4C, 0x61, 0x62, 0x20, 0x56, 0x36, 0x0D]

def longestLine : List UInt8 :=
  [0x50, 0x53, 0x4C, 0x61, 0x62, 0x20, 0x56, 0x36, 0x20, 0x28, 0x62, 0x65, 0x74, 0x61, 0x29]

def greeting (bytes : List UInt8) : Host Script := { link := { incoming := bytes.map .byte } }

theorem brings_greeting (bytes : List UInt8) : Script.Brings bytes (greeting bytes).link :=
  ⟨rfl, rfl, Script.carries_bytes bytes⟩

theorem handshake_of_shortLine :
    0x0A ∉ shortLine ∧ shortLine.length ≤ versionLength ∧
      Script.Brings (shortLine ++ [0x0A, 1]) (greeting (shortLine ++ [0x0A, 1])).link ∧
      ∃ text after, handshake.apply (greeting (shortLine ++ [0x0A, 1])) = (.ok text, after) ∧
        Trimmed (Utf8.decode shortLine) text.toList ∧ Script.Brings [1] after.link ∧
        (awaitAcknowledgement.apply after).1 = .ok 1 := by
  have whole : 0x0A ∉ shortLine := by decide
  have bounded : shortLine.length ≤ versionLength := by decide
  have coming := brings_greeting (shortLine ++ [0x0A, 1])
  rcases handshake_of_line Script.steady.fluent whole bounded coming with
    ⟨text, after, greeted, trimmed, shorter, -⟩
  rcases shorter (by decide) with ⟨aligned, answered⟩
  exact ⟨whole, bounded, coming, text, after, greeted, trimmed, aligned, answered 1 [] rfl⟩

private theorem versionText_longestLine : versionText longestLine = "PSLab V6 (beta)" := by
  have decoded : trimEnd (Utf8.decode longestLine) = "PSLab V6 (beta)".toList := by decide
  rw [versionText, decoded, String.ofList_toList]

/-- The device has acknowledged the next command, and the command is taken as refused. -/
theorem handshake_of_longestLine :
    0x0A ∉ longestLine ∧ longestLine.length ≤ versionLength ∧
      Script.Brings (longestLine ++ [0x0A, 1]) (greeting (longestLine ++ [0x0A, 1])).link ∧
      ∃ after, handshake.apply (greeting (longestLine ++ [0x0A, 1])) =
          (.ok "PSLab V6 (beta)", after) ∧
        Script.Brings [0x0A, 1] after.link ∧
        (awaitAcknowledgement.apply after).1 = .error (.noAcknowledgement (some 0x0A)) := by
  have whole : 0x0A ∉ longestLine := by decide
  have coming := brings_greeting (longestLine ++ [0x0A, 1])
  rcases handshake_of_fluent Script.steady.fluent whole coming with ⟨after, greeted, later⟩
  rw [List.take_of_length_le (by decide), versionText_longestLine] at greeted
  exact ⟨whole, by decide, coming, after, greeted, later,
    awaitAcknowledgement_of_fluent Script.steady.fluent later⟩

end Exchange

end BenchScope
