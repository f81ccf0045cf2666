import BenchScope.Trigger

namespace BenchScope

/-! Places in the buffer. Assigning them changes nothing but the offsets of the analog channels in
the list. An input that is in the list more than once ends up with its last place. -/

namespace Panel

/-- Two panels that differ at most in enabled channels and offsets. -/
structure SameSettings (left right : Panel) : Prop where
  gain : ∀ input, (left.state input).gain = (right.state input).gain
  resolution : ∀ input, (left.state input).resolution = (right.state input).resolution

namespace SameSettings

theorem refl (panel : Panel) : panel.SameSettings panel := ⟨fun _ => rfl, fun _ => rfl⟩

theorem trans {first second third : Panel} (left : first.SameSettings second)
    (right : second.SameSettings third) : first.SameSettings third where
  gain input := (left.gain input).trans (right.gain input)
  resolution input := (left.resolution input).trans (right.resolution input)

variable {left right : Panel}

theorem calibration_eq {α : Type} [Scalar α] (same : left.SameSettings right) (input : Input) :
    (Calibration.ofPanel left input : Calibration α) = Calibration.ofPanel right input := by
  rw [Calibration.ofPanel, same.gain, same.resolution, Calibration.ofPanel]

theorem fields_eq {α : Type} [Scalar α] (same : left.SameSettings right) (trigger : Trigger α)
    (first : Channel) : trigger.fields left first = trigger.fields right first := by
  rw [Trigger.fields, Trigger.fields]
  cases trigger.channel with
  | logic output => rfl
  | analog input => simp only [same.calibration_eq input]

end SameSettings

@[simp] theorem state_configure (panel : Panel) (channels : List Channel) (input : Input) :
    (panel.configure channels).state input = { panel.state input with offset := none } :=
  panel.state_clearOffsets input

theorem sameSettings_configure (panel : Panel) (channels : List Channel) :
    (panel.configure channels).SameSettings panel where
  gain input := by rw [state_configure]
  resolution input := by rw [state_configure]

theorem sameSettings_clearOffsets (panel : Panel) : panel.clearOffsets.SameSettings panel where
  gain input := by rw [state_clearOffsets]
  resolution input := by rw [state_clearOffsets]

theorem sameSettings_offset (panel : Panel) (input : Input) (offset : Option UInt16) :
    (panel.modify input fun state => { state with offset }).SameSettings panel where
  gain other := by
    rw [state_modify]
    split
    case isTrue same => rw [same]
    case isFalse => rfl
  resolution other := by
    rw [state_modify]
    split
    case isTrue same => rw [same]
    case isFalse => rfl

section

variable (sampleCount : UInt16)

/-! What stays, whether or not all offsets fit. -/

theorem state_assignFrom_of_notMem (position : Nat) (channels : List Channel) (panel : Panel)
    (input : Input) (absent : .analog input ∉ channels) :
    (assignFrom sampleCount position channels panel).2.state input = panel.state input := by
  induction channels generalizing position panel with
  | nil => rfl
  | cons channel rest induction =>
      have absentFromRest : .analog input ∉ rest := fun member =>
        absent (List.mem_cons_of_mem channel member)
      cases channel with
      | logic output => exact induction (position + 1) panel absentFromRest
      | analog other =>
          have different : other ≠ input := fun equal => absent (by simp [equal])
          rw [assignFrom]
          split
          · rw [induction _ _ absentFromRest, state_modify, if_neg different]
          · rfl

theorem sameSettings_assignFrom (position : Nat) (channels : List Channel) (panel : Panel) :
    (assignFrom sampleCount position channels panel).2.SameSettings panel := by
  induction channels generalizing position panel with
  | nil => exact .refl panel
  | cons channel rest induction =>
      cases channel with
      | logic output => exact induction (position + 1) panel
      | analog other =>
          rw [assignFrom]
          split
          · exact (induction _ _).trans (sameSettings_offset panel other _)
          · exact .refl panel

end

variable {sampleCount : UInt16}

/-! Where the samples are. -/

theorem fits_of_assignFrom {position : Nat} {channels : List Channel} {panel after : Panel}
    (assigned : assignFrom sampleCount position channels panel = (.ok (), after))
    {index : Nat} {input : Input} (enabled : channels[index]? = some (.analog input)) :
    (position + index) * sampleCount.toNat < 65536 := by
  induction channels generalizing position panel index with
  | nil => simp at enabled
  | cons channel rest induction =>
      cases channel with
      | logic output =>
          cases index with
          | zero => simp at enabled
          | succ index =>
              have later := induction assigned enabled
              rwa [Nat.add_right_comm] at later
      | analog other =>
          rw [assignFrom] at assigned
          split at assigned
          case isFalse => simp at assigned
          case isTrue fits =>
            cases index with
            | zero => exact fits
            | succ index =>
                have later := induction assigned enabled
                rwa [Nat.add_right_comm] at later

theorem assignFrom_of_fits {position : Nat} {channels : List Channel} (panel : Panel)
    (fits : ∀ index < channels.length, (position + index) * sampleCount.toNat < 65536) :
    ∃ after, assignFrom sampleCount position channels panel = (.ok (), after) := by
  induction channels generalizing position panel with
  | nil => exact ⟨panel, rfl⟩
  | cons channel rest induction =>
      have restFits : ∀ index < rest.length,
          (position + 1 + index) * sampleCount.toNat < 65536 := by
        intro index bound
        have later := fits (index + 1) (Nat.succ_lt_succ bound)
        rwa [← Nat.add_assoc, Nat.add_right_comm] at later
      cases channel with
      | logic output => exact induction panel restFits
      | analog input =>
          have first : position * sampleCount.toNat < 65536 := fits 0 (Nat.zero_lt_succ _)
          rw [assignFrom, if_pos first]
          exact induction _ restFits

theorem overflow_of_assignFrom {position : Nat} {channels : List Channel} {panel after : Panel}
    {error : Channel.Error}
    (assigned : assignFrom sampleCount position channels panel = (.error error, after)) :
    ∃ (index : Nat) (input : Input), channels[index]? = some (.analog input) ∧
      error = .offsetOverflow input ∧ 65536 ≤ (position + index) * sampleCount.toNat ∧
      ∀ earlier < index, ∀ other, channels[earlier]? = some (.analog other) →
        (position + earlier) * sampleCount.toNat < 65536 := by
  induction channels generalizing position panel with
  | nil => simp [assignFrom] at assigned
  | cons channel rest induction =>
      have shifted (index : Nat) : position + (index + 1) = position + 1 + index := by omega
      -- The place of the channel in front fits, and one behind it does not.
      have behind {panel : Panel}
          (assigned : assignFrom sampleCount (position + 1) rest panel = (.error error, after))
          (front : ∀ input, channel = .analog input → position * sampleCount.toNat < 65536) :
          ∃ (index : Nat) (input : Input), (channel :: rest)[index]? = some (.analog input) ∧
            error = .offsetOverflow input ∧ 65536 ≤ (position + index) * sampleCount.toNat ∧
            ∀ earlier < index, ∀ other, (channel :: rest)[earlier]? = some (.analog other) →
              (position + earlier) * sampleCount.toNat < 65536 := by
        rcases induction assigned with ⟨index, input, found, named, exceeds, before⟩
        refine ⟨index + 1, input, found, named, by rwa [shifted], ?_⟩
        intro earlier bound other enabled
        cases earlier with
        | zero => exact front other (by simpa using enabled)
        | succ earlier =>
            rw [shifted]
            exact before earlier (Nat.lt_of_succ_lt_succ bound) other enabled
      cases channel with
      | logic output => exact behind assigned (by simp)
      | analog input =>
          rw [assignFrom] at assigned
          split at assigned
          case isTrue fits => exact behind assigned fun _ _ => fits
          case isFalse exceeds =>
            rcases by simpa using assigned with ⟨rfl, -⟩
            exact ⟨0, input, rfl, rfl, Nat.le_of_not_lt exceeds, fun _ bound => by simp at bound⟩

theorem offset_assignFrom {position : Nat} {channels before rest : List Channel}
    {panel after : Panel} {input : Input}
    (assigned : assignFrom sampleCount position channels panel = (.ok (), after))
    (parts : channels = before ++ .analog input :: rest) (last : .analog input ∉ rest) :
    (after.state input).offset =
      some (UInt16.ofNat ((position + before.length) * sampleCount.toNat)) := by
  induction before generalizing position channels panel with
  | nil =>
      subst parts
      rw [List.nil_append, assignFrom] at assigned
      split at assigned
      case isFalse => simp at assigned
      case isTrue =>
        have unchanged := state_assignFrom_of_notMem sampleCount (position + 1)
          rest (panel.modify input fun state =>
            { state with offset := some (UInt16.ofNat (position * sampleCount.toNat)) }) input last
        rw [assigned] at unchanged
        simp [unchanged]
  | cons channel before induction =>
      subst parts
      have shifted : position + (before.length + 1) = position + 1 + before.length := by omega
      rw [List.length_cons, shifted]
      cases channel with
      | logic output => exact induction assigned rfl
      | analog other =>
          rw [List.cons_append, assignFrom] at assigned
          split at assigned
          case isFalse => simp at assigned
          case isTrue => exact induction assigned rfl

/-! The two ways in which a panel can stand to a capture. -/

def Unplaced (panel : Panel) : Prop := ∀ input, (panel.state input).offset = none

structure Placed (panel : Panel) (sampleCount : UInt16) (channels : List Channel) : Prop where
  enabled : ∀ (index : Nat) (input : Input), channels[index]? = some (.analog input) →
    (panel.state input).offset.map UInt16.toNat = some (index * sampleCount.toNat)
  others : ∀ input, .analog input ∉ channels → (panel.state input).offset = none

theorem unplaced_clearOffsets (panel : Panel) : panel.clearOffsets.Unplaced := fun input => by
  rw [state_clearOffsets]

theorem unplaced_configure (panel : Panel) (channels : List Channel) :
    (panel.configure channels).Unplaced := fun input => by
  rw [state_configure]

theorem placed_of_assignOffsets {panel after : Panel}
    (assigned : panel.assignOffsets sampleCount = (.ok (), after))
    (distinct : panel.enabled.Nodup) (unplaced : panel.Unplaced) :
    after.Placed sampleCount panel.enabled where
  enabled index input member := by
    rcases List.getElem?_eq_some_iff.mp member with ⟨bound, found⟩
    have parts : panel.enabled =
        panel.enabled.take index ++ .analog input :: panel.enabled.drop (index + 1) := by
      rw [← found, List.getElem_cons_drop, List.take_append_drop]
    have last : .analog input ∉ panel.enabled.drop (index + 1) := by
      rw [parts] at distinct
      exact (List.nodup_cons.mp (List.nodup_append.mp distinct).2.1).1
    have fits := fits_of_assignFrom assigned member
    rw [offset_assignFrom assigned parts last, List.length_take,
      Nat.min_eq_left (Nat.le_of_lt bound)]
    rw [Nat.zero_add] at fits ⊢
    simp [Nat.mod_eq_of_lt fits]
  others input absent := by
    have unchanged := state_assignFrom_of_notMem sampleCount 0 panel.enabled
      panel input absent
    rw [← assignOffsets, assigned] at unchanged
    exact unchanged ▸ unplaced input

end Panel

end BenchScope
