import BenchScope.Proofs.Device.Order

namespace BenchScope

/-! Places for any list of channels. An input may be in the list more than once, and a digital
output in it uses up a place. Whether all places fit depends on those of the inputs alone. An
assignment that breaks off has placed exactly what is in front of the input that does not fit. -/

def Entry.withoutOffset : Entry → Entry
  | .input name index selector voltsAtZero voltsAtFullScale amplifier? gain fullScale _ =>
      .input name index selector voltsAtZero voltsAtFullScale amplifier? gain fullScale none
  | .output name index mask => .output name index mask

namespace Panel

private theorem SameSettings.entry_eq {left right : Panel} (same : left.SameSettings right)
    (channel : Channel) :
    (left.entry channel).withoutOffset = (right.entry channel).withoutOffset := by
  cases channel with
  | logic output => rfl
  | analog input => simp only [entry, Entry.withoutOffset, same.gain, same.resolution]

structure LastAt (channels : List Channel) (position : Nat) (input : Input) : Prop where
  found : channels[position]? = some (.analog input)
  last : ∀ later, position < later → channels[later]? ≠ some (.analog input)

structure FirstBeyond (sampleCount : UInt16) (channels : List Channel) (position : Nat)
    (input : Input) : Prop where
  found : channels[position]? = some (.analog input)
  beyond : 65535 < position * sampleCount.toNat
  first : ∀ earlier < position, ∀ other, channels[earlier]? = some (.analog other) →
    earlier * sampleCount.toNat ≤ 65535

structure PlacedLast (panel : Panel) (sampleCount : UInt16) (channels : List Channel) : Prop where
  listed : ∀ input, .analog input ∈ channels → ∃ position, LastAt channels position input ∧
    (panel.state input).offset.map UInt16.toNat = some (position * sampleCount.toNat)
  others : ∀ input, .analog input ∉ channels → (panel.state input).offset = none

private theorem exists_lastAt {channels : List Channel} {input : Input}
    (member : .analog input ∈ channels) : ∃ position, LastAt channels position input := by
  induction channels with
  | nil => simp at member
  | cons channel rest induction =>
      by_cases again : .analog input ∈ rest
      · rcases induction again with ⟨position, found, last⟩
        refine ⟨position + 1, by simpa using found, fun later behind => ?_⟩
        cases later with
        | zero => omega
        | succ later => simpa using last later (by omega)
      · have first : channel = .analog input := by simpa [again, eq_comm] using member
        refine ⟨0, by simp [first], fun later behind found => again ?_⟩
        cases later with
        | zero => omega
        | succ later => exact List.mem_of_getElem? (by simpa using found)

private theorem LastAt.lt_length {channels : List Channel} {position : Nat} {input : Input}
    (last : LastAt channels position input) : position < channels.length :=
  (List.getElem?_eq_some_iff.mp last.found).1

private theorem LastAt.notMem {channels : List Channel} {position : Nat} {input : Input}
    (last : LastAt channels position input) : .analog input ∉ channels.drop (position + 1) := by
  intro member
  rcases List.mem_iff_getElem?.mp member with ⟨index, again⟩
  rw [List.getElem?_drop] at again
  exact last.last _ (by omega) again

private theorem take_append_cons_drop {channels : List Channel} {position : Nat} {channel : Channel}
    (found : channels[position]? = some channel) :
    channels.take position ++ channel :: channels.drop (position + 1) = channels := by
  rcases List.getElem?_eq_some_iff.mp found with ⟨bound, rfl⟩
  rw [List.getElem_cons_drop, List.take_append_drop]

section

variable (sampleCount : UInt16)

@[simp] theorem enabled_assignFrom (position : Nat) (channels : List Channel) (panel : Panel) :
    (assignFrom sampleCount position channels panel).2.enabled = panel.enabled := by
  induction channels generalizing position panel with
  | nil => rfl
  | cons channel rest induction =>
      cases channel with
      | logic output => exact induction (position + 1) panel
      | analog input =>
          rw [assignFrom]
          split
          · rw [induction, enabled_modify]
          · rfl

private theorem assignFrom_append (position : Nat) (before rest : List Channel) (panel : Panel) :
    assignFrom sampleCount position (before ++ rest) panel =
      match assignFrom sampleCount position before panel with
      | (.ok (), after) => assignFrom sampleCount (position + before.length) rest after
      | (.error error, after) => (.error error, after) := by
  induction before generalizing position panel with
  | nil => rfl
  | cons channel before induction =>
      have shifted : position + (before.length + 1) = position + 1 + before.length := by omega
      rw [List.length_cons, shifted]
      cases channel with
      | logic output => exact induction (position + 1) panel
      | analog input =>
          rw [List.cons_append, assignFrom, assignFrom]
          split
          · exact induction _ _
          · rfl

end

variable {sampleCount : UInt16} {channels : List Channel}

theorem assignFrom_eq_ok_iff (position : Nat) (panel : Panel) :
    (assignFrom sampleCount position channels panel).1 = .ok () ↔
      ∀ (index : Nat) (input : Input), channels[index]? = some (.analog input) →
        (position + index) * sampleCount.toNat ≤ 65535 := by
  rcases assigned : assignFrom sampleCount position channels panel with ⟨error | ⟨⟩, after⟩
  · rcases overflow_of_assignFrom assigned with ⟨index, input, found, -, exceeds, -⟩
    simp only [reduceCtorEq, false_iff]
    exact fun fits => absurd (fits index input found) (by omega)
  · simp only [true_iff]
    exact fun index input found => Nat.le_of_lt_succ (fits_of_assignFrom assigned found)

theorem assignFrom_of_firstBeyond {position : Nat} {input : Input}
    (first : FirstBeyond sampleCount channels position input) (panel : Panel) :
    ∃ after, assignFrom sampleCount 0 (channels.take position) panel = (.ok (), after) ∧
      assignFrom sampleCount 0 channels panel = (.error (.offsetOverflow input), after) := by
  have fits : (assignFrom sampleCount 0 (channels.take position) panel).1 = .ok () := by
    rw [assignFrom_eq_ok_iff]
    intro index other found
    rw [List.getElem?_take] at found
    split at found
    case isFalse => simp at found
    case isTrue earlier => simpa using first.first index earlier other found
  rcases assigned : assignFrom sampleCount 0 (channels.take position) panel with ⟨result, after⟩
  rw [assigned] at fits
  subst fits
  have length : (channels.take position).length = position := by
    have bound := (List.getElem?_eq_some_iff.mp first.found).1
    rw [List.length_take, Nat.min_eq_left (Nat.le_of_lt bound)]
  have exceeds : ¬ position * sampleCount.toNat < 65536 := by have := first.beyond; omega
  refine ⟨after, rfl, ?_⟩
  rw [← take_append_cons_drop first.found, assignFrom_append, assigned]
  simp [length, assignFrom, exceeds]

theorem placedLast_of_assignFrom {panel after : Panel} (unplaced : panel.Unplaced)
    (assigned : assignFrom sampleCount 0 channels panel = (.ok (), after)) :
    after.PlacedLast sampleCount channels where
  listed input member := by
    rcases exists_lastAt member with ⟨position, last⟩
    refine ⟨position, last, ?_⟩
    have offset := offset_assignFrom assigned (take_append_cons_drop last.found).symm last.notMem
    have fits := fits_of_assignFrom assigned last.found
    rw [List.length_take, Nat.min_eq_left (Nat.le_of_lt last.lt_length)] at offset
    rw [Nat.zero_add] at fits offset
    simp [offset, Nat.mod_eq_of_lt fits]
  others input absent := by
    have unchanged := state_assignFrom_of_notMem sampleCount 0 channels panel input absent
    rw [assigned] at unchanged
    exact unchanged ▸ unplaced input

structure Assigned (panel : Panel) (channels : List Channel) (sampleCount : UInt16)
    (outcome : Except Channel.Error Unit × Panel) : Prop where
  succeeds_iff : outcome.1 = .ok () ↔
    ∀ (position : Nat) (input : Input), channels[position]? = some (.analog input) →
      position * sampleCount.toNat ≤ 65535
  placed : outcome.1 = .ok () → outcome.2.PlacedLast sampleCount channels
  fails_iff : ∀ error, outcome.1 = .error error ↔
    ∃ position input, FirstBeyond sampleCount channels position input ∧
      error = .offsetOverflow input
  /-- An assignment that fails leaves the places in front of the one that does not fit. -/
  kept : ∀ position input, FirstBeyond sampleCount channels position input →
    outcome.2.PlacedLast sampleCount (channels.take position)
  entries : ∀ channel,
    (outcome.2.entry channel).withoutOffset = (panel.entry channel).withoutOffset
  enabled : outcome.2.enabled = channels
  cleared : outcome.2.clearOffsets.Unplaced
  reconfigured : ∀ later, (outcome.2.configure later).Unplaced

theorem assignOffsets_configure (panel : Panel) (channels : List Channel) :
    (panel.configure channels).assignOffsets sampleCount =
      assignFrom sampleCount 0 channels (panel.configure channels) := rfl

theorem assigned_configure (panel : Panel) (channels : List Channel) (sampleCount : UInt16) :
    Assigned panel channels sampleCount
      ((panel.configure channels).assignOffsets sampleCount) where
  succeeds_iff := by
    rw [assignOffsets_configure, assignFrom_eq_ok_iff]
    simp
  placed succeeds :=
    placedLast_of_assignFrom (unplaced_configure panel channels) (Prod.ext succeeds rfl)
  fails_iff error := by
    constructor
    · intro fails
      rw [assignOffsets_configure] at fails
      rcases overflow_of_assignFrom (Prod.ext fails rfl) with
        ⟨position, input, found, named, exceeds, before⟩
      simp only [Nat.zero_add] at exceeds before
      exact ⟨position, input,
        ⟨found, exceeds, fun earlier bound other enabled =>
          Nat.le_of_lt_succ (before earlier bound other enabled)⟩, named⟩
    · rintro ⟨position, input, first, rfl⟩
      rcases assignFrom_of_firstBeyond first (panel.configure channels) with ⟨after, -, assigned⟩
      simp [assignOffsets_configure, assigned]
  kept position input first := by
    rcases assignFrom_of_firstBeyond first (panel.configure channels) with
      ⟨after, front, assigned⟩
    rw [assignOffsets_configure, assigned]
    exact placedLast_of_assignFrom (unplaced_configure panel channels) front
  entries := SameSettings.entry_eq ((sameSettings_assignFrom sampleCount 0 channels _).trans
    (sameSettings_configure panel channels))
  enabled := enabled_assignFrom sampleCount 0 channels (panel.configure channels)
  cleared := unplaced_clearOffsets _
  reconfigured := unplaced_configure _

example :
    let channels : List Channel := [.analog .ch1, .logic .sq1, .analog .ch1, .analog .ch2]
    let outcome := (configure {} channels).assignOffsets 30000
    outcome.1 = .error (.offsetOverflow .ch2) ∧
      (outcome.2.state .ch1).offset = some 60000 := by decide +kernel

end Panel

end BenchScope
