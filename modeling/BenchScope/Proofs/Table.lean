import BenchScope.Reading
import Mathlib.Data.List.Nodup

namespace BenchScope

/-! Tables of traces. Which names a table is refused for is not decided here: all that is relied on
is that it is the first name of a column that repeats an earlier one. So a table exists exactly when
the names of its columns are distinct. -/

namespace Table

def FirstRepeated (names : List String) (name : String) : Prop :=
  ∃ before after, names = before ++ name :: after ∧ before.Nodup ∧ name ∈ before

/-- What is relied on of a check of names. -/
def FindsFirstRepeated (repeated? : List String → Option String) : Prop :=
  ∀ names name, repeated? names = some name ↔ FirstRepeated names name

private theorem FirstRepeated.not_nodup {names : List String} {name : String}
    (first : FirstRepeated names name) : ¬ names.Nodup := by
  rcases first with ⟨before, after, rfl, -, member⟩
  exact fun distinct => List.disjoint_of_nodup_append distinct member List.mem_cons_self

/-- What is in front of the first repeated name is distinct, so no other one can come before it. -/
theorem FirstRepeated.unique {names : List String} {name other : String}
    (first : FirstRepeated names name) (also : FirstRepeated names other) : name = other := by
  rcases first with ⟨before, after, rfl, distinct, member⟩
  rcases also with ⟨front, back, parts, apart, again⟩
  rcases List.append_eq_append_iff.mp parts with ⟨_ | ⟨next, between⟩, split, rest⟩ |
    ⟨_ | ⟨next, between⟩, split, rest⟩
  · exact (List.cons.inj rest).1
  · obtain rfl : name = next := (List.cons.inj rest).1
    rw [split] at apart
    exact absurd List.mem_cons_self (List.disjoint_of_nodup_append apart member)
  · exact (List.cons.inj rest).1.symm
  · obtain rfl : other = next := (List.cons.inj rest).1
    rw [split] at distinct
    exact absurd List.mem_cons_self (List.disjoint_of_nodup_append distinct again)

/-! A check that goes through the names in their order is such a check. -/

def firstRepeated? (before : List String) : List String → Option String
  | [] => none
  | name :: rest =>
      if name ∈ before then some name else firstRepeated? (name :: before) rest

private theorem firstRepeated?_of_some {before names : List String} {name : String}
    (found : firstRepeated? before names = some name) (distinct : before.Nodup) :
    ∃ between after, names = between ++ name :: after ∧ (between.reverse ++ before).Nodup ∧
      name ∈ between.reverse ++ before := by
  induction names generalizing before with
  | nil => simp [firstRepeated?] at found
  | cons first rest induction =>
      rw [firstRepeated?] at found
      split at found
      case isTrue repeated =>
        obtain rfl : first = name := by simpa using found
        exact ⟨[], rest, rfl, distinct, repeated⟩
      case isFalse new =>
        rcases induction found (List.nodup_cons.mpr ⟨new, distinct⟩) with
          ⟨between, after, parts, apart, repeated⟩
        exact ⟨first :: between, after, by rw [parts, List.cons_append],
          by simpa using apart, by simpa using repeated⟩

private theorem firstRepeated?_of_none {before names : List String}
    (unfound : firstRepeated? before names = none) (distinct : before.Nodup) :
    (names.reverse ++ before).Nodup := by
  induction names generalizing before with
  | nil => simpa using distinct
  | cons first rest induction =>
      rw [firstRepeated?] at unfound
      split at unfound
      case isTrue => cases unfound
      case isFalse new => simpa using induction unfound (List.nodup_cons.mpr ⟨new, distinct⟩)

private theorem firstRepeated_of_some {names : List String} {name : String}
    (found : firstRepeated? [] names = some name) : FirstRepeated names name := by
  rcases firstRepeated?_of_some found List.nodup_nil with ⟨before, after, parts, distinct, member⟩
  exact ⟨before, after, parts, by simpa [List.nodup_reverse] using distinct, by simpa using member⟩

theorem exists_firstRepeated {names : List String} (repeats : ¬ names.Nodup) :
    ∃ name, firstRepeated? [] names = some name := by
  cases found : firstRepeated? [] names with
  | some name => exact ⟨name, rfl⟩
  | none =>
      have distinct := firstRepeated?_of_none found List.nodup_nil
      exact absurd (by simpa [List.nodup_reverse] using distinct) repeats

theorem findsFirstRepeated_firstRepeated? : FindsFirstRepeated (firstRepeated? []) := by
  intro names name
  constructor
  · exact firstRepeated_of_some
  · intro first
    rcases exists_firstRepeated first.not_nodup with ⟨other, found⟩
    rw [found, first.unique (firstRepeated_of_some found)]

example : firstRepeated? [] ["time", "A", "B", "A", "B"] = some "A" := by decide

variable {repeated? : List String → Option String}

theorem FindsFirstRepeated.eq_none_iff (finds : FindsFirstRepeated repeated?)
    (names : List String) :
    repeated? names = none ↔ names.Nodup := by
  constructor
  · intro unfound
    by_contra repeats
    rcases exists_firstRepeated repeats with ⟨name, found⟩
    rw [(finds names name).mpr (firstRepeated_of_some found)] at unfound
    cases unfound
  · intro distinct
    cases found : repeated? names with
    | none => rfl
    | some name => exact absurd distinct ((finds names name).mp found).not_nodup

/-! Tables. -/

private theorem shortest_eq (traces : List Trace) :
    shortest traces = ((traces.map fun trace => trace.samples.length).min?).getD 0 := by
  cases traces with
  | nil => rfl
  | cons first rest =>
      rw [shortest, List.map_cons, List.min?_cons', Option.getD_some, List.foldl_map]

private theorem shortest_le {traces : List Trace} {trace : Trace} (member : trace ∈ traces) :
    shortest traces ≤ trace.samples.length := by
  rw [shortest_eq]
  exact List.min?_getD_le_of_mem (List.mem_map_of_mem member)

structure Tabulates (rate : Float) (traces : List Trace) (table : Table) : Prop where
  height : table.height = ((traces.map fun trace => trace.samples.length).min?).getD 0
  names : table.columns.map Trace.name = timeName :: traces.map Trace.name
  filled : ∀ column ∈ table.columns, column.samples.length = table.height
  samples : ∀ (index : Nat) (trace column : Trace), traces[index]? = some trace →
    table.columns[index + 1]? = some column → column.samples <+: trace.samples
  times : ∀ (time : Trace), table.columns[0]? = some time → ∀ row < table.height,
    time.samples[row]? = some (Float.ofNat row / rate)

structure Tabulated (rate : Float) (traces : List Trace) (result : Except Error Table) : Prop where
  succeeds_iff : (∃ table, result = .ok table) ↔
    (traces.map Trace.name).Nodup ∧ ∀ trace ∈ traces, trace.name ≠ timeName
  fails_iff : ∀ error, result = .error error ↔
    ∃ name, FirstRepeated (timeName :: traces.map Trace.name) name ∧ error = .duplicate name
  table : ∀ table, result = .ok table → Tabulates rate traces table

theorem tabulates_columns (rate : Float) (traces : List Trace) :
    Tabulates rate traces {
      height := shortest traces
      columns := ⟨timeName, times rate (shortest traces)⟩ :: traces.map fun trace =>
        { trace with samples := trace.samples.take (shortest traces) } } where
  height := shortest_eq traces
  names := by simp [Function.comp_def]
  filled := by
    intro column member
    rcases List.mem_cons.mp member with rfl | member
    · simp [times]
    · rcases List.mem_map.mp member with ⟨trace, listed, rfl⟩
      exact List.length_take.trans (Nat.min_eq_left (shortest_le listed))
  samples := by
    intro index trace column found cut
    simp only [List.getElem?_cons_succ, List.getElem?_map, found, Option.map_some,
      Option.some.injEq] at cut
    subst cut
    exact List.take_prefix ..
  times := by
    intro time first row bound
    obtain rfl := Option.some.inj first
    simp [Table.times, bound]

theorem exists_ofTraces_iff (finds : FindsFirstRepeated repeated?) (rate : Float)
    (traces : List Trace) :
    (∃ table, ofTraces repeated? rate traces = .ok table) ↔
      (traces.map Trace.name).Nodup ∧ ∀ trace ∈ traces, trace.name ≠ timeName := by
  have distinct : repeated? (timeName :: traces.map Trace.name) = none ↔
      (traces.map Trace.name).Nodup ∧ ∀ trace ∈ traces, trace.name ≠ timeName := by
    rw [finds.eq_none_iff, List.nodup_cons, and_comm]
    simp only [List.mem_map, not_exists, not_and, ne_eq]
  rw [← distinct, ofTraces]
  cases repeated? (timeName :: traces.map Trace.name) <;> simp

theorem ofTraces_eq_error_iff (finds : FindsFirstRepeated repeated?) (rate : Float)
    (traces : List Trace) (error : Error) :
    ofTraces repeated? rate traces = .error error ↔
      ∃ name, FirstRepeated (timeName :: traces.map Trace.name) name ∧
        error = .duplicate name := by
  simp only [← finds _ _]
  rw [ofTraces]
  cases repeated? (timeName :: traces.map Trace.name) <;> simp [eq_comm]

theorem tabulates_of_ok {rate : Float} {traces : List Trace} {table : Table}
    (tabulated : ofTraces repeated? rate traces = .ok table) : Tabulates rate traces table := by
  rw [ofTraces] at tabulated
  split at tabulated
  · cases tabulated
  · cases tabulated
    exact tabulates_columns rate traces

theorem tabulated_ofTraces (finds : FindsFirstRepeated repeated?) (rate : Float)
    (traces : List Trace) : Tabulated rate traces (ofTraces repeated? rate traces) where
  succeeds_iff := exists_ofTraces_iff finds rate traces
  fails_iff := ofTraces_eq_error_iff finds rate traces
  table _ := tabulates_of_ok

end Table

end BenchScope
