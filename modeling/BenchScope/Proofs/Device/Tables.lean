import BenchScope.Proofs.Capture.Frames
import BenchScope.Proofs.Device.Order
import BenchScope.Proofs.Table

namespace BenchScope

/-! Every reading that the instrument hands out can be made into a table, at the end of a capture as
well as after a failure or an abort: the names of its columns are distinct, however they are
compared. -/

structure Reading.Distinct (reading : Reading) : Prop where
  nodup : (reading.traces.map Trace.name).Nodup
  untimed : ∀ trace ∈ reading.traces, trace.name ≠ Table.timeName

theorem Reading.Distinct.table {reading : Reading} (distinct : reading.Distinct)
    {repeated? : List String → Option String} (finds : Table.FindsFirstRepeated repeated?) :
    ∃ table, reading.table repeated? = .ok table :=
  (Table.exists_ofTraces_iff finds reading.rate reading.traces).mpr
    ⟨distinct.nodup, distinct.untimed⟩

namespace Capture

variable {σ : Type} {origin stage : Stage σ}

private theorem name_ne_time (input : Input) : input.name ≠ Table.timeName := by
  cases input <;> decide

theorem distinct_reading (sound : Sound origin stage) : stage.capture.reading.Distinct := by
  have names : (stage.capture.reading.traces.map Trace.name) =
      (stage.capture.frames.map Frame.input).map Input.name := by
    simp only [Reading.traces, Capture.reading, List.map_map]
    rfl
  constructor
  case nodup =>
    rw [names]
    exact (distinct_of_sound sound).map fun _ _ => Input.name_injective
  case untimed =>
    intro trace member
    rcases List.mem_map.mp member with ⟨frame, -, rfl⟩
    exact name_ne_time frame.input

end Capture

def Capturing.Progress.reading? {σ : Type} : Capturing.Progress σ → Option Reading
  | .pending _ => none
  | .completed reading _ => some reading
  | .failed failure _ => some failure.reading

def Held.handedOut? {σ : Type} [FiniteLink σ] : Held σ → Deed → Option Reading
  | .resting device, .captureNow parameters => (device.captureNow parameters).reading?
  | .running capturing, .tryResult => capturing.tryResult.reading?
  | .running capturing, .wait => capturing.wait.reading?
  | .running capturing, .cancel => some capturing.cancel.1
  | _, _ => none

namespace Device

variable {σ : Type} {start device : Device σ} {done : List Deed} {abortable : Bool}
variable {capturing : Capturing σ} {reading : Reading}

theorem Running.distinct_of_waitFor [Link σ] (running : start.Running done abortable capturing)
    {steps : Nat} (handed : (capturing.waitFor steps).reading? = some reading) :
    reading.Distinct := by
  rcases running with ⟨-, origin, sound, -⟩
  have reached := Capture.distinct_reading (Capture.sound_runFor sound steps)
  rw [Capturing.waitFor_eq] at handed
  cases ending : (Capture.runFor steps capturing.stage).1 <;> rw [ending] at handed <;> cases handed
  all_goals exact reached

private theorem Running.distinct_of_cancel [Link σ]
    (running : start.Running done abortable capturing) : capturing.cancel.1.Distinct := by
  rcases running with ⟨-, origin, sound, -⟩
  exact Capture.distinct_reading (Capture.sound_step (Capture.sound_host _ sound))

variable [FiniteLink σ]

private theorem Resting.distinct_of_captureNow (resting : start.Resting done device)
    {parameters : Parameters Float}
    (handed : (device.captureNow parameters).reading? = some reading) : reading.Distinct := by
  rw [captureNow_eq_captureFor] at handed
  exact (resting.running parameters false).distinct_of_waitFor handed

end Device

namespace Held

variable {σ : Type} [FiniteLink σ] {start : Device σ} {done : List Deed}

theorem InOrder.distinct_of_handedOut {held : Held σ} (inOrder : held.InOrder start done)
    {deed : Deed} {reading : Reading} (handed : held.handedOut? deed = some reading) :
    reading.Distinct := by
  cases held with
  | nothing => cases handed
  | resting device =>
      cases deed with
      | captureNow parameters => exact Device.Resting.distinct_of_captureNow inOrder handed
      | _ => cases handed
  | running capturing =>
      have running : start.Running done true capturing := inOrder
      cases deed with
      | tryResult =>
          change (capturing.waitFor 1).reading? = some reading at handed
          exact running.distinct_of_waitFor handed
      | wait =>
          rw [handedOut?, Capturing.wait_eq_waitFor] at handed
          exact running.distinct_of_waitFor handed
      | cancel =>
          cases handed
          exact running.distinct_of_cancel
      | _ => cases handed

end Held

/-- Which traces make a table, and what it is; and that those of the instrument's readings always
do, whatever has been done with it and whatever its link does. -/
theorem Usage.tabulated_readings {repeated? : List String → Option String}
    (finds : Table.FindsFirstRepeated repeated?) {σ : Type} [FiniteLink σ] (version : String)
    (limits : Limits) (policy : PollPolicy) (host : Host σ) (deeds : List Deed) :
    let start : Device σ := { version, limits, policy, host }
    let usage := Usage.play { held := .resting start } deeds
    (∀ rate traces, Table.Tabulated rate traces (Table.ofTraces repeated? rate traces)) ∧
      ∀ deed reading, usage.held.handedOut? deed = some reading →
        ∃ table, reading.table repeated? = .ok table := by
  intro start usage
  have begun : start.Resting [] start := ⟨⟨rfl, rfl, rfl⟩, .start, Panel.unplaced_start⟩
  have inOrder : (Held.resting start).InOrder start [] := begun
  exact ⟨Table.tabulated_ofTraces finds, fun _ _ handed =>
    ((Usage.inOrder_play inOrder deeds).distinct_of_handedOut handed).table finds⟩

theorem Usage.tabulated_readings_short :
    let repeated? := Table.firstRepeated? []
    let traces : List Trace := [⟨"A", [1, 2]⟩, ⟨"B", [3]⟩, ⟨"A", [4]⟩]
    Table.FindsFirstRepeated repeated? ∧
      Table.ofTraces repeated? 10 traces = .error (.duplicate "A") ∧
      Table.Tabulated 10 traces (Table.ofTraces repeated? 10 traces) ∧
      ∃ reading, (Held.resting Device.shortDevice).handedOut?
          (.captureNow Capture.shortParameters) = some reading ∧
        ∃ table, reading.table repeated? = .ok table := by
  intro repeated? traces
  have finds : Table.FindsFirstRepeated repeated? := Table.findsFirstRepeated_firstRepeated?
  rcases tabulated_readings finds "PSLab V6" { minSamples := 2 } {} Device.shortDevice.host [] with
    ⟨tabulated, handsOut⟩
  have handed : ((Held.resting Device.shortDevice).handedOut?
      (.captureNow Capture.shortParameters)).isSome = true := by decide +kernel
  rcases Option.isSome_iff_exists.mp handed with ⟨reading, found⟩
  exact ⟨finds, rfl, tabulated 10 traces, reading, found, handsOut _ reading found⟩

end BenchScope
