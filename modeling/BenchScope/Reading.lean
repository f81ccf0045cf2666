import BenchScope.Channel

namespace BenchScope

/-! What a capture yields: a frame of samples for each channel, and a table of them over time. -/

structure Trace where
  name : String
  samples : List Float

structure Frame where
  input : Input
  rate : Float
  samples : List Float

def Frame.name (frame : Frame) : String := frame.input.name

def Frame.trace (frame : Frame) : Trace := ⟨frame.name, frame.samples⟩

structure Reading where
  rate : Float
  frames : List Frame

namespace Reading

def traces (reading : Reading) : List Trace := reading.frames.map Frame.trace

end Reading

def Trace.find? (name : String) (traces : List Trace) : Option Trace :=
  traces.find? fun trace => trace.name == name

/-! A table has a column for the time and one for each trace, and as many rows as the shortest trace
has samples. No two columns have the same name. -/

structure Table where
  height : Nat
  columns : List Trace

namespace Table

inductive Error
  | duplicate (name : String)
deriving DecidableEq

def timeName : String := "time"

def shortest : List Trace → Nat
  | [] => 0
  | first :: rest => rest.foldl (fun height trace => min height trace.samples.length)
      first.samples.length

def times (rate : Float) (rows : Nat) : List Float :=
  (List.range rows).map fun row => Float.ofNat row / rate

/-- Names are compared by whoever keeps the tables. Given the names of all columns in their order,
`repeated?` tells for which of them a table is refused. -/
def ofTraces (repeated? : List String → Option String) (rate : Float) (traces : List Trace) :
    Except Error Table :=
  match repeated? (timeName :: traces.map Trace.name) with
  | some name => .error (.duplicate name)
  | none =>
      let height := shortest traces
      .ok {
        height
        columns := ⟨timeName, times rate height⟩ ::
          traces.map fun trace => { trace with samples := trace.samples.take height } }

end Table

def Reading.table (reading : Reading) (repeated? : List String → Option String) :
    Except Table.Error Table :=
  Table.ofTraces repeated? reading.rate reading.traces

end BenchScope
