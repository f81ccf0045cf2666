import BenchScope.Link.Basic

namespace BenchScope

/-! A link whose behaviour is laid down beforehand: what arrives, in which order and after which
delays, which write calls fail, and how many bytes it takes before it is full. -/

namespace Script

inductive Item
  | byte (value : UInt8)
  | gap
  | abort
  | stall (nanoseconds : Nat)
  | failure (error : LinkError)
deriving DecidableEq, Repr

end Script

structure Script where
  incoming : List Script.Item := []
  /-- How many more bytes are taken; any number when there is no budget. -/
  budget : Option Nat := none
  /-- The numbers of the write calls that fail, the first call having number zero. -/
  failing : List Nat := []
  writes : Nat := 0
deriving DecidableEq, Repr

namespace Script

structure Progress where
  outcome : Outcome (List UInt8)
  rest : List Item

namespace Progress

def aborting (progress : Progress) : Progress :=
  { progress with outcome := { progress.outcome with abort := true } }

def delayed (nanoseconds : Nat) (progress : Progress) : Progress :=
  { progress with
    outcome := { progress.outcome with elapsed := nanoseconds + progress.outcome.elapsed } }

def withByte (byte : UInt8) (progress : Progress) : Progress :=
  { progress with
    outcome := { progress.outcome with result := progress.outcome.result.map (byte :: ·) } }

end Progress

/-- Read up to `wanted` bytes. Requests to abort are taken before the read looks whether it has
enough; what was read before a failure is lost. -/
def take : Nat → List Item → Progress
  | wanted, .abort :: rest => (take wanted rest).aborting
  | 0, rest => ⟨{ result := .ok [] }, rest⟩
  | _ + 1, [] => ⟨{ result := .ok [] }, []⟩
  | _ + 1, .gap :: rest => ⟨{ result := .ok [] }, rest⟩
  | wanted + 1, .byte value :: rest => (take wanted rest).withByte value
  | wanted + 1, .stall nanoseconds :: rest => (take (wanted + 1) rest).delayed nanoseconds
  | _ + 1, .failure error :: rest => ⟨{ result := .error error }, rest⟩

def read (count : Nat) (script : Script) : Outcome (List UInt8) × Script :=
  let progress := take count script.incoming
  (progress.outcome, { script with incoming := progress.rest })

def write (bytes : List UInt8) (script : Script) : Outcome Nat × Script :=
  let after := { script with writes := script.writes + 1 }
  if script.writes ∈ script.failing then
    ({ result := .error (.transfer "scripted write failure") }, after)
  else
    match script.budget with
    | none => ({ result := .ok bytes.length }, after)
    | some budget =>
        let accepted := min bytes.length budget
        ({ result := .ok accepted }, { after with budget := some (budget - accepted) })

def Item.isByte : Item → Bool
  | .byte _ => true
  | _ => false

def pending (script : Script) : Nat := script.incoming.countP Item.isByte

def enqueue (script : Script) (items : List Item) : Script :=
  { script with incoming := script.incoming ++ items }

def clear (script : Script) : Script := { script with incoming := [] }

instance : FiniteLink Script where
  write := write
  read := read
  supply := pending

end Script

end BenchScope
