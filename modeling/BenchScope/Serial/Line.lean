import BenchScope.Link.Error

namespace BenchScope.Serial

/-! A serial line answers each call in one of four ways: it moves some bytes, its own timeout runs
out, the call is interrupted, or it fails. A blocking transfer repeats the call until all bytes are
moved or the time for the transfer is over. -/

inductive Answer (β : Type)
  | moved (amount : β)
  | timedOut
  | interrupted
  | failed (error : LinkError)
deriving DecidableEq, Repr

/-- An answer and the nanoseconds until it is there. -/
structure Call (β : Type) where
  answer : Answer β
  elapsed : Nat
deriving DecidableEq, Repr

/-! Receiving. -/

/-- What a blocking read has done: the bytes in the order in which they came, the time, the bytes
that came with them and were not asked for, and the answers that were not needed. -/
structure Received where
  result : Except LinkError (List UInt8)
  elapsed : Nat
  surplus : List UInt8
  upcoming : List (Call (List UInt8))

def Received.behind (bytes : List UInt8) (received : Received) : Received :=
  { received with result := received.result.map (bytes ++ ·) }

/-- Wait for `wanted` bytes, `elapsed` nanoseconds after the transfer began. When the line has no
further answer it stays silent until the time is over. -/
def receive (allowed : Nat) : (elapsed wanted : Nat) → List (Call (List UInt8)) → Received
  | elapsed, 0, upcoming => ⟨.ok [], elapsed, [], upcoming⟩
  | elapsed, _ + 1, [] => ⟨.ok [], max elapsed allowed, [], []⟩
  | elapsed, wanted + 1, call :: rest =>
      let now := elapsed + call.elapsed
      match call.answer with
      | .failed error => ⟨.error error, now, [], rest⟩
      | .timedOut | .interrupted =>
          if allowed ≤ now then ⟨.ok [], now, [], rest⟩
          else receive allowed now (wanted + 1) rest
      | .moved bytes =>
          if wanted + 1 ≤ bytes.length then
            ⟨.ok (bytes.take (wanted + 1)), now, bytes.drop (wanted + 1), rest⟩
          else if allowed ≤ now then ⟨.ok bytes, now, [], rest⟩
          else (receive allowed now (wanted + 1 - bytes.length) rest).behind bytes

/-! Transmitting. -/

structure Transmitted where
  result : Except LinkError Nat
  taken : List UInt8
  elapsed : Nat
  upcoming : List (Call Nat)

def Transmitted.behind (bytes : List UInt8) (transmitted : Transmitted) : Transmitted :=
  { transmitted with
    result := transmitted.result.map (bytes.length + ·)
    taken := bytes ++ transmitted.taken }

/-- Offer bytes, `elapsed` nanoseconds after the transfer began. When the line has no further answer
it takes all that is left. -/
def transmit (allowed : Nat) : (elapsed : Nat) → List UInt8 → List (Call Nat) → Transmitted
  | elapsed, [], upcoming => ⟨.ok 0, [], elapsed, upcoming⟩
  | elapsed, bytes, [] => ⟨.ok bytes.length, bytes, elapsed, []⟩
  | elapsed, bytes, call :: rest =>
      let now := elapsed + call.elapsed
      match call.answer with
      | .failed error => ⟨.error error, [], now, rest⟩
      | .timedOut | .interrupted =>
          if allowed ≤ now then ⟨.ok 0, [], now, rest⟩
          else transmit allowed now bytes rest
      | .moved limit =>
          let taken := bytes.take limit
          if bytes.length ≤ limit ∨ allowed ≤ now then ⟨.ok taken.length, taken, now, rest⟩
          else (transmit allowed now (bytes.drop limit) rest).behind taken

/-! The line itself. -/

structure Flush where
  failure? : Option LinkError := none
  elapsed : Nat := 0
deriving DecidableEq, Repr

structure Line where
  name : String
  received : List UInt8 := []
  /-- The answers to the reads that find nothing received. -/
  incoming : List (Call (List UInt8)) := []
  outgoing : List (Call Nat) := []
  /-- The ends of the flushes. When there are no more of them, flushes succeed at once. -/
  flushes : List Flush := []
  sent : List UInt8 := []
  hungUp : Bool := false

namespace Line

def brokenPipe : LinkError := .transfer "Broken pipe"

def flushFailed : LinkError := .transfer "flush failed"

def unreachable : LinkError := .line "I/O error"

/-- A call takes what was received before, without delay. -/
def readCalls (line : Line) : List (Call (List UInt8)) :=
  if line.received.isEmpty then line.incoming else ⟨.moved line.received, 0⟩ :: line.incoming

def read (allowed count : Nat) (line : Line) :
    (Except LinkError (List UInt8) × Nat) × Line :=
  if line.hungUp ∧ 0 < count then ((.error brokenPipe, 0), line)
  else
    let received := receive allowed 0 count line.readCalls
    ((received.result, received.elapsed),
      if count = 0 then line
      else { line with received := received.surplus, incoming := received.upcoming })

def flush (line : Line) : Flush × Line :=
  if line.hungUp then ({ failure? := some flushFailed }, line)
  else match line.flushes with
    | [] => ({}, line)
    | flush :: rest => (flush, { line with flushes := rest })

def hangup {β : Type} : List (Call β) := [⟨.failed brokenPipe, 0⟩]

def writeAnswers (line : Line) : List (Call Nat) := if line.hungUp then hangup else line.outgoing

def written (transmitted : Transmitted) (line : Line) : Line :=
  if line.hungUp then line
  else { line with
    sent := line.sent ++ transmitted.taken
    outgoing := transmitted.upcoming }

/-- A write is flushed at the end, unless a call has failed. -/
def write (allowed : Nat) (bytes : List UInt8) (line : Line) :
    (Except LinkError Nat × Nat) × Line :=
  let transmitted := transmit allowed 0 bytes line.writeAnswers
  let line := line.written transmitted
  match transmitted.result with
  | .error error => ((.error error, transmitted.elapsed), line)
  | .ok count =>
      let (flush, line) := line.flush
      ((flush.failure?.elim (.ok count) .error, transmitted.elapsed + flush.elapsed), line)

def pending (line : Line) : Except LinkError Nat :=
  if line.hungUp then .error unreachable else .ok line.received.length

def readReceived (count : Nat) (line : Line) : Except LinkError (List UInt8) × Line :=
  if line.hungUp then (.error unreachable, line)
  else (.ok (line.received.take count), { line with received := line.received.drop count })

def clear (line : Line) : Except LinkError Unit × Line :=
  if line.hungUp then (.error unreachable, line) else (.ok (), { line with received := [] })

end Line

end BenchScope.Serial
