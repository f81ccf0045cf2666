import BenchScope.Proofs.Wire.Replies

namespace BenchScope

/-! Two actions side by side, on states that are related. -/

namespace Action

variable {ε state β γ : Type} {related : state → state → Prop}

def Corresponds (related : state → state → Prop) {ρ : Type} (left right : ρ × state) : Prop :=
  left.1 = right.1 ∧ related left.2 right.2

theorem Corresponds.bind {first other : Action ε state β} {next continued : β → Action ε state γ}
    {left right : state} (same : Corresponds related (first.apply left) (other.apply right))
    (further : ∀ value leftAfter rightAfter, related leftAfter rightAfter →
      Corresponds related ((next value).apply leftAfter) ((continued value).apply rightAfter)) :
    Corresponds related ((first >>= next).apply left) ((other >>= continued).apply right) := by
  rw [apply_bind, apply_bind]
  rcases leftApplied : first.apply left with ⟨result, leftAfter⟩
  rcases rightApplied : other.apply right with ⟨otherResult, rightAfter⟩
  rw [leftApplied, rightApplied] at same
  rcases same with ⟨results, relatedAfter⟩
  obtain rfl : result = otherResult := results
  cases result with
  | error error => exact ⟨rfl, relatedAfter⟩
  | ok value => exact further value leftAfter rightAfter relatedAfter

end Action

/-! Two hosts side by side, in the same exchange. An exchange sees nothing of a host but what its
calls come to, so hosts whose calls come to the same stay side by side. -/

variable {σ : Type}

structure Lockstep [Link σ] (alike : Host σ → Host σ → Prop) : Prop where
  write (bytes : List UInt8) (left right : Host σ) : alike left right →
    (Link.write bytes left.link).1.result = (Link.write bytes right.link).1.result ∧
      alike (left.after (Link.write bytes left.link).1 (Link.write bytes left.link).2)
        (right.after (Link.write bytes right.link).1 (Link.write bytes right.link).2)
  read (count : Nat) (left right : Host σ) : alike left right →
    (Link.read count left.link).1.result = (Link.read count right.link).1.result ∧
      alike (left.after (Link.read count left.link).1 (Link.read count left.link).2)
        (right.after (Link.read count right.link).1 (Link.read count right.link).2)
  note (notice : Notice) (left right : Host σ) : alike left right →
    alike (left.note notice) (right.note notice)
  pause (nanoseconds : Nat) (left right : Host σ) : alike left right →
    alike (left.pause nanoseconds) (right.pause nanoseconds)
  clock (left right : Host σ) : alike left right → left.clock = right.clock

namespace Exchange

variable {ε β γ : Type} {alike : Host σ → Host σ → Prop}

/-- On hosts that are alike, the action comes to the same and leaves the hosts alike. -/
def Uniform (alike : Host σ → Host σ → Prop) (action : Exchange ε σ β) : Prop :=
  ∀ left right, alike left right →
    (action.apply left).1 = (action.apply right).1 ∧
      alike (action.apply left).2 (action.apply right).2

theorem Uniform.of_apply {action : Exchange ε σ β} (uniform : Uniform alike action)
    {left right leftAfter : Host σ} {result : Except ε β} (same : alike left right)
    (applied : action.apply left = (result, leftAfter)) :
    ∃ rightAfter, action.apply right = (result, rightAfter) ∧ alike leftAfter rightAfter := by
  rcases uniform left right same with ⟨results, alikeAfter⟩
  rw [applied] at results alikeAfter
  exact ⟨(action.apply right).2, Prod.ext results.symm rfl, alikeAfter⟩

theorem uniform_pure (value : β) : Uniform alike (pure value : Exchange ε σ β) :=
  fun _ _ same => ⟨rfl, same⟩

theorem Uniform.bind {action : Exchange ε σ β} {next : β → Exchange ε σ γ}
    (first : Uniform alike action) (second : ∀ value, Uniform alike (next value)) :
    Uniform alike (action >>= next) := by
  intro left right same
  exact Action.Corresponds.bind (first left right same) second

variable [Link σ]

theorem uniform_write (lockstep : Lockstep alike) (bytes : List UInt8) :
    Uniform alike (write bytes) := by
  intro left right same
  rcases lockstep.write bytes left right same with ⟨results, alikeAfter⟩
  rw [apply_write, apply_write, results]
  exact ⟨rfl, alikeAfter⟩

theorem Reads.uniform (lockstep : Lockstep alike) {action : Exchange ProtocolError σ β}
    {count : Nat}
    {reading : List UInt8 → Except ProtocolError β} (reads : Reads action count reading) :
    Uniform alike action := by
  intro left right same
  rcases lockstep.read count left right same with ⟨results, alikeAfter⟩
  rw [reads left, reads right, results]
  exact ⟨rfl, alikeAfter⟩

theorem compositional_uniform (lockstep : Lockstep alike) : Compositional (Uniform alike) where
  pure := uniform_pure
  bind := .bind
  note notice left right same := ⟨rfl, lockstep.note notice left right same⟩
  write := uniform_write lockstep

theorem uniform_request (lockstep : Lockstep alike) (command : Command)
    (parameters : List Parameter) : Uniform alike (request (σ := σ) command parameters) :=
  (compositional_uniform lockstep).request command parameters

theorem uniform_awaitAcknowledgement (lockstep : Lockstep alike) :
    Uniform alike (awaitAcknowledgement (σ := σ)) :=
  reads_awaitAcknowledgement.uniform lockstep

theorem uniform_perform (lockstep : Lockstep alike) (command : Command)
    (parameters : List Parameter) : Uniform alike (perform (σ := σ) command parameters) :=
  (compositional_uniform lockstep).perform (uniform_awaitAcknowledgement lockstep) command
    parameters

theorem uniform_askStatus (lockstep : Lockstep alike) :
    Uniform alike (Capture.askStatus (σ := σ)) :=
  (compositional_uniform lockstep).askStatus (reads_readByte.uniform lockstep)
    (reads_readWord.uniform lockstep) (uniform_awaitAcknowledgement lockstep)

end Exchange

end BenchScope
