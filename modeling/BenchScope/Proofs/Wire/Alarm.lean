import BenchScope.Proofs.Wire.Calls
import BenchScope.Proofs.Wire.Lockstep

namespace BenchScope

/-! A wish to abort that comes at a chosen moment. Nothing else about the link is different, so that
what an exchange does with the wish can be compared with what it does without. -/

namespace LinkCall

def isRead : LinkCall → Bool
  | .read .. => true
  | .write .. => false

def countReads (calls : List LinkCall) : Nat := calls.countP isRead

@[simp] theorem countReads_append (first second : List LinkCall) :
    countReads (first ++ second) = countReads first + countReads second := List.countP_append

theorem countReads_cons {call : LinkCall} (read : call.isRead = true) (calls : List LinkCall) :
    countReads (call :: calls) = countReads calls + 1 := List.countP_cons_of_pos read

theorem isRead_of_word? {call : LinkCall} {code : UInt16} (word : call.word? = some code) :
    call.isRead = true := by
  cases call with
  | read => rfl
  | write => cases word

theorem words_of_silent {calls : List LinkCall} (silent : countReads calls = 0) :
    calls.filterMap word? = [] := by
  refine List.filterMap_eq_nil_iff.mpr fun call member => ?_
  have written := List.countP_eq_zero.mp silent call member
  cases call with
  | write => rfl
  | read => exact absurd rfl written

theorem Offer.countReads_eq_zero {calls : List LinkCall} {payload : List (List UInt8)}
    (offer : Offer calls payload) : countReads calls = 0 := by
  refine List.countP_eq_zero.mpr fun call member => ?_
  have offered : call.offered? ∈ payload.map some := by
    rw [← offer]
    exact List.mem_map_of_mem member
  cases call with
  | write => simp [isRead]
  | read => simp [offered?] at offered

end LinkCall

open LinkCall

/-- A link on which somebody asks for an abort during the read call that comes after a number of
others, or not at all. What the link itself has of such wishes is left out. -/
structure Alarmed (σ : Type) where
  link : σ
  reads : Option Nat

namespace Alarmed

variable {σ : Type}

def fewer : Option Nat → Option Nat
  | some (reads + 1) => some reads
  | _ => none

instance [Link σ] : Link (Alarmed σ) where
  write bytes alarmed :=
    let (outcome, link) := Link.write bytes alarmed.link
    ({ outcome with abort := false }, { alarmed with link })
  read count alarmed :=
    let (outcome, link) := Link.read count alarmed.link
    ({ outcome with abort := alarmed.reads = some 0 }, { link, reads := fewer alarmed.reads })

end Alarmed

namespace Host

variable {σ : Type}

def alarmed (host : Host (Traced σ)) (reads : Option Nat) : Host (Traced (Alarmed σ)) :=
  { host with link := { link := { link := host.link.link, reads }, recent := host.link.recent } }

structure Unalarmed (host : Host (Traced (Alarmed σ))) : Prop where
  reads : host.link.link.reads = none
  unasked : host.abortRequested = false

def disturbed (host : Host (Traced (Alarmed σ))) (reads : Option Nat) (asked : Bool) :
    Host (Traced (Alarmed σ)) :=
  { host with
    link := { link := { link := host.link.link.link, reads }, recent := host.link.recent }
    abortRequested := asked }

end Host

def due (alarm count : Nat) : Option Nat := if count ≤ alarm then some (alarm - count) else none

private theorem fewer_due (alarm count : Nat) :
    Alarmed.fewer (due alarm count) = due alarm (count + 1) := by
  rcases Nat.lt_trichotomy count alarm with early | rfl | late
  · have left : alarm - count = alarm - (count + 1) + 1 := by omega
    rw [due, due, if_pos (Nat.le_of_lt early), if_pos (Nat.succ_le_of_lt early), left]
    rfl
  · rw [due, due, if_pos (Nat.le_refl _), if_neg (Nat.not_succ_le_self _), Nat.sub_self]
    rfl
  · rw [due, due, if_neg (Nat.not_le_of_lt late), if_neg (by omega)]
    rfl

private theorem asked_due (alarm count : Nat) :
    (decide (alarm < count) || decide (due alarm count = some 0)) = decide (alarm < count + 1) := by
  rw [due]
  rcases Nat.lt_trichotomy count alarm with early | rfl | late
  · have left : alarm - count ≠ 0 := Nat.sub_ne_zero_of_lt early
    have before : ¬ alarm < count + 1 := by omega
    simp [Nat.le_of_lt early, Nat.not_lt_of_lt early, left, before]
  · simp
  · simp [late, Nat.lt_succ_of_lt late]

/-- Up to the read call with the number `alarm` the hosts are the same, and afterwards they differ
in the wish only. -/
structure Watched {σ : Type} (alarm : Nat) (left right : Host (Traced (Alarmed σ))) : Prop where
  unalarmed : left.Unalarmed
  disturbed : right =
    left.disturbed (due alarm (countReads left.calls)) (alarm < countReads left.calls)

theorem Watched.calls_eq {σ : Type} {alarm : Nat} {left right : Host (Traced (Alarmed σ))}
    (watched : Watched alarm left right) : right.calls = left.calls := by
  rw [watched.disturbed]
  rfl

section Watched

variable {σ : Type} [Link σ]

private theorem countReads_write (host : Host (Traced (Alarmed σ))) (bytes : List UInt8) :
    countReads (host.after (Link.write bytes host.link).1 (Link.write bytes host.link).2).calls =
      countReads host.calls := by
  rw [host.calls_after_write bytes, countReads_append]
  rfl

theorem countReads_read (host : Host (Traced (Alarmed σ))) (count : Nat) :
    countReads (host.after (Link.read count host.link).1 (Link.read count host.link).2).calls =
      countReads host.calls + 1 := by
  rw [host.calls_after_read count, countReads_append]
  rfl

private theorem disturbed_write (host : Host (Traced (Alarmed σ))) (reads : Option Nat)
    (asked : Bool) (bytes : List UInt8) :
    (host.disturbed reads asked).after (Link.write bytes (host.disturbed reads asked).link).1
        (Link.write bytes (host.disturbed reads asked).link).2 =
      (host.after (Link.write bytes host.link).1 (Link.write bytes host.link).2).disturbed reads
        asked := by
  change Host.mk _ _ (asked || false) _ = _
  rw [Bool.or_false]
  rfl

private theorem disturbed_read (host : Host (Traced (Alarmed σ))) (reads : Option Nat)
    (asked : Bool) (count : Nat) :
    (host.disturbed reads asked).after (Link.read count (host.disturbed reads asked).link).1
        (Link.read count (host.disturbed reads asked).link).2 =
      (host.after (Link.read count host.link).1 (Link.read count host.link).2).disturbed
        (Alarmed.fewer reads) (asked || decide (reads = some 0)) := rfl

theorem lockstep_watched (alarm : Nat) : Lockstep (Watched (σ := σ) alarm) where
  write bytes left right same := by
    rcases same with ⟨quiet, rfl⟩
    refine ⟨rfl, ⟨quiet.reads, Bool.or_eq_false_iff.mpr ⟨quiet.unasked, rfl⟩⟩, ?_⟩
    rw [disturbed_write, countReads_write]
  read count left right same := by
    rcases same with ⟨quiet, rfl⟩
    have silent : (Link.read count left.link).1.abort = false := by
      change decide (left.link.link.reads = some 0) = false
      rw [quiet.reads]
      rfl
    have unset : (Link.read count left.link).2.link.reads = none := by
      change Alarmed.fewer left.link.link.reads = none
      rw [quiet.reads]
      rfl
    refine ⟨rfl, ⟨unset, Bool.or_eq_false_iff.mpr ⟨quiet.unasked, silent⟩⟩, ?_⟩
    rw [disturbed_read, countReads_read, fewer_due, asked_due]
  note notice left right same := by
    rcases same with ⟨quiet, rfl⟩
    exact ⟨⟨quiet.reads, quiet.unasked⟩, rfl⟩
  pause nanoseconds left right same := by
    rcases same with ⟨quiet, rfl⟩
    exact ⟨⟨quiet.reads, quiet.unasked⟩, rfl⟩
  clock left right same := by
    rcases same with ⟨-, rfl⟩
    rfl

end Watched

end BenchScope
