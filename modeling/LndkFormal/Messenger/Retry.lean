import LndkFormal.Messenger.Model
import Mathlib.Data.Nat.Find

/-!
# Retries

The two loops of `grpc.rs` around a request to LND.  The outcomes of the wrapped
call are a script: `script n` is what the `n`-th call, counted from zero, returns.
`with_max_attempts` counts in a `u8`; an increment past its end is an outcome of
its own.  `with_infinite_retries` may go on for ever, so it is given fuel.
-/

set_option autoImplicit false

namespace LndkFormal.Messenger

open LndkFormal.Lnd

def RETRY_DELAY : Nat := 100

def MAX_RETRY_ATTEMPTS : UInt8 := 5

variable {Req R : Type}

inductive Act (Req : Type) where
  | call (request : Req)
  | notify
  | sleep (millis : Nat)
  deriving DecidableEq

inductive Ending (R : Type) where
  | returned (result : Except Status R)
  | overflowed

def withInfiniteRetries (script : Nat → Except Status R) (req : Req) (retryNotify : Bool) :
    Nat → Option (Except Status R × List (Act Req))
  | 0 => none
  | fuel + 1 =>
      match script 0 with
      | .ok response => some (.ok response, [.call req])
      | .error e =>
          if isRetryableError e then
            let notice := if retryNotify then [.notify] else []
            (withInfiniteRetries (fun n => script (n + 1)) req retryNotify fuel).map
              fun (result, acts) => (result, .call req :: notice ++ .sleep RETRY_DELAY :: acts)
          else some (.error e, [.call req])

theorem toNat_succ_of_ne {attempt : UInt8} (free : attempt ≠ 255) :
    (attempt + 1).toNat = attempt.toNat + 1 := by
  have bound := attempt.toNat_lt
  have notLast : attempt.toNat ≠ 255 := fun last => free (UInt8.toNat_inj.mp last)
  rw [UInt8.toNat_add, UInt8.toNat_one]
  omega

/-- The loop of `with_max_attempts` from the counter's value on. -/
def attemptLoop (script : Nat → Except Status R) (req : Req) (maxRetryAttempts : UInt8)
    (attempt : UInt8) : Ending R × List (Act Req) :=
  match script 0 with
  | .ok response => (.returned (.ok response), [.call req])
  | .error e =>
      if isRetryableError e then
        if _full : attempt = 255 then (.overflowed, [.call req])
        else if maxRetryAttempts ≤ attempt + 1 then (.returned (.error e), [.call req])
        else
          let (ending, acts) :=
            attemptLoop (fun n => script (n + 1)) req maxRetryAttempts (attempt + 1)
          (ending, .call req :: .sleep RETRY_DELAY :: acts)
      else (.returned (.error e), [.call req])
termination_by 255 - attempt.toNat
decreasing_by
  have bound := attempt.toNat_lt
  have grown := toNat_succ_of_ne _full
  have notLast : attempt.toNat ≠ 255 := fun last => _full (UInt8.toNat_inj.mp last)
  omega

def withMaxAttempts (script : Nat → Except Status R) (req : Req) (maxAttempts : Option UInt8) :
    Ending R × List (Act Req) :=
  attemptLoop script req (maxAttempts.getD MAX_RETRY_ATTEMPTS) 0

def calls : List (Act Req) → List Req
  | [] => []
  | .call request :: acts => request :: calls acts
  | .notify :: acts => calls acts
  | .sleep _ :: acts => calls acts

def notifications : List (Act Req) → Nat
  | [] => 0
  | .notify :: acts => notifications acts + 1
  | .call _ :: acts => notifications acts
  | .sleep _ :: acts => notifications acts

/-- An outcome that both loops return at once. -/
def settles : Except Status R → Bool
  | .ok _ => true
  | .error e => !isRetryableError e

/-- The first outcome that settles is that of call `k`, counted from one. -/
structure FirstSettled (script : Nat → Except Status R) (k : Nat) : Prop where
  positive : 1 ≤ k
  settled : settles (script (k - 1)) = true
  before : ∀ n, n + 1 < k → settles (script n) = false

def allowedAttempts (maxAttempts : Option UInt8) : Nat :=
  max 1 (maxAttempts.getD MAX_RETRY_ATTEMPTS).toNat

section Scripts

variable {script : Nat → Except Status R} {k : Nat}

theorem FirstSettled.tail (first : FirstSettled script (k + 1))
    (later : settles (script 0) = false) :
    FirstSettled (fun n => script (n + 1)) k := by
  have notYet : k ≠ 0 := by
    intro now
    have settled := first.settled
    simp only [now, Nat.add_sub_cancel, later] at settled
    cases settled
  have index : k - 1 + 1 = k := by omega
  constructor
  · omega
  · have settled := first.settled
    simpa only [index, Nat.add_sub_cancel] using settled
  · intro n bound
    exact first.before (n + 1) (by omega)

theorem retries_of_not_settles {outcome : Except Status R} (later : settles outcome = false) :
    ∃ e, outcome = .error e ∧ isRetryableError e = true := by
  cases outcome with
  | ok response => cases later
  | error e => exact ⟨e, rfl, by simpa [settles] using later⟩

end Scripts

/-! ## The bounded loop -/

section Bounded

variable {script : Nat → Except Status R} {most attempt : UInt8} (req : Req)

def attemptsLeft (most attempt : UInt8) : Nat := max 1 (most.toNat - attempt.toNat)

theorem attemptLoop_settled (now : settles (script 0) = true) :
    attemptLoop script req most attempt = (.returned (script 0), [.call req]) := by
  rw [attemptLoop]
  cases outcome : script 0 with
  | ok response => rfl
  | error e =>
      have final : isRetryableError e = false := by simpa [outcome, settles] using now
      simp [final]

/-- An outcome to be retried is the last one when the counter reaches its limit. -/
theorem attemptLoop_last (later : settles (script 0) = false) (free : attempt ≠ 255)
    (last : most ≤ attempt + 1) :
    attemptLoop script req most attempt = (.returned (script 0), [.call req]) := by
  obtain ⟨e, outcome, retryable⟩ := retries_of_not_settles later
  rw [attemptLoop]
  simp [outcome, retryable, free, last]

theorem attemptLoop_again (later : settles (script 0) = false) (free : attempt ≠ 255)
    (more : ¬ most ≤ attempt + 1) :
    attemptLoop script req most attempt =
      ((attemptLoop (fun n => script (n + 1)) req most (attempt + 1)).1,
        .call req :: .sleep RETRY_DELAY ::
          (attemptLoop (fun n => script (n + 1)) req most (attempt + 1)).2) := by
  obtain ⟨e, outcome, retryable⟩ := retries_of_not_settles later
  rw [attemptLoop]
  simp [outcome, retryable, free, more]

/-- While more than one call is left, the counter grows and stays below its limit. -/
theorem attempt_grows (most attempt : UInt8) (more : 2 ≤ attemptsLeft most attempt) :
    attempt ≠ 255 ∧ ¬ most ≤ attempt + 1 ∧ attempt + 1 < most ∧
      attemptsLeft most (attempt + 1) + 1 = attemptsLeft most attempt := by
  unfold attemptsLeft at more
  have bound := most.toNat_lt
  have free : attempt ≠ 255 := by
    intro full
    rw [full] at more
    have value : (255 : UInt8).toNat = 255 := rfl
    omega
  have grown := toNat_succ_of_ne free
  have below : attempt + 1 < most := by
    rw [UInt8.lt_iff_toNat_lt]
    omega
  refine ⟨free, UInt8.not_le.mpr below, below, ?_⟩
  unfold attemptsLeft
  omega

theorem attempt_free (counts : attempt = 0 ∨ attempt < most) : attempt ≠ 255 := by
  have bound := most.toNat_lt
  rintro rfl
  rcases counts with zero | below
  · cases zero
  · rw [UInt8.lt_iff_toNat_lt] at below
    have value : (255 : UInt8).toNat = 255 := rfl
    omega

theorem attempt_last (alone : attemptsLeft most attempt = 1) (free : attempt ≠ 255) :
    most ≤ attempt + 1 := by
  unfold attemptsLeft at alone
  have grown := toNat_succ_of_ne free
  rw [UInt8.le_iff_toNat_le]
  omega

/-- The loop returns the first outcome that settles, if it is among the calls left. -/
theorem attemptLoop_first {k : Nat} (first : FirstSettled script k)
    (inTime : k ≤ attemptsLeft most attempt) :
    ∃ acts, attemptLoop script req most attempt = (.returned (script (k - 1)), acts) ∧
      calls acts = List.replicate k req := by
  induction k generalizing script attempt with
  | zero => exact absurd first.positive (by omega)
  | succ k ih =>
      cases now : settles (script 0) with
      | true =>
          have only : k = 0 := by
            by_contra more
            have pending := first.before 0 (by omega)
            rw [now] at pending
            cases pending
          subst only
          exact ⟨_, attemptLoop_settled req now, rfl⟩
      | false =>
          have rest := first.tail now
          have later := rest.positive
          obtain ⟨free, more, below, fewer⟩ := attempt_grows most attempt (by omega)
          have stillInTime : k ≤ attemptsLeft most (attempt + 1) := by omega
          obtain ⟨acts, looped, called⟩ := ih rest stillInTime
          have index : k - 1 + 1 = k := by omega
          refine ⟨.call req :: .sleep RETRY_DELAY :: acts, ?_, ?_⟩
          · rw [attemptLoop_again req now free more, looped, index, Nat.add_sub_cancel]
          · simp only [calls, called, List.replicate_succ]

/-- Without such an outcome, the loop returns the error of the last call it has. -/
theorem attemptLoop_cut (counts : attempt = 0 ∨ attempt < most) {left : Nat}
    (count : attemptsLeft most attempt = left) (pending : ∀ n < left, settles (script n) = false) :
    ∃ e acts, script (left - 1) = .error e ∧
      attemptLoop script req most attempt = (.returned (.error e), acts) ∧
      calls acts = List.replicate left req := by
  induction left generalizing script attempt with
  | zero =>
      unfold attemptsLeft at count
      omega
  | succ left ih =>
      have now := pending 0 (by omega)
      have free := attempt_free counts
      by_cases alone : left = 0
      · subst alone
        obtain ⟨e, outcome, -⟩ := retries_of_not_settles now
        refine ⟨e, [.call req], outcome, ?_, rfl⟩
        rw [attemptLoop_last req now free (attempt_last count free), outcome]
      · obtain ⟨_, more, below, fewer⟩ := attempt_grows most attempt (by omega)
        have shifted : ∀ n < left, settles (script (n + 1)) = false :=
          fun n bound => pending (n + 1) (by omega)
        obtain ⟨e, acts, outcome, looped, called⟩ := ih (Or.inr below) (by omega) shifted
        have index : left - 1 + 1 = left := by omega
        refine ⟨e, .call req :: .sleep RETRY_DELAY :: acts, ?_, ?_, ?_⟩
        · rw [← outcome]
          simp only [index, Nat.add_sub_cancel]
        · rw [attemptLoop_again req now free more, looped]
        · simp only [calls, called, List.replicate_succ]

end Bounded

/-! ## The loop without a limit -/

section Infinite

variable {script : Nat → Except Status R} (req : Req) (retryNotify : Bool)

theorem infinite_now (now : settles (script 0) = true) (fuel : Nat) :
    withInfiniteRetries script req retryNotify (fuel + 1) = some (script 0, [.call req]) := by
  rw [withInfiniteRetries]
  cases outcome : script 0 with
  | ok response => rfl
  | error e =>
      have final : isRetryableError e = false := by simpa [outcome, settles] using now
      simp [final]

theorem infinite_again (later : settles (script 0) = false) (fuel : Nat) :
    withInfiniteRetries script req retryNotify (fuel + 1) =
      (withInfiniteRetries (fun n => script (n + 1)) req retryNotify fuel).map
        fun (result, acts) => (result, .call req ::
          (if retryNotify then [.notify] else []) ++ .sleep RETRY_DELAY :: acts) := by
  obtain ⟨e, outcome, retryable⟩ := retries_of_not_settles later
  rw [withInfiniteRetries]
  simp [outcome, retryable]

/-- With fuel for `k` calls, the loop returns the outcome of call `k`. -/
theorem infinite_first {k fuel : Nat} (first : FirstSettled script k) (enough : k ≤ fuel) :
    ∃ acts, withInfiniteRetries script req retryNotify fuel = some (script (k - 1), acts) ∧
      calls acts = List.replicate k req ∧
      notifications acts = if retryNotify then k - 1 else 0 := by
  induction k generalizing script fuel with
  | zero => exact absurd first.positive (by omega)
  | succ k ih =>
      obtain ⟨fuel, rfl⟩ : ∃ less, fuel = less + 1 := ⟨fuel - 1, by omega⟩
      cases now : settles (script 0) with
      | true =>
          have only : k = 0 := by
            by_contra more
            have pending := first.before 0 (by omega)
            rw [now] at pending
            cases pending
          subst only
          refine ⟨[.call req], infinite_now req retryNotify now fuel, rfl, ?_⟩
          simp [notifications]
      | false =>
          have rest := first.tail now
          have later := rest.positive
          obtain ⟨acts, looped, called, notified⟩ := ih rest (by omega : k ≤ fuel)
          have index : k - 1 + 1 = k := by omega
          have again := infinite_again req retryNotify now fuel
          rw [looped, index, Option.map_some] at again
          refine ⟨_, again, ?_, ?_⟩
          · cases retryNotify <;> simp [calls, called, List.replicate_succ]
          · cases retryNotify <;> simp_all [notifications]

end Infinite

/-- `with_max_attempts` as a truncation of `with_infinite_retries`. -/
structure Truncates (script : Nat → Except Status R) (req : Req) (maxAttempts : Option UInt8) :
    Prop where
  settled : ∀ k, FirstSettled script k → k ≤ allowedAttempts maxAttempts →
    (∃ acts, withMaxAttempts script req maxAttempts = (.returned (script (k - 1)), acts) ∧
      calls acts = List.replicate k req) ∧
    ∀ retryNotify fuel, k ≤ fuel →
      ∃ acts, withInfiniteRetries script req retryNotify fuel = some (script (k - 1), acts) ∧
        calls acts = List.replicate k req ∧
        notifications acts = if retryNotify then k - 1 else 0
  cut : (∀ k, FirstSettled script k → allowedAttempts maxAttempts < k) →
    ∃ e acts, script (allowedAttempts maxAttempts - 1) = .error e ∧
      withMaxAttempts script req maxAttempts = (.returned (.error e), acts) ∧
      calls acts = List.replicate (allowedAttempts maxAttempts) req
  counted : (withMaxAttempts script req maxAttempts).1 ≠ .overflowed

theorem exists_firstSettled {script : Nat → Except Status R} {n : Nat}
    (settled : settles (script n) = true) : ∃ k, FirstSettled script k ∧ k ≤ n + 1 := by
  have settling : ∃ n, settles (script n) = true := ⟨n, settled⟩
  refine ⟨Nat.find settling + 1, ⟨by omega, ?_, ?_⟩, ?_⟩
  · simpa using Nat.find_spec settling
  · intro m bound
    have early := Nat.find_min settling (by omega : m < Nat.find settling)
    simpa using early
  · have least := Nat.find_min' settling settled
    omega

theorem maxAttempts_truncates (script : Nat → Except Status R) (req : Req)
    (maxAttempts : Option UInt8) : Truncates script req maxAttempts := by
  have left : attemptsLeft (maxAttempts.getD MAX_RETRY_ATTEMPTS) 0 =
      allowedAttempts maxAttempts := by
    simp [attemptsLeft, allowedAttempts]
  have started : withMaxAttempts script req maxAttempts =
      attemptLoop script req (maxAttempts.getD MAX_RETRY_ATTEMPTS) 0 := by
    rw [withMaxAttempts]
  have settled : ∀ k, FirstSettled script k → k ≤ allowedAttempts maxAttempts →
      ∃ acts, withMaxAttempts script req maxAttempts = (.returned (script (k - 1)), acts) ∧
        calls acts = List.replicate k req := by
    intro k first inTime
    rw [← left] at inTime
    rw [started]
    exact attemptLoop_first req first inTime
  have cut : (∀ k, FirstSettled script k → allowedAttempts maxAttempts < k) →
      ∃ e acts, script (allowedAttempts maxAttempts - 1) = .error e ∧
        withMaxAttempts script req maxAttempts = (.returned (.error e), acts) ∧
        calls acts = List.replicate (allowedAttempts maxAttempts) req := by
    intro late
    rw [started]
    refine attemptLoop_cut req (Or.inl rfl) left ?_
    intro n bound
    by_contra settles
    obtain ⟨k, first, early⟩ := exists_firstSettled (Bool.of_not_eq_false settles)
    have := late k first
    omega
  refine ⟨fun k first inTime => ⟨settled k first inTime, ?_⟩, cut, ?_⟩
  · intro retryNotify fuel enough
    exact infinite_first req retryNotify first enough
  · by_cases early : ∃ k, FirstSettled script k ∧ k ≤ allowedAttempts maxAttempts
    · obtain ⟨k, first, inTime⟩ := early
      obtain ⟨acts, returned, -⟩ := settled k first inTime
      rw [returned]
      intro overflow
      cases overflow
    · obtain ⟨e, acts, -, returned, -⟩ := cut fun k first => by
        by_contra inTime
        exact early ⟨k, first, by omega⟩
      rw [returned]
      intro overflow
      cases overflow

end LndkFormal.Messenger
