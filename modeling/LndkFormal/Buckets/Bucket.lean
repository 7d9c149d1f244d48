import Mathlib.Logic.Relation

/-!
# Buckets that are refilled at most once a period

A bucket of tokens as seen by a window of time: when it was refilled, how many
tokens it holds, and how many were spent in the window.  Refills are a period
apart, which bounds what a window of `n` periods can see spent.
-/

set_option autoImplicit false

namespace LndkFormal.Buckets

/-- `spent` counts the tokens spent while the time was in the window. -/
structure Bucket where
  now : Nat
  refilled : Nat
  left : Nat
  spent : Nat

variable {period quota start stop : Nat}

/-- One move of a bucket.  Time goes on, tokens are spent, and the bucket is
refilled only when a period has passed. -/
inductive Move (period quota start stop : Nat) (b b' : Bucket) : Prop where
  | spend (later : b.now ≤ b'.now) (same : b'.refilled = b.refilled)
      (counted : b.spent ≤ b'.spent) (paid : b'.spent + b'.left ≤ b.spent + b.left)
      (outside : ¬ (start ≤ b.now ∧ b.now < stop) → b'.spent = b.spent)
  | refill (due : b.refilled + period ≤ b.now) (renewed : b.now ≤ b'.refilled)
      (later : b'.refilled ≤ b'.now)
      (counted : b.spent ≤ b'.spent) (paid : b'.spent + b'.left ≤ b.spent + quota)
      (outside : ¬ (start ≤ b.now ∧ b.now < stop) → b'.spent = b.spent)

abbrev Moves (period quota start stop : Nat) : Bucket → Bucket → Prop :=
  Relation.ReflTransGen (Move period quota start stop)

namespace Move

variable {b b' : Bucket}

theorem later (move : Move period quota start stop b b') : b.now ≤ b'.now := by
  cases move with
  | spend later => exact later
  | refill _ renewed later => exact Nat.le_trans renewed later

theorem outside (move : Move period quota start stop b b')
    (away : ¬ (start ≤ b.now ∧ b.now < stop)) : b'.spent = b.spent := by
  cases move with
  | spend _ _ _ _ outside => exact outside away
  | refill _ _ _ _ _ outside => exact outside away

theorem refilled_le (move : Move period quota start stop b b') (past : b.refilled ≤ b.now) :
    b'.refilled ≤ b'.now := by
  cases move with
  | spend later same => omega
  | refill _ _ later => exact later

theorem left_le (move : Move period quota start stop b b') (full : b.left ≤ quota) :
    b'.left ≤ quota := by
  cases move with
  | spend _ _ counted paid => omega
  | refill _ _ _ counted paid => omega

end Move

theorem spent_after {b final : Bucket} (moves : Moves period quota start stop b final)
    (past : stop ≤ b.now) : final.spent = b.spent := by
  induction moves using Relation.ReflTransGen.head_induction_on with
  | refl => rfl
  | head move _ ih =>
      rw [ih (Nat.le_trans past move.later)]
      exact move.outside (by omega)

/-- From any moment on, a bucket spends what it holds and one quota for each refill
that still fits in the window. -/
theorem spent_from {b final : Bucket} (moves : Moves period quota start stop b final)
    (refills : Nat) (fits : stop ≤ max b.now (b.refilled + period) + refills * period) :
    final.spent ≤ b.spent + b.left + refills * quota := by
  induction moves using Relation.ReflTransGen.head_induction_on generalizing refills with
  | refl => omega
  | @head b b' move rest ih =>
      cases move with
      | spend later same counted paid =>
          have bound := ih refills (by rw [same]; omega)
          omega
      | refill due renewed later counted paid outside =>
          by_cases past : stop ≤ b.now
          · have nothing := spent_after rest (by omega)
            have unspent := outside (by omega)
            omega
          · -- the window is open at a refill, so one of the refills is used up here
            obtain ⟨fewer, rfl⟩ : ∃ fewer, refills = fewer + 1 := by
              cases refills with
              | zero => omega
              | succ fewer => exact ⟨fewer, rfl⟩
            rw [Nat.succ_mul] at fits
            have bound := ih fewer (by omega)
            rw [Nat.succ_mul]
            omega

/-- A window of `periods` periods sees at most one quota more than it has periods. -/
theorem spent_within (periods : Nat) (window : stop = start + periods * period)
    {b final : Bucket} (moves : Moves period quota start stop b final) (full : b.left ≤ quota) :
    final.spent ≤ b.spent + (periods + 1) * quota := by
  induction moves using Relation.ReflTransGen.head_induction_on with
  | refl => omega
  | @head b b' move rest ih =>
      by_cases begun : start ≤ b.now
      · have bound := spent_from (.head move rest) periods (by omega)
        rw [Nat.succ_mul]
        omega
      · have unspent := move.outside (by omega)
        have bound := ih (move.left_le full)
        omega

end LndkFormal.Buckets
