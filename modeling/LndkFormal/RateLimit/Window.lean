import LndkFormal.Buckets.Bucket
import LndkFormal.RateLimit.Accounting

/-!
# The limit over any window of time

Updates are a period apart, so a window of `n` periods sees at most `n` of them.
A peer spends what it had left when the window began, and one full quota after
each update in it.
-/

set_option autoImplicit false

namespace LndkFormal.RateLimit

open LndkFormal.Buckets
open LndkFormal.Ldk

def Entry.grantsWithin (peer : PublicKey) (start stop : Nat) : Entry → Bool
  | .queried other readAt updated granted =>
      Entry.grants peer (.queried other readAt updated granted) &&
        decide (start ≤ readAt ∧ readAt < stop)
  | _ => false

def grantedWithin (peer : PublicKey) (start stop : Nat) (history : List Entry) : Nat :=
  history.countP (Entry.grantsWithin peer start stop)

variable {cfg : RateLimiterCfg}

@[simp] theorem TokenLimiter.lastUpdate_hit (limiter : TokenLimiter cfg) (peer : PublicKey) :
    (limiter.hit peer).2.lastUpdate = limiter.lastUpdate := by
  rcases limiter.hit_cases peer with ⟨record, left, _, same⟩ | ⟨same, _⟩ <;> rw [same]

@[simp] theorem TokenLimiter.readings_hit (limiter : TokenLimiter cfg) (peer : PublicKey) :
    (limiter.hit peer).2.readings = limiter.readings := by
  rcases limiter.hit_cases peer with ⟨record, left, _, same⟩ | ⟨same, _⟩ <;> rw [same]

@[simp] theorem TokenLimiter.lastUpdate_peerConnected (limiter : TokenLimiter cfg)
    (peer : PublicKey) : (limiter.peerConnected peer).lastUpdate = limiter.lastUpdate := by
  unfold TokenLimiter.peerConnected
  split <;> rfl

@[simp] theorem TokenLimiter.readings_peerConnected (limiter : TokenLimiter cfg)
    (peer : PublicKey) : (limiter.peerConnected peer).readings = limiter.readings := by
  unfold TokenLimiter.peerConnected
  split <;> rfl

section Window

variable (clock : Clock) (peer : PublicKey) (start stop : Nat)

/-- The calls of one peer as a bucket of tokens. -/
def bucket (ledger : Ledger cfg) : Bucket where
  now := ledger.limiter.now clock
  refilled := ledger.limiter.lastUpdate
  left := ledger.limiter.allowance peer
  spent := grantedWithin peer start stop ledger.history

variable {clock peer start stop} {ledger : Ledger cfg}

/-- A query is counted at most once, and only if its reading lies in the window. -/
theorem grantedWithin_queried (peer : PublicKey) (start stop : Nat) (asked : PublicKey)
    (readAt : Nat) (updated granted : Bool) (history : List Entry) :
    let before := grantedWithin peer start stop history
    let after := grantedWithin peer start stop (.queried asked readAt updated granted :: history)
    before ≤ after ∧ after ≤ before + (if granted = true ∧ asked = peer then 1 else 0) ∧
      (¬ (start ≤ readAt ∧ readAt < stop) → after = before) := by
  simp only [grantedWithin, List.countP_cons, Entry.grantsWithin, Entry.grants, Bool.and_eq_true,
    decide_eq_true_eq]
  by_cases inside : start ≤ readAt ∧ readAt < stop <;>
    by_cases wanted : granted = true ∧ asked = peer <;> simp [inside, wanted]

theorem connection_move (call : Call) (other : ∀ asked, call ≠ .queryPeer asked) :
    Move cfg.callPeriod cfg.callCount.toNat start stop (bucket clock peer start stop ledger)
      (bucket clock peer start stop (ledger.call clock call)) := by
  have unchanged : bucket clock peer start stop (ledger.call clock call) =
      bucket clock peer start stop ledger := by
    cases call with
    | peerConnected joined =>
        simp [bucket, Ledger.call, TokenLimiter.now, grantedWithin, Entry.grantsWithin]
    | peerDisconnected gone =>
        simp only [bucket, Ledger.call, TokenLimiter.allowance_peerDisconnected]
        rfl
    | queryPeer asked => exact absurd rfl (other asked)
  rw [unchanged]
  exact .spend (Nat.le_refl _) rfl (Nat.le_refl _) (Nat.le_refl _) (fun _ => rfl)

def Settled (clock : Clock) (ledger : Ledger cfg) : Prop :=
  ledger.limiter.lastUpdate ≤ ledger.limiter.now clock

theorem query_move (asked : PublicKey) (settled : Settled clock ledger) :
    Move cfg.callPeriod cfg.callCount.toNat start stop (bucket clock peer start stop ledger)
      (bucket clock peer start stop (ledger.call clock (.queryPeer asked))) := by
  obtain ⟨counted, once, outside⟩ := grantedWithin_queried peer start stop asked
    (ledger.limiter.now clock) (ledger.limiter.needsUpdate clock)
    (ledger.limiter.queryPeer clock asked).1 ledger.history
  have cost := (ledger.limiter.refresh clock).allowance_hit asked peer
  have due : ledger.limiter.needsUpdate clock =
    decide (cfg.callPeriod ≤ ledger.limiter.now clock - ledger.limiter.lastUpdate) := rfl
  by_cases stale : cfg.callPeriod ≤ ledger.limiter.now clock - ledger.limiter.lastUpdate
  · have refreshed : ledger.limiter.refresh clock = ledger.limiter.tick.update clock := by
      simp [TokenLimiter.refresh, due, stale]
    have full := ledger.limiter.tick.allowance_update clock peer
    refine .refill ?_ ?_ ?_ counted ?_ outside
    · simp only [bucket]
      unfold Settled at settled
      omega
    · simp only [bucket, Ledger.call, TokenLimiter.queryPeer, refreshed,
        TokenLimiter.lastUpdate_hit]
      exact clock.forward (Nat.le_succ _)
    · simp only [bucket, Ledger.call, TokenLimiter.queryPeer, refreshed,
        TokenLimiter.lastUpdate_hit, TokenLimiter.now, TokenLimiter.readings_hit]
      exact clock.forward (Nat.le_succ _)
    · rw [refreshed, full] at cost
      simp only [bucket, Ledger.call, TokenLimiter.queryPeer, refreshed] at once ⊢
      omega
  · have refreshed : ledger.limiter.refresh clock = ledger.limiter.tick := by
      simp [TokenLimiter.refresh, due, stale]
    refine .spend ?_ ?_ counted ?_ outside
    · simp only [bucket, Ledger.call, TokenLimiter.queryPeer, refreshed, TokenLimiter.now,
        TokenLimiter.readings_hit]
      exact clock.forward (Nat.le_succ _)
    · simp only [bucket, Ledger.call, TokenLimiter.queryPeer, refreshed,
        TokenLimiter.lastUpdate_hit]
      rfl
    · rw [refreshed, TokenLimiter.allowance_tick] at cost
      simp only [bucket, Ledger.call, TokenLimiter.queryPeer, refreshed] at once ⊢
      omega

/-- Every call is a move of the bucket of every peer. -/
theorem call_move (call : Call) (settled : Settled clock ledger) :
    Move cfg.callPeriod cfg.callCount.toNat start stop (bucket clock peer start stop ledger)
      (bucket clock peer start stop (ledger.call clock call)) := by
  cases call with
  | queryPeer asked => exact query_move asked settled
  | peerConnected | peerDisconnected => exact connection_move _ nofun

theorem run_moves (ledger : Ledger cfg) (settled : Settled clock ledger) (calls : List Call) :
    Moves cfg.callPeriod cfg.callCount.toNat start stop (bucket clock peer start stop ledger)
      (bucket clock peer start stop (ledger.run clock calls)) := by
  induction calls generalizing ledger with
  | nil => exact .refl
  | cons call rest ih =>
      have move : Move cfg.callPeriod cfg.callCount.toNat start stop
        (bucket clock peer start stop ledger)
        (bucket clock peer start stop (ledger.call clock call)) := call_move call settled
      exact .head move (ih (ledger.call clock call) (move.refilled_le settled))

end Window

theorem new_moves (cfg : RateLimiterCfg) (clock : Clock) (peers : List PublicKey)
    (calls : List Call) (peer : PublicKey) (start stop : Nat) :
    Moves cfg.callPeriod cfg.callCount.toNat start stop
      (bucket clock peer start stop (Ledger.new clock cfg peers))
      (bucket clock peer start stop ((Ledger.new clock cfg peers).run clock calls)) := by
  have settled : Settled clock (Ledger.new clock cfg peers) := clock.forward (Nat.zero_le 1)
  exact run_moves (Ledger.new clock cfg peers) settled calls

/-- A peer is granted at most `periods + 1` quotas in any window of `periods` periods,
however it connects and disconnects and whoever's queries make the updates. -/
theorem grantedWithin_le (cfg : RateLimiterCfg) (clock : Clock) (peers : List PublicKey)
    (calls : List Call) (peer : PublicKey) (start periods : Nat) :
    grantedWithin peer start (start + periods * cfg.callPeriod)
        ((Ledger.new clock cfg peers).run clock calls).history ≤
      (periods + 1) * cfg.callCount.toNat := by
  have moves := new_moves cfg clock peers calls peer start (start + periods * cfg.callPeriod)
  have bound := spent_within periods rfl moves (TokenLimiter.allowance_le _ peer)
  simpa [bucket, Ledger.new, grantedWithin] using bound

end LndkFormal.RateLimit
