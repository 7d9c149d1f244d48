import LndkFormal.RateLimit.Limiter

/-!
# The limiter's books

A limiter together with the calls made on it.  What the limiter stores about a
peer is exactly what the calls say: who was online in the current period, who
is online now, and how many queries were granted since the last update.
-/

set_option autoImplicit false

namespace LndkFormal.RateLimit

open LndkFormal.Ldk

inductive Call where
  | peerConnected (peer : PublicKey)
  | peerDisconnected (peer : PublicKey)
  | queryPeer (peer : PublicKey)
  deriving DecidableEq

/-- What a call did.  `readAt` is what `needs_update` read from the clock. -/
inductive Entry where
  | connected (peer : PublicKey)
  | disconnected (peer : PublicKey)
  | queried (peer : PublicKey) (readAt : Nat) (updated granted : Bool)
  deriving DecidableEq

namespace Entry

def updates : Entry → Bool
  | .queried _ _ updated _ => updated
  | _ => false

def grants (peer : PublicKey) : Entry → Bool
  | .queried other _ _ granted => granted && decide (other = peer)
  | _ => false

end Entry

/-- The entries since the last update, latest first.  The query that made the
update is the first of them. -/
def period : List Entry → List Entry
  | [] => []
  | entry :: earlier => if entry.updates then [entry] else entry :: period earlier

def beforePeriod : List Entry → List Entry
  | [] => []
  | entry :: earlier => if entry.updates then earlier else beforePeriod earlier

/-- Whether the latest connection event of a peer was a connect.  The peers that
the limiter starts with count as connected. -/
def connectedLast (peers : List PublicKey) (peer : PublicKey) : List Entry → Bool
  | [] => decide (peer ∈ peers)
  | .connected other :: earlier => decide (peer = other) || connectedLast peers peer earlier
  | .disconnected other :: earlier => !decide (peer = other) && connectedLast peers peer earlier
  | .queried _ _ _ _ :: earlier => connectedLast peers peer earlier

/-- The peer was online at some moment since the last update. -/
def onlineInPeriod (peers : List PublicKey) (peer : PublicKey) (history : List Entry) : Bool :=
  connectedLast peers peer (beforePeriod history) || decide (.connected peer ∈ period history)

def grantedInPeriod (peer : PublicKey) (history : List Entry) : Nat :=
  (period history).countP (Entry.grants peer)

variable {cfg : RateLimiterCfg}

/-- A limiter and what was done to it, latest first. -/
structure Ledger (cfg : RateLimiterCfg) where
  limiter : TokenLimiter cfg
  history : List Entry

namespace Ledger

variable (clock : Clock)

def new (cfg : RateLimiterCfg) (peers : List PublicKey) : Ledger cfg := ⟨.new clock cfg peers, []⟩

def call (ledger : Ledger cfg) : Call → Ledger cfg
  | .peerConnected peer =>
      ⟨ledger.limiter.peerConnected peer, .connected peer :: ledger.history⟩
  | .peerDisconnected peer =>
      ⟨ledger.limiter.peerDisconnected peer, .disconnected peer :: ledger.history⟩
  | .queryPeer peer =>
      let (granted, limiter) := ledger.limiter.queryPeer clock peer
      ⟨limiter, .queried peer (ledger.limiter.now clock) (ledger.limiter.needsUpdate clock)
        granted :: ledger.history⟩

theorem online_call (ledger : Ledger cfg) (call : Call) (peer : PublicKey) :
    (ledger.call clock call).limiter.online peer =
      match call with
      | .peerConnected other => decide (peer = other) || ledger.limiter.online peer
      | .peerDisconnected other => !decide (peer = other) && ledger.limiter.online peer
      | .queryPeer _ => ledger.limiter.online peer := by
  cases call with
  | peerConnected other => exact TokenLimiter.online_peerConnected ..
  | peerDisconnected other => exact TokenLimiter.online_peerDisconnected ..
  | queryPeer other =>
      simp only [Ledger.call, TokenLimiter.queryPeer, TokenLimiter.refresh,
        TokenLimiter.online_hit]
      split
      · rw [TokenLimiter.online_update, TokenLimiter.online_tick]
      · exact TokenLimiter.online_tick ..

def run (ledger : Ledger cfg) (calls : List Call) : Ledger cfg := calls.foldl (call clock) ledger

theorem run_invariant {I : Ledger cfg → Prop}
    (kept : ∀ ledger call, I ledger → I (ledger.call clock call)) (ledger : Ledger cfg)
    (first : I ledger) (calls : List Call) : I (ledger.run clock calls) := by
  induction calls generalizing ledger with
  | nil => exact first
  | cons call rest ih => exact ih (ledger.call clock call) (kept ledger call first)

end Ledger

/-! ## The books are exact -/

/-- What the limiter stores is what its history says. -/
structure Balanced (peers : List PublicKey) (ledger : Ledger cfg) : Prop where
  tracked : ∀ peer, ledger.limiter.tracks peer = onlineInPeriod peers peer ledger.history
  online : ∀ peer, ledger.limiter.online peer = connectedLast peers peer ledger.history
  balance : ∀ peer, ledger.limiter.allowance peer + grantedInPeriod peer ledger.history =
    cfg.callCount.toNat

section Balance

variable {clock : Clock} {peers : List PublicKey} {ledger : Ledger cfg}

theorem balanced_new (clock : Clock) (cfg : RateLimiterCfg) (peers : List PublicKey) :
    Balanced peers (Ledger.new clock cfg peers) where
  tracked := by
    intro peer
    simp only [Ledger.new, TokenLimiter.tracks, TokenLimiter.find_new]
    by_cases member : peer ∈ peers <;>
      simp [member, onlineInPeriod, beforePeriod, period, connectedLast]
  online := by
    intro peer
    simp only [Ledger.new, TokenLimiter.online, TokenLimiter.find_new]
    by_cases member : peer ∈ peers <;> simp [member, connectedLast, PeerRecord.new]
  balance := by
    intro peer
    simp only [Ledger.new, TokenLimiter.allowance, TokenLimiter.find_new]
    by_cases member : peer ∈ peers <;>
      simp [member, grantedInPeriod, period, PeerRecord.new]

theorem Balanced.connected (holds : Balanced peers ledger) (peer : PublicKey) :
    Balanced peers (ledger.call clock (.peerConnected peer)) where
  tracked := by
    intro other
    simp only [Ledger.call, TokenLimiter.tracks_peerConnected, holds.tracked other,
      onlineInPeriod, beforePeriod, period, Entry.updates, Bool.false_eq_true, if_false,
      List.mem_cons, Entry.connected.injEq, Bool.decide_or]
    exact Bool.or_left_comm _ _ _
  online := by
    intro other
    simp only [Ledger.call, TokenLimiter.online_peerConnected, holds.online other, connectedLast]
  balance := by
    intro other
    have before := holds.balance other
    simpa [Ledger.call, grantedInPeriod, period, Entry.updates, Entry.grants] using before

theorem Balanced.disconnected (holds : Balanced peers ledger) (peer : PublicKey) :
    Balanced peers (ledger.call clock (.peerDisconnected peer)) where
  tracked := by
    intro other
    have before := holds.tracked other
    simpa [Ledger.call, onlineInPeriod, beforePeriod, period, Entry.updates] using before
  online := by
    intro other
    simp only [Ledger.call, TokenLimiter.online_peerDisconnected, holds.online other,
      connectedLast]
  balance := by
    intro other
    have before := holds.balance other
    simpa [Ledger.call, grantedInPeriod, period, Entry.updates, Entry.grants] using before

theorem Balanced.queried_fresh (holds : Balanced peers ledger) (peer : PublicKey)
    (fresh : ledger.limiter.needsUpdate clock = false) :
    Balanced peers (ledger.call clock (.queryPeer peer)) := by
  have refreshed : ledger.limiter.refresh clock = ledger.limiter.tick := by
    simp [TokenLimiter.refresh, fresh]
  refine ⟨?_, ?_, ?_⟩
  · intro other
    simp only [Ledger.call, TokenLimiter.queryPeer, refreshed, fresh, TokenLimiter.tracks_hit]
    have before := holds.tracked other
    simpa [onlineInPeriod, beforePeriod, period, Entry.updates] using before
  · intro other
    simp only [Ledger.call, TokenLimiter.queryPeer, refreshed, fresh, TokenLimiter.online_hit,
      TokenLimiter.online_tick, holds.online other, connectedLast]
  · intro other
    have spent := ledger.limiter.tick.allowance_hit peer other
    have before := holds.balance other
    rw [TokenLimiter.allowance_tick] at spent
    simp only [Ledger.call, TokenLimiter.queryPeer, refreshed, fresh, grantedInPeriod, period,
      Entry.updates, Bool.false_eq_true, if_false, List.countP_cons, Entry.grants,
      Bool.and_eq_true, decide_eq_true_eq] at before ⊢
    omega

/-- A query that makes an update: the books start anew. -/
theorem Balanced.queried_stale (holds : Balanced peers ledger) (peer : PublicKey)
    (stale : ledger.limiter.needsUpdate clock = true) :
    Balanced peers (ledger.call clock (.queryPeer peer)) := by
  have refreshed : ledger.limiter.refresh clock = ledger.limiter.tick.update clock := by
    simp [TokenLimiter.refresh, stale]
  refine ⟨?_, ?_, ?_⟩
  · intro other
    simp only [Ledger.call, TokenLimiter.queryPeer, refreshed, stale, TokenLimiter.tracks_hit,
      TokenLimiter.tracks_update]
    have before := holds.online other
    simpa [onlineInPeriod, beforePeriod, period, Entry.updates] using before
  · intro other
    simp only [Ledger.call, TokenLimiter.queryPeer, refreshed, stale, TokenLimiter.online_hit,
      TokenLimiter.online_update, TokenLimiter.online_tick, holds.online other, connectedLast]
  · intro other
    have spent := (ledger.limiter.tick.update clock).allowance_hit peer other
    simp only [TokenLimiter.allowance_update] at spent
    simp only [Ledger.call, TokenLimiter.queryPeer, refreshed, stale, grantedInPeriod, period,
      Entry.updates, if_true, List.countP_cons, List.countP_nil, Entry.grants, Bool.and_eq_true,
      decide_eq_true_eq]
    omega

theorem Balanced.call (holds : Balanced peers ledger) (call : Call) :
    Balanced peers (ledger.call clock call) := by
  cases call with
  | peerConnected peer => exact holds.connected peer
  | peerDisconnected peer => exact holds.disconnected peer
  | queryPeer peer =>
      cases due : ledger.limiter.needsUpdate clock with
      | false => exact holds.queried_fresh peer due
      | true => exact holds.queried_stale peer due

theorem run_balanced (clock : Clock) (cfg : RateLimiterCfg) (peers : List PublicKey)
    (calls : List Call) : Balanced peers ((Ledger.new clock cfg peers).run clock calls) :=
  Ledger.run_invariant clock (fun _ call holds => holds.call call) _
    (balanced_new clock cfg peers) calls

/-- A query in the running period is granted to a peer that was online in it and has
not used up its quota. -/
theorem Balanced.granted_fresh (holds : Balanced peers ledger) (peer : PublicKey)
    (fresh : ledger.limiter.needsUpdate clock = false) :
    (ledger.limiter.queryPeer clock peer).1 = true ↔
      onlineInPeriod peers peer ledger.history = true ∧
        grantedInPeriod peer ledger.history < cfg.callCount.toNat := by
  have balance := holds.balance peer
  simp only [TokenLimiter.queryPeer, TokenLimiter.refresh, fresh, Bool.false_eq_true, if_false,
    TokenLimiter.hit_iff, TokenLimiter.tracks_tick, TokenLimiter.allowance_tick,
    holds.tracked peer]
  constructor
  · rintro ⟨present, positive⟩
    exact ⟨present, by omega⟩
  · rintro ⟨present, less⟩
    exact ⟨present, by omega⟩

theorem Balanced.granted_stale (holds : Balanced peers ledger) (peer : PublicKey)
    (stale : ledger.limiter.needsUpdate clock = true) :
    (ledger.limiter.queryPeer clock peer).1 = true ↔
      connectedLast peers peer ledger.history = true ∧ 0 < cfg.callCount.toNat := by
  simp only [TokenLimiter.queryPeer, TokenLimiter.refresh, stale, if_true, TokenLimiter.hit_iff,
    TokenLimiter.tracks_update, TokenLimiter.allowance_update, TokenLimiter.online_tick,
    holds.online peer]

end Balance

section Kept

variable {peers : List PublicKey} {peer : PublicKey} {history : List Entry}

theorem period_append (history : List Entry) :
    period history ++ beforePeriod history = history := by
  induction history with
  | nil => rfl
  | cons entry earlier ih =>
      by_cases updates : entry.updates = true
      · simp [period, beforePeriod, updates]
      · simp [period, beforePeriod, updates, ih]

theorem connectedLast_of_kept (kept : .disconnected peer ∉ history) :
    connectedLast peers peer history = true ↔ peer ∈ peers ∨ .connected peer ∈ history := by
  induction history with
  | nil => simp [connectedLast]
  | cons entry earlier ih =>
      rw [List.mem_cons, not_or] at kept
      obtain ⟨other, kept⟩ := kept
      have before := ih kept
      cases entry with
      | connected first =>
          simp only [connectedLast, Bool.or_eq_true, decide_eq_true_eq, before, List.mem_cons,
            Entry.connected.injEq]
          tauto
      | disconnected first =>
          have different : peer ≠ first := fun same => other (by rw [same])
          simp [connectedLast, before, different]
      | queried => simp [connectedLast, before]

theorem onlineInPeriod_of_kept (kept : .disconnected peer ∉ history)
    (known : peer ∈ peers ∨ .connected peer ∈ history) :
    onlineInPeriod peers peer history = true := by
  rw [← period_append history] at kept known
  rw [List.mem_append] at known
  have before : .disconnected peer ∉ beforePeriod history :=
    fun member => kept (List.mem_append_right _ member)
  simp only [onlineInPeriod, Bool.or_eq_true, decide_eq_true_eq, connectedLast_of_kept before]
  tauto

/-- A peer that is known and has not disconnected is refused only for its quota. -/
theorem Balanced.exhausted {clock : Clock} {ledger : Ledger cfg}
    (holds : Balanced peers ledger) (kept : .disconnected peer ∉ ledger.history)
    (known : peer ∈ peers ∨ .connected peer ∈ ledger.history)
    (refused : (ledger.limiter.queryPeer clock peer).1 = false) :
    grantedInPeriod peer (ledger.call clock (.queryPeer peer)).history = cfg.callCount.toNat := by
  have bound := holds.balance peer
  cases due : ledger.limiter.needsUpdate clock with
  | false =>
      have granted := holds.granted_fresh peer due
      rw [refused, onlineInPeriod_of_kept kept known] at granted
      have same : grantedInPeriod peer (ledger.call clock (.queryPeer peer)).history =
          grantedInPeriod peer ledger.history := by
        simp [Ledger.call, grantedInPeriod, period, Entry.updates, Entry.grants, due, refused]
      rw [same]
      simp only [Bool.false_eq_true, true_and, false_iff, not_lt] at granted
      omega
  | true =>
      have granted := holds.granted_stale peer due
      rw [refused, (connectedLast_of_kept kept).mpr known] at granted
      have none : grantedInPeriod peer (ledger.call clock (.queryPeer peer)).history = 0 := by
        simp [Ledger.call, grantedInPeriod, period, Entry.updates, Entry.grants, due, refused]
      rw [none]
      simp only [Bool.false_eq_true, true_and, false_iff, not_lt] at granted
      omega

end Kept

/-- The state of the limiter, and the answer to its next query, in terms of its history. -/
structure ExactAccounting (clock : Clock) (peers : List PublicKey) (ledger : Ledger cfg) :
    Prop where
  tracked : ∀ peer, (∃ record, ledger.limiter.peerMap.lookup peer = some record) ↔
    onlineInPeriod peers peer ledger.history = true
  online : ∀ peer record, ledger.limiter.peerMap.lookup peer = some record →
    record.online = connectedLast peers peer ledger.history
  remaining : ∀ peer record, ledger.limiter.peerMap.lookup peer = some record →
    grantedInPeriod peer ledger.history ≤ cfg.callCount.toNat ∧
      record.remainingCalls.toNat =
        cfg.callCount.toNat - grantedInPeriod peer ledger.history
  refused : ∀ peer, ledger.limiter.needsUpdate clock = false →
    (ledger.limiter.queryPeer clock peer).1 = false →
    onlineInPeriod peers peer ledger.history = false ∨
      grantedInPeriod peer ledger.history = cfg.callCount.toNat
  renewed : ∀ peer, ledger.limiter.needsUpdate clock = true →
    ((ledger.limiter.queryPeer clock peer).1 = true ↔
      connectedLast peers peer ledger.history = true ∧ 0 < cfg.callCount.toNat)

/-- The limiter keeps exact books, whatever is called and whenever. -/
theorem limiter_exactAccounting (cfg : RateLimiterCfg) (clock : Clock) (peers : List PublicKey)
    (calls : List Call) :
    ExactAccounting clock peers ((Ledger.new clock cfg peers).run clock calls) := by
  have holds := run_balanced clock cfg peers calls
  generalize (Ledger.new clock cfg peers).run clock calls = ledger at holds
  refine ⟨?_, ?_, ?_, ?_, ?_⟩
  · intro peer
    rw [← holds.tracked peer, TokenLimiter.tracks, Option.isSome_iff_exists]
  · intro peer record found
    rw [← holds.online peer, TokenLimiter.online, TokenLimiter.find, found, Option.any_some]
  · intro peer record found
    have balance := holds.balance peer
    simp only [TokenLimiter.allowance, TokenLimiter.find, found] at balance
    omega
  · intro peer fresh refused
    have granted := holds.granted_fresh peer fresh
    have bound := holds.balance peer
    by_cases present : onlineInPeriod peers peer ledger.history = true
    · right
      by_contra left
      have some : (ledger.limiter.queryPeer clock peer).1 = true :=
        granted.mpr ⟨present, by omega⟩
      rw [refused] at some
      cases some
    · exact Or.inl (Bool.eq_false_iff.mpr present)
  · exact fun peer stale => holds.granted_stale peer stale

end LndkFormal.RateLimit
