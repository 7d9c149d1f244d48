import LndkFormal.Ldk.Values
import LndkFormal.Tables.Table
import Mathlib.Order.Monotone.Defs

/-!
# The token limiter

`TokenLimiter` limits how many onion messages of each peer LNDK handles in a
period.  Buckets are refilled lazily, by the first query after the period has
passed.  A clock is given by its readings in order, so it may advance between
any two of them.
-/

set_option autoImplicit false

namespace LndkFormal.RateLimit

open LndkFormal.Ldk
open LndkFormal.Tables

/-- `now k` is the answer to the `k`-th reading.  The clock never runs backwards. -/
structure Clock where
  now : Nat → Nat
  forward : Monotone now

structure RateLimiterCfg where
  callCount : UInt8
  callPeriod : Nat
  deriving DecidableEq

/-- A peer that we are or have been connected to, within its quota. -/
structure PeerRecord (cfg : RateLimiterCfg) where
  online : Bool
  remainingCalls : UInt8
  within : remainingCalls ≤ cfg.callCount

variable {cfg : RateLimiterCfg}

namespace PeerRecord

def new (cfg : RateLimiterCfg) (online : Bool) : PeerRecord cfg where
  online
  remainingCalls := cfg.callCount
  within := UInt8.le_refl cfg.callCount

def setOnline (record : PeerRecord cfg) (online : Bool) : PeerRecord cfg := { record with online }

def refill (record : PeerRecord cfg) : PeerRecord cfg := new cfg record.online

theorem toNat_pred {calls : UInt8} (left : calls ≠ 0) :
    (calls - 1).toNat + 1 = calls.toNat := by
  have positive : calls.toNat ≠ 0 := fun zero => left (UInt8.toNat_inj.mp zero)
  have atLeastOne : (1 : UInt8) ≤ calls := by
    rw [UInt8.le_iff_toNat_le]
    simp only [UInt8.toNat_one]
    omega
  rw [UInt8.toNat_sub_of_le _ _ atLeastOne]
  simp only [UInt8.toNat_one]
  omega

def spend (record : PeerRecord cfg) (left : record.remainingCalls ≠ 0) : PeerRecord cfg where
  online := record.online
  remainingCalls := record.remainingCalls - 1
  within := by
    have bound := UInt8.le_iff_toNat_le.mp record.within
    have lower := toNat_pred left
    rw [UInt8.le_iff_toNat_le]
    omega

end PeerRecord

/-- `readings` says how often the clock has been read. -/
structure TokenLimiter (cfg : RateLimiterCfg) where
  peerMap : Table PublicKey (PeerRecord cfg)
  lastUpdate : Nat
  readings : Nat

namespace TokenLimiter

variable (clock : Clock)

def new (cfg : RateLimiterCfg) (peers : List PublicKey) : TokenLimiter cfg where
  peerMap := peers.foldl (fun map peer => map.insert peer (.new cfg true)) ∅
  lastUpdate := clock.now 0
  readings := 1

def now (limiter : TokenLimiter cfg) : Nat := clock.now limiter.readings

def tick (limiter : TokenLimiter cfg) : TokenLimiter cfg :=
  { limiter with readings := limiter.readings + 1 }

def needsUpdate (limiter : TokenLimiter cfg) : Bool :=
  decide (cfg.callPeriod ≤ limiter.now clock - limiter.lastUpdate)

def update (limiter : TokenLimiter cfg) : TokenLimiter cfg where
  peerMap := Table.mapEntries (Table.retain limiter.peerMap PeerRecord.online)
    fun _ record => record.refill
  lastUpdate := limiter.now clock
  readings := limiter.readings + 1

def hit (limiter : TokenLimiter cfg) (peer : PublicKey) : Bool × TokenLimiter cfg :=
  match limiter.peerMap.lookup peer with
  | some record =>
      if left : record.remainingCalls = 0 then (false, limiter)
      else (true, { limiter with peerMap := limiter.peerMap.insert peer (record.spend left) })
  | none => (false, limiter)

def peerConnected (limiter : TokenLimiter cfg) (peer : PublicKey) : TokenLimiter cfg :=
  match limiter.peerMap.lookup peer with
  | some record =>
      { limiter with peerMap := limiter.peerMap.insert peer (record.setOnline true) }
  | none => { limiter with peerMap := limiter.peerMap.insert peer (.new cfg true) }

def peerDisconnected (limiter : TokenLimiter cfg) (peer : PublicKey) : TokenLimiter cfg :=
  { limiter with
    peerMap := Table.modify limiter.peerMap peer fun record => record.setOnline false }

def peers (limiter : TokenLimiter cfg) : List PublicKey :=
  (limiter.peerMap.entries.filter fun entry => entry.2.online).map fun entry => entry.1

/-- The limiter that `query_peer` asks for a hit. -/
def refresh (limiter : TokenLimiter cfg) : TokenLimiter cfg :=
  if limiter.needsUpdate clock then limiter.tick.update clock else limiter.tick

def queryPeer (limiter : TokenLimiter cfg) (peer : PublicKey) : Bool × TokenLimiter cfg :=
  (limiter.refresh clock).hit peer

/-! ## What each call does to a peer -/

abbrev find (limiter : TokenLimiter cfg) (peer : PublicKey) : Option (PeerRecord cfg) :=
  limiter.peerMap.lookup peer

def tracks (limiter : TokenLimiter cfg) (peer : PublicKey) : Bool := (limiter.find peer).isSome

def online (limiter : TokenLimiter cfg) (peer : PublicKey) : Bool :=
  (limiter.find peer).any PeerRecord.online

/-- The calls that a peer has left.  A peer that is not tracked has all of them,
should it connect. -/
def allowance (limiter : TokenLimiter cfg) (peer : PublicKey) : Nat :=
  match limiter.find peer with
  | some record => record.remainingCalls.toNat
  | none => cfg.callCount.toNat

variable (limiter : TokenLimiter cfg) (peer other : PublicKey)

@[simp] theorem tracks_tick : limiter.tick.tracks peer = limiter.tracks peer := rfl

@[simp] theorem online_tick : limiter.tick.online peer = limiter.online peer := rfl

@[simp] theorem allowance_tick : limiter.tick.allowance peer = limiter.allowance peer := rfl

theorem allowance_le : limiter.allowance peer ≤ cfg.callCount.toNat := by
  unfold allowance
  split
  next record _ => exact UInt8.le_iff_toNat_le.mp record.within
  next => exact Nat.le_refl _

theorem find_new (peers : List PublicKey) :
    (new clock cfg peers).find peer = if peer ∈ peers then some (.new cfg true) else none := by
  have loaded : ∀ (rest : List PublicKey) (map : Table PublicKey (PeerRecord cfg)),
      (rest.foldl (fun map peer => map.insert peer (.new cfg true)) map).lookup peer =
        if peer ∈ rest then some (.new cfg true) else map.lookup peer := by
    intro rest
    induction rest with
    | nil => simp
    | cons first rest ih =>
        intro map
        rw [List.foldl_cons, ih, Table.lookup_insert_cases]
        by_cases later : peer ∈ rest
        · simp [later]
        · by_cases same : peer = first <;> simp [later, same]
  exact loaded peers ∅

theorem find_peerConnected :
    (limiter.peerConnected peer).find other =
      if other = peer then some (((limiter.find peer).getD (.new cfg true)).setOnline true)
      else limiter.find other := by
  unfold peerConnected find
  cases limiter.peerMap.lookup peer <;> exact Table.lookup_insert_cases _ _ _ _

theorem find_peerDisconnected :
    (limiter.peerDisconnected peer).find other =
      if other = peer then (limiter.find other).map fun record => record.setOnline false
      else limiter.find other :=
  Table.lookup_modify _ _ _ _

theorem find_update :
    (limiter.update clock).find peer =
      ((limiter.find peer).filter PeerRecord.online).map PeerRecord.refill := by
  rw [find, update, Table.lookup_mapEntries, Table.lookup_retain]

theorem hit_cases :
    (∃ (record : PeerRecord cfg) (left : record.remainingCalls ≠ 0),
      limiter.find peer = some record ∧
      limiter.hit peer =
        (true, { limiter with peerMap := limiter.peerMap.insert peer (record.spend left) })) ∨
    (limiter.hit peer = (false, limiter) ∧
      ∀ record, limiter.find peer = some record → record.remainingCalls = 0) := by
  unfold hit find
  cases limiter.peerMap.lookup peer with
  | none => exact Or.inr ⟨rfl, nofun⟩
  | some record =>
      by_cases left : record.remainingCalls = 0
      · right
        simp [left]
      · left
        exact ⟨record, left, rfl, by simp [left]⟩

@[simp] theorem tracks_peerConnected :
    (limiter.peerConnected peer).tracks other =
      (decide (other = peer) || limiter.tracks other) := by
  rw [tracks, find_peerConnected]
  by_cases same : other = peer <;> simp [same, tracks]

@[simp] theorem tracks_peerDisconnected :
    (limiter.peerDisconnected peer).tracks other = limiter.tracks other := by
  rw [tracks, find_peerDisconnected]
  by_cases same : other = peer <;> simp [same, tracks]

@[simp] theorem tracks_update : (limiter.update clock).tracks peer = limiter.online peer := by
  rw [tracks, find_update, online]
  cases limiter.find peer with
  | none => rfl
  | some record => cases active : record.online <;> simp [Option.filter, active]

@[simp] theorem tracks_hit : (limiter.hit peer).2.tracks other = limiter.tracks other := by
  rcases limiter.hit_cases peer with ⟨record, left, found, same⟩ | ⟨same, _⟩
  · rw [same, tracks, tracks, find, Table.lookup_insert_cases]
    by_cases here : other = peer <;> simp [here, found]
  · rw [same]

@[simp] theorem online_peerConnected :
    (limiter.peerConnected peer).online other =
      (decide (other = peer) || limiter.online other) := by
  rw [online, find_peerConnected]
  by_cases same : other = peer <;> simp [same, online, PeerRecord.setOnline]

@[simp] theorem online_peerDisconnected :
    (limiter.peerDisconnected peer).online other =
      (!decide (other = peer) && limiter.online other) := by
  rw [online, find_peerDisconnected]
  by_cases same : other = peer
  · subst same
    cases limiter.find other <;> simp [PeerRecord.setOnline]
  · simp [same, online]

@[simp] theorem online_update : (limiter.update clock).online peer = limiter.online peer := by
  rw [online, find_update, online]
  cases limiter.find peer with
  | none => rfl
  | some record =>
      cases active : record.online <;>
        simp [Option.filter, active, PeerRecord.refill, PeerRecord.new]

@[simp] theorem online_hit : (limiter.hit peer).2.online other = limiter.online other := by
  rcases limiter.hit_cases peer with ⟨record, left, found, same⟩ | ⟨same, _⟩
  · rw [same, online, online, find, Table.lookup_insert_cases]
    by_cases here : other = peer <;> simp [here, found, PeerRecord.spend]
  · rw [same]

@[simp] theorem allowance_peerConnected :
    (limiter.peerConnected peer).allowance other = limiter.allowance other := by
  unfold allowance
  rw [find_peerConnected]
  by_cases same : other = peer
  · subst same
    cases limiter.find other <;> simp [PeerRecord.setOnline, PeerRecord.new]
  · simp [same]

@[simp] theorem allowance_peerDisconnected :
    (limiter.peerDisconnected peer).allowance other = limiter.allowance other := by
  unfold allowance
  rw [find_peerDisconnected]
  by_cases same : other = peer
  · subst same
    cases limiter.find other <;> simp [PeerRecord.setOnline]
  · simp [same]

@[simp] theorem allowance_update :
    (limiter.update clock).allowance peer = cfg.callCount.toNat := by
  unfold allowance
  rw [find_update]
  cases limiter.find peer with
  | none => rfl
  | some record =>
      cases active : record.online <;>
        simp [Option.filter, active, PeerRecord.refill, PeerRecord.new]

/-- A granted hit costs the peer one call and no other peer any. -/
theorem allowance_hit :
    (limiter.hit peer).2.allowance other +
      (if (limiter.hit peer).1 = true ∧ peer = other then 1 else 0) = limiter.allowance other := by
  rcases limiter.hit_cases peer with ⟨record, left, found, same⟩ | ⟨same, _⟩
  · rw [same]
    unfold allowance find
    rw [Table.lookup_insert_cases]
    by_cases here : other = peer
    · subst here
      have looked : limiter.peerMap.lookup other = some record := found
      simpa [looked, PeerRecord.spend] using PeerRecord.toNat_pred left
    · simp [here, Ne.symm here]
  · simp [same]

theorem hit_iff :
    (limiter.hit peer).1 = true ↔ limiter.tracks peer = true ∧ 0 < limiter.allowance peer := by
  rcases limiter.hit_cases peer with ⟨record, left, found, same⟩ | ⟨same, empty⟩
  · have lower := PeerRecord.toNat_pred left
    simp only [same, tracks, allowance, found, Option.isSome_some, true_and, true_iff]
    omega
  · rw [same, tracks, allowance]
    cases found : limiter.find peer with
    | none => simp
    | some record => simp [empty record found]

theorem mem_peers : peer ∈ limiter.peers ↔ limiter.online peer = true := by
  simp only [peers, online, List.mem_map, List.mem_filter, Option.any_eq_true, find,
    ← Option.mem_def, AList.mem_lookup_iff]
  constructor
  · rintro ⟨⟨_, record⟩, ⟨member, active⟩, rfl⟩
    exact ⟨record, member, active⟩
  · rintro ⟨record, member, active⟩
    exact ⟨⟨peer, record⟩, ⟨member, active⟩, rfl⟩

theorem nodup_peers : limiter.peers.Nodup :=
  List.Nodup.sublist (List.filter_sublist.map _) limiter.peerMap.nodupKeys

end TokenLimiter

end LndkFormal.RateLimit
