import LndkFormal.Messenger.PeerTables

/-!
# Resynchronisation

After a reconnection LNDK asks LND for its peers again, and the consumer is told
of every peer in the answer as of a new connection.  Nothing is said about the
peers that are not in it.
-/

set_option autoImplicit false

namespace LndkFormal.Messenger

open LndkFormal.Async
open LndkFormal.Ldk
open LndkFormal.Lnd
open LndkFormal.RateLimit
open LndkFormal.Tables

def ListedIn (ldk : Library) (response : List Peer) (peer : PublicKey) : Prop :=
  ∃ listed ∈ response, ldk.publicKeyFromStr listed.pubKey = some peer

def KeysParse (ldk : Library) (response : List Peer) : Prop :=
  ∀ listed ∈ response, (ldk.publicKeyFromStr listed.pubKey).isSome = true

theorem foldlM_keys {ldk : Library} {response : List Peer} (parse : KeysParse ldk response)
    (before : Table PublicKey Bool) :
    ∃ support : Table PublicKey Bool,
      response.foldlM (fun support peer => (ldk.publicKeyFromStr peer.pubKey).map fun pubkey =>
        support.insert pubkey (featuresSupportOnionMessages peer.features)) before =
          some support ∧
      ∀ peer, peer ∈ support ↔ peer ∈ before ∨ ListedIn ldk response peer := by
  induction response generalizing before with
  | nil => exact ⟨before, rfl, fun peer => by simp [ListedIn]⟩
  | cons first rest ih =>
    obtain ⟨key, spelled⟩ := Option.isSome_iff_exists.mp (parse first List.mem_cons_self)
    have later : KeysParse ldk rest := fun listed member =>
      parse listed (List.mem_cons_of_mem _ member)
    obtain ⟨support, built, keys⟩ :=
      ih later (before.insert key (featuresSupportOnionMessages first.features))
    refine ⟨support, ?_, fun peer => ?_⟩
    · simp only [List.foldlM_cons, spelled, Option.map_some]
      exact built
    · have head : ListedIn ldk (first :: rest) peer ↔ key = peer ∨ ListedIn ldk rest peer := by
        simp [ListedIn, spelled]
      rw [keys peer, head, AList.mem_insert, eq_comm]
      tauto

theorem buildPeerSupport_keys {ldk : Library} {response : List Peer}
    (parse : KeysParse ldk response) :
    ∃ support, buildPeerSupport ldk response = some support ∧
      ∀ peer, peer ∈ support ↔ ListedIn ldk response peer := by
  obtain ⟨support, built, keys⟩ := foldlM_keys parse ∅
  exact ⟨support, built, fun peer => by simpa using keys peer⟩

section Listener

variable (parts : Parts)

/-- What the listener sends from here until it polls again. -/
inductive Emits (shutdown : Bool) : Reconnection → List MessengerEvent → Prop where
  | polling : Emits shutdown .polling []
  | send {task sent failed : Reconnection} {event : MessengerEvent} {events : List MessengerEvent}
      (move : task.next parts shutdown .send = some (.send event sent failed))
      (later : Emits shutdown sent events) : Emits shutdown task (event :: events)

def EmitsFor (response : List Peer) (events : List MessengerEvent) : Prop :=
  ∃ shutdown task, Reconnection.next parts shutdown .listing (.reply (.ok response)) =
    some (.goto task) ∧ Emits parts shutdown task events

theorem emits_sendAll (shutdown : Bool) (entries : List (PublicKey × Bool)) :
    Emits parts shutdown (.sendAll entries) (startup entries) := by
  induction entries with
  | nil => exact .polling
  | cons entry rest ih => exact .send rfl ih

theorem emits_unique {shutdown : Bool} {entries : List (PublicKey × Bool)}
    {events : List MessengerEvent} (emits : Emits parts shutdown (.sendAll entries) events) :
    events = startup entries := by
  induction entries generalizing events with
  | nil =>
      cases emits with
      | polling => rfl
      | send move later => cases move
  | cons entry rest ih =>
      cases emits with
      | send move later =>
          cases move
          exact congrArg (List.cons _) (ih later)

theorem emitsFor_iff {response : List Peer} {support : Table PublicKey Bool}
    (built : buildPeerSupport parts.ldk response = some support) (events : List MessengerEvent) :
    EmitsFor parts response events ↔ events = startup (entriesOf support) := by
  have asked : ∀ shutdown, Reconnection.next parts shutdown .listing (.reply (.ok response)) =
      some (.goto (.sendAll (entriesOf support))) := by
    intro shutdown
    simp only [Reconnection.next, built]
  constructor
  · intro ⟨shutdown, task, answered, emits⟩
    rw [asked shutdown] at answered
    cases answered
    exact emits_unique parts emits
  · intro same
    rw [same]
    exact ⟨false, _, asked false, emits_sendAll parts false _⟩

end Listener

theorem startup_connects (support : Table PublicKey Bool) (peer : PublicKey) :
    (∃ onion, .peerConnected peer onion ∈ startup (entriesOf support)) ↔ peer ∈ support := by
  rw [AList.mem_keys]
  simp only [startup, entriesOf, List.map_map, List.mem_map, Function.comp_apply,
    MessengerEvent.peerConnected.injEq]
  constructor
  · rintro ⟨onion, entry, stored, same, _⟩
    exact List.mem_map.mpr ⟨entry, stored, same⟩
  · intro known
    obtain ⟨entry, stored, same⟩ := List.mem_map.mp known
    exact ⟨entry.2, entry, stored, same, rfl⟩

/-! ## What the consumer makes of it -/

section Consuming

variable {cfg : RateLimiterCfg} (clock : Clock)

/-- The consumer takes these events; the onion messenger accepts every connection. -/
def Consumer.handleAll (consumer : Consumer cfg) : List MessengerEvent → Main cfg
  | [] => .consuming consumer
  | event :: rest =>
      match consumer.handle clock true event with
      | .consuming next => next.handleAll rest
      | stopped => stopped

theorem handleAll_connections (consumer : Consumer cfg) (events : List MessengerEvent)
    (connections : ∀ event ∈ events, ∃ peer support, event = .peerConnected peer support) :
    ∃ after, consumer.handleAll clock events = .consuming after ∧
      ∀ peer, peer ∈ after.ledger.limiter.peers ↔
        peer ∈ consumer.ledger.limiter.peers ∨ ∃ support, .peerConnected peer support ∈ events := by
  induction events generalizing consumer with
  | nil => exact ⟨consumer, rfl, fun peer => by simp⟩
  | cons event rest ih =>
    obtain ⟨new, support, same⟩ := connections event List.mem_cons_self
    subst same
    have others : ∀ event ∈ rest, ∃ peer support, event = .peerConnected peer support :=
      fun event member => connections event (List.mem_cons_of_mem _ member)
    obtain ⟨after, handled, peers⟩ := ih ⟨consumer.ledger.call clock (.peerConnected new),
      .peerConnected new true :: consumer.calls⟩ others
    refine ⟨after, handled, fun peer => ?_⟩
    rw [peers peer]
    simp only [TokenLimiter.mem_peers, Ledger.online_call, Bool.or_eq_true, decide_eq_true_eq,
      List.mem_cons, MessengerEvent.peerConnected.injEq, exists_or, exists_and_left, exists_eq,
      and_true]
    tauto

end Consuming

/-- The consumer's view becomes LND's answer exactly if every peer it had is in the
answer, whatever the order in which the events were sent. -/
theorem resync_replaces_iff (parts : Parts) (consumer : Consumer parts.cfg)
    (response : List Peer) (parse : KeysParse parts.ldk response) :
    ∃ events, (∀ sent, EmitsFor parts response sent ↔ sent = events) ∧
      ∀ order, order.Perm events →
        ∃ after, consumer.handleAll parts.clock order = .consuming after ∧
          ((∀ peer, peer ∈ after.ledger.limiter.peers ↔ ListedIn parts.ldk response peer) ↔
            ∀ peer ∈ consumer.ledger.limiter.peers, ListedIn parts.ldk response peer) := by
  obtain ⟨support, built, keys⟩ := buildPeerSupport_keys parse
  refine ⟨startup (entriesOf support), emitsFor_iff parts built, fun order shuffled => ?_⟩
  have connections : ∀ event ∈ order, ∃ peer onion, event = .peerConnected peer onion := by
    intro event sent
    obtain ⟨entry, -, same⟩ := List.mem_map.mp (shuffled.mem_iff.mp sent)
    exact ⟨entry.1, entry.2, same.symm⟩
  have told : ∀ peer, (∃ onion, .peerConnected peer onion ∈ order) ↔
      ListedIn parts.ldk response peer := by
    intro peer
    rw [← keys peer, ← startup_connects support peer]
    simp only [shuffled.mem_iff]
  obtain ⟨after, handled, peers⟩ :=
    handleAll_connections parts.clock consumer order connections
  refine ⟨after, handled, ?_⟩
  simp only [peers, told]
  exact ⟨fun same peer had => (same peer).mp (.inl had),
    fun kept peer => ⟨fun known => known.elim (kept peer) id, .inr⟩⟩

def onePeer : Consumer sampleParts.cfg := .new sampleParts.clock sampleParts.cfg [.repeated 2]

theorem resync_replaces_samePeer :
    ∃ after, onePeer.handleAll sampleParts.clock [.peerConnected (.repeated 2) false] =
        .consuming after ∧
      ∀ peer, peer ∈ after.ledger.limiter.peers ↔
        ListedIn sampleParts.ldk [⟨"", []⟩] peer := by
  have parse : KeysParse sampleParts.ldk [⟨"", []⟩] := fun _ _ => rfl
  obtain ⟨events, emitted, all⟩ := resync_replaces_iff sampleParts onePeer [⟨"", []⟩] parse
  have sent : EmitsFor sampleParts [⟨"", []⟩] [.peerConnected (.repeated 2) false] :=
    ⟨false, _, rfl, .send rfl .polling⟩
  have same := (emitted _).mp sent
  obtain ⟨after, handled, replaced⟩ := all [.peerConnected (.repeated 2) false] (by rw [same])
  refine ⟨after, handled, replaced.mpr fun peer had => ?_⟩
  have only : onePeer.ledger.limiter.peers = [.repeated 2] := rfl
  rw [only, List.mem_singleton] at had
  exact ⟨⟨"", []⟩, List.mem_cons_self, by rw [had]; rfl⟩

/-- A peer that went away while LNDK was disconnected from LND stays in the view. -/
theorem resync_keeps_gone :
    ¬ ∀ (labels : List Label) (s : State sampleParts.cfg)
        (consumer after : Consumer sampleParts.cfg) (response : List Peer)
        (events : List MessengerEvent),
      (messenger sampleParts).Run Lts.unguarded labels s → s.main = .consuming consumer →
      KeysParse sampleParts.ldk response → EmitsFor sampleParts response events →
      consumer.handleAll sampleParts.clock events = .consuming after →
      ∀ peer, peer ∈ after.ledger.limiter.peers ↔ ListedIn sampleParts.ldk response peer := by
  intro claim
  obtain ⟨s, consumer, followed, here, peers⟩ :
      ∃ s consumer, (messenger sampleParts).follow Lts.unguarded [] (startWithPeer ++ [.take true])
        (messenger sampleParts).init = some s ∧ s.main = .consuming consumer ∧
        consumer.ledger.limiter.peers = [.repeated 2] :=
    ⟨_, _, rfl, rfl, rfl⟩
  have nothing : EmitsFor sampleParts [] [] := ⟨false, _, rfl, .polling⟩
  have listed := claim _ s consumer consumer [] [] (Lts.run_of_follow followed) here
    (fun _ listed => by cases listed) nothing rfl (.repeated 2)
  rw [peers] at listed
  obtain ⟨_, impossible, _⟩ := listed.mp List.mem_cons_self
  cases impossible

end LndkFormal.Messenger
