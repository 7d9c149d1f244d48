import LndkFormal.Messenger.Steps

/-!
# The two tables of peers

The onion messenger and the rate limiter each keep a table of the connected peers.
The limiter starts with LND's list, the onion messenger learns it from the queue.
They agree whenever a message is handled, because the start-up events are at the
head of the queue until they have all been consumed.
-/

set_option autoImplicit false

namespace LndkFormal.Messenger

open LndkFormal.Async
open LndkFormal.Ldk
open LndkFormal.Lnd
open LndkFormal.RateLimit
open LndkFormal.Tables

def MessengerCall.concerns (peer : PublicKey) : MessengerCall → Bool
  | .peerConnected other _ => decide (other = peer)
  | .peerDisconnected other => decide (other = peer)
  | .handleOnionMessage _ _ | .nextOnionMessages _ => false

/-- The latest call that concerns the peer is a successful `peer_connected`. -/
def connectedCall (peer : PublicKey) (calls : List MessengerCall) : Prop :=
  calls.find? (MessengerCall.concerns peer) = some (.peerConnected peer true)

section Calls

variable {peer other : PublicKey} {calls : List MessengerCall}

theorem connectedCall_connected :
    connectedCall peer (.peerConnected other true :: calls) ↔
      peer = other ∨ connectedCall peer calls := by
  unfold connectedCall
  by_cases same : other = peer
  · simp [MessengerCall.concerns, same]
  · simp [MessengerCall.concerns, same, Ne.symm same]

theorem connectedCall_disconnected :
    connectedCall peer (.peerDisconnected other :: calls) ↔
      peer ≠ other ∧ connectedCall peer calls := by
  unfold connectedCall
  by_cases same : other = peer
  · simp [MessengerCall.concerns, same]
  · simp [MessengerCall.concerns, same, Ne.symm same]

theorem connectedCall_other {call : MessengerCall} (silent : call.concerns peer = false) :
    connectedCall peer (call :: calls) ↔ connectedCall peer calls := by
  simp [connectedCall, silent]

end Calls

/-- The limiter has exactly the peers that the onion messenger takes for connected. -/
def TablesAgree {cfg : RateLimiterCfg} (consumer : Consumer cfg) : Prop :=
  consumer.ledger.limiter.peers.Nodup ∧
    ∀ peer, peer ∈ consumer.ledger.limiter.peers ↔ connectedCall peer consumer.calls

def MessengerEvent.readsTables : MessengerEvent → Bool
  | .incomingMessage _ _ | .sendOutgoing => true
  | .peerConnected _ _ | .peerDisconnected _ | .producerExit _ => false

/-! ## The start-up events -/

def startup (entries : List (PublicKey × Bool)) : List MessengerEvent :=
  entries.map fun entry => .peerConnected entry.1 entry.2

/-- The start-up never waits for room in the channel, and is over before a producer runs. -/
structure StartsUp {cfg : RateLimiterCfg} (s : State cfg) : Prop where
  room : ∀ entry rest, s.main = .queueing (entry :: rest) → s.queue.length < s.capacity
  whole : s.main = .queueing [] → s.queue = startup (entriesOf s.currentPeers)
  first : s.early = true → Unspawned s

section Behind

variable {cfg : RateLimiterCfg} {clock : Clock} {consumer consumer' : Consumer cfg}
  {entry : PublicKey × Bool} {pending : List (PublicKey × Bool)}

/-- The onion messenger is behind the limiter by the pending start-up events. -/
def Consumer.Behind (consumer : Consumer cfg) (pending : List (PublicKey × Bool)) : Prop :=
  ∀ peer, consumer.ledger.limiter.online peer = true ↔
    connectedCall peer consumer.calls ∨ peer ∈ pending.map Prod.fst

theorem Consumer.online_new (clock : Clock) (cfg : RateLimiterCfg) (peers : List PublicKey)
    (peer : PublicKey) :
    (Consumer.new clock cfg peers).ledger.limiter.online peer = decide (peer ∈ peers) :=
  (balanced_new clock cfg peers).online peer

theorem behind_new (clock : Clock) (cfg : RateLimiterCfg) (support : Table PublicKey Bool) :
    (Consumer.new clock cfg support.keys).Behind (entriesOf support) := by
  intro peer
  have listed : peer ∈ (entriesOf support).map Prod.fst ↔ peer ∈ support.keys := by
    simp only [entriesOf, List.map_map]
    rfl
  have untold : ¬ connectedCall peer (Consumer.new clock cfg support.keys).calls := by
    simp [connectedCall, Consumer.new]
  rw [listed, Consumer.online_new, decide_eq_true_eq]
  exact ⟨Or.inr, fun told => told.resolve_left untold⟩

theorem Consumer.Behind.connected (holds : consumer.Behind (entry :: pending)) :
    Consumer.Behind ⟨consumer.ledger.call clock (.peerConnected entry.1),
      .peerConnected entry.1 true :: consumer.calls⟩ pending := by
  intro peer
  have before := holds peer
  rw [List.map_cons, List.mem_cons] at before
  simp only [Ledger.online_call, Bool.or_eq_true, decide_eq_true_eq, connectedCall_connected,
    before]
  tauto

/-- Once the start-up events are consumed, every event is told to both. -/
theorem Consumer.Behind.handle (holds : consumer.Behind []) {accepted : Bool}
    {event : MessengerEvent}
    (handled : consumer.handle clock accepted event = .consuming consumer') :
    consumer'.Behind [] := by
  cases event with
  | peerConnected peer support =>
      cases accepted with
      | false => cases handled
      | true =>
          cases handled
          intro other
          have before := holds other
          simp only [List.map_nil, List.not_mem_nil, or_false] at before
          simp [Ledger.online_call, connectedCall_connected, before]
  | peerDisconnected peer =>
      cases handled
      intro other
      have before := holds other
      simp only [List.map_nil, List.not_mem_nil, or_false] at before
      simp [Ledger.online_call, connectedCall_disconnected, before]
  | incomingMessage peer message =>
      cases handled
      intro other
      simp only [Ledger.online_call]
      rw [holds other]
      split
      · rw [connectedCall_other rfl]
      · rfl
  | sendOutgoing =>
      cases handled
      intro other
      simp only
      rw [connectedCall_other rfl]
      exact holds other
  | producerExit error =>
      cases handled
      exact holds

end Behind

def Loaded {cfg : RateLimiterCfg} (s : State cfg) : Prop :=
  match s.main with
  | .listing => s.queue = []
  | .queueing rest =>
      s.queue ++ startup rest = startup (entriesOf s.currentPeers) ∧
        s.capacity = (entriesOf s.currentPeers).length + 1
  | .spawningPeers | .spawningMessages | .spawningTicker | .starting =>
      startup (entriesOf s.currentPeers) <+: s.queue
  | .consuming consumer => ∃ pending, startup pending <+: s.queue ∧ consumer.Behind pending
  | .exited _ _ | .failed => True

section Loading

variable {parts : Parts} {s s' : State parts.cfg} {label : Label}

theorem Loaded.grow {events : List MessengerEvent} (holds : Loaded s) (grows : Grows s s' events)
    (quiet : s.early = true → events = []) : Loaded s' := by
  obtain ⟨main, currentPeers, capacity, queue⟩ := grows
  unfold Loaded at holds ⊢
  unfold State.early at quiet
  rw [main, currentPeers, capacity, queue]
  cases here : s.main with
  | listing | queueing rest =>
      rw [here] at holds quiet
      rw [quiet rfl, List.append_nil]
      exact holds
  | spawningPeers | spawningMessages | spawningTicker | starting =>
      rw [here] at holds
      exact holds.trans (List.prefix_append _ _)
  | consuming consumer =>
      rw [here] at holds
      obtain ⟨pending, front, behind⟩ := holds
      exact ⟨pending, front.trans (List.prefix_append _ _), behind⟩
  | exited | failed => trivial

/-- A start-up event is consumed before any other, and both tables hear of those. -/
theorem Loaded.take {consumer : Consumer parts.cfg} {event : MessengerEvent}
    {rest : List MessengerEvent} {accepted : Bool} (holds : Loaded s)
    (here : s.main = .consuming consumer) (head : s.queue = event :: rest) :
    Loaded { s with main := consumer.handle parts.clock accepted event, queue := rest } := by
  unfold Loaded at holds
  rw [here] at holds
  obtain ⟨pending, front, behind⟩ := holds
  rw [head] at front
  cases pending with
  | nil =>
      rcases consumer.handle_cases parts.clock accepted event with
        ⟨after, handled⟩ | ⟨after, handled⟩
      · rw [handled]
        exact ⟨[], List.nil_prefix, behind.handle handled⟩
      · rw [handled]
        trivial
  | cons entry pending =>
      obtain ⟨rfl, later⟩ := List.cons_prefix_cons.mp front
      cases accepted with
      | false => trivial
      | true => exact ⟨pending, later, behind.connected⟩

theorem Loaded.step (holds : Loaded s) (first : s.early = true → Unspawned s)
    (stepped : Stepped parts s label s') : Loaded s' := by
  have whole := stepped
  cases stepped with
  | listed peers here =>
      have empty : s.queue = [] := by simpa only [Loaded, here] using holds
      unfold State.listed
      split
      · exact ⟨by simp only [empty, List.nil_append], rfl⟩
      · trivial
  | unlisted => trivial
  | queued entry rest here room =>
      have loaded : s.queue ++ startup (entry :: rest) = startup (entriesOf s.currentPeers) ∧
          s.capacity = (entriesOf s.currentPeers).length + 1 := by
        simpa only [Loaded, here] using holds
      refine ⟨?_, loaded.2⟩
      rw [List.append_assoc]
      exact loaded.1
  | spawnReconnection here =>
      have loaded : s.queue ++ startup [] = startup (entriesOf s.currentPeers) ∧
          s.capacity = (entriesOf s.currentPeers).length + 1 := by
        simpa only [Loaded, here] using holds
      have all : s.queue = startup (entriesOf s.currentPeers) := by
        rw [← loaded.1]
        exact (List.append_nil _).symm
      exact all ▸ List.prefix_rfl
  | spawnPeers here | spawnMessages here | spawnTicker here =>
      simpa only [Loaded, here] using holds
  | consume here =>
      have front : startup (entriesOf s.currentPeers) <+: s.queue := by
        simpa only [Loaded, here] using holds
      exact ⟨_, front, behind_new parts.clock parts.cfg s.currentPeers⟩
  | take consumer event rest accepted here head => exact holds.take here head
  | hangUp => trivial
  | interrupt | lnd | reconnection | peers | messages | ticker =>
      obtain ⟨events, grows, quiet⟩ := whole.grows rfl first
      exact holds.grow grows quiet

theorem run_loaded {guard : Lts.Guard (State parts.cfg) Label} {labels : List Label}
    (run : (messenger parts).Run guard labels s) : Loaded s := by
  refine run.invariant (I := fun _ s => Loaded s) ?_ ?_
  · show Loaded (State.init parts.cfg)
    rfl
  intro labels s label s' before holds _ taken
  exact holds.step (run_unspawned before) (next_stepped taken)

theorem Loaded.startsUp (holds : Loaded s) (first : s.early = true → Unspawned s) :
    StartsUp s where
  room := by
    intro entry rest here
    unfold Loaded at holds
    rw [here] at holds
    have total := congrArg List.length holds.1
    simp only [startup, List.length_append, List.length_map, List.length_cons] at total
    omega
  whole := by
    intro here
    unfold Loaded at holds
    rw [here] at holds
    rw [← holds.1]
    exact (List.append_nil _).symm
  first := first

theorem Loaded.tablesAgree {consumer : Consumer parts.cfg} {event : MessengerEvent}
    {rest : List MessengerEvent} (holds : Loaded s) (here : s.main = .consuming consumer)
    (head : s.queue = event :: rest) (reads : event.readsTables = true) :
    TablesAgree consumer := by
  unfold Loaded at holds
  rw [here] at holds
  obtain ⟨pending, front, behind⟩ := holds
  cases pending with
  | cons entry pending =>
      rw [head] at front
      obtain ⟨rfl, -⟩ := List.cons_prefix_cons.mp front
      cases reads
  | nil =>
      refine ⟨TokenLimiter.nodup_peers _, fun peer => ?_⟩
      rw [TokenLimiter.mem_peers, behind peer]
      simp only [List.map_nil, List.not_mem_nil, or_false]

end Loading

/-- The tables agree whenever they are read, and the start-up events always fit. -/
theorem messenger_tablesAgree (parts : Parts) (labels : List Label) (s : State parts.cfg)
    (run : (messenger parts).Run Lts.unguarded labels s) :
    (∀ consumer event rest, s.main = .consuming consumer → s.queue = event :: rest →
      event.readsTables = true → TablesAgree consumer) ∧ StartsUp s := by
  have holds := run_loaded run
  refine ⟨?_, holds.startsUp (run_unspawned run)⟩
  intro consumer event rest here head reads
  exact holds.tablesAgree here head reads

theorem messenger_tablesAgree_startup :
    ∃ (s : State sampleParts.cfg) (consumer : Consumer sampleParts.cfg),
      s.main = .consuming consumer ∧ s.queue = [.sendOutgoing] ∧
      consumer.ledger.limiter.peers = [.repeated 2] ∧ TablesAgree consumer := by
  obtain ⟨s, consumer, followed, here, head, peers⟩ :
      ∃ s consumer, (messenger sampleParts).follow Lts.unguarded []
        (startWithPeer ++ [.ticker .tick, .ticker .send, .take true])
        (messenger sampleParts).init = some s ∧ s.main = .consuming consumer ∧
        s.queue = [.sendOutgoing] ∧ consumer.ledger.limiter.peers = [.repeated 2] :=
    ⟨_, _, rfl, rfl, rfl, rfl⟩
  have holds := messenger_tablesAgree sampleParts _ s (Lts.run_of_follow followed)
  exact ⟨s, consumer, here, head, peers, holds.1 consumer .sendOutgoing [] here head rfl⟩

end LndkFormal.Messenger
