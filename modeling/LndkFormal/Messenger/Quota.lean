import LndkFormal.Messenger.Startup

/-!
# Which messages are dropped

The consumer drops a message when the limiter refuses its peer.  For a peer that
stays connected this means that its quota is used up, or that its connection is
not yet known: the lookup of its onion support makes the peer's messages overtake it.
-/

set_option autoImplicit false

namespace LndkFormal.Messenger

open LndkFormal.Async
open LndkFormal.Ldk
open LndkFormal.RateLimit
open LndkFormal.Tables

def Label.message : Label → Option CustomMessage
  | .lnd (.message message) => some message
  | _ => none

/-- LND tells of a change, or passes on a message, only after it has happened; the
peer never disconnects, and connects before it sends its first message. -/
def keepsConnected (ldk : Library) (peer : PublicKey) (past : List Label) : Label → Bool
  | .lnd (.offline other) => decide (other ≠ peer)
  | .lnd (.message message) =>
      decide (ldk.publicKeyFromSlice message.peer ≠ some peer) ||
        past.any fun label => decide (label.change = some (.added peer))
  | .peers (.receive (.ok event)) =>
      match event.change ldk with
      | some change => past.any fun label => decide (label.change = some change)
      | none => true
  | .messages (.receive (.ok message)) =>
      past.any fun label => decide (label.message = some message)
  | _ => true

def steady (parts : Parts) (peer : PublicKey) : Lts.Guard (State parts.cfg) Label :=
  fun past _ label => keepsConnected parts.ldk peer past label = true

instance (parts : Parts) (peer : PublicKey) (past : List Label) (s : State parts.cfg)
    (label : Label) : Decidable (steady parts peer past s label) :=
  inferInstanceAs (Decidable (_ = true))

section Connected

variable {parts : Parts} {peer : PublicKey} {s s' : State parts.cfg} {label : Label}

/-- The consumer has not been told that the peer is gone, and its books are those of its
calls. -/
structure Consumer.Keeps {cfg : RateLimiterCfg} (peer : PublicKey) (peers : List PublicKey)
    (consumer : Consumer cfg) : Prop where
  balanced : Balanced peers consumer.ledger
  kept : .disconnected peer ∉ consumer.ledger.history
  connected : .peerConnected peer true ∈ consumer.calls →
    .connected peer ∈ consumer.ledger.history

structure Kept (peer : PublicKey) (labels : List Label) (s : State parts.cfg) : Prop where
  lnd : ∀ label ∈ labels, label.change ≠ some (.removed peer)
  queue : ∀ event ∈ s.queue, event.change ≠ some (.removed peer)
  inHand : .removed peer ∉ s.peers.inHand
  handed : s.messages.Handed
  consumer : ∀ consumer, s.main = .consuming consumer →
    consumer.Keeps peer s.currentPeers.keys

theorem Consumer.Keeps.handle {clock : Clock} {peers : List PublicKey}
    {consumer consumer' : Consumer parts.cfg} {accepted : Bool} {event : MessengerEvent}
    (holds : consumer.Keeps peer peers) (stays : event.change ≠ some (.removed peer))
    (handled : consumer.handle clock accepted event = .consuming consumer') :
    consumer'.Keeps peer peers := by
  obtain ⟨balanced, kept, connected⟩ := holds
  have books : ∀ call, Balanced peers (consumer.ledger.call clock call) :=
    fun call => balanced.call call
  cases event with
  | peerConnected other support =>
      cases accepted with
      | false => cases handled
      | true =>
          cases handled
          refine ⟨books (.peerConnected other), ?_, ?_⟩
          · simpa [Ledger.call] using kept
          · intro told
            rcases List.mem_cons.mp told with same | earlier
            · cases same
              exact List.mem_cons_self
            · exact List.mem_cons_of_mem _ (connected earlier)
  | peerDisconnected other =>
      cases handled
      have different : peer ≠ other := fun same => stays (by rw [same]; rfl)
      refine ⟨books (.peerDisconnected other), ?_, ?_⟩
      · simpa [Ledger.call, different] using kept
      · intro told
        rcases List.mem_cons.mp told with same | earlier
        · cases same
        · exact List.mem_cons_of_mem _ (connected earlier)
  | incomingMessage other message =>
      cases handled
      refine ⟨books (.queryPeer other), ?_, ?_⟩
      · simpa [Ledger.call] using kept
      · intro told
        refine List.mem_cons_of_mem _ (connected ?_)
        simp only at told
        split at told
        · simpa using told
        · exact told
  | sendOutgoing =>
      cases handled
      exact ⟨balanced, kept, fun told => connected (by simpa using told)⟩
  | producerExit error =>
      cases handled
      exact ⟨balanced, kept, connected⟩

theorem Consumer.keeps_new (clock : Clock) (cfg : RateLimiterCfg) (peers : List PublicKey) :
    (Consumer.new clock cfg peers).Keeps peer peers where
  balanced := balanced_new clock cfg peers
  kept := List.not_mem_nil
  connected := fun told => absurd told List.not_mem_nil

theorem Reconnection.next_sends {shutdown : Bool} {task : Reconnection} {move : ReconnectionMove}
    {event : MessengerEvent} {sent failed : Reconnection}
    (taken : task.next parts shutdown move = some (.send event sent failed)) :
    event.change ≠ some (.removed peer) := by
  unfold Reconnection.next at taken
  split at taken
  case h_1 | h_2 | h_3 => cases (onShutdown_cases taken).2
  case h_6 | h_7 => split at taken <;> cases taken
  case h_8 =>
      cases taken
      exact nofun
  all_goals cases taken

theorem PeerProducer.next_sends {shutdown : Bool} {task : PeerProducer} {move : PeerMove}
    {event : MessengerEvent} {sent failed : PeerProducer}
    (taken : task.next parts shutdown move = some (.send event sent failed))
    (inHand : .removed peer ∉ task.inHand) : event.change ≠ some (.removed peer) := by
  unfold PeerProducer.next at taken
  split at taken
  case h_2 => split at taken <;> cases taken
  case h_3 => cases (onShutdown_cases taken).2
  case h_4 => split at taken <;> cases taken
  case h_7 =>
      cases taken
      intro gone
      exact inHand (by simp [PeerProducer.inHand, gone])
  case h_8 =>
      cases taken
      intro gone
      cases gone
  all_goals cases taken

theorem PeerProducer.next_inHand {shutdown : Bool} {task : PeerProducer} {move : PeerMove}
    {done : Local PeerProducer} (taken : task.next parts shutdown move = some done)
    (inHand : .removed peer ∉ task.inHand)
    (stays : ∀ event, move = .receive (.ok event) →
      event.change parts.ldk ≠ some (.removed peer)) :
    done.leads fun task => .removed peer ∉ task.inHand := by
  unfold PeerProducer.next at taken
  split at taken
  case h_2 => split at taken <;> cases taken <;> exact List.not_mem_nil
  case h_3 =>
      obtain ⟨-, rfl⟩ := onShutdown_cases taken
      exact List.not_mem_nil
  case h_4 event =>
      have delivered := stays event rfl
      unfold PeerEvent.change at delivered
      split at taken
      next => cases taken; exact List.not_mem_nil
      next pubkey parsed kind =>
        cases taken
        simp [Local.leads, PeerProducer.inHand]
      next pubkey parsed kind =>
        cases taken
        rw [parsed, kind] at delivered
        intro gone
        exact delivered (by simpa [PeerProducer.inHand, MessengerEvent.change, eq_comm] using gone)
  case h_6 =>
      cases taken
      simp [Local.leads, PeerProducer.inHand, MessengerEvent.change]
  case h_7 | h_8 =>
      cases taken
      exact ⟨List.not_mem_nil, List.not_mem_nil⟩
  case h_10 => cases taken
  all_goals
    cases taken
    exact List.not_mem_nil

variable {labels labels' : List Label}

theorem Kept.grow {events : List MessengerEvent} (holds : Kept peer labels s)
    (lnd : ∀ label ∈ labels', label.change ≠ some (.removed peer)) (grows : Grows s s' events)
    (stays : ∀ event ∈ events, event.change ≠ some (.removed peer))
    (inHand : .removed peer ∉ s'.peers.inHand) (handed : s'.messages.Handed) :
    Kept peer labels' s' where
  lnd := lnd
  queue := by
    rw [grows.queue]
    intro event member
    rcases List.mem_append.mp member with queued | new
    · exact holds.queue event queued
    · exact stays event new
  inHand := inHand
  handed := handed
  consumer := by
    rw [grows.main, grows.currentPeers]
    exact holds.consumer

theorem keepsConnected_change {ldk : Library}
    (keeps : keepsConnected ldk peer labels label = true) :
    label.change ≠ some (.removed peer) := by
  cases label with
  | lnd change =>
      cases change with
      | offline other =>
          intro gone
          cases gone
          simp [keepsConnected] at keeps
      | _ => exact nofun
  | _ => exact nofun

theorem Kept.step (holds : Kept peer labels s)
    (keeps : keepsConnected parts.ldk peer labels label = true)
    (stepped : Stepped parts s label s') : Kept peer (labels ++ [label]) s' := by
  have lnd : ∀ earlier ∈ labels ++ [label], earlier.change ≠ some (.removed peer) := by
    intro earlier member
    rcases List.mem_append.mp member with old | new
    · exact holds.lnd earlier old
    · rw [List.mem_singleton.mp new]
      exact keepsConnected_change keeps
  cases stepped with
  | listed peers here =>
      unfold State.listed
      split <;> exact ⟨lnd, holds.queue, holds.inHand, holds.handed, fun _ here => by cases here⟩
  | unlisted | hangUp | spawnReconnection | spawnTicker =>
      exact ⟨lnd, holds.queue, holds.inHand, holds.handed, fun _ here => by cases here⟩
  | spawnPeers =>
      exact ⟨lnd, holds.queue, List.not_mem_nil, holds.handed, fun _ here => by cases here⟩
  | spawnMessages =>
      refine ⟨lnd, holds.queue, holds.inHand, ?_, fun _ here => by cases here⟩
      intro event sending
      cases sending
  | queued entry rest =>
      refine ⟨lnd, ?_, holds.inHand, holds.handed, fun _ here => by cases here⟩
      intro event member
      rcases List.mem_append.mp member with old | new
      · exact holds.queue event old
      · rw [List.mem_singleton.mp new]
        intro gone
        cases gone
  | consume =>
      refine ⟨lnd, holds.queue, holds.inHand, holds.handed, ?_⟩
      intro consumer here
      cases here
      exact Consumer.keeps_new parts.clock parts.cfg s.currentPeers.keys
  | take consumer event rest accepted here head =>
      have queue := holds.queue
      rw [head] at queue
      refine ⟨lnd, fun event later => queue event (List.mem_cons_of_mem _ later), holds.inHand,
        holds.handed, ?_⟩
      intro after handled
      exact (holds.consumer consumer here).handle (queue event List.mem_cons_self) handled
  | interrupt | lnd =>
      exact ⟨lnd, holds.queue, holds.inHand, holds.handed, holds.consumer⟩
  | reconnection move done taken performed =>
      obtain ⟨shared, task, effect, rfl⟩ := perform_cases performed
      obtain ⟨events, grows, sent⟩ := effect.grows
      refine holds.grow lnd (grows.setReconnection task) ?_ ?_ ?_
      · intro event member
        obtain ⟨_, _, rfl⟩ := sent event member
        exact Reconnection.next_sends taken
      · simpa only [State.setReconnection, effect.peers] using holds.inHand
      · simpa only [State.setReconnection, effect.messages] using holds.handed
  | peers move done taken performed =>
      obtain ⟨shared, task, effect, rfl⟩ := perform_cases performed
      obtain ⟨events, grows, sent⟩ := effect.grows
      refine holds.grow lnd (grows.setPeers task) ?_ ?_ ?_
      · intro event member
        obtain ⟨_, _, rfl⟩ := sent event member
        exact PeerProducer.next_sends taken holds.inHand
      · refine effect.leads (PeerProducer.next_inHand taken holds.inHand ?_)
        -- a disconnection would have to be told by LND first
        rintro event rfl gone
        simp only [keepsConnected, gone, List.any_eq_true, decide_eq_true_eq] at keeps
        obtain ⟨earlier, member, told⟩ := keeps
        exact holds.lnd earlier member told
      · simpa only [State.setPeers, effect.messages] using holds.handed
  | messages move done taken performed =>
      obtain ⟨shared, task, effect, rfl⟩ := perform_cases performed
      obtain ⟨aside, leads⟩ := MessageProducer.next_aside taken holds.handed
      obtain ⟨events, grows, sent⟩ := effect.grows
      refine holds.grow lnd (grows.setMessages task) ?_ ?_ (effect.leads leads)
      · intro event member
        obtain ⟨_, _, rfl⟩ := sent event member
        intro gone
        rw [show event.change = none from aside] at gone
        cases gone
      · simpa only [State.setMessages, effect.peers] using holds.inHand
  | ticker move done taken performed =>
      obtain ⟨shared, task, effect, rfl⟩ := perform_cases performed
      have aside := Ticker.next_aside taken
      obtain ⟨events, grows, sent⟩ := effect.grows
      refine holds.grow lnd (grows.setTicker task) ?_ ?_ ?_
      · intro event member
        obtain ⟨_, _, rfl⟩ := sent event member
        intro gone
        rw [show event.change = none from aside] at gone
        cases gone
      · simpa only [State.setTicker, effect.peers] using holds.inHand
      · simpa only [State.setTicker, effect.messages] using holds.handed

theorem run_kept (run : (messenger parts).Run (steady parts peer) labels s) :
    Kept peer labels s := by
  refine run.invariant (I := Kept peer) ?_ ?_
  · refine ⟨?_, ?_, List.not_mem_nil, ?_, ?_⟩
    · intro label member
      cases member
    · intro event member
      cases member
    · intro event sending
      cases sending
    · intro consumer here
      cases here
  · intro labels s label s' _ holds keeps taken
    exact holds.step keeps (next_stepped taken)

end Connected

/-! ## Why a message is dropped -/

section Dropped

variable {cfg : RateLimiterCfg}

/-- As many messages of the peer as its quota allows have been passed on since the
limiter's last update.  A query is granted exactly when its message is passed on. -/
def Exhausted (peer : PublicKey) (consumer : Consumer cfg) : Prop :=
  grantedInPeriod peer consumer.ledger.history = cfg.callCount.toNat

/-- The peer was not listed at the start, and its connection has not been consumed. -/
def Unheard (peer : PublicKey) (s : State cfg) (consumer : Consumer cfg) : Prop :=
  peer ∉ s.currentPeers.keys ∧ .peerConnected peer true ∉ consumer.calls

end Dropped

/-- A message of a peer that stays connected is passed on, unless the peer's quota is used
up or its connection has not reached the consumer. -/
theorem steady_passedOn (parts : Parts) (peer : PublicKey) (labels : List Label)
    (s s' : State parts.cfg) (run : (messenger parts).Run (steady parts peer) labels s)
    (consumer : Consumer parts.cfg) (message : OnionMessage) (rest : List MessengerEvent)
    (accepted : Bool) (here : s.main = .consuming consumer)
    (head : s.queue = .incomingMessage peer message :: rest)
    (taken : (messenger parts).next s (.take accepted) = some s') :
    ∃ consumer', s'.main = .consuming consumer' ∧
      (consumer'.calls = .handleOnionMessage peer message :: consumer.calls ∨
        Exhausted peer consumer' ∨ Unheard peer s consumer) := by
  obtain ⟨balanced, kept, connected⟩ := (run_kept run).consumer consumer here
  simp only [messenger, State.next, here, head, Option.some.injEq] at taken
  subst taken
  refine ⟨_, rfl, ?_⟩
  cases granted : (consumer.ledger.limiter.queryPeer parts.clock peer).1 with
  | true => exact Or.inl rfl
  | false =>
      right
      by_cases unheard : Unheard peer s consumer
      · exact Or.inr unheard
      · left
        have known : peer ∈ s.currentPeers.keys ∨ .connected peer ∈ consumer.ledger.history := by
          by_contra unknown
          rw [not_or] at unknown
          exact unheard ⟨unknown.1, fun told => unknown.2 (connected told)⟩
        exact balanced.exhausted kept known granted

def sampleMessage : CustomMessage := ⟨List.replicate 33 2, ONION_MESSAGE_TYPE, []⟩

def peerOnline : List Label :=
  startAlone ++ [.peers (.subscribe (.ok ())), .messages .begin, .messages (.subscribe (.ok ())),
    .lnd (.online (.repeated 2)), .peers (.receive (.ok ⟨"", .peerOnline⟩))]

def messageQueued : List Label :=
  [.lnd (.message sampleMessage), .messages (.receive (.ok sampleMessage)), .messages .send]

def messageAfterConnection : List Label :=
  peerOnline ++ [.peers (.support true), .peers .send, .take true] ++ messageQueued

/-- The lookup of the peer's onion support takes longer than its first message. -/
def messageOvertakes : List Label := peerOnline ++ messageQueued

/-- A message after the connection is passed on: it is the first of two that are allowed. -/
theorem steady_passedOn_connected :
    ∃ (s s' : State sampleParts.cfg) (consumer consumer' : Consumer sampleParts.cfg),
      (messenger sampleParts).Run (steady sampleParts (.repeated 2)) messageAfterConnection s ∧
      s.main = .consuming consumer ∧ s.queue = [.incomingMessage (.repeated 2) ⟨[]⟩] ∧
      (messenger sampleParts).next s (.take true) = some s' ∧ s'.main = .consuming consumer' ∧
      consumer'.calls = .handleOnionMessage (.repeated 2) ⟨[]⟩ :: consumer.calls := by
  obtain ⟨s, s', consumer, consumer', followed, here, head, taken, after, heard, granted⟩ :
      ∃ s s' consumer consumer',
      (messenger sampleParts).follow (steady sampleParts (.repeated 2)) []
        messageAfterConnection (messenger sampleParts).init = some s ∧
      s.main = .consuming consumer ∧ s.queue = [.incomingMessage (.repeated 2) ⟨[]⟩] ∧
      (messenger sampleParts).next s (.take true) = some s' ∧
      s'.main = .consuming consumer' ∧ consumer.calls = [.peerConnected (.repeated 2) true] ∧
      grantedInPeriod (.repeated 2) consumer'.ledger.history = 1 :=
    ⟨_, _, _, _, rfl, rfl, rfl, rfl, rfl, rfl, rfl⟩
  have run := Lts.run_of_follow followed
  obtain ⟨final, same, reason⟩ := steady_passedOn sampleParts (.repeated 2) _ s s' run consumer
    ⟨[]⟩ [] true here head taken
  rw [after] at same
  cases same
  refine ⟨s, s', consumer, consumer', run, here, head, taken, after, ?_⟩
  rcases reason with passed | exhausted | unheard
  · exact passed
  · rw [Exhausted, granted] at exhausted
    cases exhausted
  · exact absurd (by rw [heard]; exact List.mem_cons_self) unheard.2

/-- The first message of a peer is dropped although none of its messages was passed on. -/
theorem steady_overtaken :
    ¬ ∀ (labels : List Label) (s s' : State sampleParts.cfg)
        (consumer : Consumer sampleParts.cfg) (message : OnionMessage)
        (rest : List MessengerEvent) (accepted : Bool),
      (messenger sampleParts).Run (steady sampleParts (.repeated 2)) labels s →
      s.main = .consuming consumer →
      s.queue = .incomingMessage (.repeated 2) message :: rest →
      (messenger sampleParts).next s (.take accepted) = some s' →
      ∃ consumer', s'.main = .consuming consumer' ∧
        (consumer'.calls = .handleOnionMessage (.repeated 2) message :: consumer.calls ∨
          Exhausted (.repeated 2) consumer') := by
  intro claim
  obtain ⟨s, s', consumer, consumer', followed, here, head, taken, after, calls, unused⟩ :
      ∃ s s' consumer consumer',
      (messenger sampleParts).follow (steady sampleParts (.repeated 2)) []
        messageOvertakes (messenger sampleParts).init = some s ∧
      s.main = .consuming consumer ∧ s.queue = [.incomingMessage (.repeated 2) ⟨[]⟩] ∧
      (messenger sampleParts).next s (.take true) = some s' ∧
      s'.main = .consuming consumer' ∧ consumer'.calls = [] ∧
      grantedInPeriod (.repeated 2) consumer'.ledger.history = 0 :=
    ⟨_, _, _, _, rfl, rfl, rfl, rfl, rfl, rfl, rfl⟩
  obtain ⟨final, same, reason⟩ :=
    claim _ s s' consumer _ _ true (Lts.run_of_follow followed) here head taken
  rw [after] at same
  cases same
  rcases reason with handed | exhausted
  · rw [calls] at handed
    cases handed
  · rw [Exhausted, unused] at exhausted
    cases exhausted

end LndkFormal.Messenger
