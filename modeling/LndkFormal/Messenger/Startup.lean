import LndkFormal.Messenger.PeerTables
import LndkFormal.Tables.Changes

/-!
# The snapshot and the subscription

`run_onion_messenger` lists LND's peers and later subscribes to their changes.
LND is a set of connected peers and, once it is asked, a stream of the changes.
What the consumer has, changed by what is still under way to it, is LND's set,
unless LND changes after the list is made and before the subscription is opened.
-/

set_option autoImplicit false

namespace LndkFormal.Messenger

open LndkFormal.Async
open LndkFormal.Ldk
open LndkFormal.Lnd
open LndkFormal.RateLimit
open LndkFormal.Tables

structure Lnd where
  connected : Finset PublicKey
  /-- The changes not yet delivered, once the subscription is open. -/
  stream : Option (List (Change PublicKey))

def LndChange.change : LndChange → Option (Change PublicKey)
  | .online peer => some (.added peer)
  | .offline peer => some (.removed peer)
  | .message _ => none

def Label.change : Label → Option (Change PublicKey)
  | .lnd change => change.change
  | _ => none

def PeerEvent.change (ldk : Library) (event : PeerEvent) : Option (Change PublicKey) :=
  (ldk.publicKeyFromStr event.pubKey).map fun peer =>
    match event.type with
    | .peerOnline => .added peer
    | .peerOffline => .removed peer

namespace Lnd

def step (lnd : Lnd) : Label → Lnd
  | .lnd change =>
      match change.change with
      | some change =>
          ⟨change.apply lnd.connected, lnd.stream.map fun changes => changes ++ [change]⟩
      | none => lnd
  | .peers (.subscribe (.ok ())) => { lnd with stream := some [] }
  | .peers (.receive _) => { lnd with stream := lnd.stream.map List.tail }
  | _ => lnd

/-- LND after what has happened; at first nobody is connected to it. -/
def after (labels : List Label) : Lnd := labels.foldl step ⟨∅, none⟩

/-- LND lists who is connected, delivers the changes in order, and does not fail. -/
def answers (ldk : Library) (lnd : Lnd) : Label → Bool
  | .listPeers (.ok peers) =>
      match buildPeerSupport ldk peers with
      | some support => decide (support.keys.toFinset = lnd.connected)
      | none => false
  | .peers (.subscribe (.error _)) => false
  | .peers (.receive (.ok event)) =>
      match lnd.stream with
      | some (change :: _) => decide (event.change ldk = some change)
      | _ => false
  | .peers (.receive (.error _)) => false
  | _ => true

end Lnd

def MessengerEvent.change : MessengerEvent → Option (Change PublicKey)
  | .peerConnected peer _ => some (.added peer)
  | .peerDisconnected peer => some (.removed peer)
  | .incomingMessage _ _ | .sendOutgoing | .producerExit _ => none

/-- The change that the producer of peer events has received and not yet sent. -/
def PeerProducer.inHand : PeerProducer → List (Change PublicKey)
  | .lookingUp peer => [.added peer]
  | .sending event => event.change.toList
  | _ => []

section Knowledge

variable {cfg : RateLimiterCfg}

/-- The peers that the consumer has, or will start with. -/
def State.known (s : State cfg) : Option (Finset PublicKey) :=
  match s.main with
  | .listing | .exited _ _ | .failed => none
  | .queueing _ | .spawningPeers | .spawningMessages | .spawningTicker | .starting =>
      some s.currentPeers.keys.toFinset
  | .consuming consumer => some consumer.ledger.limiter.peers.toFinset

/-- The changes between LND and the consumer, the next to be consumed first. -/
def State.pending (lnd : Lnd) (s : State cfg) : List (Change PublicKey) :=
  s.queue.filterMap MessengerEvent.change ++ s.peers.inHand ++ lnd.stream.getD []

def State.unlisted (s : State cfg) : Bool :=
  match s.main with
  | .listing => true
  | _ => false

/-- The subscription is open, and all it has delivered has been consumed. -/
structure Settled (labels : List Label) (s : State cfg) (consumer : Consumer cfg) : Prop where
  consuming : s.main = .consuming consumer
  read : (Lnd.after labels).stream = some []
  free : s.peers.inHand = []
  empty : s.queue = []

end Knowledge

def truthful (parts : Parts) : Lts.Guard (State parts.cfg) Label := fun past _ label =>
  (Lnd.after past).answers parts.ldk label = true

/-- LND answers truly, and nobody connects or disconnects after the list is made and
before the subscription is opened. -/
def gapless (parts : Parts) : Lts.Guard (State parts.cfg) Label := fun past s label =>
  (Lnd.after past).answers parts.ldk label = true ∧ (label.change.isSome = true →
    s.unlisted = true ∨ (Lnd.after past).stream.isSome = true)

instance (parts : Parts) (past : List Label) (s : State parts.cfg) (label : Label) :
    Decidable (truthful parts past s label) :=
  inferInstanceAs (Decidable (_ = true))

instance (parts : Parts) (past : List Label) (s : State parts.cfg) (label : Label) :
    Decidable (gapless parts past s label) :=
  inferInstanceAs (Decidable (_ ∧ (_ → _ ∨ _)))

/-! ## The set of peers is carried over -/

def PeerProducer.unsubscribed : PeerProducer → Bool
  | .unborn | .subscribing => true
  | _ => false

def Reconnection.asleep : Reconnection → Bool
  | .unborn | .polling | .waiting | .finished => true
  | _ => false

def MessageProducer.Handed (task : MessageProducer) : Prop :=
  ∀ event, task = .sending event → event.change = none

/-- What the consumer knows and what is under way make up LND's set. -/
structure Synced {cfg : RateLimiterCfg} (lnd : Lnd) (s : State cfg) : Prop where
  caught : ∀ known, s.known = some known → replay known (s.pending lnd) = lnd.connected
  closed : s.peers.unsubscribed = true → lnd.stream = none
  asleep : s.reconnection.asleep = true
  handed : s.messages.Handed

section Carrying

variable {parts : Parts} {lnd lnd' : Lnd} {s s' : State parts.cfg} {label : Label}

theorem Synced.carried {events : List MessengerEvent} (holds : Synced lnd s)
    (grows : Grows s s' events) (connected : lnd'.connected = lnd.connected)
    (moved : ∀ known, s.known = some known →
      events.filterMap MessengerEvent.change ++ s'.peers.inHand ++ lnd'.stream.getD [] =
        s.peers.inHand ++ lnd.stream.getD []) :
    ∀ known, s'.known = some known → replay known (s'.pending lnd') = lnd'.connected := by
  obtain ⟨main, currentPeers, -, queue⟩ := grows
  intro known found
  have same : s.known = some known := by
    rw [← found]
    simp only [State.known, main, currentPeers]
  have pending : s'.pending lnd' = s.pending lnd := by
    simp only [State.pending, queue, List.filterMap_append, List.append_assoc]
    rw [← List.append_assoc (events.filterMap _), moved known same]
  rw [pending, connected]
  exact holds.caught known same

theorem State.known_hungUp (closed : s.hungUp = true) : s.known = none := by
  unfold State.hungUp at closed
  split at closed
  next here => simp only [State.known, here]
  next => cases closed

/-- The move keeps the changes that are in hand or still with LND. -/
def Local.carries (before after : List (Change PublicKey)) : Local PeerProducer → Prop
  | .goto task | .trigger task => task.unsubscribed = false ∧ task.inHand ++ after = before
  | .send event sent failed =>
      sent.unsubscribed = false ∧ failed.unsubscribed = false ∧
        event.change.toList ++ sent.inHand ++ after = before
  | .notify _ => False

theorem Performed.carried {shared : State parts.cfg} {done : Local PeerProducer}
    {task : PeerProducer} {before after : List (Change PublicKey)}
    (performed : Performed s done shared task) (carries : done.carries before after) :
    ∃ events, Grows s shared events ∧ task.unsubscribed = false ∧
      shared.reconnection = s.reconnection ∧
      ∀ known, s.known = some known →
        events.filterMap MessengerEvent.change ++ task.inHand ++ after = before := by
  cases performed with
  | goto _ kind =>
      rw [kind] at carries
      exact ⟨[], ⟨rfl, rfl, rfl, (List.append_nil _).symm⟩, carries.1, rfl,
        fun _ _ => carries.2⟩
  | sent event _ failed kind =>
      rw [kind] at carries
      refine ⟨[event], ⟨rfl, rfl, rfl, rfl⟩, carries.1, rfl, fun _ _ => ?_⟩
      rw [← carries.2.2]
      cases event <;> rfl
  | refused event sent _ kind closed =>
      rw [kind] at carries
      refine ⟨[], ⟨rfl, rfl, rfl, (List.append_nil _).symm⟩, carries.2.1, rfl, ?_⟩
      intro known found
      -- the event is lost, but the consumer is gone
      rw [State.known_hungUp closed] at found
      cases found
  | woke _ kind | unheard _ kind =>
      rw [kind] at carries
      exact carries.elim
  | triggered _ kind =>
      rw [kind] at carries
      exact ⟨[], ⟨rfl, rfl, rfl, (List.append_nil _).symm⟩, carries.1, rfl,
        fun _ _ => carries.2⟩

/-- The producer of peer events loses no change that LND delivers. -/
theorem PeerProducer.next_carries {shutdown : Bool} {task : PeerProducer} {move : PeerMove}
    {done : Local PeerProducer} (taken : task.next parts shutdown move = some done)
    (answered : lnd.answers parts.ldk (.peers move) = true)
    (closed : task.unsubscribed = true → lnd.stream = none) :
    done.carries (task.inHand ++ lnd.stream.getD [])
      ((lnd.step (.peers move)).stream.getD []) := by
  unfold PeerProducer.next at taken
  split at taken
  case h_1 =>
      cases taken
      rw [closed rfl]
      exact ⟨rfl, rfl⟩
  case h_2 => cases answered
  case h_3 =>
      obtain ⟨-, rfl⟩ := onShutdown_cases taken
      exact ⟨rfl, rfl⟩
  case h_4 event =>
      simp only [Lnd.answers] at answered
      split at answered
      next change rest delivered =>
        -- the change at the head of the stream is now in hand
        have after : (lnd.step (.peers (.receive (.ok event)))).stream.getD [] = rest := by
          simp only [Lnd.step, delivered, Option.map_some, List.tail_cons, Option.getD_some]
        rw [after, delivered]
        simp only [PeerEvent.change, decide_eq_true_eq, Option.map_eq_some_iff] at answered
        obtain ⟨peer, parsed, rfl⟩ := answered
        rw [parsed] at taken
        cases kind : event.type <;>
          · rw [kind] at taken
            cases taken
            exact ⟨rfl, rfl⟩
      next => cases answered
  case h_5 => cases answered
  case h_6 | h_9 =>
      cases taken
      exact ⟨rfl, rfl⟩
  case h_7 event =>
      cases taken
      refine ⟨rfl, rfl, ?_⟩
      rw [show PeerProducer.receiving.inHand = [] from rfl, List.append_nil]
      rfl
  case h_8 =>
      cases taken
      exact ⟨rfl, rfl, rfl⟩
  case h_10 => cases taken

/-- A listener that has never been woken sends nothing and is not woken by itself. -/
theorem Reconnection.next_asleep {shutdown : Bool} {task : Reconnection}
    {move : ReconnectionMove} {done : Local Reconnection}
    (taken : task.next parts shutdown move = some done) (asleep : task.asleep = true) :
    ∃ task', done = .goto task' ∧ task'.asleep = true := by
  unfold Reconnection.next at taken
  split at taken
  case h_1 | h_2 =>
      obtain ⟨-, rfl⟩ := onShutdown_cases taken
      exact ⟨_, rfl, rfl⟩
  case h_4 =>
      cases taken
      exact ⟨_, rfl, rfl⟩
  case h_10 => cases taken
  all_goals cases asleep

def Local.aside {T : Type} : Local T → Prop
  | .send event _ _ => event.change = none
  | .notify _ => False
  | .goto _ | .trigger _ => True

theorem Performed.aside {T : Type} {shared : State parts.cfg} {done : Local T} {task : T}
    (performed : Performed s done shared task) (aside : done.aside) :
    ∃ events, Grows s shared events ∧ events.filterMap MessengerEvent.change = [] ∧
      shared.reconnection = s.reconnection := by
  cases performed with
  | sent event _ failed kind =>
      rw [kind] at aside
      exact ⟨[event], ⟨rfl, rfl, rfl, rfl⟩, List.filterMap_cons_none aside, rfl⟩
  | woke _ kind | unheard _ kind =>
      rw [kind] at aside
      exact aside.elim
  | goto | refused | triggered =>
      exact ⟨[], ⟨rfl, rfl, rfl, (List.append_nil _).symm⟩, rfl, rfl⟩

theorem MessageProducer.next_aside {shutdown : Bool} {task : MessageProducer}
    {move : MessageMove} {done : Local MessageProducer}
    (taken : task.next parts shutdown move = some done) (handed : task.Handed) :
    done.aside ∧ done.leads Handed := by
  unfold MessageProducer.next at taken
  split at taken
  case h_1 | h_5 =>
      obtain ⟨-, rfl⟩ := onShutdown_cases taken
      exact ⟨trivial, nofun⟩
  case h_4 =>
      split at taken <;> cases taken <;> exact ⟨trivial, nofun⟩
  case h_6 =>
      split at taken
      · cases taken
        exact ⟨trivial, nofun⟩
      · split at taken
        · cases taken
          exact ⟨trivial, nofun⟩
        · split at taken
          · cases taken
            refine ⟨trivial, fun event same => ?_⟩
            cases same
            rfl
          · cases taken
            exact ⟨trivial, nofun⟩
  case h_8 event =>
      cases taken
      exact ⟨handed event rfl, nofun, nofun⟩
  case h_9 =>
      cases taken
      exact ⟨rfl, nofun, nofun⟩
  case h_10 => cases taken
  all_goals
    cases taken
    exact ⟨trivial, nofun⟩

theorem Ticker.next_aside {shutdown : Bool} {task : Ticker} {move : TickerMove}
    {done : Local Ticker} (taken : task.next shutdown move = some done) : done.aside := by
  unfold Ticker.next at taken
  split at taken
  case h_1 =>
      obtain ⟨-, rfl⟩ := onShutdown_cases taken
      trivial
  case h_3 =>
      cases taken
      rfl
  case h_5 => cases taken
  all_goals
    cases taken
    trivial

/-- Before the producers are spawned, the queue says nothing new. -/
theorem Loaded.superfluous {rest : List (PublicKey × Bool)} (loaded : Loaded s)
    (here : s.main = .queueing rest) :
    replay s.currentPeers.keys.toFinset (s.queue.filterMap MessengerEvent.change) =
      s.currentPeers.keys.toFinset := by
  unfold Loaded at loaded
  rw [here] at loaded
  refine replay_superfluous fun change member => ?_
  obtain ⟨event, queued, said⟩ := List.mem_filterMap.mp member
  have listed : event ∈ startup (entriesOf s.currentPeers) := by
    rw [← loaded.1]
    exact List.mem_append_left _ queued
  obtain ⟨entry, known, rfl⟩ := List.mem_map.mp listed
  obtain ⟨stored, found, rfl⟩ := List.mem_map.mp known
  refine ⟨stored.1, ?_, (Option.some.inj said).symm⟩
  exact List.mem_toFinset.mpr (List.mem_map_of_mem found)

theorem Consumer.peers_handle {clock : Clock} {consumer consumer' : Consumer parts.cfg}
    {accepted : Bool} {event : MessengerEvent}
    (handled : consumer.handle clock accepted event = .consuming consumer') :
    consumer'.ledger.limiter.peers.toFinset =
      replay consumer.ledger.limiter.peers.toFinset event.change.toList := by
  cases event with
  | peerConnected peer support =>
      cases accepted with
      | false => cases handled
      | true =>
          cases handled
          ext other
          simp [TokenLimiter.mem_peers, Ledger.online_call, MessengerEvent.change, Change.apply]
  | peerDisconnected peer =>
      cases handled
      ext other
      simp [TokenLimiter.mem_peers, Ledger.online_call, MessengerEvent.change, Change.apply]
  | incomingMessage peer message =>
      cases handled
      ext other
      simp [TokenLimiter.mem_peers, Ledger.online_call, MessengerEvent.change]
  | sendOutgoing | producerExit =>
      cases handled
      rfl

theorem Consumer.peers_new (clock : Clock) (support : Table PublicKey Bool) :
    (Consumer.new clock parts.cfg support.keys).ledger.limiter.peers.toFinset =
      support.keys.toFinset := by
  ext peer
  simp only [List.mem_toFinset, TokenLimiter.mem_peers, Consumer.online_new, decide_eq_true_eq]

theorem State.pending_unspawned (first : Unspawned s) (closed : lnd.stream = none) :
    s.pending lnd = s.queue.filterMap MessengerEvent.change := by
  simp [State.pending, first.peers, PeerProducer.inHand, closed]

theorem Synced.caught_main (holds : Synced lnd s) (loaded : Loaded s) (loaded' : Loaded s')
    (first : s.early = true → Unspawned s) (unborn : Unborn s)
    (answered : lnd.answers parts.ldk label = true)
    (main : label.isMain = true) (stepped : Stepped parts s label s') :
    ∀ known, s'.known = some known → replay known (s'.pending lnd) = lnd.connected := by
  cases stepped with
  | listed peers here =>
      have unspawned := first (by simp only [State.early, here])
      have closed := holds.closed (by rw [unspawned.peers]; rfl)
      have empty : s.queue = [] := by simpa only [Loaded, here] using loaded
      simp only [Lnd.answers] at answered
      unfold State.listed
      cases built : buildPeerSupport parts.ldk peers with
      | none =>
          intro known found
          cases found
      | some support =>
          simp only [built, decide_eq_true_eq] at answered
          intro known found
          cases found
          rw [← answered]
          simp [State.pending, empty, unspawned.peers, PeerProducer.inHand, closed]
  | unlisted | hangUp =>
      intro known found
      cases found
  | queued entry rest here room =>
      have unspawned := first (by simp only [State.early, here])
      have closed := holds.closed (by rw [unspawned.peers]; rfl)
      have before := holds.caught s.currentPeers.keys.toFinset (by simp only [State.known, here])
      rw [State.pending_unspawned unspawned closed, loaded.superfluous here] at before
      intro known found
      cases found
      refine Eq.trans ?_ ((loaded'.superfluous rfl).trans before)
      simp only [State.pending, unspawned.peers, PeerProducer.inHand, closed, Option.getD_none,
        List.append_nil]
  | spawnReconnection here | spawnMessages here | spawnTicker here =>
      intro known found
      exact holds.caught known (by simpa only [State.known, here] using found)
  | spawnPeers here =>
      intro known found
      have unborn := unborn.peers (by simp only [State.beforePeers, here])
      have before := holds.caught known (by simpa only [State.known, here] using found)
      simpa only [State.pending, unborn, PeerProducer.inHand] using before
  | consume here =>
      intro known found
      cases found
      rw [Consumer.peers_new]
      exact holds.caught _ (by simp only [State.known, here])
  | take consumer event rest accepted here head =>
      have before := holds.caught consumer.ledger.limiter.peers.toFinset
        (by simp only [State.known, here])
      intro known found
      rcases consumer.handle_cases parts.clock accepted event with
        ⟨after, handled⟩ | ⟨after, handled⟩
      · simp only [State.known, handled, Option.some.injEq] at found
        rw [← found, Consumer.peers_handle handled, ← Tables.replay_append, ← before]
        congr 1
        simp only [State.pending, head]
        cases event <;> rfl
      · simp only [State.known, handled] at found
        cases found
  | _ => cases main

theorem Lnd.connected_peers (lnd : Lnd) (move : PeerMove) :
    (lnd.step (.peers move)).connected = lnd.connected := by
  unfold Lnd.step
  split <;> first | rfl | contradiction

/-- LND changes: the stream carries the change, or nobody has been listed yet. -/
theorem Synced.changed (holds : Synced lnd s) (change : LndChange)
    (timely : change.change.isSome = true → s.unlisted = true ∨ lnd.stream.isSome = true) :
    Synced (lnd.step (.lnd change)) s := by
  cases kind : change.change with
  | none =>
      have still : lnd.step (.lnd change) = lnd := by simp only [Lnd.step, kind]
      rw [still]
      exact holds
  | some made =>
      have moved : lnd.step (.lnd change) =
          ⟨made.apply lnd.connected, lnd.stream.map fun changes => changes ++ [made]⟩ := by
        simp only [Lnd.step, kind]
      rw [moved]
      refine ⟨?_, ?_, holds.asleep, holds.handed⟩
      · intro known found
        have before := holds.caught known found
        rcases timely (by rw [kind]; rfl) with unlisted | opened
        · unfold State.unlisted at unlisted
          split at unlisted
          next here =>
            simp only [State.known, here] at found
            cases found
          next => cases unlisted
        · obtain ⟨changes, stream⟩ := Option.isSome_iff_exists.mp opened
          simp only [State.pending, stream, Option.map_some, Option.getD_some] at before ⊢
          rw [← List.append_assoc, Tables.replay_append, before]
          rfl
      · intro unsubscribed
        rw [holds.closed unsubscribed]
        rfl

theorem Synced.aside {events : List MessengerEvent} (holds : Synced lnd s)
    (grows : Grows s s' events) (silent : events.filterMap MessengerEvent.change = [])
    (reconnection : s'.reconnection = s.reconnection) (peers : s'.peers = s.peers)
    (handed : s'.messages.Handed) : Synced lnd s' where
  caught := by
    refine holds.carried grows rfl fun _ _ => ?_
    rw [silent, peers, List.nil_append]
  closed := by
    rw [peers]
    exact holds.closed
  asleep := by
    rw [reconnection]
    exact holds.asleep
  handed := handed

theorem Synced.step (holds : Synced lnd s) (loaded : Loaded s) (loaded' : Loaded s')
    (first : s.early = true → Unspawned s) (unborn : Unborn s)
    (answered : lnd.answers parts.ldk label = true)
    (timely : label.change.isSome = true → s.unlisted = true ∨ lnd.stream.isSome = true)
    (stepped : Stepped parts s label s') : Synced (lnd.step label) s' := by
  have whole := stepped
  have caught := holds.caught_main loaded loaded' first unborn answered
  cases stepped with
  | listed peers here =>
      have known := caught rfl whole
      revert known
      unfold State.listed
      split <;> intro known <;> exact ⟨known, holds.closed, holds.asleep, holds.handed⟩
  | spawnReconnection => exact ⟨caught rfl whole, holds.closed, rfl, holds.handed⟩
  | spawnPeers here =>
      have closed := holds.closed (by
        rw [unborn.peers (by simp only [State.beforePeers, here])]
        rfl)
      exact ⟨caught rfl whole, fun _ => closed, holds.asleep, holds.handed⟩
  | spawnMessages =>
      refine ⟨caught rfl whole, holds.closed, holds.asleep, ?_⟩
      intro event sending
      cases sending
  | queued | unlisted | spawnTicker | consume | hangUp | take =>
      exact ⟨caught rfl whole, holds.closed, holds.asleep, holds.handed⟩
  | interrupt => exact ⟨holds.caught, holds.closed, holds.asleep, holds.handed⟩
  | lnd change => exact holds.changed change timely
  | reconnection move done taken performed =>
      obtain ⟨task, rfl, asleep⟩ := Reconnection.next_asleep taken holds.asleep
      cases performed
      exact ⟨holds.caught, holds.closed, asleep, holds.handed⟩
  | peers move done taken performed =>
      obtain ⟨shared, task, effect, rfl⟩ := perform_cases performed
      obtain ⟨events, before, subscribed, reconnection, moved⟩ :=
        effect.carried (PeerProducer.next_carries taken answered holds.closed)
      have grows := before.setPeers task
      refine ⟨holds.carried grows (Lnd.connected_peers lnd move) moved, ?_, ?_, ?_⟩
      · intro unsubscribed
        rw [show (shared.setPeers task).peers = task from rfl, subscribed] at unsubscribed
        cases unsubscribed
      · rw [show (shared.setPeers task).reconnection = s.reconnection from reconnection]
        exact holds.asleep
      · rw [show (shared.setPeers task).messages = s.messages from effect.messages]
        exact holds.handed
  | messages move done taken performed =>
      obtain ⟨shared, task, effect, rfl⟩ := perform_cases performed
      obtain ⟨aside, leads⟩ := MessageProducer.next_aside taken holds.handed
      obtain ⟨events, grows, silent, reconnection⟩ := effect.aside aside
      exact holds.aside (grows.setMessages task) silent reconnection effect.peers
        (effect.leads leads)
  | ticker move done taken performed =>
      obtain ⟨shared, task, effect, rfl⟩ := perform_cases performed
      obtain ⟨events, grows, silent, reconnection⟩ := effect.aside (Ticker.next_aside taken)
      refine holds.aside (grows.setTicker task) silent reconnection effect.peers ?_
      rw [show (shared.setTicker task).messages = s.messages from effect.messages]
      exact holds.handed

theorem Lnd.after_concat (labels : List Label) (label : Label) :
    Lnd.after (labels ++ [label]) = (Lnd.after labels).step label := by
  simp only [Lnd.after, List.foldl_append, List.foldl_cons, List.foldl_nil]

theorem run_synced {labels : List Label} (run : (messenger parts).Run (gapless parts) labels s) :
    Synced (Lnd.after labels) s := by
  refine run.invariant (I := fun labels s => Synced (Lnd.after labels) s) ?_ ?_
  · exact ⟨nofun, fun _ => rfl, rfl, nofun⟩
  · intro labels s label s' before holds allowed taken
    have later : (messenger parts).Run (gapless parts) (labels ++ [label]) s' :=
      .step before allowed taken
    rw [Lnd.after_concat]
    exact holds.step (run_loaded before) (run_loaded later) (run_unspawned before)
      (run_unborn before) allowed.1 allowed.2 (next_stepped taken)

end Carrying

/-- The limiter has LND's peers in every settled state, as long as nobody connects or
disconnects between the list and the subscription. -/
theorem gapless_settled (parts : Parts) (labels : List Label) (s : State parts.cfg)
    (run : (messenger parts).Run (gapless parts) labels s) (consumer : Consumer parts.cfg)
    (settled : Settled labels s consumer) :
    consumer.ledger.limiter.peers.toFinset = (Lnd.after labels).connected := by
  have synced := (run_synced run).caught consumer.ledger.limiter.peers.toFinset
    (by simp only [State.known, settled.consuming])
  simpa only [State.pending, settled.empty, settled.free, settled.read, List.filterMap_nil,
    List.append_nil, Option.getD_some, replay_nil] using synced

def connectLater : List Label :=
  startAlone ++ [.peers (.subscribe (.ok ())), .lnd (.online (.repeated 2)),
    .peers (.receive (.ok ⟨"", .peerOnline⟩)), .peers (.support true), .peers .send, .take true]

theorem gapless_settled_connected :
    ∃ (s : State sampleParts.cfg) (consumer : Consumer sampleParts.cfg),
      Settled connectLater s consumer ∧ (Lnd.after connectLater).connected = {.repeated 2} ∧
      consumer.ledger.limiter.peers.toFinset = (Lnd.after connectLater).connected := by
  obtain ⟨s, consumer, followed, settled⟩ : ∃ s consumer,
      (messenger sampleParts).follow (gapless sampleParts) [] connectLater
        (messenger sampleParts).init = some s ∧ Settled connectLater s consumer :=
    ⟨_, _, rfl, rfl, rfl, rfl, rfl⟩
  exact ⟨s, consumer, settled, rfl,
    gapless_settled sampleParts _ s (Lts.run_of_follow followed) consumer settled⟩

/-- A peer connects after the list is made and before the subscription is opened. -/
def connectBetween : List Label :=
  startAlone ++ [.lnd (.online (.repeated 2)), .peers (.subscribe (.ok ()))]

/-- The limiter never hears of a peer that connects between the two. -/
theorem truthful_missed :
    ¬ ∀ (labels : List Label) (s : State sampleParts.cfg) (consumer : Consumer sampleParts.cfg),
      (messenger sampleParts).Run (truthful sampleParts) labels s → Settled labels s consumer →
        consumer.ledger.limiter.peers.toFinset = (Lnd.after labels).connected := by
  intro claim
  obtain ⟨s, consumer, followed, settled, alone⟩ : ∃ s consumer,
      (messenger sampleParts).follow (truthful sampleParts) [] connectBetween
        (messenger sampleParts).init = some s ∧ Settled connectBetween s consumer ∧
      consumer.ledger.limiter.peers = [] :=
    ⟨_, _, rfl, ⟨rfl, rfl, rfl, rfl⟩, rfl⟩
  have equal := claim _ s consumer (Lts.run_of_follow followed) settled
  rw [alone] at equal
  exact absurd equal (by decide)

end LndkFormal.Messenger
