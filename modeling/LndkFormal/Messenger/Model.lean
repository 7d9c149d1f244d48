import LndkFormal.Async.Lts
import LndkFormal.RateLimit.Accounting

/-!
# The onion messenger

`run_onion_messenger`: it lists LND's peers, queues a connection event for each,
spawns four producers and then consumes what they put into a bounded channel.
Every LND reply is free; a label names the task that moves and the reply it gets.
Tasks run on several threads, so any two moves may be interleaved.
-/

set_option autoImplicit false

namespace LndkFormal.Messenger

open LndkFormal.Async
open LndkFormal.Ldk
open LndkFormal.Lnd
open LndkFormal.RateLimit
open LndkFormal.Tables

def ONION_MESSAGE_TYPE : UInt32 := 513

structure OnionMessage where
  bytes : List UInt8
  deriving DecidableEq

inductive EventType where
  | peerOnline
  | peerOffline
  deriving DecidableEq

structure PeerEvent where
  pubKey : String
  type : EventType
  deriving DecidableEq

structure CustomMessage where
  peer : List UInt8
  type : UInt32
  data : List UInt8
  deriving DecidableEq

inductive ConsumerError where
  | onionMessengerFailure
  | peerProducerExit
  | incomingMessageProducerExit
  deriving DecidableEq

inductive MessengerEvent where
  | peerConnected (peer : PublicKey) (onionSupport : Bool)
  | peerDisconnected (peer : PublicKey)
  | incomingMessage (peer : PublicKey) (message : OnionMessage)
  | sendOutgoing
  | producerExit (error : ConsumerError)
  deriving DecidableEq

def isRetryableError (status : Status) : Bool :=
  status.code == .unavailable || status.code == .deadlineExceeded || status.code == .aborted ||
    status.code == .unknown

/-- What the messenger is built from: the library, the reader of onion messages,
the clock and the limits. -/
structure Parts where
  ldk : Library
  readOnionMessage : List UInt8 → Option OnionMessage
  clock : Clock
  cfg : RateLimiterCfg

/-! ## Tasks -/

/-- The listener for reconnections.  Only a task in `waiting` is woken. -/
inductive Reconnection where
  | unborn
  | polling
  | waiting
  | woken
  | listing
  | sending (rest : List (PublicKey × Bool))
  | failing
  | finished
  | panicked
  deriving DecidableEq

inductive PeerProducer where
  | unborn
  | subscribing
  | receiving
  | lookingUp (peer : PublicKey)
  | sending (event : MessengerEvent)
  | exiting
  | failing
  | finished
  | panicked
  deriving DecidableEq

inductive MessageProducer where
  | unborn
  | looping
  | subscribing
  | receiving
  | sending (event : MessengerEvent)
  | exiting
  | finished
  | panicked
  deriving DecidableEq

inductive Ticker where
  | unborn
  | ticking
  | sending
  | failing
  | finished
  deriving DecidableEq

inductive MessengerCall where
  | peerConnected (peer : PublicKey) (ok : Bool)
  | peerDisconnected (peer : PublicKey)
  | handleOnionMessage (peer : PublicKey) (message : OnionMessage)
  | nextOnionMessages (peers : List PublicKey)
  deriving DecidableEq

/-- The consumer's limiter with its history, and its calls, latest first. -/
structure Consumer (cfg : RateLimiterCfg) where
  ledger : Ledger cfg
  calls : List MessengerCall

inductive Main (cfg : RateLimiterCfg) where
  | listing
  | queueing (rest : List (PublicKey × Bool))
  | spawningPeers
  | spawningMessages
  | spawningTicker
  | starting
  | consuming (consumer : Consumer cfg)
  | exited (consumer : Consumer cfg) (result : Except ConsumerError Unit)
  | failed

structure State (cfg : RateLimiterCfg) where
  main : Main cfg
  /-- The peers that LND listed at the start. -/
  currentPeers : Table PublicKey Bool
  queue : List MessengerEvent
  capacity : Nat
  shutdown : Bool
  reconnection : Reconnection
  peers : PeerProducer
  messages : MessageProducer
  ticker : Ticker

def State.init (cfg : RateLimiterCfg) : State cfg where
  main := .listing
  currentPeers := ∅
  queue := []
  capacity := 0
  shutdown := false
  reconnection := .unborn
  peers := .unborn
  messages := .unborn
  ticker := .unborn

inductive ReconnectionMove where
  | quit
  | register
  | request
  | reply (result : Except Status (List Peer))
  | send
  | trigger

inductive PeerMove where
  | quit
  | subscribe (result : Except Status Unit)
  | receive (result : Except Status PeerEvent)
  | support (onionSupport : Bool)
  | send
  | trigger

inductive MessageMove where
  | quit
  | begin
  | subscribe (result : Except Status Unit)
  | receive (result : Except Status CustomMessage)
  | send

inductive TickerMove where
  | quit
  | tick
  | send
  | trigger

inductive LndChange where
  | online (peer : PublicKey)
  | offline (peer : PublicKey)
  | message (message : CustomMessage)
  deriving DecidableEq

inductive Label where
  | listPeers (result : Except Status (List Peer))
  | queueStartup
  | spawn
  | consume
  /-- The consumer takes an event; `accepted` is what the onion messenger says to
  a new connection. -/
  | take (accepted : Bool)
  | hangUp
  | interrupt
  | reconnection (move : ReconnectionMove)
  | peers (move : PeerMove)
  | messages (move : MessageMove)
  | ticker (move : TickerMove)
  | lnd (change : LndChange)

/-! ## Moves of the producers -/

/-- What a producer does in one move: go on by itself, send an event, wake the
reconnection listener, or trigger the shutdown. -/
inductive Local (T : Type) where
  | goto (task : T)
  | send (event : MessengerEvent) (sent failed : T)
  | notify (task : T)
  | trigger (task : T)

/-- LND's list of peers with their support for onion messages.  A key that does not
parse is a panic. -/
def buildPeerSupport (ldk : Library) (peers : List Peer) : Option (Table PublicKey Bool) :=
  peers.foldlM (fun support peer => (ldk.publicKeyFromStr peer.pubKey).map fun pubkey =>
    support.insert pubkey (featuresSupportOnionMessages peer.features)) ∅

def entriesOf (support : Table PublicKey Bool) : List (PublicKey × Bool) :=
  support.entries.map fun entry => (entry.1, entry.2)

/-- The loop of `receive_reconnection_event` over the listed peers. -/
def Reconnection.sendAll : List (PublicKey × Bool) → Reconnection
  | [] => .polling
  | entry :: rest => .sending (entry :: rest)

def onShutdown {T : Type} (shutdown : Bool) (finished : T) : Option (Local T) :=
  if shutdown then some (.goto finished) else none

section Moves

variable (parts : Parts) (shutdown : Bool)

def Reconnection.next : Reconnection → ReconnectionMove → Option (Local Reconnection)
  | .polling, .quit => onShutdown shutdown .finished
  | .waiting, .quit => onShutdown shutdown .finished
  | .woken, .quit => onShutdown shutdown .finished
  | .polling, .register => some (.goto .waiting)
  | .woken, .request => some (.goto .listing)
  | .listing, .reply (.ok peers) =>
      match buildPeerSupport parts.ldk peers with
      | some support => some (.goto (.sendAll (entriesOf support)))
      | none => some (.goto .panicked)
  | .listing, .reply (.error e) =>
      if isRetryableError e then some (.goto .listing) else some (.goto .failing)
  | .sending (entry :: rest), .send =>
      some (.send (.peerConnected entry.1 entry.2) (.sendAll rest) .failing)
  | .failing, .trigger => some (.trigger .finished)
  | _, _ => none

/-- `with_infinite_retries` around the subscription, then `produce_peer_events`. -/
def PeerProducer.next : PeerProducer → PeerMove → Option (Local PeerProducer)
  | .subscribing, .subscribe (.ok ()) => some (.goto .receiving)
  | .subscribing, .subscribe (.error e) =>
      if isRetryableError e then some (.notify .subscribing) else some (.goto .failing)
  | .receiving, .quit => onShutdown shutdown .finished
  | .receiving, .receive (.ok event) =>
      match parts.ldk.publicKeyFromStr event.pubKey, event.type with
      | none, _ => some (.goto .panicked)
      | some pubkey, .peerOnline => some (.goto (.lookingUp pubkey))
      | some pubkey, .peerOffline => some (.goto (.sending (.peerDisconnected pubkey)))
  | .receiving, .receive (.error _) => some (.goto .exiting)
  | .lookingUp pubkey, .support onionSupport =>
      some (.goto (.sending (.peerConnected pubkey onionSupport)))
  | .sending event, .send => some (.send event .receiving .failing)
  | .exiting, .send => some (.send (.producerExit .peerProducerExit) .failing .failing)
  | .failing, .trigger => some (.trigger .finished)
  | _, _ => none

/-- `subscribe_custom_messages_with_retry` around `produce_incoming_message_events`.
A subscription that fails for good is reported as a clean exit. -/
def MessageProducer.next : MessageProducer → MessageMove → Option (Local MessageProducer)
  | .looping, .quit => onShutdown shutdown .finished
  | .looping, .begin => some (.goto .subscribing)
  | .subscribing, .subscribe (.ok ()) => some (.goto .receiving)
  | .subscribing, .subscribe (.error e) =>
      if isRetryableError e then some (.goto .subscribing) else some (.goto .finished)
  | .receiving, .quit => onShutdown shutdown .finished
  | .receiving, .receive (.ok message) =>
      if message.type ≠ ONION_MESSAGE_TYPE then some (.goto .receiving)
      else
        match parts.ldk.publicKeyFromSlice message.peer with
        | none => some (.goto .panicked)
        | some pubkey =>
            match parts.readOnionMessage message.data with
            | some onionMessage => some (.goto (.sending (.incomingMessage pubkey onionMessage)))
            | none => some (.goto .receiving)
  | .receiving, .receive (.error _) => some (.goto .exiting)
  | .sending event, .send => some (.send event .receiving .looping)
  | .exiting, .send => some (.send (.producerExit .incomingMessageProducerExit) .looping .looping)
  | _, _ => none

def Ticker.next : Ticker → TickerMove → Option (Local Ticker)
  | .ticking, .quit => onShutdown shutdown .finished
  | .ticking, .tick => some (.goto .sending)
  | .sending, .send => some (.send .sendOutgoing .ticking .failing)
  | .failing, .trigger => some (.trigger .finished)
  | _, _ => none

end Moves

section Consumer

variable {cfg : RateLimiterCfg} (clock : Clock)

def Consumer.new (cfg : RateLimiterCfg) (peers : List PublicKey) : Consumer cfg :=
  ⟨.new clock cfg peers, []⟩

/-- One round of `consume_messenger_events`.  A connection that the onion messenger
refuses ends the consumer before the limiter hears of it. -/
def Consumer.handle (consumer : Consumer cfg) (accepted : Bool) : MessengerEvent → Main cfg
  | .peerConnected peer _ =>
      let calls := .peerConnected peer accepted :: consumer.calls
      if accepted then .consuming ⟨consumer.ledger.call clock (.peerConnected peer), calls⟩
      else .exited ⟨consumer.ledger, calls⟩ (.error .onionMessengerFailure)
  | .peerDisconnected peer =>
      .consuming ⟨consumer.ledger.call clock (.peerDisconnected peer),
        .peerDisconnected peer :: consumer.calls⟩
  | .incomingMessage peer message =>
      .consuming ⟨consumer.ledger.call clock (.queryPeer peer),
        if (consumer.ledger.limiter.queryPeer clock peer).1 then
          .handleOnionMessage peer message :: consumer.calls
        else consumer.calls⟩
  | .sendOutgoing =>
      .consuming ⟨consumer.ledger,
        .nextOnionMessages consumer.ledger.limiter.peers :: consumer.calls⟩
  | .producerExit _ => .consuming consumer

end Consumer

/-! ## The system -/

section System

variable {cfg : RateLimiterCfg}

def State.hungUp (s : State cfg) : Bool :=
  match s.main with
  | .exited _ _ => true
  | _ => false

/-- `notify_waiters` wakes the listener only if it waits at this moment. -/
def State.notifyWaiters (s : State cfg) : State cfg :=
  match s.reconnection with
  | .waiting => { s with reconnection := .woken }
  | _ => s

def State.unproduced (s : State cfg) : Bool :=
  (match s.reconnection with
    | .finished | .panicked => true
    | _ => false) &&
  (match s.peers with
    | .finished | .panicked => true
    | _ => false) &&
  (match s.messages with
    | .finished | .panicked => true
    | _ => false) &&
  (match s.ticker with
    | .finished => true
    | _ => false)

/-- A producer's move in the system.  A sender waits while the channel is full. -/
def State.perform {T : Type} (s : State cfg) (set : State cfg → T → State cfg) :
    Local T → Option (State cfg)
  | .goto task => some (set s task)
  | .send event sent failed =>
      if s.hungUp then some (set s failed)
      else if s.queue.length < s.capacity then
        some (set { s with queue := s.queue ++ [event] } sent)
      else none
  | .notify task => some (set s.notifyWaiters task)
  | .trigger task => some (set { s with shutdown := true } task)

def State.setReconnection (s : State cfg) (task : Reconnection) : State cfg :=
  { s with reconnection := task }

def State.setPeers (s : State cfg) (task : PeerProducer) : State cfg := { s with peers := task }

def State.setMessages (s : State cfg) (task : MessageProducer) : State cfg :=
  { s with messages := task }

def State.setTicker (s : State cfg) (task : Ticker) : State cfg := { s with ticker := task }

end System

section Next

variable (parts : Parts)

def State.listed (s : State parts.cfg) (peers : List Peer) : State parts.cfg :=
  match buildPeerSupport parts.ldk peers with
  | some support =>
      { s with
        main := .queueing (entriesOf support)
        currentPeers := support
        capacity := (entriesOf support).length + 1 }
  | none => { s with main := .failed }

def State.next (s : State parts.cfg) : Label → Option (State parts.cfg)
  | .listPeers result =>
      match s.main, result with
      | .listing, .ok peers => some (s.listed parts peers)
      | .listing, .error _ => some { s with main := .failed }
      | _, _ => none
  | .queueStartup =>
      match s.main with
      | .queueing (entry :: rest) =>
          if s.queue.length < s.capacity then
            some { s with
              main := .queueing rest
              queue := s.queue ++ [.peerConnected entry.1 entry.2] }
          else none
      | _ => none
  | .spawn =>
      match s.main with
      | .queueing [] => some { s with main := .spawningPeers, reconnection := .polling }
      | .spawningPeers => some { s with main := .spawningMessages, peers := .subscribing }
      | .spawningMessages => some { s with main := .spawningTicker, messages := .looping }
      | .spawningTicker => some { s with main := .starting, ticker := .ticking }
      | _ => none
  | .consume =>
      match s.main with
      | .starting =>
          some { s with main := .consuming (.new parts.clock parts.cfg s.currentPeers.keys) }
      | _ => none
  | .take accepted =>
      match s.main, s.queue with
      | .consuming consumer, event :: rest =>
          some { s with main := consumer.handle parts.clock accepted event, queue := rest }
      | _, _ => none
  | .hangUp =>
      match s.main, s.queue with
      | .consuming consumer, [] =>
          if s.unproduced then some { s with main := .exited consumer (.ok ()) } else none
      | _, _ => none
  | .interrupt => some { s with shutdown := true }
  | .reconnection move =>
      (s.reconnection.next parts s.shutdown move).bind (s.perform State.setReconnection)
  | .peers move => (s.peers.next parts s.shutdown move).bind (s.perform State.setPeers)
  | .messages move => (s.messages.next parts s.shutdown move).bind (s.perform State.setMessages)
  | .ticker move => (s.ticker.next s.shutdown move).bind (s.perform State.setTicker)
  | .lnd _ => some s

/-- `run_onion_messenger` with all its tasks. -/
def messenger : Lts (State parts.cfg) Label where
  init := .init parts.cfg
  next := State.next parts

end Next

/-- Parts for small runs: every string is one key, time stands still and two messages a
period are allowed. -/
def sampleParts : Parts where
  ldk := .plain .twoPaths
  readOnionMessage bytes := some ⟨bytes⟩
  clock := ⟨fun _ => 0, monotone_const⟩
  cfg := ⟨2, 1000⟩

def startAlone : List Label := [.listPeers (.ok []), .spawn, .spawn, .spawn, .spawn, .consume]

def startWithPeer : List Label :=
  [.listPeers (.ok [⟨"", []⟩]), .queueStartup, .spawn, .spawn, .spawn, .spawn, .consume]

end LndkFormal.Messenger
