import LndkFormal.Async.Prog
import LndkFormal.Messenger.Model

/-!
# The consumer with all its calls

`consume_messenger_events` with every call it makes: on the onion messenger, and
on the client that sends custom messages.  `Consumer.handle` keeps only what the
tables of peers depend on; `handleEvent_refines` says that it is an abstraction
of the rounds here.
-/

set_option autoImplicit false

namespace LndkFormal.Messenger

open LndkFormal.Async
open LndkFormal.Ldk
open LndkFormal.Lnd
open LndkFormal.RateLimit

structure ChainHash where
  bytes : BitVec 256
  deriving DecidableEq

/-- LDK's `Init` for a peer.  It never names an address. -/
structure Init where
  features : List UInt8
  networks : List ChainHash
  deriving DecidableEq

structure SendCustomMessageRequest where
  peer : List UInt8
  type : UInt32
  data : List UInt8
  deriving DecidableEq

inductive RelayCall where
  | peerConnected (peer : PublicKey) (init : Init)
  | peerDisconnected (peer : PublicKey)
  | handleOnionMessage (peer : PublicKey) (message : OnionMessage)
  | processPendingEvents
  /-- The order in which the limiter's hash map gives its peers. -/
  | iterate (peers : List PublicKey)
  | nextOnionMessageForPeer (peer : PublicKey)
  | sendCustomMessage (request : SendCustomMessageRequest)

abbrev RelayCall.Reply : RelayCall → Type
  | .peerConnected _ _ => Except Unit Unit
  | .peerDisconnected _ => Unit
  | .handleOnionMessage _ _ => Unit
  | .processPendingEvents => Unit
  | .iterate peers => { order : List PublicKey // order.Perm peers }
  | .nextOnionMessageForPeer _ => Option OnionMessage
  | .sendCustomMessage _ => Except Status Unit

/-- To take an event from the channel is an access, as the producers share it. -/
abbrev RelaySig : Signature where
  Access := MessengerEvent
  AccessReply _ := Unit
  Call := RelayCall
  CallReply := RelayCall.Reply

abbrev dial (call : RelayCall) : Prog RelaySig call.Reply := @Prog.request RelaySig call

structure RelayParts where
  clock : Clock
  usingGenesisBlock : Network → ChainHash
  writeOnionMessage : OnionMessage → Except String (List UInt8)

section Program

variable (parts : RelayParts)

def toLeBytes (word : UInt64) : List UInt8 :=
  (List.range 8).map fun i => (word >>> (8 * i).toUInt64).toUInt8

def initFeatures (onionSupport : Bool) : List UInt8 :=
  if onionSupport then toLeBytes (1 <<< ONION_MESSAGES_OPTIONAL.toUInt64) else []

/-- A message that cannot be written is dropped, and a failed send only logged. -/
def relayOutgoingMsgEvent (peer : PublicKey) (message : OnionMessage) : Prog RelaySig Unit :=
  match parts.writeOnionMessage message with
  | .error _ => .ret ()
  | .ok buf => do
      let _ ← dial (.sendCustomMessage ⟨peer.bytes, ONION_MESSAGE_TYPE, buf⟩)
      return ()

def pollPeers : List PublicKey → Prog RelaySig Unit
  | [] => .ret ()
  | peer :: rest => do
      match ← dial (.nextOnionMessageForPeer peer) with
      | some message => relayOutgoingMsgEvent parts peer message
      | none => .ret ()
      pollPeers rest

variable {cfg : RateLimiterCfg} (network : Network)

def handleEvent (limiter : TokenLimiter cfg) :
    MessengerEvent → Prog RelaySig (Except ConsumerError (TokenLimiter cfg))
  | .peerConnected peer onionSupport => do
      let init : Init := ⟨initFeatures onionSupport, [parts.usingGenesisBlock network]⟩
      match ← dial (.peerConnected peer init) with
      | .error () => return .error .onionMessengerFailure
      | .ok () => return .ok (limiter.peerConnected peer)
  | .peerDisconnected peer => do
      dial (.peerDisconnected peer)
      return .ok (limiter.peerDisconnected peer)
  | .incomingMessage peer message => do
      let queried := limiter.queryPeer parts.clock peer
      if queried.1 then dial (.handleOnionMessage peer message)
      return .ok queried.2
  | .sendOutgoing => do
      dial .processPendingEvents
      let order ← dial (.iterate limiter.peers)
      pollPeers parts order.1
      return .ok limiter
  | .producerExit _ => return .ok limiter

/-- `consume_messenger_events` on the events that come before the channel is closed. -/
def consumeMessengerEvents :
    TokenLimiter cfg → List MessengerEvent → Prog RelaySig (Except ConsumerError Unit)
  | _, [] => .ret (.ok ())
  | limiter, event :: rest => .access event fun () =>
      (handleEvent parts network limiter event).andThen fun limiter =>
        consumeMessengerEvents limiter rest

end Program

/-! ## Refinement of the consumer's rounds -/

section Refinement

variable {parts : RelayParts} {cfg : RateLimiterCfg} {network : Network}

def Polls (event : Event RelaySig) : Prop :=
  (∃ peer reply, event = .call (.nextOnionMessageForPeer peer) reply) ∨
    ∃ request outcome, event = .call (.sendCustomMessage request) outcome

theorem pollPeers_within (peers : List PublicKey) : (pollPeers parts peers).Within Polls := by
  induction peers with
  | nil => trivial
  | cons peer rest ih =>
      refine Prog.within_request_bind.mpr fun reply => ⟨.inl ⟨peer, reply, rfl⟩, ?_⟩
      cases reply with
      | none => exact ih
      | some message =>
          change (relayOutgoingMsgEvent parts peer message >>=
            fun _ => pollPeers parts rest).Within _
          refine Prog.Within.bind ?_ fun _ => ih
          rw [relayOutgoingMsgEvent]
          cases parts.writeOnionMessage message with
          | error e => trivial
          | ok buf => exact fun outcome => ⟨.inr ⟨_, outcome, rfl⟩, trivial⟩

def recorded : Event RelaySig → Option MessengerCall
  | .call (.peerConnected peer _) reply => some (.peerConnected peer reply.isOk)
  | .call (.peerDisconnected peer) _ => some (.peerDisconnected peer)
  | .call (.handleOnionMessage peer message) _ => some (.handleOnionMessage peer message)
  | .call (.iterate peers) _ => some (.nextOnionMessages peers)
  | _ => none

theorem recorded_polls {trace : List (Event RelaySig)} (polls : ∀ event ∈ trace, Polls event) :
    trace.filterMap recorded = [] := by
  refine List.filterMap_eq_nil_iff.mpr fun event member => ?_
  rcases polls event member with ⟨peer, reply, rfl⟩ | ⟨request, outcome, rfl⟩ <;> rfl

def Abstracts (consumer : Consumer cfg) (trace : List (Event RelaySig)) (main : Main cfg) :
    Except ConsumerError (TokenLimiter cfg) → Prop
  | .ok limiter => ∃ after, main = .consuming after ∧ after.ledger.limiter = limiter ∧
      after.calls = (trace.filterMap recorded).reverse ++ consumer.calls
  | .error e => ∃ after, main = .exited after (.error e) ∧
      after.calls = (trace.filterMap recorded).reverse ++ consumer.calls

/-- `Consumer.handle` does what a round does, if it is told how the onion messenger took the
connection. -/
theorem handleEvent_refines (consumer : Consumer cfg) (event : MessengerEvent)
    {trace : List (Event RelaySig)} {result : Except ConsumerError (TokenLimiter cfg)}
    (run : Reaches (handleEvent parts network consumer.ledger.limiter event) trace (.ret result)) :
    ∃ accepted, Abstracts consumer trace (consumer.handle parts.clock accepted event) result := by
  cases event with
  | peerConnected peer support =>
      obtain ⟨reply, later, rfl, rest⟩ := reaches_request_bind run
      cases reply with
      | error refused =>
          cases rest
          exact ⟨false, _, rfl, rfl⟩
      | ok accepted =>
          cases rest
          exact ⟨true, _, rfl, rfl, rfl⟩
  | peerDisconnected peer =>
      obtain ⟨reply, later, rfl, rest⟩ := reaches_request_bind run
      cases rest
      exact ⟨true, _, rfl, rfl, rfl⟩
  | incomingMessage peer message =>
      refine ⟨true, ?_⟩
      rw [handleEvent] at run
      cases granted : (consumer.ledger.limiter.queryPeer parts.clock peer).1 with
      | true =>
          simp only [granted, if_true] at run
          obtain ⟨reply, later, rfl, rest⟩ := reaches_request_bind run
          cases rest
          refine ⟨_, rfl, rfl, ?_⟩
          simp [granted, recorded]
      | false =>
          simp only [granted, Bool.false_eq_true, if_false] at run
          cases run
          refine ⟨_, rfl, rfl, ?_⟩
          simp [granted]
  | sendOutgoing =>
      obtain ⟨processed, later, rfl, rest⟩ := reaches_request_bind run
      obtain ⟨order, looping, rfl, polling⟩ := reaches_request_bind rest
      obtain ⟨polled, done, value, rfl, looped, ended⟩ := reaches_bind_ret polling
      cases ended
      have silent := recorded_polls (within_reaches (pollPeers_within order.1) looped)
      refine ⟨true, _, rfl, rfl, ?_⟩
      change _ =
        (.nextOnionMessages _ :: (polled ++ []).filterMap recorded).reverse ++ consumer.calls
      rw [List.append_nil, silent]
      rfl
  | producerExit e =>
      cases run
      exact ⟨true, _, rfl, rfl, rfl⟩

end Refinement

end LndkFormal.Messenger
