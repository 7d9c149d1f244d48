import LndkFormal.Async.Forwarder
import LndkFormal.Messenger.Steps

/-!
# What the producers make of their streams

`produce_incoming_message_events` and `produce_peer_events` refine a forwarder:
each step that one of them takes in a run of the messenger is a step of the
forwarder.  What a forwarder keeps then holds for both, whatever the other tasks
do between two steps.
-/

set_option autoImplicit false

namespace LndkFormal.Messenger

open LndkFormal.Async
open LndkFormal.Ldk
open LndkFormal.Lnd

section Items

variable (parts : Parts)

def incoming (message : CustomMessage) : List MessengerEvent :=
  if message.type = ONION_MESSAGE_TYPE then
    match parts.ldk.publicKeyFromSlice message.peer, parts.readOnionMessage message.data with
    | some pubkey, some onionMessage => [.incomingMessage pubkey onionMessage]
    | _, _ => []
  else []

def Incoming (message : CustomMessage) (events : List MessengerEvent) : Prop :=
  events = incoming parts message

/-- The one event for an item of the stream of peer events. -/
def Announces (event : PeerEvent) (events : List MessengerEvent) : Prop :=
  ∃ pubkey, parts.ldk.publicKeyFromStr event.pubKey = some pubkey ∧
    match event.type with
    | .peerOnline => ∃ onionSupport, events = [.peerConnected pubkey onionSupport]
    | .peerOffline => events = [.peerDisconnected pubkey]

def Label.wellFormed : Label → Bool
  | .messages (.receive (.ok message)) => (parts.ldk.publicKeyFromSlice message.peer).isSome
  | .peers (.receive (.ok event)) => (parts.ldk.publicKeyFromStr event.pubKey).isSome
  | _ => true

/-- Runs on well-formed keys in which the consumer keeps receiving. -/
def attended : Lts.Guard (State parts.cfg) Label := fun _ s label =>
  s.hungUp = false ∧ label.wellFormed parts = true

instance (past : List Label) (s : State parts.cfg) (label : Label) :
    Decidable (attended parts past s label) :=
  inferInstanceAs (Decidable (_ ∧ _))

end Items

abbrev MessageRecord := Forwarder.Record CustomMessage MessengerEvent Status

abbrev PeerEventRecord := Forwarder.Record PeerEvent MessengerEvent Status

/-- What `produce_incoming_message_events` sees in a move.  Its caller looks for the shutdown
between two streams, which is not part of either. -/
def MessageProducer.observed (shutdown : Bool) :
    MessageProducer → MessageMove → Forwarder.Observation CustomMessage Status
  | _, .subscribe (.ok ()) => .subscribed
  | _, .receive item => .received item
  | .receiving, .quit => if shutdown then .signalled else .nothing
  | _, _ => .nothing

def PeerProducer.observed (shutdown : Bool) :
    PeerProducer → PeerMove → Forwarder.Observation PeerEvent Status
  | _, .subscribe (.ok ()) => .subscribed
  | _, .receive item => .received item
  | .receiving, .quit => if shutdown then .signalled else .nothing
  | _, _ => .nothing

/-- The result of `produce_incoming_message_events`, in the step with which it returns: its
caller returns after `Ok` and subscribes again after `Err`. -/
def MessageProducer.returned : MessageProducer → MessageProducer → Option (Except Unit Unit)
  | .receiving, .finished => some (.ok ())
  | .sending _, .looping => some (.error ())
  | .exiting, .looping => some (.error ())
  | _, _ => none

/-- The result of `produce_peer_events`: its caller triggers the shutdown after `Err`. -/
def PeerProducer.returned : PeerProducer → PeerProducer → Option (Except Unit Unit)
  | .receiving, .finished => some (.ok ())
  | .sending _, .failing => some (.error ())
  | .exiting, .failing => some (.error ())
  | _, _ => none

section Records

variable {cfg : RateLimit.RateLimiterCfg}

def State.pushed (s s' : State cfg) : List MessengerEvent := s'.queue.drop s.queue.length

def noteMessages (record : MessageRecord) (s : State cfg) (label : Label) (s' : State cfg) :
    MessageRecord :=
  match label with
  | .messages move =>
      record.note ⟨s.messages.observed s.shutdown move, s.pushed s',
        s.messages.returned s'.messages⟩
  | _ => record

def notePeers (record : PeerEventRecord) (s : State cfg) (label : Label) (s' : State cfg) :
    PeerEventRecord :=
  match label with
  | .peers move =>
      record.note ⟨s.peers.observed s.shutdown move, s.pushed s', s.peers.returned s'.peers⟩
  | _ => record

end Records

section Runs

variable (parts : Parts)

def messageRecord (labels : List Label) : MessageRecord :=
  (messenger parts).record noteMessages .empty (.init parts.cfg) labels

def peerRecord (labels : List Label) : PeerEventRecord :=
  (messenger parts).record notePeers .empty (.init parts.cfg) labels

end Runs

/-! ## Both producers are forwarders -/

section Phases

variable (parts : Parts)

def MessageProducer.InPhase (phase : Forwarder.Phase CustomMessage MessengerEvent) :
    MessageProducer → Prop
  | .unborn | .looping | .subscribing => phase = .idle
  | .receiving => phase = .waiting
  | .sending event => phase = .holding event
  | .exiting => phase = .failing
  | .finished => phase = .ended
  | .panicked => False

def PeerProducer.InPhase (phase : Forwarder.Phase PeerEvent MessengerEvent) :
    PeerProducer → Prop
  | .unborn | .subscribing => phase = .idle
  | .receiving => phase = .waiting
  | .lookingUp pubkey => ∃ event, phase = .looking event ∧ event.type = .peerOnline ∧
      parts.ldk.publicKeyFromStr event.pubKey = some pubkey
  | .sending event => phase = .holding event
  | .exiting => phase = .failing
  | .failing | .finished => phase = .ended
  | .panicked => False

end Phases

section Effects

variable {cfg : RateLimit.RateLimiterCfg} {T : Type} {s shared : State cfg} {task : T}

/-- `P` holds of what the move puts into the channel and of the task it leads to, if the
consumer receives. -/
def Local.attended (P : List MessengerEvent → T → Prop) : Local T → Prop
  | .goto task | .notify task | .trigger task => P [] task
  | .send event sent _ => P [event] sent

theorem Performed.attended {P : List MessengerEvent → T → Prop} {done : Local T}
    (performed : Performed s done shared task) (attends : s.hungUp = false)
    (holds : done.attended P) : P (s.pushed shared) task := by
  cases performed with
  | sent event task failed kind =>
      rw [kind] at holds
      rw [show s.pushed { s with queue := s.queue ++ [event] } = [event] from List.drop_left]
      exact holds
  | refused _ _ _ _ closed =>
      rw [attends] at closed
      cases closed
  | goto _ kind | woke _ kind | unheard _ kind | triggered _ kind =>
      rw [kind] at holds
      rw [State.pushed, List.drop_length]
      exact holds

end Effects

section Refinement

variable {parts : Parts} {shutdown : Bool}

theorem incoming_foreign {message : CustomMessage} (foreign : message.type ≠ ONION_MESSAGE_TYPE) :
    incoming parts message = [] := if_neg foreign

theorem incoming_onion {message : CustomMessage} {pubkey : PublicKey}
    (onion : ¬ message.type ≠ ONION_MESSAGE_TYPE)
    (parsed : parts.ldk.publicKeyFromSlice message.peer = some pubkey) :
    incoming parts message =
      ((parts.readOnionMessage message.data).map (.incomingMessage pubkey)).toList := by
  rw [incoming, if_pos (not_not.mp onion), parsed]
  cases parts.readOnionMessage message.data <;> rfl

def MessageProducer.Forwards (parts : Parts) (shutdown : Bool) (task : MessageProducer)
    (move : MessageMove) (phase : Forwarder.Phase CustomMessage MessengerEvent)
    (pushed : List MessengerEvent)
    (after : MessageProducer) : Prop :=
  ∃ next, after.InPhase next ∧
    Forwarder.Step (Incoming parts) (.producerExit .incomingMessageProducerExit) phase
      ⟨task.observed shutdown move, pushed, task.returned after⟩ next

theorem MessageProducer.next_forwards {task : MessageProducer} {move : MessageMove}
    {done : Local MessageProducer} {phase : Forwarder.Phase CustomMessage MessengerEvent}
    (taken : task.next parts shutdown move = some done)
    (wellFormed : (Label.messages move).wellFormed parts = true) (here : task.InPhase phase) :
    done.attended (task.Forwards parts shutdown move phase) := by
  unfold MessageProducer.next at taken
  split at taken
  case h_1 =>
      obtain ⟨-, rfl⟩ := onShutdown_cases taken
      cases here
      exact ⟨.ended, rfl, .stop⟩
  case h_2 =>
      cases taken
      cases here
      exact ⟨.idle, rfl, .pause⟩
  case h_3 =>
      cases taken
      cases here
      exact ⟨.waiting, rfl, .subscribe⟩
  case h_4 e =>
      cases here
      split at taken
      · cases taken
        exact ⟨.idle, rfl, .pause⟩
      · cases taken
        exact ⟨.ended, rfl, .stop⟩
  case h_5 =>
      obtain ⟨rfl, rfl⟩ := onShutdown_cases taken
      cases here
      exact ⟨.ended, rfl, .quit⟩
  case h_6 message =>
      cases here
      split at taken
      next foreign =>
        cases taken
        exact ⟨.waiting, rfl, .ignore (incoming_foreign foreign).symm⟩
      next onion =>
        split at taken
        next unparsed =>
          rw [Label.wellFormed, unparsed] at wellFormed
          cases wellFormed
        next pubkey parsed =>
          have made := incoming_onion onion parsed
          split at taken
          next onionMessage read =>
            cases taken
            rw [read] at made
            exact ⟨.holding _, rfl, .hold made.symm⟩
          next unread =>
            cases taken
            rw [unread] at made
            exact ⟨.waiting, rfl, .ignore made.symm⟩
  case h_7 e =>
      cases taken
      cases here
      exact ⟨.failing, rfl, .fail e⟩
  case h_8 event =>
      cases taken
      cases here
      exact ⟨.waiting, rfl, .send event⟩
  case h_9 =>
      cases taken
      cases here
      exact ⟨.idle, rfl, .exitIdle⟩
  case h_10 => cases taken

def PeerProducer.Forwards (parts : Parts) (shutdown : Bool) (task : PeerProducer)
    (move : PeerMove) (phase : Forwarder.Phase PeerEvent MessengerEvent)
    (pushed : List MessengerEvent)
    (after : PeerProducer) : Prop :=
  ∃ next, after.InPhase parts next ∧
    Forwarder.Step (Announces parts) (.producerExit .peerProducerExit) phase
      ⟨task.observed shutdown move, pushed, task.returned after⟩ next

theorem PeerProducer.next_forwards {task : PeerProducer} {move : PeerMove}
    {done : Local PeerProducer} {phase : Forwarder.Phase PeerEvent MessengerEvent}
    (taken : task.next parts shutdown move = some done)
    (wellFormed : (Label.peers move).wellFormed parts = true) (here : task.InPhase parts phase) :
    done.attended (task.Forwards parts shutdown move phase) := by
  unfold PeerProducer.next at taken
  split at taken
  case h_1 =>
      cases taken
      cases here
      exact ⟨.waiting, rfl, .subscribe⟩
  case h_2 e =>
      cases here
      split at taken
      · cases taken
        exact ⟨.idle, rfl, .pause⟩
      · cases taken
        exact ⟨.ended, rfl, .stop⟩
  case h_3 =>
      obtain ⟨rfl, rfl⟩ := onShutdown_cases taken
      cases here
      exact ⟨.ended, rfl, .quit⟩
  case h_4 event =>
      cases here
      split at taken
      next unparsed =>
        rw [Label.wellFormed, unparsed] at wellFormed
        cases wellFormed
      next pubkey parsed kind =>
        cases taken
        exact ⟨.looking event, ⟨event, rfl, kind, parsed⟩, .look event⟩
      next pubkey parsed kind =>
        cases taken
        have announced : Announces parts event [.peerDisconnected pubkey] :=
          ⟨pubkey, parsed, by rw [kind]⟩
        exact ⟨.holding _, rfl, .hold announced⟩
  case h_5 e =>
      cases taken
      cases here
      exact ⟨.failing, rfl, .fail e⟩
  case h_6 pubkey onionSupport =>
      cases taken
      obtain ⟨event, rfl, kind, parsed⟩ := here
      have announced : Announces parts event [.peerConnected pubkey onionSupport] :=
        ⟨pubkey, parsed, by rw [kind]; exact ⟨onionSupport, rfl⟩⟩
      exact ⟨.holding _, rfl, .found announced⟩
  case h_7 event =>
      cases taken
      cases here
      exact ⟨.waiting, rfl, .send event⟩
  case h_8 =>
      cases taken
      cases here
      exact ⟨.ended, rfl, .exitEnded⟩
  case h_9 =>
      cases taken
      cases here
      exact ⟨.ended, rfl, .rest⟩
  case h_10 => cases taken

end Refinement

end LndkFormal.Messenger
