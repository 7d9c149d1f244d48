import LndkFormal.Messenger.Streams

/-!
# Producers along a run

In a run of the messenger each producer is spawned once, moves only by its own
steps and makes no step after it has seen the shutdown.  With the refinement of
single steps, what a forwarder keeps holds at every moment of the run.
-/

set_option autoImplicit false

namespace LndkFormal.Messenger

open LndkFormal.Async
open LndkFormal.Ldk
open LndkFormal.Lnd

section Producers

variable {parts : Parts} {s s' : State parts.cfg} {label : Label}

def Label.isMessages : Label → Bool
  | .messages _ => true
  | _ => false

def Label.isPeers : Label → Bool
  | .peers _ => true
  | _ => false

theorem Stepped.messages_cases (stepped : Stepped parts s label s') (unborn : Unborn s) :
    (∃ move done shared task, label = .messages move ∧
      s.messages.next parts s.shutdown move = some done ∧ Performed s done shared task ∧
      s' = shared.setMessages task) ∨
    (label.isMessages = false ∧
      (s'.messages = s.messages ∨ s.messages = .unborn ∧ s'.messages = .looping)) := by
  cases stepped with
  | messages move done taken performed =>
      obtain ⟨shared, task, effect, rfl⟩ := perform_cases performed
      exact Or.inl ⟨move, done, shared, task, rfl, taken, effect, rfl⟩
  | spawnMessages here =>
      refine Or.inr ⟨rfl, Or.inr ⟨unborn.messages ?_, rfl⟩⟩
      simp only [State.beforeMessages, here]
  | peers move done taken performed | reconnection move done taken performed
    | ticker move done taken performed =>
      obtain ⟨shared, task, effect, rfl⟩ := perform_cases performed
      exact Or.inr ⟨rfl, Or.inl effect.messages⟩
  | listed answer here =>
      refine Or.inr ⟨rfl, Or.inl ?_⟩
      unfold State.listed
      split <;> rfl
  | _ => exact Or.inr ⟨rfl, Or.inl rfl⟩

theorem Stepped.peers_cases (stepped : Stepped parts s label s') (unborn : Unborn s) :
    (∃ move done shared task, label = .peers move ∧
      s.peers.next parts s.shutdown move = some done ∧ Performed s done shared task ∧
      s' = shared.setPeers task) ∨
    (label.isPeers = false ∧
      (s'.peers = s.peers ∨ s.peers = .unborn ∧ s'.peers = .subscribing)) := by
  cases stepped with
  | peers move done taken performed =>
      obtain ⟨shared, task, effect, rfl⟩ := perform_cases performed
      exact Or.inl ⟨move, done, shared, task, rfl, taken, effect, rfl⟩
  | spawnPeers here =>
      refine Or.inr ⟨rfl, Or.inr ⟨unborn.peers ?_, rfl⟩⟩
      simp only [State.beforePeers, here]
  | messages move done taken performed | reconnection move done taken performed
    | ticker move done taken performed =>
      obtain ⟨shared, task, effect, rfl⟩ := perform_cases performed
      exact Or.inr ⟨rfl, Or.inl effect.peers⟩
  | listed answer here =>
      refine Or.inr ⟨rfl, Or.inl ?_⟩
      unfold State.listed
      split <;> rfl
  | _ => exact Or.inr ⟨rfl, Or.inl rfl⟩

end Producers

/-! ## Every run -/

section Runs

variable {parts : Parts} {s s' : State parts.cfg} {label : Label} {labels : List Label}

def MessagesForwarded (parts : Parts) (record : MessageRecord) (task : MessageProducer) : Prop :=
  ∃ phase, task.InPhase phase ∧
    Forwarder.Kept (Incoming parts) (.producerExit .incomingMessageProducerExit) phase record

def PeersForwarded (parts : Parts) (record : PeerEventRecord) (task : PeerProducer) : Prop :=
  ∃ phase, task.InPhase parts phase ∧
    Forwarder.Kept (Announces parts) (.producerExit .peerProducerExit) phase record

theorem noteMessages_aside (record : MessageRecord) (aside : label.isMessages = false) :
    noteMessages record s label s' = record := by
  cases label with
  | messages move => cases aside
  | _ => rfl

theorem notePeers_aside (record : PeerEventRecord) (aside : label.isPeers = false) :
    notePeers record s label s' = record := by
  cases label with
  | peers move => cases aside
  | _ => rfl

theorem MessagesForwarded.step {record : MessageRecord}
    (holds : MessagesForwarded parts record s.messages) (unborn : Unborn s)
    (attends : s.hungUp = false) (wellFormed : label.wellFormed parts = true)
    (stepped : Stepped parts s label s') :
    MessagesForwarded parts (noteMessages record s label s') s'.messages := by
  obtain ⟨phase, here, kept⟩ := holds
  rcases stepped.messages_cases unborn with
    ⟨move, done, shared, task, rfl, taken, performed, rfl⟩ | ⟨aside, same | ⟨before, after⟩⟩
  · obtain ⟨next, there, step⟩ := performed.attended attends
      (MessageProducer.next_forwards taken wellFormed here)
    exact ⟨next, there, kept.step step⟩
  · rw [noteMessages_aside record aside, same]
    exact ⟨phase, here, kept⟩
  · rw [before] at here
    rw [noteMessages_aside record aside, after]
    exact ⟨phase, here, kept⟩

theorem PeersForwarded.step {record : PeerEventRecord}
    (holds : PeersForwarded parts record s.peers) (unborn : Unborn s)
    (attends : s.hungUp = false) (wellFormed : label.wellFormed parts = true)
    (stepped : Stepped parts s label s') :
    PeersForwarded parts (notePeers record s label s') s'.peers := by
  obtain ⟨phase, here, kept⟩ := holds
  rcases stepped.peers_cases unborn with
    ⟨move, done, shared, task, rfl, taken, performed, rfl⟩ | ⟨aside, same | ⟨before, after⟩⟩
  · obtain ⟨next, there, step⟩ := performed.attended attends
      (PeerProducer.next_forwards taken wellFormed here)
    exact ⟨next, there, kept.step step⟩
  · rw [notePeers_aside record aside, same]
    exact ⟨phase, here, kept⟩
  · rw [before] at here
    rw [notePeers_aside record aside, after]
    exact ⟨phase, here, kept⟩

theorem run_messagesForwarded (run : (messenger parts).Run (attended parts) labels s) :
    MessagesForwarded parts (messageRecord parts labels) s.messages := by
  refine run.record_invariant (I := fun record s => MessagesForwarded parts record s.messages) ?_ ?_
  · exact ⟨.idle, rfl, Forwarder.kept_empty _ _⟩
  · intro labels record s label s' before holds allowed taken
    exact holds.step (run_unborn before) allowed.1 allowed.2 (next_stepped taken)

theorem run_peersForwarded (run : (messenger parts).Run (attended parts) labels s) :
    PeersForwarded parts (peerRecord parts labels) s.peers := by
  refine run.record_invariant (I := fun record s => PeersForwarded parts record s.peers) ?_ ?_
  · exact ⟨.idle, rfl, Forwarder.kept_empty _ _⟩
  · intro labels record s label s' before holds allowed taken
    exact holds.step (run_unborn before) allowed.1 allowed.2 (next_stepped taken)

theorem MessageProducer.next_finished (shutdown : Bool) (move : MessageMove) :
    MessageProducer.next parts shutdown .finished move = none := by
  cases move <;> rfl

theorem PeerProducer.next_finished (shutdown : Bool) (move : PeerMove) :
    PeerProducer.next parts shutdown .finished move = none := by
  cases move <;> rfl

theorem MessageProducer.next_quit {shutdown : Bool} {task : MessageProducer}
    {done : Local MessageProducer} (taken : task.next parts shutdown .quit = some done) :
    done = .goto .finished := by
  cases task with
  | looping | receiving => exact (onShutdown_cases taken).2
  | _ => cases taken

theorem PeerProducer.next_quit {shutdown : Bool} {task : PeerProducer}
    {done : Local PeerProducer} (taken : task.next parts shutdown .quit = some done) :
    done = .goto .finished := by
  cases task with
  | receiving => exact (onShutdown_cases taken).2
  | _ => cases taken

theorem Stepped.messages_finished (stepped : Stepped parts s label s') (unborn : Unborn s)
    (finished : s.messages = .finished ∨ label = .messages .quit) : s'.messages = .finished := by
  rcases stepped.messages_cases unborn with
    ⟨move, done, shared, task, rfl, taken, performed, rfl⟩ | ⟨aside, same | ⟨before, after⟩⟩
  · rcases finished with finished | quit
    · rw [finished, MessageProducer.next_finished] at taken
      cases taken
    · cases quit
      rw [MessageProducer.next_quit taken] at performed
      have ended : (Local.goto MessageProducer.finished).leads (· = .finished) := rfl
      exact performed.leads ended
  · rcases finished with finished | rfl
    · exact same.trans finished
    · cases aside
  · rcases finished with finished | rfl
    · rw [finished] at before
      cases before
    · cases aside

theorem Stepped.peers_finished (stepped : Stepped parts s label s') (unborn : Unborn s)
    (finished : s.peers = .finished ∨ label = .peers .quit) : s'.peers = .finished := by
  rcases stepped.peers_cases unborn with
    ⟨move, done, shared, task, rfl, taken, performed, rfl⟩ | ⟨aside, same | ⟨before, after⟩⟩
  · rcases finished with finished | quit
    · rw [finished, PeerProducer.next_finished] at taken
      cases taken
    · cases quit
      rw [PeerProducer.next_quit taken] at performed
      have ended : (Local.goto PeerProducer.finished).leads (· = .finished) := rfl
      exact performed.leads ended
  · rcases finished with finished | rfl
    · exact same.trans finished
    · cases aside
  · rcases finished with finished | rfl
    · rw [finished] at before
      cases before
    · cases aside

/-- A producer that has seen the shutdown makes no further step. -/
theorem run_quit {guard : Lts.Guard (State parts.cfg) Label}
    (run : (messenger parts).Run guard labels s) :
    (.messages .quit ∈ labels → s.messages = .finished) ∧
      (.peers .quit ∈ labels → s.peers = .finished) := by
  refine run.invariant (I := fun labels s => (.messages .quit ∈ labels → s.messages = .finished) ∧
    (.peers .quit ∈ labels → s.peers = .finished)) ?_ ?_
  · exact ⟨fun quit => absurd quit List.not_mem_nil, fun quit => absurd quit List.not_mem_nil⟩
  · intro labels s label s' before holds _ taken
    have stepped := next_stepped taken
    have unborn := run_unborn before
    constructor
    · intro quit
      refine stepped.messages_finished unborn ?_
      rcases List.mem_append.mp quit with earlier | last
      · exact Or.inl (holds.1 earlier)
      · exact Or.inr (List.mem_singleton.mp last).symm
    · intro quit
      refine stepped.peers_finished unborn ?_
      rcases List.mem_append.mp quit with earlier | last
      · exact Or.inl (holds.2 earlier)
      · exact Or.inr (List.mem_singleton.mp last).symm

/-- Neither producer is stuck: it can subscribe with any answer, receive any item while it waits,
put the event it holds into the channel while there is room, and quit on the signal. -/
structure Proceeds (parts : Parts) (s : State parts.cfg) : Prop where
  again : s.messages = .looping → (s.next parts (.messages .begin)).isSome = true
  messages : s.messages = .subscribing →
    ∀ answer, (s.next parts (.messages (.subscribe answer))).isSome = true
  message : s.messages.InPhase .waiting →
    ∀ item, (s.next parts (.messages (.receive item))).isSome = true
  /-- A foreign or unreadable message is as if it had never come. -/
  ignored : s.messages.InPhase .waiting → ∀ message,
    (parts.ldk.publicKeyFromSlice message.peer).isSome = true → incoming parts message = [] →
    s.next parts (.messages (.receive (.ok message))) = some s
  messageEvent : (∃ event, s.messages.InPhase (.holding event)) ∨ s.messages.InPhase .failing →
    s.queue.length < s.capacity → (s.next parts (.messages .send)).isSome = true
  messagesQuit : s.messages.InPhase .waiting → s.shutdown = true →
    (s.next parts (.messages .quit)).isSome = true
  peers : s.peers = .subscribing →
    ∀ answer, (s.next parts (.peers (.subscribe answer))).isSome = true
  peerEvent : s.peers.InPhase parts .waiting →
    ∀ item, (s.next parts (.peers (.receive item))).isSome = true
  support : (∃ event, s.peers.InPhase parts (.looking event)) →
    ∀ onionSupport, (s.next parts (.peers (.support onionSupport))).isSome = true
  connectionEvent : (∃ event, s.peers.InPhase parts (.holding event)) ∨
      s.peers.InPhase parts .failing →
    s.queue.length < s.capacity → (s.next parts (.peers .send)).isSome = true
  peersQuit : s.peers.InPhase parts .waiting → s.shutdown = true →
    (s.next parts (.peers .quit)).isSome = true

theorem MessageProducer.next_subscribe (shutdown : Bool) (answer : Except Status Unit) :
    ∃ task, MessageProducer.next parts shutdown .subscribing (.subscribe answer) =
      some (.goto task) := by
  cases answer with
  | ok opened => exact ⟨.receiving, rfl⟩
  | error e =>
      simp only [MessageProducer.next]
      split <;> exact ⟨_, rfl⟩

theorem MessageProducer.next_receive (shutdown : Bool) (item : Except Status CustomMessage) :
    ∃ task, MessageProducer.next parts shutdown .receiving (.receive item) =
      some (.goto task) := by
  cases item with
  | error e => exact ⟨.exiting, rfl⟩
  | ok message =>
      simp only [MessageProducer.next]
      split
      · exact ⟨_, rfl⟩
      · split
        · exact ⟨_, rfl⟩
        · split <;> exact ⟨_, rfl⟩

theorem PeerProducer.next_receive (shutdown : Bool) (item : Except Status PeerEvent) :
    ∃ task, PeerProducer.next parts shutdown .receiving (.receive item) = some (.goto task) := by
  cases item with
  | error e => exact ⟨.exiting, rfl⟩
  | ok event =>
      simp only [PeerProducer.next]
      split <;> exact ⟨_, rfl⟩

theorem perform_send {T : Type} (set : State parts.cfg → T → State parts.cfg)
    (event : MessengerEvent) (sent failed : T) (room : s.queue.length < s.capacity) :
    (s.perform set (.send event sent failed)).isSome = true := by
  simp only [State.perform, if_pos room]
  split <;> rfl

theorem MessageProducer.receiving_of_waiting {task : MessageProducer}
    (waiting : task.InPhase .waiting) : task = .receiving := by
  cases task with
  | receiving => rfl
  | _ => cases waiting

theorem PeerProducer.receiving_of_waiting {task : PeerProducer}
    (waiting : task.InPhase parts .waiting) : task = .receiving := by
  cases task with
  | receiving => rfl
  | lookingUp peer =>
      obtain ⟨event, waits, _⟩ := waiting
      cases waits
  | _ => cases waiting

theorem MessageProducer.sending_of_inHand {task : MessageProducer}
    (inHand : (∃ event, task.InPhase (.holding event)) ∨ task.InPhase .failing) :
    (∃ event, task = .sending event) ∨ task = .exiting := by
  cases task with
  | sending event => exact .inl ⟨event, rfl⟩
  | exiting => exact .inr rfl
  | _ =>
      rcases inHand with ⟨event, holding⟩ | failing
      · cases holding
      · cases failing

theorem PeerProducer.sending_of_inHand {task : PeerProducer}
    (inHand : (∃ event, task.InPhase parts (.holding event)) ∨ task.InPhase parts .failing) :
    (∃ event, task = .sending event) ∨ task = .exiting := by
  cases task with
  | sending event => exact .inl ⟨event, rfl⟩
  | exiting => exact .inr rfl
  | lookingUp peer =>
      rcases inHand with ⟨event, looked, holding, _⟩ | ⟨looked, failing, _⟩
      · cases holding
      · cases failing
  | _ =>
      rcases inHand with ⟨event, holding⟩ | failing
      · cases holding
      · cases failing

theorem MessageProducer.next_ignored (shutdown : Bool) {message : CustomMessage}
    (parsed : (parts.ldk.publicKeyFromSlice message.peer).isSome = true)
    (ignored : incoming parts message = []) :
    MessageProducer.next parts shutdown .receiving (.receive (.ok message)) =
      some (.goto .receiving) := by
  obtain ⟨pubkey, key⟩ := Option.isSome_iff_exists.mp parsed
  simp only [MessageProducer.next, key]
  split
  · rfl
  next onion =>
    rw [incoming_onion onion key] at ignored
    cases read : parts.readOnionMessage message.data with
    | none => rfl
    | some onionMessage =>
        rw [read] at ignored
        cases ignored

theorem proceeds (s : State parts.cfg) : Proceeds parts s where
  again := by
    intro looping
    simp only [State.next, looping, MessageProducer.next, Option.bind_some]
    rfl
  messages := by
    intro subscribing answer
    obtain ⟨after, next⟩ := @MessageProducer.next_subscribe parts s.shutdown answer
    simp only [State.next, subscribing, next, Option.bind_some]
    rfl
  message := by
    intro waiting item
    obtain ⟨after, next⟩ := @MessageProducer.next_receive parts s.shutdown item
    simp only [State.next, MessageProducer.receiving_of_waiting waiting, next, Option.bind_some]
    rfl
  ignored := by
    intro waiting message parsed ignored
    have here := MessageProducer.receiving_of_waiting waiting
    simp only [State.next, here, MessageProducer.next_ignored s.shutdown parsed ignored,
      Option.bind_some, State.perform, State.setMessages]
    rw [← here]
  messageEvent := by
    intro inHand room
    rcases MessageProducer.sending_of_inHand inHand with ⟨event, here⟩ | here <;>
      simp only [State.next, here, MessageProducer.next, Option.bind_some] <;>
      exact perform_send _ _ _ _ room
  messagesQuit := by
    intro waiting signal
    simp only [State.next, MessageProducer.receiving_of_waiting waiting, MessageProducer.next,
      onShutdown, signal, if_true, Option.bind_some]
    rfl
  peers := by
    intro subscribing answer
    simp only [State.next, subscribing]
    cases answer with
    | ok opened => rfl
    | error e =>
        simp only [PeerProducer.next]
        split <;> rfl
  peerEvent := by
    intro waiting item
    obtain ⟨after, next⟩ := @PeerProducer.next_receive parts s.shutdown item
    simp only [State.next, PeerProducer.receiving_of_waiting waiting, next, Option.bind_some]
    rfl
  support := by
    rintro ⟨event, looking⟩ onionSupport
    cases task : s.peers with
    | lookingUp peer =>
        simp only [State.next, task, PeerProducer.next, Option.bind_some]
        rfl
    | _ => rw [task] at looking; cases looking
  connectionEvent := by
    intro inHand room
    rcases PeerProducer.sending_of_inHand inHand with ⟨event, here⟩ | here <;>
      simp only [State.next, here, PeerProducer.next, Option.bind_some] <;>
      exact perform_send _ _ _ _ room
  peersQuit := by
    intro waiting signal
    simp only [State.next, PeerProducer.receiving_of_waiting waiting, PeerProducer.next,
      onShutdown, signal, if_true, Option.bind_some]
    rfl

/-- Producers forward their streams, in every run on well-formed keys in which the consumer
keeps receiving: each stream's events are those of its items, in order and followed by the one
exit if it failed; a stream is left with `Ok` only on the signal to quit; all that a producer puts
into the channel is what its streams gave, one after the other; and nothing follows the signal. -/
theorem producers_forward (parts : Parts) (labels : List Label) (s : State parts.cfg)
    (run : (messenger parts).Run (attended parts) labels s) :
    MessagesForwarded parts (messageRecord parts labels) s.messages ∧
      PeersForwarded parts (peerRecord parts labels) s.peers ∧ Proceeds parts s ∧
      (.messages .quit ∈ labels → ∀ move, s.next parts (.messages move) = none) ∧
      (.peers .quit ∈ labels → ∀ move, s.next parts (.peers move) = none) := by
  obtain ⟨messagesQuit, peersQuit⟩ := run_quit run
  refine ⟨run_messagesForwarded run, run_peersForwarded run, proceeds s, ?_, ?_⟩
  · intro quit move
    simp only [State.next, messagesQuit quit, MessageProducer.next_finished, Option.bind_none]
  · intro quit move
    simp only [State.next, peersQuit quit, PeerProducer.next_finished, Option.bind_none]

def pickyParts : Parts :=
  { sampleParts with
    readOnionMessage := fun bytes => if bytes.isEmpty then none else some ⟨bytes⟩ }

def unreadableMessage : CustomMessage := ⟨List.replicate 33 2, ONION_MESSAGE_TYPE, []⟩

def foreignMessage : CustomMessage := ⟨List.replicate 33 2, 1, [7]⟩

def readableMessage : CustomMessage := ⟨List.replicate 33 2, ONION_MESSAGE_TYPE, [7]⟩

/-- An unreadable and a foreign message before a readable one, a failure and a new subscription,
which is left on the shutdown; a peer that comes and goes, before and after the messages. -/
def resubscribed : List Label :=
  startAlone ++ [.peers (.subscribe (.ok ())), .peers (.receive (.ok ⟨"", .peerOnline⟩)),
    .messages .begin, .messages (.subscribe (.ok ())),
    .messages (.receive (.ok unreadableMessage)), .messages (.receive (.ok foreignMessage)),
    .messages (.receive (.ok readableMessage)), .messages .send, .take true,
    .peers (.support true), .peers .send, .take true,
    .messages (.receive (.error (.unknown ""))), .messages .send, .take true, .messages .begin,
    .messages (.subscribe (.ok ())), .messages (.receive (.ok unreadableMessage)),
    .peers (.receive (.ok ⟨"", .peerOffline⟩)), .peers .send, .interrupt, .messages .quit]

theorem producers_forward_resubscribed :
    ∃ s : State pickyParts.cfg,
      (messenger pickyParts).Run (attended pickyParts) resubscribed s ∧
      messageRecord pickyParts resubscribed =
        ⟨[⟨[unreadableMessage], none, true, [], some (.ok ())⟩,
          ⟨[unreadableMessage, foreignMessage, readableMessage], some (.unknown ""), false,
            [.incomingMessage (.repeated 2) ⟨[7]⟩, .producerExit .incomingMessageProducerExit],
            some (.error ())⟩],
          [.incomingMessage (.repeated 2) ⟨[7]⟩, .producerExit .incomingMessageProducerExit]⟩ ∧
      peerRecord pickyParts resubscribed =
        ⟨[⟨[⟨"", .peerOnline⟩, ⟨"", .peerOffline⟩], none, false,
            [.peerConnected (.repeated 2) true, .peerDisconnected (.repeated 2)], none⟩],
          [.peerConnected (.repeated 2) true, .peerDisconnected (.repeated 2)]⟩ ∧
      MessagesForwarded pickyParts (messageRecord pickyParts resubscribed) s.messages ∧
      PeersForwarded pickyParts (peerRecord pickyParts resubscribed) s.peers ∧
      Proceeds pickyParts s ∧ ∀ move, s.next pickyParts (.messages move) = none := by
  obtain ⟨s, followed⟩ : ∃ s, (messenger pickyParts).follow (attended pickyParts) []
      resubscribed (messenger pickyParts).init = some s := ⟨_, rfl⟩
  have run := Lts.run_of_follow followed
  obtain ⟨messages, peers, going, quit, _⟩ := producers_forward pickyParts resubscribed s run
  exact ⟨s, run, rfl, rfl, messages, peers, going, quit (by simp [resubscribed])⟩

end Runs

end LndkFormal.Messenger
