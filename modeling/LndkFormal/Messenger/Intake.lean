import LndkFormal.Messenger.Channel
import LndkFormal.Messenger.Forwarding
import LndkFormal.RateLimit.Window

/-!
# What reaches LDK's onion messenger

The messages that the consumer passes on come from LND's stream, in its order and each at
most once, and the rate limit holds for them over any window of time: not for the limiter
alone, but for the messenger with all its tasks.
-/

set_option autoImplicit false

namespace LndkFormal.Messenger

open LndkFormal.Async
open LndkFormal.Buckets
open LndkFormal.Ldk
open LndkFormal.Lnd
open LndkFormal.RateLimit

/-- A message that was passed on, with the time at which the limiter was asked. -/
structure Passed where
  time : Nat
  peer : PublicKey
  message : OnionMessage

def Passed.contents (passed : Passed) : PublicKey × OnionMessage := (passed.peer, passed.message)

def Passed.call (passed : Passed) : MessengerCall :=
  .handleOnionMessage passed.peer passed.message

def Passed.granted (passed : Passed) : PublicKey × Nat := (passed.peer, passed.time)

def Passed.within (peer : PublicKey) (start stop : Nat) (passed : Passed) : Bool :=
  decide (passed.peer = peer) && decide (start ≤ passed.time ∧ passed.time < stop)

/-- The peer of a granted query, and the time that `needs_update` read. -/
def grantOf : Entry → Option (PublicKey × Nat)
  | .queried peer readAt _ true => some (peer, readAt)
  | _ => none

theorem grantedWithin_eq_countP (peer : PublicKey) (start stop : Nat) (history : List Entry) :
    grantedWithin peer start stop history = (history.filterMap grantOf).countP fun grant =>
      decide (grant.1 = peer) && decide (start ≤ grant.2 ∧ grant.2 < stop) := by
  rw [grantedWithin, List.countP_filterMap]
  congr 1
  funext entry
  cases entry with
  | queried asked readAt updated granted => cases granted <;> rfl
  | _ => rfl

def MessengerCall.isMessage : MessengerCall → Bool
  | .handleOnionMessage _ _ => true
  | _ => false

def MessengerEvent.incoming : MessengerEvent → Option (PublicKey × OnionMessage)
  | .incomingMessage peer message => some (peer, message)
  | _ => none

def CustomMessage.onionMessage (parts : Parts) (message : CustomMessage) :
    Option (PublicKey × OnionMessage) :=
  if message.type ≠ ONION_MESSAGE_TYPE then none
  else
    match parts.ldk.publicKeyFromSlice message.peer with
    | none => none
    | some pubkey => (parts.readOnionMessage message.data).map fun read => (pubkey, read)

def deliveredBy (parts : Parts) : Label → Option (PublicKey × OnionMessage)
  | .messages (.receive (.ok message)) => message.onionMessage parts
  | _ => none

def delivered (parts : Parts) (labels : List Label) : List (PublicKey × OnionMessage) :=
  labels.filterMap (deliveredBy parts)

/-! ## The consumer -/

section Consumer

variable {cfg : RateLimiterCfg} {clock : Clock}

def Consumer.passing (clock : Clock) (consumer : Consumer cfg) : MessengerEvent → List Passed
  | .incomingMessage peer message =>
      if (consumer.ledger.limiter.queryPeer clock peer).1 then
        [⟨consumer.ledger.limiter.now clock, peer, message⟩]
      else []
  | _ => []

/-- What a lone consumer passes on that is fed a list of events. -/
def Consumer.passed (clock : Clock) (consumer : Consumer cfg) :
    List (MessengerEvent × Bool) → List Passed
  | [] => []
  | (event, accepted) :: rest =>
      consumer.passing clock event ++
        match consumer.handle clock accepted event with
        | .consuming next => next.passed clock rest
        | _ => []

def Main.consumer : Main cfg → Option (Consumer cfg)
  | .consuming consumer => some consumer
  | .exited consumer _ => some consumer
  | _ => none

/-- From one consumer to a later one, with these messages passed on between them. -/
structure Passes (clock : Clock) (before : Consumer cfg) (passed : List Passed)
    (after : Consumer cfg) : Prop where
  calls : after.calls.filter MessengerCall.isMessage =
    (passed.map Passed.call).reverse ++ before.calls.filter MessengerCall.isMessage
  granted : after.ledger.history.filterMap grantOf =
    (passed.map Passed.granted).reverse ++ before.ledger.history.filterMap grantOf
  ledger : ∃ calls, after.ledger = before.ledger.run clock calls
  later : before.ledger.limiter.now clock ≤ after.ledger.limiter.now clock
  ordered : passed.Pairwise fun first second => first.time ≤ second.time
  timed : ∀ one ∈ passed, before.ledger.limiter.now clock ≤ one.time ∧
    one.time ≤ after.ledger.limiter.now clock

theorem Passes.refl (consumer : Consumer cfg) : Passes clock consumer [] consumer where
  calls := rfl
  granted := rfl
  ledger := ⟨[], rfl⟩
  later := Nat.le_refl _
  ordered := .nil
  timed := by simp

theorem Passes.trans {before middle after : Consumer cfg} {passed further : List Passed}
    (first : Passes clock before passed middle) (second : Passes clock middle further after) :
    Passes clock before (passed ++ further) after where
  calls := by
    rw [second.calls, first.calls, List.map_append, List.reverse_append, List.append_assoc]
  granted := by
    rw [second.granted, first.granted, List.map_append, List.reverse_append, List.append_assoc]
  ledger := by
    obtain ⟨calls, done⟩ := first.ledger
    obtain ⟨more, redone⟩ := second.ledger
    exact ⟨calls ++ more, by rw [redone, done, Ledger.run, Ledger.run, Ledger.run,
      List.foldl_append]⟩
  later := Nat.le_trans first.later second.later
  ordered := by
    refine List.pairwise_append.mpr ⟨first.ordered, second.ordered, ?_⟩
    intro one here other there
    exact Nat.le_trans (first.timed one here).2 (second.timed other there).1
  timed := by
    intro one here
    rcases List.mem_append.mp here with early | late
    · exact ⟨(first.timed one early).1, Nat.le_trans (first.timed one early).2 second.later⟩
    · exact ⟨Nat.le_trans first.later (second.timed one late).1, (second.timed one late).2⟩

theorem now_call (ledger : Ledger cfg) (call : Call) :
    ledger.limiter.now clock ≤ (ledger.call clock call).limiter.now clock := by
  apply clock.forward
  cases call with
  | peerConnected peer => simp [Ledger.call]
  | peerDisconnected peer => simp [Ledger.call, TokenLimiter.peerDisconnected]
  | queryPeer peer =>
      simp only [Ledger.call, TokenLimiter.queryPeer, TokenLimiter.readings_hit,
        TokenLimiter.refresh]
      split
      · simp only [TokenLimiter.update, TokenLimiter.tick]
        omega
      · simp only [TokenLimiter.tick]
        omega

theorem now_run (ledger : Ledger cfg) (calls : List Call) :
    ledger.limiter.now clock ≤ (ledger.run clock calls).limiter.now clock :=
  Ledger.run_invariant (I := fun reached =>
      ledger.limiter.now clock ≤ reached.limiter.now clock) clock
    (fun reached call sofar => Nat.le_trans sofar (now_call reached call)) ledger
    (Nat.le_refl _) calls

theorem passes_round (consumer : Consumer cfg) (calls : List Call)
    (recorded : List MessengerCall) (passed : List Passed)
    (handled : recorded.filter MessengerCall.isMessage = (passed.map Passed.call).reverse)
    (granted : (consumer.ledger.run clock calls).history.filterMap grantOf =
      (passed.map Passed.granted).reverse ++ consumer.ledger.history.filterMap grantOf)
    (timed : ∀ one ∈ passed, one.time = consumer.ledger.limiter.now clock) :
    Passes clock consumer passed
      ⟨consumer.ledger.run clock calls, recorded ++ consumer.calls⟩ where
  calls := by rw [List.filter_append, handled]
  granted := granted
  ledger := ⟨calls, rfl⟩
  later := now_run consumer.ledger calls
  ordered := by
    refine List.pairwise_of_forall_mem_list fun one here other there => ?_
    rw [timed one here, timed other there]
  timed := by
    intro one here
    rw [timed one here]
    exact ⟨Nat.le_refl _, now_run consumer.ledger calls⟩

theorem Consumer.handle_passes (clock : Clock) (consumer : Consumer cfg) (accepted : Bool)
    (event : MessengerEvent) :
    ∃ after, (consumer.handle clock accepted event).consumer = some after ∧
      Passes clock consumer (consumer.passing clock event) after := by
  have quiet : ∀ (calls : List Call) (recorded : List MessengerCall),
      recorded.filter MessengerCall.isMessage = [] →
      (consumer.ledger.run clock calls).history.filterMap grantOf =
        consumer.ledger.history.filterMap grantOf →
      Passes clock consumer [] ⟨consumer.ledger.run clock calls, recorded ++ consumer.calls⟩ := by
    intro calls recorded silent same
    exact passes_round consumer calls recorded [] silent same (by simp)
  cases event with
  | peerConnected peer support =>
      cases accepted with
      | true =>
          exact ⟨_, rfl, quiet [.peerConnected peer] [.peerConnected peer true] rfl rfl⟩
      | false => exact ⟨_, rfl, quiet [] [.peerConnected peer false] rfl rfl⟩
  | peerDisconnected peer =>
      exact ⟨_, rfl, quiet [.peerDisconnected peer] [.peerDisconnected peer] rfl rfl⟩
  | incomingMessage peer message =>
      simp only [Consumer.handle, Consumer.passing]
      cases granted : (consumer.ledger.limiter.queryPeer clock peer).1 with
      | false =>
          refine ⟨_, rfl, quiet [.queryPeer peer] [] rfl ?_⟩
          simp only [Ledger.run, Ledger.call, granted, List.foldl_cons, List.foldl_nil]
          rfl
      | true =>
          refine ⟨_, rfl, passes_round consumer [.queryPeer peer]
            [.handleOnionMessage peer message] _ rfl ?_ (by simp)⟩
          simp only [Ledger.run, Ledger.call, granted, List.foldl_cons, List.foldl_nil]
          rfl
  | sendOutgoing =>
      exact ⟨_, rfl, quiet [] [.nextOnionMessages consumer.ledger.limiter.peers] rfl rfl⟩
  | producerExit error => exact ⟨_, rfl, .refl consumer⟩

theorem Consumer.consume_passes (clock : Clock) (consumer : Consumer cfg)
    (events : List (MessengerEvent × Bool)) :
    ∃ after, (consumer.consume clock events).consumer = some after ∧
      Passes clock consumer (consumer.passed clock events) after := by
  induction events generalizing consumer with
  | nil => exact ⟨consumer, rfl, .refl consumer⟩
  | cons head rest ih =>
      obtain ⟨event, accepted⟩ := head
      obtain ⟨next, reached, round⟩ := consumer.handle_passes clock accepted event
      simp only [Consumer.consume, Consumer.passed]
      cases handled : consumer.handle clock accepted event with
      | consuming after =>
          obtain ⟨last, ended, further⟩ := ih after
          rw [handled] at reached
          cases reached
          exact ⟨last, ended, round.trans further⟩
      | exited after result =>
          rw [handled] at reached
          cases reached
          exact ⟨_, rfl, round.trans (.refl _)⟩
      | _ =>
          rw [handled] at reached
          cases reached

theorem Consumer.passed_sublist (clock : Clock) (consumer : Consumer cfg)
    (events : List (MessengerEvent × Bool)) :
    ((consumer.passed clock events).map Passed.contents).Sublist
      ((events.map Prod.fst).filterMap MessengerEvent.incoming) := by
  induction events generalizing consumer with
  | nil => exact .slnil
  | cons head rest ih =>
      obtain ⟨event, accepted⟩ := head
      have round : ((consumer.passing clock event).map Passed.contents).Sublist
          event.incoming.toList := by
        cases event with
        | incomingMessage peer message =>
            simp only [Consumer.passing]
            split
            · exact .refl _
            · exact List.nil_sublist _
        | _ => exact .slnil
      have others : ((match consumer.handle clock accepted event with
          | .consuming next => next.passed clock rest
          | _ => []).map Passed.contents).Sublist
          ((rest.map Prod.fst).filterMap MessengerEvent.incoming) := by
        split
        · exact ih _
        · exact List.nil_sublist _
      have first : ((event :: rest.map Prod.fst).filterMap MessengerEvent.incoming) =
          event.incoming.toList ++ (rest.map Prod.fst).filterMap MessengerEvent.incoming := by
        cases event <;> rfl
      rw [Consumer.passed, List.map_append, List.map_cons, first]
      exact round.append others

end Consumer

/-! ## The producers -/

section Producers

variable {parts : Parts} {s s' : State parts.cfg} {label : Label} {labels : List Label}

def MessageProducer.pending : MessageProducer → List (PublicKey × OnionMessage)
  | .sending event => event.incoming.toList
  | _ => []

/-- The onion messages in the channel, and those taken from it, were delivered by LND. -/
structure Sourced (parts : Parts) (labels : List Label) (s : State parts.cfg) : Prop where
  sublist : ((traffic parts labels).sent.filterMap MessengerEvent.incoming ++
    s.messages.pending).Sublist (delivered parts labels)
  /-- The producer of peer events sends none. -/
  peers : ∀ event, s.peers = .sending event → event.incoming = none

theorem traffic_concat {guard : Lts.Guard (State parts.cfg) Label}
    (run : (messenger parts).Run guard labels s) (taken : s.next parts label = some s') :
    traffic parts (labels ++ [label]) = noteTraffic (traffic parts labels) s label s' := by
  have step : (messenger parts).next s label = some s' := taken
  change (messenger parts).record noteTraffic ⟨[], []⟩ (messenger parts).init _ = _
  rw [run.record_from]
  simp only [Lts.record, step]
  rfl

theorem delivered_concat (labels : List Label) (label : Label) :
    delivered parts (labels ++ [label]) =
      delivered parts labels ++ (deliveredBy parts label).toList := by
  rw [delivered, List.filterMap_append]
  cases given : deliveredBy parts label <;> simp [delivered, given]

def Local.silent {T : Type} : Local T → Prop
  | .send event _ _ => event.incoming = none
  | _ => True

theorem Performed.silent {T : Type} {shared : State parts.cfg} {done : Local T} {task : T}
    (performed : Performed s done shared task) (silent : done.silent) :
    ∃ events, Grows s shared events ∧ events.filterMap MessengerEvent.incoming = [] := by
  obtain ⟨events, grows, each⟩ := performed.grows
  refine ⟨events, grows, List.filterMap_eq_nil_iff.mpr fun event here => ?_⟩
  obtain ⟨sent, failed, rfl⟩ := each event here
  exact silent

theorem Reconnection.next_silent {shutdown : Bool} {task : Reconnection}
    {move : ReconnectionMove} {done : Local Reconnection}
    (taken : task.next parts shutdown move = some done) : done.silent := by
  unfold Reconnection.next at taken
  split at taken
  all_goals first
    | cases taken
    | (obtain ⟨_, rfl⟩ := onShutdown_cases taken)
    | (split at taken <;> cases taken)
  all_goals trivial

theorem Ticker.next_silent {shutdown : Bool} {task : Ticker} {move : TickerMove}
    {done : Local Ticker} (taken : task.next shutdown move = some done) : done.silent := by
  unfold Ticker.next at taken
  split at taken
  all_goals first
    | cases taken
    | (obtain ⟨_, rfl⟩ := onShutdown_cases taken)
  all_goals trivial

theorem PeerProducer.next_silent {shutdown : Bool} {task : PeerProducer} {move : PeerMove}
    {done : Local PeerProducer} (taken : task.next parts shutdown move = some done)
    (own : ∀ event, task = .sending event → event.incoming = none) :
    done.silent ∧
      done.leads fun after => ∀ event, after = .sending event → event.incoming = none := by
  unfold PeerProducer.next at taken
  split at taken
  case h_2 => split at taken <;> cases taken <;> exact ⟨trivial, by simp [Local.leads]⟩
  case h_3 =>
      obtain ⟨_, rfl⟩ := onShutdown_cases taken
      exact ⟨trivial, by simp [Local.leads]⟩
  case h_4 =>
      split at taken
      · cases taken
        exact ⟨trivial, by simp [Local.leads]⟩
      · cases taken
        exact ⟨trivial, by simp [Local.leads]⟩
      · cases taken
        refine ⟨trivial, fun event same => ?_⟩
        cases same
        rfl
  case h_6 =>
      cases taken
      refine ⟨trivial, fun event same => ?_⟩
      cases same
      rfl
  case h_7 event =>
      cases taken
      exact ⟨own event rfl, by simp, by simp⟩
  case h_8 =>
      cases taken
      exact ⟨rfl, by simp, by simp⟩
  case h_10 => cases taken
  all_goals
    cases taken
    exact ⟨trivial, by simp [Local.leads]⟩

theorem MessageProducer.next_pending {shutdown : Bool} {task : MessageProducer}
    {move : MessageMove} {done : Local MessageProducer}
    (taken : task.next parts shutdown move = some done) :
    (∃ after, done = .goto after ∧ task.pending = [] ∧
      after.pending = (deliveredBy parts (.messages move)).toList) ∨
    ∃ event sent failed, done = .send event sent failed ∧ task.pending = event.incoming.toList ∧
      sent.pending = [] ∧ failed.pending = [] := by
  unfold MessageProducer.next at taken
  split at taken
  case h_1 | h_5 =>
      obtain ⟨_, rfl⟩ := onShutdown_cases taken
      exact Or.inl ⟨_, rfl, rfl, rfl⟩
  case h_4 => split at taken <;> cases taken <;> exact Or.inl ⟨_, rfl, rfl, rfl⟩
  case h_6 message =>
      left
      have told : deliveredBy parts (.messages (.receive (.ok message))) =
          message.onionMessage parts := rfl
      rw [told]
      split at taken
      next other =>
        cases taken
        exact ⟨_, rfl, rfl, by rw [CustomMessage.onionMessage, if_pos other]; rfl⟩
      next onion =>
        split at taken
        next unknown =>
          cases taken
          exact ⟨_, rfl, rfl, by rw [CustomMessage.onionMessage, if_neg onion, unknown]; rfl⟩
        next pubkey known =>
          split at taken
          next read readable =>
            cases taken
            refine ⟨_, rfl, rfl, ?_⟩
            rw [CustomMessage.onionMessage, if_neg onion, known, readable]
            rfl
          next unreadable =>
            cases taken
            refine ⟨_, rfl, rfl, ?_⟩
            rw [CustomMessage.onionMessage, if_neg onion, known, unreadable]
            rfl
  case h_8 | h_9 =>
      cases taken
      exact Or.inr ⟨_, _, _, rfl, rfl, rfl, rfl⟩
  case h_10 => cases taken
  all_goals
    cases taken
    exact Or.inl ⟨_, rfl, rfl, rfl⟩

/-- What a step puts into the channel and what is pending after it was pending before, or was
delivered just now. -/
theorem Sourced.flow {guard : Lts.Guard (State parts.cfg) Label}
    {events : List MessengerEvent} (holds : Sourced parts labels s)
    (run : (messenger parts).Run guard labels s) (taken : s.next parts label = some s')
    (puts : ∀ accepted, label ≠ .take accepted) (queue : s'.queue = s.queue ++ events)
    (moves : (events.filterMap MessengerEvent.incoming ++ s'.messages.pending).Sublist
      (s.messages.pending ++ (deliveredBy parts label).toList))
    (peers : ∀ event, s'.peers = .sending event → event.incoming = none) :
    Sourced parts (labels ++ [label]) s' where
  sublist := by
    have noted := traffic_concat run taken
    unfold noteTraffic at noted
    split at noted
    next accepted => exact absurd rfl (puts accepted)
    next =>
      rw [noted, pushed_append queue, List.filterMap_append, List.append_assoc, delivered_concat]
      refine ((List.Sublist.refl _).append moves).trans ?_
      rw [← List.append_assoc]
      exact holds.sublist.append (.refl _)
  peers := peers

theorem Sourced.aside {guard : Lts.Guard (State parts.cfg) Label}
    {events : List MessengerEvent} (holds : Sourced parts labels s)
    (run : (messenger parts).Run guard labels s) (taken : s.next parts label = some s')
    (puts : ∀ accepted, label ≠ .take accepted) (queue : s'.queue = s.queue ++ events)
    (silent : events.filterMap MessengerEvent.incoming = [])
    (pending : s'.messages.pending = s.messages.pending)
    (peers : ∀ event, s'.peers = .sending event → event.incoming = none) :
    Sourced parts (labels ++ [label]) s' := by
  refine holds.flow run taken puts queue ?_ peers
  rw [silent, pending]
  exact List.sublist_append_left _ _

theorem Sourced.messages {guard : Lts.Guard (State parts.cfg) Label} {move : MessageMove}
    {done : Local MessageProducer} (holds : Sourced parts labels s)
    (run : (messenger parts).Run guard labels s)
    (taken : s.next parts (.messages move) = some s')
    (moved : s.messages.next parts s.shutdown move = some done)
    (performed : s.perform State.setMessages done = some s') :
    Sourced parts (labels ++ [.messages move]) s' := by
  obtain ⟨shared, task, effect, rfl⟩ := perform_cases performed
  have peers : ∀ event, (shared.setMessages task).peers = .sending event →
      event.incoming = none :=
    fun event sending => holds.peers event (effect.peers ▸ sending)
  rcases MessageProducer.next_pending moved with ⟨after, rfl, none, pending⟩ |
    ⟨event, sent, failed, rfl, pending, sentNone, failedNone⟩
  · cases effect with
    | goto _ kind =>
        cases kind
        refine holds.flow run taken (by simp) (List.append_nil _).symm ?_ peers
        change (task.pending).Sublist _
        rw [none, pending]
        exact .refl _
    | _ => contradiction
  · cases effect with
    | sent _ _ _ kind open_ room =>
        cases kind
        refine holds.flow run taken (by simp) rfl ?_ peers
        change ([event].filterMap MessengerEvent.incoming ++ task.pending).Sublist _
        rw [pending, sentNone]
        cases event <;> exact List.sublist_append_left _ _
    | refused _ _ _ kind closed =>
        cases kind
        refine holds.flow run taken (by simp) (List.append_nil _).symm ?_ peers
        change (task.pending).Sublist _
        rw [failedNone]
        exact List.nil_sublist _
    | _ => contradiction

theorem Sourced.step {guard : Lts.Guard (State parts.cfg) Label} (holds : Sourced parts labels s)
    (run : (messenger parts).Run guard labels s) (taken : s.next parts label = some s') :
    Sourced parts (labels ++ [label]) s' := by
  have unborn := run_unborn run
  cases next_stepped taken with
  | listed answer here =>
      have same : (s.listed parts answer).queue = s.queue ∧
          (s.listed parts answer).messages = s.messages ∧
          (s.listed parts answer).peers = s.peers := by
        unfold State.listed
        split <;> exact ⟨rfl, rfl, rfl⟩
      obtain ⟨queue, messages, peers⟩ := same
      exact holds.aside run taken (by simp) (by rw [queue, List.append_nil]) rfl
        (by rw [messages]) (peers ▸ holds.peers)
  | queued entry rest here room => exact holds.aside run taken (by simp) rfl rfl rfl holds.peers
  | spawnPeers here =>
      exact holds.aside run taken (by simp) (List.append_nil _).symm rfl rfl (by simp)
  | spawnMessages here =>
      have before : s.messages = .unborn :=
        unborn.messages (by simp only [State.beforeMessages, here])
      exact holds.aside run taken (by simp) (List.append_nil _).symm rfl (by rw [before]; rfl)
        holds.peers
  | unlisted | spawnReconnection | spawnTicker | consume | hangUp | interrupt | lnd =>
      exact holds.aside run taken (by simp) (List.append_nil _).symm rfl rfl holds.peers
  | take consumer event rest accepted here head =>
      refine ⟨?_, holds.peers⟩
      rw [traffic_concat run taken, delivered_concat]
      exact holds.sublist.trans (List.sublist_append_left _ _)
  | reconnection move done moved performed =>
      obtain ⟨shared, task, effect, rfl⟩ := perform_cases performed
      obtain ⟨events, grows, silent⟩ := effect.silent (Reconnection.next_silent moved)
      exact holds.aside run taken (by simp) grows.queue silent
        (congrArg MessageProducer.pending effect.messages)
        fun event sending => holds.peers event (effect.peers ▸ sending)
  | peers move done moved performed =>
      obtain ⟨shared, task, effect, rfl⟩ := perform_cases performed
      obtain ⟨quiet, leads⟩ := PeerProducer.next_silent moved holds.peers
      obtain ⟨events, grows, silent⟩ := effect.silent quiet
      exact holds.aside run taken (by simp) grows.queue silent
        (congrArg MessageProducer.pending effect.messages) (effect.leads leads)
  | messages move done moved performed => exact holds.messages run taken moved performed
  | ticker move done moved performed =>
      obtain ⟨shared, task, effect, rfl⟩ := perform_cases performed
      obtain ⟨events, grows, silent⟩ := effect.silent (Ticker.next_silent moved)
      exact holds.aside run taken (by simp) grows.queue silent
        (congrArg MessageProducer.pending effect.messages)
        fun event sending => holds.peers event (effect.peers ▸ sending)

theorem run_sourced {guard : Lts.Guard (State parts.cfg) Label}
    (run : (messenger parts).Run guard labels s) : Sourced parts labels s := by
  refine run.invariant (I := Sourced parts) ?_ ?_
  · exact ⟨List.Sublist.refl [], by simp [messenger, State.init]⟩
  · intro labels s label s' before holds _ taken
    exact holds.step before taken

end Producers

theorem Consumes.passes {parts : Parts} {taken : List (MessengerEvent × Bool)}
    {s : State parts.cfg} (consumes : Consumes parts taken s) {consumer : Consumer parts.cfg}
    (here : s.main.consumer = some consumer) :
    Passes parts.clock (.new parts.clock parts.cfg s.currentPeers.keys)
      ((Consumer.new parts.clock parts.cfg s.currentPeers.keys).passed parts.clock taken)
      consumer := by
  obtain ⟨after, reached, passes⟩ := Consumer.consume_passes parts.clock
    (.new parts.clock parts.cfg s.currentPeers.keys) taken
  suffices same : after = consumer from same ▸ passes
  unfold Consumes at consumes
  cases main : s.main with
  | consuming now =>
      rw [main] at consumes here
      rw [consumes] at reached
      exact Option.some.inj (reached.symm.trans here)
  | exited last result =>
      cases result with
      | ok =>
          rw [main] at consumes here
          rw [consumes.1] at reached
          exact Option.some.inj (reached.symm.trans here)
      | error e =>
          rw [main] at consumes here
          rw [consumes] at reached
          exact Option.some.inj (reached.symm.trans here)
  | _ =>
      rw [main] at here
      cases here

/-- From the start on, what was passed on is what the limiter's books have as granted. -/
theorem Passes.granted_new {cfg : RateLimiterCfg} {clock : Clock} {peers : List PublicKey}
    {passed : List Passed} {consumer : Consumer cfg}
    (passes : Passes clock (.new clock cfg peers) passed consumer) :
    (consumer.ledger.history.filterMap grantOf).reverse = passed.map Passed.granted := by
  rw [passes.granted]
  simp [Consumer.new, Ledger.new]

theorem Passes.window {cfg : RateLimiterCfg} {clock : Clock} {peers : List PublicKey}
    {passed : List Passed} {consumer : Consumer cfg}
    (passes : Passes clock (.new clock cfg peers) passed consumer) (peer : PublicKey)
    (start periods : Nat) :
    passed.countP (Passed.within peer start (start + periods * cfg.callPeriod)) ≤
      (periods + 1) * cfg.callCount.toNat := by
  obtain ⟨calls, reached⟩ := passes.ledger
  have moves := new_moves cfg clock peers calls peer start (start + periods * cfg.callPeriod)
  have bound := spent_within periods rfl moves (TokenLimiter.allowance_le _ peer)
  have counted : grantedWithin peer start (start + periods * cfg.callPeriod)
      consumer.ledger.history =
        passed.countP (Passed.within peer start (start + periods * cfg.callPeriod)) := by
    rw [grantedWithin_eq_countP, ← List.countP_reverse, passes.granted_new, List.countP_map]
    rfl
  rw [← counted, reached]
  simpa [bucket, Ledger.new, Consumer.new, grantedWithin] using bound

def passedOn (parts : Parts) (labels : List Label) (s : State parts.cfg) : List Passed :=
  (Consumer.new parts.clock parts.cfg s.currentPeers.keys).passed parts.clock
    (traffic parts labels).taken

/-- These messages were handed to the onion messenger, one for each query that the limiter has
granted, with its peer and at its time. -/
structure Intake (parts : Parts) (labels : List Label) (consumer : Consumer parts.cfg)
    (passed : List Passed) : Prop where
  calls : (consumer.calls.filter MessengerCall.isMessage).reverse = passed.map Passed.call
  granted : (consumer.ledger.history.filterMap grantOf).reverse = passed.map Passed.granted
  delivered : (passed.map Passed.contents).Sublist (delivered parts labels)
  ordered : passed.Pairwise fun first second => first.time ≤ second.time
  window : ∀ peer start periods,
    passed.countP (Passed.within peer start (start + periods * parts.cfg.callPeriod)) ≤
      (periods + 1) * parts.cfg.callCount.toNat

/-- What the onion messenger is handed comes from LND's stream, in order and each message once
at most, and within the quota of its peer over any window of whole periods. -/
theorem intake_disciplined (parts : Parts) (guard : Lts.Guard (State parts.cfg) Label)
    (labels : List Label) (s : State parts.cfg) (run : (messenger parts).Run guard labels s)
    (consumer : Consumer parts.cfg) (here : s.main.consumer = some consumer) :
    Intake parts labels consumer (passedOn parts labels s) := by
  have orderly := run_orderly run
  have passes := orderly.consumes.passes here
  refine ⟨?_, passes.granted_new, ?_, passes.ordered, passes.window⟩
  · rw [passes.calls]
    simp [Consumer.new, passedOn]
  · have incoming := Consumer.passed_sublist parts.clock
      (.new parts.clock parts.cfg s.currentPeers.keys) (traffic parts labels).taken
    refine incoming.trans (List.Sublist.trans ?_ (run_sourced run).sublist)
    rw [orderly.fifo, List.filterMap_append, List.append_assoc]
    exact List.sublist_append_left _ _

/-- One peer; LND delivers three messages of it, and two are passed on. -/
def threeMessages : List Label :=
  startWithPeer ++ [.take true, .messages .begin, .messages (.subscribe (.ok ()))] ++
    (List.replicate 3 [.messages (.receive (.ok ⟨List.replicate 33 2, ONION_MESSAGE_TYPE, []⟩)),
      .messages .send, .take true]).flatten

theorem intake_disciplined_threeMessages :
    ∃ (s : State sampleParts.cfg) (consumer : Consumer sampleParts.cfg),
      (messenger sampleParts).Run Lts.unguarded threeMessages s ∧
      s.main.consumer = some consumer ∧
      (delivered sampleParts threeMessages).length = 3 ∧
      passedOn sampleParts threeMessages s =
        [⟨0, .repeated 2, ⟨[]⟩⟩, ⟨0, .repeated 2, ⟨[]⟩⟩] ∧
      Intake sampleParts threeMessages consumer (passedOn sampleParts threeMessages s) := by
  obtain ⟨s, consumer, followed, here, twice⟩ : ∃ s consumer,
      (messenger sampleParts).follow Lts.unguarded [] threeMessages
        (messenger sampleParts).init = some s ∧ s.main.consumer = some consumer ∧
      passedOn sampleParts threeMessages s =
        [⟨0, .repeated 2, ⟨[]⟩⟩, ⟨0, .repeated 2, ⟨[]⟩⟩] := ⟨_, _, rfl, rfl, rfl⟩
  have run := Lts.run_of_follow followed
  exact ⟨s, consumer, run, here, rfl, twice,
    intake_disciplined sampleParts Lts.unguarded threeMessages s run consumer here⟩

end LndkFormal.Messenger
