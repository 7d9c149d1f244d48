import LndkFormal.Messenger.Model

/-!
# What a step of the messenger can do

`Stepped` lists every step with the state it leads to; `perform_cases` does the
same for the effect of a producer's move on the rest of the system.
-/

set_option autoImplicit false

namespace LndkFormal.Messenger

open LndkFormal.Async
open LndkFormal.Ldk
open LndkFormal.Lnd
open LndkFormal.RateLimit

section Steps

variable (parts : Parts)

/-- The steps of the system, one constructor for each kind. -/
inductive Stepped (s : State parts.cfg) : Label → State parts.cfg → Prop where
  | listed (peers : List Peer) (here : s.main = .listing) :
      Stepped s (.listPeers (.ok peers)) (s.listed parts peers)
  | unlisted (e : Status) (here : s.main = .listing) :
      Stepped s (.listPeers (.error e)) { s with main := .failed }
  | queued (entry : PublicKey × Bool) (rest : List (PublicKey × Bool))
      (here : s.main = .queueing (entry :: rest)) (room : s.queue.length < s.capacity) :
      Stepped s .queueStartup
        { s with
          main := .queueing rest
          queue := s.queue ++ [.peerConnected entry.1 entry.2] }
  | spawnReconnection (here : s.main = .queueing []) :
      Stepped s .spawn { s with main := .spawningPeers, reconnection := .polling }
  | spawnPeers (here : s.main = .spawningPeers) :
      Stepped s .spawn { s with main := .spawningMessages, peers := .subscribing }
  | spawnMessages (here : s.main = .spawningMessages) :
      Stepped s .spawn { s with main := .spawningTicker, messages := .looping }
  | spawnTicker (here : s.main = .spawningTicker) :
      Stepped s .spawn { s with main := .starting, ticker := .ticking }
  | consume (here : s.main = .starting) :
      Stepped s .consume
        { s with main := .consuming (.new parts.clock parts.cfg s.currentPeers.keys) }
  | take (consumer : Consumer parts.cfg) (event : MessengerEvent) (rest : List MessengerEvent)
      (accepted : Bool) (here : s.main = .consuming consumer) (head : s.queue = event :: rest) :
      Stepped s (.take accepted)
        { s with main := consumer.handle parts.clock accepted event, queue := rest }
  | hangUp (consumer : Consumer parts.cfg) (here : s.main = .consuming consumer)
      (empty : s.queue = []) :
      Stepped s .hangUp { s with main := .exited consumer (.ok ()) }
  | interrupt : Stepped s .interrupt { s with shutdown := true }
  | lnd (change : LndChange) : Stepped s (.lnd change) s
  | reconnection (move : ReconnectionMove) (done : Local Reconnection) {s' : State parts.cfg}
      (taken : s.reconnection.next parts s.shutdown move = some done)
      (performed : s.perform State.setReconnection done = some s') :
      Stepped s (.reconnection move) s'
  | peers (move : PeerMove) (done : Local PeerProducer) {s' : State parts.cfg}
      (taken : s.peers.next parts s.shutdown move = some done)
      (performed : s.perform State.setPeers done = some s') :
      Stepped s (.peers move) s'
  | messages (move : MessageMove) (done : Local MessageProducer) {s' : State parts.cfg}
      (taken : s.messages.next parts s.shutdown move = some done)
      (performed : s.perform State.setMessages done = some s') :
      Stepped s (.messages move) s'
  | ticker (move : TickerMove) (done : Local Ticker) {s' : State parts.cfg}
      (taken : s.ticker.next s.shutdown move = some done)
      (performed : s.perform State.setTicker done = some s') :
      Stepped s (.ticker move) s'

variable {parts}

theorem next_stepped {s s' : State parts.cfg} {label : Label}
    (taken : s.next parts label = some s') : Stepped parts s label s' := by
  cases label with
  | listPeers result =>
      simp only [State.next] at taken
      split at taken
      next peers here =>
        cases taken
        exact .listed peers here
      next e here =>
        cases taken
        exact .unlisted e here
      next => cases taken
  | queueStartup =>
      simp only [State.next] at taken
      split at taken
      next entry rest here =>
        split at taken
        next room =>
          cases taken
          exact .queued entry rest here room
        next => cases taken
      next => cases taken
  | spawn =>
      simp only [State.next] at taken
      split at taken
      next here => cases taken; exact .spawnReconnection here
      next here => cases taken; exact .spawnPeers here
      next here => cases taken; exact .spawnMessages here
      next here => cases taken; exact .spawnTicker here
      next => cases taken
  | consume =>
      simp only [State.next] at taken
      split at taken
      next here =>
        cases taken
        exact .consume here
      next => cases taken
  | take accepted =>
      simp only [State.next] at taken
      split at taken
      next consumer event rest here head =>
        cases taken
        exact .take consumer event rest accepted here head
      next => cases taken
  | hangUp =>
      simp only [State.next] at taken
      split at taken
      next consumer here empty =>
        split at taken
        · cases taken
          exact .hangUp consumer here empty
        · cases taken
      next => cases taken
  | interrupt =>
      cases taken
      exact .interrupt
  | lnd change =>
      cases taken
      exact .lnd change
  | reconnection move =>
      obtain ⟨done, moved, performed⟩ := Option.bind_eq_some_iff.mp taken
      exact .reconnection move done moved performed
  | peers move =>
      obtain ⟨done, moved, performed⟩ := Option.bind_eq_some_iff.mp taken
      exact .peers move done moved performed
  | messages move =>
      obtain ⟨done, moved, performed⟩ := Option.bind_eq_some_iff.mp taken
      exact .messages move done moved performed
  | ticker move =>
      obtain ⟨done, moved, performed⟩ := Option.bind_eq_some_iff.mp taken
      exact .ticker move done moved performed

end Steps

/-! ## The effect of a producer's move -/

section Perform

variable {cfg : RateLimiterCfg} {T : Type}

/-- What a producer's move does to the system before its own task is set. -/
inductive Performed (s : State cfg) (done : Local T) : State cfg → T → Prop where
  | goto (task : T) (kind : done = .goto task) : Performed s done s task
  | sent (event : MessengerEvent) (task failed : T) (kind : done = .send event task failed)
      (open_ : s.hungUp = false) (room : s.queue.length < s.capacity) :
      Performed s done { s with queue := s.queue ++ [event] } task
  | refused (event : MessengerEvent) (sent task : T) (kind : done = .send event sent task)
      (closed : s.hungUp = true) : Performed s done s task
  | woke (task : T) (kind : done = .notify task) (waiting : s.reconnection = .waiting) :
      Performed s done { s with reconnection := .woken } task
  | unheard (task : T) (kind : done = .notify task) (away : s.reconnection ≠ .waiting) :
      Performed s done s task
  | triggered (task : T) (kind : done = .trigger task) :
      Performed s done { s with shutdown := true } task

theorem perform_cases {s s' : State cfg} {set : State cfg → T → State cfg} {done : Local T}
    (performed : s.perform set done = some s') :
    ∃ shared task, Performed s done shared task ∧ s' = set shared task := by
  cases done with
  | goto task =>
      cases performed
      exact ⟨s, task, .goto task rfl, rfl⟩
  | send event sent failed =>
      simp only [State.perform] at performed
      cases closed : s.hungUp with
      | true =>
          simp only [closed, if_true, Option.some.injEq] at performed
          exact ⟨s, failed, .refused event sent failed rfl closed, performed.symm⟩
      | false =>
          simp only [closed, Bool.false_eq_true, if_false] at performed
          split at performed
          next room =>
            cases performed
            exact ⟨_, sent, .sent event sent failed rfl closed room, rfl⟩
          next => cases performed
  | notify task =>
      simp only [State.perform, State.notifyWaiters, Option.some.injEq] at performed
      split at performed
      next waiting => exact ⟨_, task, .woke task rfl waiting, performed.symm⟩
      next away => exact ⟨s, task, .unheard task rfl away, performed.symm⟩
  | trigger task =>
      cases performed
      exact ⟨_, task, .triggered task rfl, rfl⟩

theorem onShutdown_cases {shutdown : Bool} {finished : T} {done : Local T}
    (taken : onShutdown shutdown finished = some done) :
    shutdown = true ∧ done = .goto finished := by
  unfold onShutdown at taken
  split at taken
  next triggered =>
    cases taken
    exact ⟨triggered, rfl⟩
  next => cases taken

def Local.leads (P : T → Prop) : Local T → Prop
  | .goto task | .notify task | .trigger task => P task
  | .send _ sent failed => P sent ∧ P failed

section Shared

variable {s shared : State cfg} {done : Local T} {task : T}

theorem Performed.main (performed : Performed s done shared task) : shared.main = s.main := by
  cases performed <;> rfl

theorem Performed.peers (performed : Performed s done shared task) : shared.peers = s.peers := by
  cases performed <;> rfl

theorem Performed.messages (performed : Performed s done shared task) :
    shared.messages = s.messages := by
  cases performed <;> rfl

theorem Performed.leads {P : T → Prop} (performed : Performed s done shared task)
    (leads : done.leads P) : P task := by
  cases performed with
  | sent _ _ _ kind =>
      rw [kind] at leads
      exact leads.1
  | refused _ _ _ kind =>
      rw [kind] at leads
      exact leads.2
  | goto _ kind | woke _ kind | unheard _ kind | triggered _ kind =>
      rw [kind] at leads
      exact leads

theorem Performed.shutdown (performed : Performed s done shared task)
    (triggered : s.shutdown = true) : shared.shutdown = true := by
  cases performed <;> simp [triggered]

end Shared

end Perform

theorem Consumer.handle_cases {cfg : RateLimiterCfg} (clock : Clock) (consumer : Consumer cfg)
    (accepted : Bool) (event : MessengerEvent) :
    (∃ after, consumer.handle clock accepted event = .consuming after) ∨
      ∃ after, consumer.handle clock accepted event =
        .exited after (.error .onionMessengerFailure) := by
  cases event with
  | peerConnected peer support =>
      cases accepted with
      | true => exact Or.inl ⟨_, rfl⟩
      | false => exact Or.inr ⟨_, rfl⟩
  | _ => exact Or.inl ⟨_, rfl⟩

section Early

variable {parts : Parts}

/-- The start-up events are not all queued yet, or the first producer is to be spawned. -/
def State.early {cfg : RateLimiterCfg} (s : State cfg) : Bool :=
  match s.main with
  | .listing => true
  | .queueing _ => true
  | _ => false

structure Unspawned {cfg : RateLimiterCfg} (s : State cfg) : Prop where
  reconnection : s.reconnection = .unborn
  peers : s.peers = .unborn
  messages : s.messages = .unborn
  ticker : s.ticker = .unborn

theorem Unspawned.no_move {s s' : State parts.cfg} {label : Label} (holds : Unspawned s)
    (stepped : Stepped parts s label s') : Unspawned s' ∨ s'.early = false := by
  obtain ⟨reconnection, peers, messages, ticker⟩ := holds
  cases stepped with
  | listed answer here =>
      left
      unfold State.listed
      split <;> exact ⟨reconnection, peers, messages, ticker⟩
  | unlisted | queued | interrupt | lnd | consume | take | hangUp =>
      exact Or.inl ⟨reconnection, peers, messages, ticker⟩
  | spawnReconnection | spawnPeers | spawnMessages | spawnTicker => exact Or.inr rfl
  | reconnection move done taken =>
      rw [reconnection] at taken
      cases taken
  | peers move done taken =>
      rw [peers] at taken
      cases taken
  | messages move done taken =>
      rw [messages] at taken
      cases taken
  | ticker move done taken =>
      rw [ticker] at taken
      cases taken

theorem Stepped.late {s s' : State parts.cfg} {label : Label}
    (stepped : Stepped parts s label s') (late : s.early = false) : s'.early = false := by
  unfold State.early at late
  cases stepped with
  | listed answer here | unlisted e here | queued entry rest here =>
      rw [here] at late
      cases late
  | spawnReconnection | spawnPeers | spawnMessages | spawnTicker | consume | hangUp => rfl
  | interrupt | lnd => exact late
  | take consumer event rest accepted here head =>
      rcases consumer.handle_cases parts.clock accepted event with ⟨_, handled⟩ | ⟨_, handled⟩ <;>
        simp only [State.early, handled]
  | reconnection move done taken performed =>
      obtain ⟨shared, task, effect, rfl⟩ := perform_cases performed
      simpa only [State.early, State.setReconnection, effect.main] using late
  | peers move done taken performed =>
      obtain ⟨shared, task, effect, rfl⟩ := perform_cases performed
      simpa only [State.early, State.setPeers, effect.main] using late
  | messages move done taken performed =>
      obtain ⟨shared, task, effect, rfl⟩ := perform_cases performed
      simpa only [State.early, State.setMessages, effect.main] using late
  | ticker move done taken performed =>
      obtain ⟨shared, task, effect, rfl⟩ := perform_cases performed
      simpa only [State.early, State.setTicker, effect.main] using late

/-- No producer runs before all start-up events are queued. -/
theorem run_unspawned {guard : Lts.Guard (State parts.cfg) Label} {labels : List Label}
    {s : State parts.cfg} (run : (messenger parts).Run guard labels s)
    (early : s.early = true) : Unspawned s := by
  have holds : Unspawned s ∨ s.early = false := by
    refine run.invariant (I := fun _ s => Unspawned s ∨ s.early = false) ?_ ?_
    · exact Or.inl ⟨rfl, rfl, rfl, rfl⟩
    · intro labels s label s' _ holds _ taken
      have stepped := next_stepped taken
      rcases holds with unspawned | late
      · exact unspawned.no_move stepped
      · exact Or.inr (stepped.late late)
  rcases holds with unspawned | late
  · exact unspawned
  · rw [early] at late
    cases late

end Early

section Growth

variable {parts : Parts}

/-- `run_onion_messenger` itself stays where it is, and `events` are put into the channel. -/
structure Grows {cfg : RateLimiterCfg} (s s' : State cfg) (events : List MessengerEvent) :
    Prop where
  main : s'.main = s.main
  currentPeers : s'.currentPeers = s.currentPeers
  capacity : s'.capacity = s.capacity
  queue : s'.queue = s.queue ++ events

def Label.isMain : Label → Bool
  | .listPeers _ | .queueStartup | .spawn | .consume | .take _ | .hangUp => true
  | .interrupt | .reconnection _ | .peers _ | .messages _ | .ticker _ | .lnd _ => false

theorem Performed.grows {cfg : RateLimiterCfg} {T : Type} {s shared : State cfg}
    {done : Local T} {task : T} (performed : Performed s done shared task) :
    ∃ events, Grows s shared events ∧
      ∀ event ∈ events, ∃ sent failed, done = .send event sent failed := by
  cases performed with
  | sent event sent failed kind =>
      refine ⟨[event], ⟨rfl, rfl, rfl, rfl⟩, ?_⟩
      intro other member
      rw [List.mem_singleton.mp member]
      exact ⟨task, failed, kind⟩
  | _ => exact ⟨[], ⟨rfl, rfl, rfl, (List.append_nil _).symm⟩, nofun⟩

section Set

variable {cfg : RateLimiterCfg} {s shared : State cfg} {events : List MessengerEvent}

theorem Grows.setReconnection (grows : Grows s shared events) (task : Reconnection) :
    Grows s (shared.setReconnection task) events :=
  ⟨grows.main, grows.currentPeers, grows.capacity, grows.queue⟩

theorem Grows.setPeers (grows : Grows s shared events) (task : PeerProducer) :
    Grows s (shared.setPeers task) events :=
  ⟨grows.main, grows.currentPeers, grows.capacity, grows.queue⟩

theorem Grows.setMessages (grows : Grows s shared events) (task : MessageProducer) :
    Grows s (shared.setMessages task) events :=
  ⟨grows.main, grows.currentPeers, grows.capacity, grows.queue⟩

theorem Grows.setTicker (grows : Grows s shared events) (task : Ticker) :
    Grows s (shared.setTicker task) events :=
  ⟨grows.main, grows.currentPeers, grows.capacity, grows.queue⟩

end Set

/-- Nothing is put into the channel by others before the producers are spawned. -/
theorem Stepped.grows {s s' : State parts.cfg} {label : Label}
    (stepped : Stepped parts s label s') (aside : label.isMain = false)
    (first : s.early = true → Unspawned s) :
    ∃ events, Grows s s' events ∧ (s.early = true → events = []) := by
  cases stepped with
  | interrupt | lnd => exact ⟨[], ⟨rfl, rfl, rfl, (List.append_nil _).symm⟩, fun _ => rfl⟩
  | reconnection move done taken performed =>
      obtain ⟨shared, task, effect, rfl⟩ := perform_cases performed
      obtain ⟨events, grows, _⟩ := effect.grows
      refine ⟨events, grows.setReconnection task, fun early => ?_⟩
      rw [(first early).reconnection] at taken
      cases taken
  | peers move done taken performed =>
      obtain ⟨shared, task, effect, rfl⟩ := perform_cases performed
      obtain ⟨events, grows, _⟩ := effect.grows
      refine ⟨events, grows.setPeers task, fun early => ?_⟩
      rw [(first early).peers] at taken
      cases taken
  | messages move done taken performed =>
      obtain ⟨shared, task, effect, rfl⟩ := perform_cases performed
      obtain ⟨events, grows, _⟩ := effect.grows
      refine ⟨events, grows.setMessages task, fun early => ?_⟩
      rw [(first early).messages] at taken
      cases taken
  | ticker move done taken performed =>
      obtain ⟨shared, task, effect, rfl⟩ := perform_cases performed
      obtain ⟨events, grows, _⟩ := effect.grows
      refine ⟨events, grows.setTicker task, fun early => ?_⟩
      rw [(first early).ticker] at taken
      cases taken
  | _ => cases aside

end Growth

section Unborn

variable {parts : Parts} {s s' : State parts.cfg} {label : Label}

def State.beforePeers {cfg : RateLimit.RateLimiterCfg} (s : State cfg) : Bool :=
  match s.main with
  | .listing | .queueing _ | .spawningPeers => true
  | _ => false

def State.beforeMessages {cfg : RateLimit.RateLimiterCfg} (s : State cfg) : Bool :=
  match s.main with
  | .listing | .queueing _ | .spawningPeers | .spawningMessages => true
  | _ => false

structure Unborn {cfg : RateLimit.RateLimiterCfg} (s : State cfg) : Prop where
  peers : s.beforePeers = true → s.peers = .unborn
  messages : s.beforeMessages = true → s.messages = .unborn

theorem Unborn.of_main {cfg : RateLimit.RateLimiterCfg} {s s' : State cfg} (holds : Unborn s)
    (main : s'.main = s.main) (peers : s.beforePeers = true → s'.peers = s.peers)
    (messages : s.beforeMessages = true → s'.messages = s.messages) : Unborn s' := by
  have samePeers : s'.beforePeers = s.beforePeers := by
    simp only [State.beforePeers, main]
  have sameMessages : s'.beforeMessages = s.beforeMessages := by
    simp only [State.beforeMessages, main]
  constructor
  · intro before
    rw [samePeers] at before
    exact (peers before).trans (holds.peers before)
  · intro before
    rw [sameMessages] at before
    exact (messages before).trans (holds.messages before)

theorem unborn_late {cfg : RateLimit.RateLimiterCfg} {s : State cfg}
    (peers : s.beforePeers = false) (messages : s.beforeMessages = false) : Unborn s := by
  constructor
  · intro before
    rw [peers] at before
    cases before
  · intro before
    rw [messages] at before
    cases before

/-- `run_onion_messenger` spawns each producer once. -/
theorem Unborn.step (holds : Unborn s) (stepped : Stepped parts s label s') : Unborn s' := by
  cases stepped with
  | messages move done taken performed =>
      obtain ⟨shared, task, effect, rfl⟩ := perform_cases performed
      refine holds.of_main effect.main (fun _ => effect.peers) fun before => ?_
      rw [holds.messages before] at taken
      cases taken
  | peers move done taken performed =>
      obtain ⟨shared, task, effect, rfl⟩ := perform_cases performed
      refine holds.of_main effect.main (fun before => ?_) fun _ => effect.messages
      rw [holds.peers before] at taken
      cases taken
  | reconnection move done taken performed =>
      obtain ⟨shared, task, effect, rfl⟩ := perform_cases performed
      exact holds.of_main effect.main (fun _ => effect.peers) fun _ => effect.messages
  | ticker move done taken performed =>
      obtain ⟨shared, task, effect, rfl⟩ := perform_cases performed
      exact holds.of_main effect.main (fun _ => effect.peers) fun _ => effect.messages
  | interrupt | lnd => exact ⟨holds.peers, holds.messages⟩
  | listed answer here =>
      have peers := holds.peers (by simp only [State.beforePeers, here])
      have messages := holds.messages (by simp only [State.beforeMessages, here])
      unfold State.listed
      split <;> exact ⟨fun _ => peers, fun _ => messages⟩
  | queued entry rest here =>
      have peers := holds.peers (by simp only [State.beforePeers, here])
      have messages := holds.messages (by simp only [State.beforeMessages, here])
      exact ⟨fun _ => peers, fun _ => messages⟩
  | spawnReconnection here =>
      have peers := holds.peers (by simp only [State.beforePeers, here])
      have messages := holds.messages (by simp only [State.beforeMessages, here])
      exact ⟨fun _ => peers, fun _ => messages⟩
  | spawnPeers here =>
      have messages := holds.messages (by simp only [State.beforeMessages, here])
      exact ⟨fun before => (by cases before), fun _ => messages⟩
  | unlisted | spawnMessages | spawnTicker | consume | hangUp => exact unborn_late rfl rfl
  | take consumer event rest accepted here head =>
      rcases consumer.handle_cases parts.clock accepted event with ⟨_, handled⟩ | ⟨_, handled⟩ <;>
        rw [handled] <;> exact unborn_late rfl rfl

theorem run_unborn {guard : Lts.Guard (State parts.cfg) Label} {labels : List Label}
    (run : (messenger parts).Run guard labels s) : Unborn s := by
  refine run.invariant (I := fun _ s => Unborn s) ?_ ?_
  · exact ⟨fun _ => rfl, fun _ => rfl⟩
  · intro labels s label s' _ holds _ taken
    exact holds.step (next_stepped taken)

end Unborn

end LndkFormal.Messenger
