import LndkFormal.Messenger.Lifetimes
import LndkFormal.Messenger.PeerTables
import LndkFormal.Messenger.Streams

/-!
# The channel between the producers and the consumer

Whatever the interleaving, the consumer sees the events in the order in which they
were put into the channel, each once, and the concurrent system behaves like one
consumer that is fed this one stream.  What `run_onion_messenger` returns after it
has joined its tasks tells whether the stream was consumed to its end.
-/

set_option autoImplicit false

namespace LndkFormal.Messenger

open LndkFormal.Async
open LndkFormal.Ldk
open LndkFormal.Lnd
open LndkFormal.RateLimit

structure Traffic where
  sent : List MessengerEvent
  taken : List (MessengerEvent × Bool)

section Records

variable {cfg : RateLimiterCfg}

def noteTraffic (traffic : Traffic) (s : State cfg) (label : Label) (s' : State cfg) : Traffic :=
  match label with
  | .take accepted =>
      { traffic with taken := traffic.taken ++ s.queue.head?.toList.map fun event =>
          (event, accepted) }
  | _ => { traffic with sent := traffic.sent ++ s.pushed s' }

/-- `consume_messenger_events` alone, fed a list of events. -/
def Consumer.consume (clock : Clock) (consumer : Consumer cfg) :
    List (MessengerEvent × Bool) → Main cfg
  | [] => .consuming consumer
  | (event, accepted) :: rest =>
      match consumer.handle clock accepted event with
      | .consuming next => next.consume clock rest
      | stopped => stopped

theorem Consumer.consume_concat {clock : Clock} {first last : Consumer cfg}
    {events : List (MessengerEvent × Bool)}
    (consumed : first.consume clock events = .consuming last) (event : MessengerEvent)
    (accepted : Bool) :
    first.consume clock (events ++ [(event, accepted)]) =
      last.handle clock accepted event := by
  induction events generalizing first with
  | nil =>
      cases consumed
      simp only [List.nil_append, Consumer.consume]
      split
      · next handled => exact handled.symm
      · rfl
  | cons head rest ih =>
      simp only [List.cons_append, Consumer.consume] at consumed ⊢
      cases handled : first.handle clock head.2 head.1 with
      | consuming next =>
          rw [handled] at consumed
          exact ih consumed
      | _ =>
          rw [handled] at consumed
          cases consumed

def State.panicked (s : State cfg) : Bool :=
  s.reconnection == .panicked || s.peers == .panicked || s.messages == .panicked

/-- What `run_onion_messenger` returns, once its consumer has returned and its tasks are
joined. -/
def State.joined (s : State cfg) : Option (Except Unit Unit) :=
  match s.main with
  | .exited _ result =>
      if s.unproduced then
        match result with
        | .ok () => if s.panicked then some (.error ()) else some (.ok ())
        | .error _ => some (.error ())
      else none
  | _ => none

theorem State.joined_ok {s : State cfg} (joined : s.joined = some (.ok ())) :
    (∃ consumer, s.main = .exited consumer (.ok ())) ∧ s.unproduced = true ∧
      s.panicked = false := by
  unfold State.joined at joined
  split at joined
  next consumer result here =>
    split at joined
    next unproduced =>
      split at joined
      next =>
        split at joined
        next => cases joined
        next calm => exact ⟨⟨consumer, here⟩, unproduced, by simpa using calm⟩
      next => cases joined
    next => cases joined
  next => cases joined

end Records

section Runs

variable (parts : Parts)

def traffic (labels : List Label) : Traffic :=
  (messenger parts).record noteTraffic ⟨[], []⟩ (.init parts.cfg) labels

/-- What the consumer has made of the events it took: it is where a lone consumer that is
fed them would be. -/
def Consumes (taken : List (MessengerEvent × Bool)) (s : State parts.cfg) : Prop :=
  match s.main with
  | .consuming consumer =>
      (Consumer.new parts.clock parts.cfg s.currentPeers.keys).consume parts.clock taken =
        .consuming consumer
  | .exited consumer (.ok ()) =>
      (Consumer.new parts.clock parts.cfg s.currentPeers.keys).consume parts.clock taken =
        .consuming consumer ∧ s.queue = []
  | .exited consumer (.error e) =>
      (Consumer.new parts.clock parts.cfg s.currentPeers.keys).consume parts.clock taken =
        .exited consumer (.error e)
  | _ => taken = []

structure Orderly (traffic : Traffic) (s : State parts.cfg) : Prop where
  fifo : traffic.sent = traffic.taken.map Prod.fst ++ s.queue
  fits : s.queue.length ≤ s.capacity
  consumes : Consumes parts traffic.taken s
  /-- The ticker ends only on the shutdown signal, or triggers it. -/
  signalled : s.ticker = .finished → s.shutdown = true

end Runs

section Aside

variable {parts : Parts} {s s' : State parts.cfg} {label : Label}

/-- `events` are put into the channel, where there is room; none once the receiving end is
gone. -/
structure Flows {cfg : RateLimiterCfg} (s s' : State cfg) (events : List MessengerEvent) :
    Prop where
  grows : Grows s s' events
  closed : s.hungUp = true → events = []
  fits : s.queue.length ≤ s.capacity → s'.queue.length ≤ s'.capacity

theorem Performed.flows {T : Type} {shared : State parts.cfg} {done : Local T} {task : T}
    (performed : Performed s done shared task) : ∃ events, Flows s shared events := by
  cases performed with
  | sent event _ failed kind open_ room =>
      refine ⟨[event], ⟨rfl, rfl, rfl, rfl⟩, ?_, ?_⟩
      · intro closed
        rw [open_] at closed
        cases closed
      · intro _
        simp only [List.length_append, List.length_cons, List.length_nil]
        omega
  | _ => exact ⟨[], ⟨rfl, rfl, rfl, (List.append_nil _).symm⟩, fun _ => rfl, id⟩

theorem Stepped.flows (stepped : Stepped parts s label s') (aside : label.isMain = false) :
    ∃ events, Flows s s' events := by
  cases stepped with
  | interrupt | lnd =>
      exact ⟨[], ⟨rfl, rfl, rfl, (List.append_nil _).symm⟩, fun _ => rfl, id⟩
  | reconnection move done taken performed =>
      obtain ⟨shared, task, effect, rfl⟩ := perform_cases performed
      obtain ⟨events, flows⟩ := effect.flows
      exact ⟨events, flows.grows.setReconnection task, flows.closed, flows.fits⟩
  | peers move done taken performed =>
      obtain ⟨shared, task, effect, rfl⟩ := perform_cases performed
      obtain ⟨events, flows⟩ := effect.flows
      exact ⟨events, flows.grows.setPeers task, flows.closed, flows.fits⟩
  | messages move done taken performed =>
      obtain ⟨shared, task, effect, rfl⟩ := perform_cases performed
      obtain ⟨events, flows⟩ := effect.flows
      exact ⟨events, flows.grows.setMessages task, flows.closed, flows.fits⟩
  | ticker move done taken performed =>
      obtain ⟨shared, task, effect, rfl⟩ := perform_cases performed
      obtain ⟨events, flows⟩ := effect.flows
      exact ⟨events, flows.grows.setTicker task, flows.closed, flows.fits⟩
  | _ => cases aside

theorem Performed.keeps_ticker {T : Type} {shared : State parts.cfg} {done : Local T} {task : T}
    (performed : Performed s done shared task)
    (signalled : s.ticker = .finished → s.shutdown = true) :
    shared.ticker = .finished → shared.shutdown = true := by
  intro ended
  have before : s.ticker = .finished := by
    rw [← ended]
    cases performed <;> rfl
  exact performed.shutdown (signalled before)

theorem Stepped.signalled (stepped : Stepped parts s label s')
    (signalled : s.ticker = .finished → s.shutdown = true) :
    s'.ticker = .finished → s'.shutdown = true := by
  cases stepped with
  | listed answer here =>
      unfold State.listed
      split <;> exact signalled
  | spawnTicker here => exact nofun
  | interrupt => exact fun _ => rfl
  | reconnection move done taken performed =>
      obtain ⟨shared, task, effect, rfl⟩ := perform_cases performed
      exact effect.keeps_ticker signalled
  | peers move done taken performed =>
      obtain ⟨shared, task, effect, rfl⟩ := perform_cases performed
      exact effect.keeps_ticker signalled
  | messages move done taken performed =>
      obtain ⟨shared, task, effect, rfl⟩ := perform_cases performed
      exact effect.keeps_ticker signalled
  | ticker move done taken performed =>
      obtain ⟨shared, task, effect, rfl⟩ := perform_cases performed
      exact effect.alarmed (Ticker.next_signalled taken)
  | _ => exact signalled

end Aside

/-! ## Every step keeps the order -/

section Order

variable {parts : Parts} {s s' : State parts.cfg} {label : Label} {record : Traffic}

theorem pushed_append {cfg : RateLimiterCfg} {s s' : State cfg} {events : List MessengerEvent}
    (queue : s'.queue = s.queue ++ events) : s.pushed s' = events := by
  rw [State.pushed, queue, List.drop_left]

theorem noteTraffic_put {events : List MessengerEvent}
    (fifo : record.sent = record.taken.map Prod.fst ++ s.queue)
    (queue : s'.queue = s.queue ++ events) (puts : ∀ accepted, label ≠ .take accepted) :
    (noteTraffic record s label s').sent =
        (noteTraffic record s label s').taken.map Prod.fst ++ s'.queue ∧
      (noteTraffic record s label s').taken = record.taken := by
  have noted : noteTraffic record s label s' =
      { record with sent := record.sent ++ s.pushed s' } := by
    unfold noteTraffic
    split
    next accepted => exact absurd rfl (puts accepted)
    next => rfl
  rw [noted, pushed_append queue, queue]
  exact ⟨by rw [fifo, List.append_assoc], rfl⟩

theorem Consumes.flow {taken : List (MessengerEvent × Bool)} {events : List MessengerEvent}
    (holds : Consumes parts taken s) (flows : Flows s s' events) : Consumes parts taken s' := by
  obtain ⟨⟨main, currentPeers, capacity, queue⟩, closed, fits⟩ := flows
  unfold Consumes at holds ⊢
  rw [main, currentPeers, queue]
  cases here : s.main with
  | exited consumer result =>
      rw [here] at holds
      have silent : events = [] := closed (by rw [State.hungUp, here])
      cases result with
      | ok => exact ⟨holds.1, by rw [holds.2, silent]; rfl⟩
      | error e => exact holds
  | _ =>
      rw [here] at holds
      exact holds

theorem Orderly.put {events : List MessengerEvent} (holds : Orderly parts record s)
    (stepped : Stepped parts s label s') (puts : ∀ accepted, label ≠ .take accepted)
    (queue : s'.queue = s.queue ++ events) (fits : s'.queue.length ≤ s'.capacity)
    (consumes : Consumes parts record.taken s') :
    Orderly parts (noteTraffic record s label s') s' := by
  obtain ⟨fifo, kept⟩ := noteTraffic_put holds.fifo queue puts
  exact ⟨fifo, fits, kept ▸ consumes, stepped.signalled holds.signalled⟩

theorem Orderly.take {consumer : Consumer parts.cfg} {event : MessengerEvent}
    {rest : List MessengerEvent} {accepted : Bool} (holds : Orderly parts record s)
    (here : s.main = .consuming consumer) (head : s.queue = event :: rest) :
    Orderly parts
      (noteTraffic record s (.take accepted)
        { s with main := consumer.handle parts.clock accepted event, queue := rest })
      { s with main := consumer.handle parts.clock accepted event, queue := rest } := by
  obtain ⟨fifo, fits, consumes, signalled⟩ := holds
  have stands : (Consumer.new parts.clock parts.cfg s.currentPeers.keys).consume parts.clock
      record.taken = .consuming consumer := by
    simpa only [Consumes, here] using consumes
  have goesOn := Consumer.consume_concat stands event accepted
  refine ⟨?_, ?_, ?_, signalled⟩
  · simp only [noteTraffic, head, List.head?_cons, Option.toList_some, List.map_append,
      List.map_cons, List.map_nil, fifo, List.append_assoc, List.singleton_append]
  · rw [head, List.length_cons] at fits
    simp only
    omega
  · simp only [noteTraffic, head, List.head?_cons, Option.toList_some, List.map_cons,
      List.map_nil, Consumes]
    rcases consumer.handle_cases parts.clock accepted event with
      ⟨after, handled⟩ | ⟨after, handled⟩
    · rw [handled] at goesOn ⊢
      exact goesOn
    · rw [handled] at goesOn ⊢
      exact goesOn

theorem Orderly.step (holds : Orderly parts record s) (loaded : Loaded s)
    (stepped : Stepped parts s label s') :
    Orderly parts (noteTraffic record s label s') s' := by
  have whole := stepped
  have fits := holds.fits
  have consumes := holds.consumes
  -- Before the consumer runs, nothing has been taken.
  cases stepped with
  | listed peers here =>
      have untouched : record.taken = [] := by simpa only [Consumes, here] using consumes
      have empty : s.queue = [] := by simpa only [Loaded, here] using loaded
      have queue : (s.listed parts peers).queue = s.queue ++ [] := by
        rw [List.append_nil]
        unfold State.listed
        split <;> rfl
      refine holds.put whole (by simp) queue ?_ ?_
      · rw [queue, empty]
        exact Nat.zero_le _
      · unfold State.listed
        split <;> exact untouched
  | unlisted e here =>
      have untouched : record.taken = [] := by simpa only [Consumes, here] using consumes
      exact holds.put whole (by simp) (List.append_nil _).symm fits untouched
  | queued entry rest here room =>
      have untouched : record.taken = [] := by simpa only [Consumes, here] using consumes
      refine holds.put whole (by simp) rfl ?_ untouched
      simp only [List.length_append, List.length_cons, List.length_nil]
      omega
  | spawnReconnection here | spawnPeers here | spawnMessages here | spawnTicker here =>
      have untouched : record.taken = [] := by simpa only [Consumes, here] using consumes
      exact holds.put whole (by simp) (List.append_nil _).symm fits untouched
  | consume here =>
      have untouched : record.taken = [] := by simpa only [Consumes, here] using consumes
      refine holds.put whole (by simp) (List.append_nil _).symm fits ?_
      rw [untouched]
      rfl
  | take consumer event rest accepted here head => exact holds.take here head
  | hangUp consumer here empty =>
      have stands : (Consumer.new parts.clock parts.cfg s.currentPeers.keys).consume parts.clock
          record.taken = .consuming consumer := by
        simpa only [Consumes, here] using consumes
      exact holds.put whole (by simp) (List.append_nil _).symm fits ⟨stands, empty⟩
  | interrupt | lnd | reconnection | peers | messages | ticker =>
      obtain ⟨events, flows⟩ := whole.flows rfl
      exact holds.put whole (by simp) flows.grows.queue (flows.fits fits) (consumes.flow flows)

theorem run_orderly {guard : Lts.Guard (State parts.cfg) Label} {labels : List Label}
    (run : (messenger parts).Run guard labels s) : Orderly parts (traffic parts labels) s := by
  refine run.record_invariant (I := Orderly parts) ?_ ?_
  · exact ⟨rfl, Nat.le_refl _, rfl, nofun⟩
  · intro labels record s label s' before holds _ taken
    exact holds.step (run_loaded before) (next_stepped taken)

end Order

/-- The whole stream was consumed, no producer panicked, and the shutdown was asked for. -/
structure CleanEnd (parts : Parts) (record : Traffic) (s : State parts.cfg) : Prop where
  consumed : record.taken.map Prod.fst = record.sent
  accepted : ∃ consumer, (Consumer.new parts.clock parts.cfg s.currentPeers.keys).consume
    parts.clock record.taken = .consuming consumer
  calm : s.panicked = false
  asked : s.shutdown = true

/-- In every run the consumer is where a lone consumer would be that was fed the events in
the order in which they were sent; the channel holds the rest of them, never more than its
capacity; and `run_onion_messenger` returns `Ok` only at a clean end. -/
theorem messenger_orderly (parts : Parts) (guard : Lts.Guard (State parts.cfg) Label)
    (labels : List Label) (s : State parts.cfg) (run : (messenger parts).Run guard labels s) :
    Orderly parts (traffic parts labels) s ∧
      (s.joined = some (.ok ()) → CleanEnd parts (traffic parts labels) s) := by
  have holds := run_orderly run
  refine ⟨holds, fun joined => ?_⟩
  obtain ⟨⟨consumer, here⟩, unproduced, calm⟩ := s.joined_ok joined
  have ended : s.ticker = .finished := by
    cases at_ : s.ticker <;> simp [State.unproduced, at_] at unproduced ⊢
  have consumes := holds.consumes
  unfold Consumes at consumes
  rw [here] at consumes
  refine ⟨?_, ⟨consumer, consumes.1⟩, calm, holds.signalled ended⟩
  rw [holds.fifo, consumes.2, List.append_nil]

/-- One peer at the start; after an interrupt all producers quit and the consumer takes the
last event. -/
def quietEnd : List Label :=
  startWithPeer ++ [.peers (.subscribe (.ok ())), .interrupt, .ticker .quit, .reconnection .quit,
    .messages .quit, .peers .quit, .take true, .hangUp]

theorem messenger_orderly_quietEnd :
    ∃ s : State sampleParts.cfg,
      s.joined = some (.ok ()) ∧ CleanEnd sampleParts (traffic sampleParts quietEnd) s := by
  obtain ⟨s, followed, joined⟩ : ∃ s, (messenger sampleParts).follow Lts.unguarded [] quietEnd
      (messenger sampleParts).init = some s ∧ s.joined = some (.ok ()) := ⟨_, rfl, rfl⟩
  exact ⟨s, joined, (messenger_orderly sampleParts _ quietEnd s
    (Lts.run_of_follow followed)).2 joined⟩

end LndkFormal.Messenger
