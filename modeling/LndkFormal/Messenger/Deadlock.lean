import LndkFormal.Messenger.Shutdown

/-!
# What a shutdown waits for

After the shutdown signal no task waits for another one for ever: the channel is drained or
closed, and whoever sends, quits or joins can do so.  What is left to wait for are answers of
LND.
-/

set_option autoImplicit false

namespace LndkFormal.Messenger

open LndkFormal.Async
open LndkFormal.Ldk
open LndkFormal.Lnd
open LndkFormal.RateLimit

section Progress

variable {parts : Parts} {s : State parts.cfg} {labels : List Label}

/-- `run_onion_messenger` has failed at the start, or has joined its tasks. -/
def State.over {cfg : RateLimiterCfg} (s : State cfg) : Bool :=
  match s.main with
  | .failed => true
  | .exited _ _ => s.unproduced
  | _ => false

def State.awaitsLnd {cfg : RateLimiterCfg} (s : State cfg) : Prop :=
  s.main = .listing ∨ s.reconnection = .listing ∨ s.peers = .subscribing ∨
    (∃ peer, s.peers = .lookingUp peer) ∨ s.messages = .subscribing

/-- Steps that need neither LND nor a pass of a `select!`. -/
def Label.internal : Label → Bool
  | .queueStartup | .spawn | .consume | .take _ | .hangUp => true
  | .reconnection .quit | .reconnection .send | .reconnection .trigger => true
  | .peers .quit | .peers .send | .peers .trigger => true
  | .messages .quit | .messages .send => true
  | .ticker .quit | .ticker .send | .ticker .trigger => true
  | _ => false

theorem Label.internal_free {label : Label} (internal : label.internal = true) :
    label.idle = false ∧ label.passes = none := by
  unfold Label.internal at internal
  split at internal
  case h_17 => cases internal
  all_goals exact ⟨rfl, rfl⟩

theorem prompt_of_passes_none {label : Label} (none : label.passes = none) :
    prompt parts labels s label := by
  rw [prompt, none]
  rfl

def State.goesOn (parts : Parts) (s : State parts.cfg) : Prop :=
  ∃ label s', label.internal = true ∧ s.next parts label = some s'

/-- A producer can send: the channel has room, or nobody receives. -/
def State.sendable {cfg : RateLimiterCfg} (s : State cfg) : Prop :=
  s.hungUp = true ∨ s.queue.length < s.capacity

theorem State.sendable.perform {cfg : RateLimiterCfg} {s : State cfg} (sendable : s.sendable)
    {T : Type} (set : State cfg → T → State cfg) (done : Local T) :
    ∃ s', s.perform set done = some s' := by
  cases done with
  | send event sent failed =>
      by_cases closed : s.hungUp = true
      · exact ⟨_, by rw [State.perform, if_pos closed]⟩
      · have room := sendable.resolve_left closed
        exact ⟨_, by rw [State.perform, if_neg closed, if_pos room]⟩
  | _ => exact ⟨_, rfl⟩

theorem Reconnection.moves (parts : Parts) {task : Reconnection} (born : task ≠ .unborn)
    (entry : task ≠ .sending []) (ended : task ≠ .finished ∧ task ≠ .panicked) :
    task = .listing ∨ ∃ move done, (Label.reconnection move).internal = true ∧
      task.next parts true move = some done := by
  cases task with
  | listing => exact Or.inl rfl
  | unborn => exact absurd rfl born
  | finished => exact absurd rfl ended.1
  | panicked => exact absurd rfl ended.2
  | sending rest =>
      cases rest with
      | nil => exact absurd rfl entry
      | cons first rest => exact Or.inr ⟨.send, _, rfl, rfl⟩
  | polling | waiting | woken => exact Or.inr ⟨.quit, _, rfl, rfl⟩
  | failing => exact Or.inr ⟨.trigger, _, rfl, rfl⟩

theorem PeerProducer.moves (parts : Parts) {task : PeerProducer} (born : task ≠ .unborn)
    (ended : task ≠ .finished ∧ task ≠ .panicked) :
    (task = .subscribing ∨ ∃ peer, task = .lookingUp peer) ∨
      ∃ move done, (Label.peers move).internal = true ∧
        task.next parts true move = some done := by
  cases task with
  | subscribing => exact Or.inl (Or.inl rfl)
  | lookingUp peer => exact Or.inl (Or.inr ⟨peer, rfl⟩)
  | unborn => exact absurd rfl born
  | finished => exact absurd rfl ended.1
  | panicked => exact absurd rfl ended.2
  | receiving => exact Or.inr ⟨.quit, _, rfl, rfl⟩
  | sending | exiting => exact Or.inr ⟨.send, _, rfl, rfl⟩
  | failing => exact Or.inr ⟨.trigger, _, rfl, rfl⟩

theorem MessageProducer.moves (parts : Parts) {task : MessageProducer} (born : task ≠ .unborn)
    (ended : task ≠ .finished ∧ task ≠ .panicked) :
    task = .subscribing ∨ ∃ move done, (Label.messages move).internal = true ∧
      task.next parts true move = some done := by
  cases task with
  | subscribing => exact Or.inl rfl
  | unborn => exact absurd rfl born
  | finished => exact absurd rfl ended.1
  | panicked => exact absurd rfl ended.2
  | looping | receiving => exact Or.inr ⟨.quit, _, rfl, rfl⟩
  | sending | exiting => exact Or.inr ⟨.send, _, rfl, rfl⟩

theorem Ticker.moves {task : Ticker} (born : task ≠ .unborn) (ended : task ≠ .finished) :
    ∃ move done, (Label.ticker move).internal = true ∧ task.next true move = some done := by
  cases task with
  | unborn => exact absurd rfl born
  | finished => exact absurd rfl ended
  | ticking => exact ⟨.quit, _, rfl, rfl⟩
  | sending => exact ⟨.send, _, rfl, rfl⟩
  | failing => exact ⟨.trigger, _, rfl, rfl⟩

/-- With all producers spawned and room in the channel, a producer that has not ended goes on
or waits for LND. -/
theorem producers_goOn (staged : Staged s) (spawned : s.main.stage = 4)
    (asked : s.shutdown = true) (sendable : s.sendable) (running : s.unproduced = false) :
    s.goesOn parts ∨ s.awaitsLnd := by
  have born : s.reconnection ≠ .unborn ∧ s.peers ≠ .unborn ∧ s.messages ≠ .unborn ∧
      s.ticker ≠ .unborn := by
    refine ⟨fun unborn => ?_, fun unborn => ?_, fun unborn => ?_, fun unborn => ?_⟩
    · have := staged.reconnection.mp unborn
      omega
    · have := staged.peers.mp unborn
      omega
    · have := staged.messages.mp unborn
      omega
    · have := staged.ticker.mp unborn
      omega
  by_cases reconnection : s.reconnection ≠ .finished ∧ s.reconnection ≠ .panicked
  · rcases Reconnection.moves parts born.1 staged.entry reconnection with
      waits | ⟨move, done, internal, moved⟩
    · exact Or.inr (Or.inr (Or.inl waits))
    · obtain ⟨s', performed⟩ := sendable.perform State.setReconnection done
      refine Or.inl ⟨.reconnection move, s', internal, ?_⟩
      simp only [State.next, asked, moved, Option.bind_some, performed]
  by_cases peers : s.peers ≠ .finished ∧ s.peers ≠ .panicked
  · rcases PeerProducer.moves parts born.2.1 peers with
      waits | ⟨move, done, internal, moved⟩
    · rcases waits with subscribing | lookingUp
      · exact Or.inr (Or.inr (Or.inr (Or.inl subscribing)))
      · exact Or.inr (Or.inr (Or.inr (Or.inr (Or.inl lookingUp))))
    · obtain ⟨s', performed⟩ := sendable.perform State.setPeers done
      refine Or.inl ⟨.peers move, s', internal, ?_⟩
      simp only [State.next, asked, moved, Option.bind_some, performed]
  by_cases messages : s.messages ≠ .finished ∧ s.messages ≠ .panicked
  · rcases MessageProducer.moves parts born.2.2.1 messages with
      waits | ⟨move, done, internal, moved⟩
    · exact Or.inr (Or.inr (Or.inr (Or.inr (Or.inr waits))))
    · obtain ⟨s', performed⟩ := sendable.perform State.setMessages done
      refine Or.inl ⟨.messages move, s', internal, ?_⟩
      simp only [State.next, asked, moved, Option.bind_some, performed]
  by_cases ticker : s.ticker ≠ .finished
  · obtain ⟨move, done, internal, moved⟩ := Ticker.moves born.2.2.2 ticker
    obtain ⟨s', performed⟩ := sendable.perform State.setTicker done
    refine Or.inl ⟨.ticker move, s', internal, ?_⟩
    simp only [State.next, asked, moved, Option.bind_some, performed]
  · -- Every producer has ended.
    exfalso
    rw [not_and_or, not_not, not_not] at reconnection peers messages
    rw [not_not] at ticker
    rcases reconnection with h₁ | h₁ <;> rcases peers with h₂ | h₂ <;>
      rcases messages with h₃ | h₃ <;>
      simp [State.unproduced, h₁, h₂, h₃, ticker] at running

theorem goesOn_of_isSome (label : Label) (internal : label.internal = true)
    (taken : (s.next parts label).isSome = true) : s.goesOn parts := by
  obtain ⟨s', next⟩ := Option.isSome_iff_exists.mp taken
  exact ⟨label, s', internal, next⟩

/-- Whatever the channel holds, a run after the signal is over, goes on by itself or waits
for LND. -/
theorem over_or_goesOn {guard : Lts.Guard (State parts.cfg) Label}
    (run : (messenger parts).Run guard labels s) (asked : s.shutdown = true) :
    s.over = true ∨ s.goesOn parts ∨ s.awaitsLnd := by
  have staged := run_staged run
  have startsUp := (run_loaded run).startsUp (run_unspawned run)
  cases here : s.main with
  | listing => exact Or.inr (Or.inr (Or.inl here))
  | queueing rest =>
      right
      left
      cases rest with
      | nil => exact goesOn_of_isSome .spawn rfl (by simp [State.next, here])
      | cons entry rest =>
          have room := startsUp.room entry rest here
          exact goesOn_of_isSome .queueStartup rfl (by simp [State.next, here, room])
  | spawningPeers | spawningMessages | spawningTicker =>
      right
      left
      exact goesOn_of_isSome .spawn rfl (by simp [State.next, here])
  | starting =>
      right
      left
      exact goesOn_of_isSome .consume rfl (by simp [State.next, here])
  | consuming consumer =>
      right
      cases head : s.queue with
      | cons event rest =>
          left
          exact goesOn_of_isSome (.take true) rfl (by simp [State.next, here, head])
      | nil =>
          cases ended : s.unproduced with
          | true =>
              left
              exact goesOn_of_isSome .hangUp rfl
                (by simp [State.next, here, head, ended])
          | false =>
              have spawned : s.main.stage = 4 := by rw [here]; rfl
              have room := staged.room (by omega)
              exact producers_goOn staged spawned asked
                (Or.inr (by rw [head]; exact room)) ended
  | exited consumer result =>
      cases ended : s.unproduced with
      | true =>
          left
          rw [State.over, here]
          exact ended
      | false =>
          right
          exact producers_goOn staged (by rw [here]; rfl) asked
            (Or.inl (by rw [State.hungUp, here])) ended
  | failed =>
      left
      rw [State.over, here]

/-- An answer of LND that is not retried brings the shutdown further. -/
theorem State.awaitsLnd.answered (waits : s.awaitsLnd) :
    ∃ label s', label.idle = false ∧ label.passes = none ∧ s.next parts label = some s' := by
  have found : ∃ label : Label, label.idle = false ∧ label.passes = none ∧
      (s.next parts label).isSome = true := by
    rcases waits with here | here | here | ⟨peer, here⟩ | here
    · exact ⟨.listPeers (.ok []), rfl, rfl, by simp [State.next, here]⟩
    · exact ⟨.reconnection (.reply (.ok [])), rfl, rfl, by rw [State.next, here]; rfl⟩
    · exact ⟨.peers (.subscribe (.ok ())), rfl, rfl, by rw [State.next, here]; rfl⟩
    · exact ⟨.peers (.support false), rfl, rfl, by rw [State.next, here]; rfl⟩
    · exact ⟨.messages (.subscribe (.ok ())), rfl, rfl, by rw [State.next, here]; rfl⟩
  obtain ⟨label, works, free, taken⟩ := found
  obtain ⟨s', next⟩ := Option.isSome_iff_exists.mp taken
  exact ⟨label, s', works, free, next⟩

end Progress

/-! ## Every shutdown can be completed -/

/-- After the signal a run is over, or a step that needs nobody else can be taken, or LND
owes an answer; so some continuation without idle steps ends it. -/
theorem shutdown_waitsOnlyForLnd (parts : Parts) (labels : List Label) (s : State parts.cfg)
    (run : (messenger parts).Run (prompt parts) labels s) (asked : s.shutdown = true) :
    (s.over = true ∨ s.goesOn parts ∨ s.awaitsLnd) ∧
      ∃ more last, (messenger parts).Run (prompt parts) (labels ++ more) last ∧
        last.over = true ∧ ∀ label ∈ more, ¬ label.idle = true := by
  refine ⟨over_or_goesOn run asked, ?_⟩
  refine (shutdown_ranked parts).completes ?_ run asked
  intro labels s run asked unfinished
  rcases over_or_goesOn run asked with over_ | ⟨label, s', internal, taken⟩ | waits
  · exact absurd over_ unfinished
  · obtain ⟨works, free⟩ := Label.internal_free internal
    exact ⟨label, s', by simp [works], prompt_of_passes_none free, taken⟩
  · obtain ⟨label, s', works, free, taken⟩ := waits.answered
    exact ⟨label, s', by simp [works], prompt_of_passes_none free, taken⟩

/-- The channel is full when the shutdown is asked for, and the ticker waits to send. -/
def crowdedShutdown : List Label :=
  [.listPeers (.ok []), .spawn, .spawn, .spawn, .spawn, .ticker .tick, .ticker .send,
    .ticker .tick, .interrupt]

theorem shutdown_waitsOnlyForLnd_crowded :
    ∃ s : State sampleParts.cfg, s.shutdown = true ∧ s.queue.length = s.capacity ∧
      ∃ more last, (messenger sampleParts).Run (prompt sampleParts) (crowdedShutdown ++ more) last ∧
        last.over = true := by
  obtain ⟨s, followed, asked, full⟩ : ∃ s, (messenger sampleParts).follow (prompt sampleParts) []
      crowdedShutdown (messenger sampleParts).init = some s ∧ s.shutdown = true ∧
      s.queue.length = s.capacity := ⟨_, rfl, rfl, rfl⟩
  obtain ⟨-, more, last, reached, ended, -⟩ := shutdown_waitsOnlyForLnd sampleParts
    crowdedShutdown s (Lts.run_of_follow followed) asked
  exact ⟨s, asked, full, more, last, reached, ended⟩

end LndkFormal.Messenger
