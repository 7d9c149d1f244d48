import LndkFormal.Async.Progress
import LndkFormal.Messenger.Channel

/-!
# The shutdown

Once the shutdown signal is triggered, `run_onion_messenger` and its producers come
to an end, whatever the interleaving and however full the channel is.  Only LND can
hold them up: the retries of a subscription or of a list of peers do not look at
the signal.
-/

set_option autoImplicit false

namespace LndkFormal.Messenger

open LndkFormal.Async
open LndkFormal.Ldk
open LndkFormal.Lnd
open LndkFormal.RateLimit

inductive Producer where
  | reconnection
  | peers
  | messages
  | ticker
  deriving DecidableEq

/-- The producer whose `select!` goes past the signal with this label. -/
def Label.passes : Label → Option Producer
  | .reconnection .register | .reconnection .request => some .reconnection
  | .peers (.receive _) => some .peers
  | .messages .begin | .messages (.receive _) => some .messages
  | .ticker .tick => some .ticker
  | _ => none

def Label.triggers : Label → Bool
  | .interrupt | .reconnection .trigger | .peers .trigger | .ticker .trigger => true
  | _ => false

def sinceTrigger (labels : List Label) : List Label :=
  labels.dropWhile fun label => !label.triggers

def passed (labels : List Label) (producer : Producer) : Bool :=
  (sinceTrigger labels).any fun label => label.passes == some producer

/-- Every `select!` is biased: it polls the signal before anything else.  So only the poll
during which the signal is triggered can still go past it. -/
def prompt (parts : Parts) : Lts.Guard (State parts.cfg) Label := fun past _ label =>
  (label.passes.all fun producer => !passed past producer) = true

instance (parts : Parts) (past : List Label) (s : State parts.cfg) (label : Label) :
    Decidable (prompt parts past s label) :=
  inferInstanceAs (Decidable (_ = true))

/-- Steps that bring the shutdown no further: LND fails in a way that is retried, or the
world outside moves. -/
def Label.idle : Label → Bool
  | .interrupt | .lnd _ => true
  | .reconnection (.reply (.error e)) => isRetryableError e
  | .peers (.subscribe (.error e)) => isRetryableError e
  | .messages (.subscribe (.error e)) => isRetryableError e
  | _ => false

theorem Label.passes_of_idle {label : Label} (idle : label.idle = true) : label.passes = none := by
  cases label with
  | reconnection move => cases move <;> first | rfl | cases idle
  | peers move => cases move <;> first | rfl | cases idle
  | messages move => cases move <;> first | rfl | cases idle
  | ticker move => cases move <;> first | rfl | cases idle
  | _ => rfl

theorem Label.passes_of_main {label : Label} (main : label.isMain = true) :
    label.passes = none := by
  cases label <;> first | rfl | cases main

section Signal

variable {parts : Parts} {s s' : State parts.cfg} {label : Label}

theorem Performed.untriggered {T : Type} {shared : State parts.cfg} {done : Local T} {task : T}
    (performed : Performed s done shared task) (triggered : shared.shutdown = true) :
    s.shutdown = true ∨ ∃ after, done = .trigger after := by
  cases performed with
  | triggered after kind => exact Or.inr ⟨_, kind⟩
  | _ => exact Or.inl triggered

theorem not_onShutdown_trigger {T : Type} {shutdown : Bool} {finished after : T} :
    onShutdown shutdown finished ≠ some (.trigger after) := by
  intro taken
  cases (onShutdown_cases taken).2

theorem Reconnection.next_trigger {shutdown : Bool} {task after : Reconnection}
    {move : ReconnectionMove} (taken : task.next parts shutdown move = some (.trigger after)) :
    move = .trigger := by
  unfold Reconnection.next at taken
  split at taken
  case h_1 | h_2 | h_3 => exact absurd taken not_onShutdown_trigger
  case h_6 | h_7 => split at taken <;> cases taken
  case h_9 => rfl
  all_goals cases taken

theorem PeerProducer.next_trigger {shutdown : Bool} {task after : PeerProducer} {move : PeerMove}
    (taken : task.next parts shutdown move = some (.trigger after)) : move = .trigger := by
  unfold PeerProducer.next at taken
  split at taken
  case h_2 | h_4 => split at taken <;> cases taken
  case h_3 => exact absurd taken not_onShutdown_trigger
  case h_9 => rfl
  all_goals cases taken

theorem MessageProducer.next_trigger {shutdown : Bool} {task after : MessageProducer}
    {move : MessageMove} : task.next parts shutdown move ≠ some (.trigger after) := by
  intro taken
  unfold MessageProducer.next at taken
  split at taken
  case h_1 | h_5 => exact absurd taken not_onShutdown_trigger
  case h_4 => split at taken <;> cases taken
  case h_6 =>
      split at taken
      · cases taken
      · split at taken
        · cases taken
        · split at taken <;> cases taken
  all_goals cases taken

theorem Ticker.next_trigger {shutdown : Bool} {task after : Ticker} {move : TickerMove}
    (taken : task.next shutdown move = some (.trigger after)) : move = .trigger := by
  unfold Ticker.next at taken
  split at taken
  case h_1 => exact absurd taken not_onShutdown_trigger
  case h_4 => rfl
  all_goals cases taken

theorem Stepped.triggered (stepped : Stepped parts s label s') (after : s'.shutdown = true) :
    s.shutdown = true ∨ label.triggers = true := by
  cases stepped with
  | listed answer here =>
      left
      unfold State.listed at after
      split at after <;> exact after
  | interrupt => exact Or.inr rfl
  | reconnection move done taken performed =>
      obtain ⟨shared, task, effect, rfl⟩ := perform_cases performed
      rcases effect.untriggered after with before | ⟨_, rfl⟩
      · exact Or.inl before
      · exact Or.inr (by rw [Reconnection.next_trigger taken]; rfl)
  | peers move done taken performed =>
      obtain ⟨shared, task, effect, rfl⟩ := perform_cases performed
      rcases effect.untriggered after with before | ⟨_, rfl⟩
      · exact Or.inl before
      · exact Or.inr (by rw [PeerProducer.next_trigger taken]; rfl)
  | messages move done taken performed =>
      obtain ⟨shared, task, effect, rfl⟩ := perform_cases performed
      rcases effect.untriggered after with before | ⟨_, rfl⟩
      · exact Or.inl before
      · exact absurd taken MessageProducer.next_trigger
  | ticker move done taken performed =>
      obtain ⟨shared, task, effect, rfl⟩ := perform_cases performed
      rcases effect.untriggered after with before | ⟨_, rfl⟩
      · exact Or.inl before
      · exact Or.inr (by rw [Ticker.next_trigger taken]; rfl)
  | _ => exact Or.inl after

theorem Stepped.stays_triggered (stepped : Stepped parts s label s')
    (before : s.shutdown = true) : s'.shutdown = true := by
  cases stepped with
  | listed answer here =>
      unfold State.listed
      split <;> exact before
  | interrupt => rfl
  | reconnection move done taken performed =>
      obtain ⟨shared, task, effect, rfl⟩ := perform_cases performed
      exact effect.shutdown before
  | peers move done taken performed =>
      obtain ⟨shared, task, effect, rfl⟩ := perform_cases performed
      exact effect.shutdown before
  | messages move done taken performed =>
      obtain ⟨shared, task, effect, rfl⟩ := perform_cases performed
      exact effect.shutdown before
  | ticker move done taken performed =>
      obtain ⟨shared, task, effect, rfl⟩ := perform_cases performed
      exact effect.shutdown before
  | _ => exact before

theorem sinceTrigger_concat {labels : List Label} (label : Label)
    (triggered : sinceTrigger labels ≠ []) :
    sinceTrigger (labels ++ [label]) = sinceTrigger labels ++ [label] := by
  unfold sinceTrigger at *
  rw [List.dropWhile_append, if_neg]
  simpa using triggered

theorem run_triggered {guard : Lts.Guard (State parts.cfg) Label} {labels : List Label}
    (run : (messenger parts).Run guard labels s) (asked : s.shutdown = true) :
    sinceTrigger labels ≠ [] := by
  refine run.invariant (I := fun labels s => s.shutdown = true → sinceTrigger labels ≠ [])
    ?_ ?_ asked
  · exact nofun
  · intro labels s label s' before holds _ taken after
    by_cases earlier : sinceTrigger labels = []
    · have triggers : label.triggers = true := by
        rcases (next_stepped taken).triggered after with asked | triggers
        · exact absurd earlier (holds asked)
        · exact triggers
      unfold sinceTrigger at earlier ⊢
      simp [List.dropWhile_append, earlier, triggers]
    · rw [sinceTrigger_concat label earlier]
      simp

end Signal

/-! ## Ranks

The first number counts the answers of LND and the passes of a `select!` that are
still to come, the second what is left to do without them.  An event that is still
to be sent weighs two, an event in the channel one. -/

section Ranks

/-- How often the producer may still go past the triggered signal. -/
def allowance (labels : List Label) (producer : Producer) : Nat :=
  if passed labels producer then 0 else 1

def Reconnection.replies (allowance : Nat) : Reconnection → Nat
  | .unborn | .polling | .waiting | .woken | .sending _ => 2 * allowance
  | .listing => 2 * allowance + 1
  | .failing | .finished | .panicked => 0

def Reconnection.work : Reconnection → Nat
  | .unborn | .polling | .waiting | .woken => 3
  | .sending rest => 2 * rest.length + 3
  | .failing => 1
  | .listing | .finished | .panicked => 0

def PeerProducer.replies (allowance : Nat) : PeerProducer → Nat
  | .unborn | .subscribing | .lookingUp _ => 2 * allowance + 1
  | .receiving | .sending _ => 2 * allowance
  | .exiting | .failing | .finished | .panicked => 0

def PeerProducer.work : PeerProducer → Nat
  | .sending _ | .exiting => 4
  | .receiving | .failing => 1
  | .unborn | .subscribing | .lookingUp _ | .finished | .panicked => 0

def MessageProducer.replies (allowance : Nat) : MessageProducer → Nat
  | .unborn | .looping | .receiving | .sending _ | .exiting => 2 * allowance
  | .subscribing => 2 * allowance + 1
  | .finished | .panicked => 0

def MessageProducer.work : MessageProducer → Nat
  | .sending _ | .exiting => 4
  | .unborn | .looping | .receiving => 1
  | .subscribing | .finished | .panicked => 0

def Ticker.replies (allowance : Nat) : Ticker → Nat
  | .unborn | .ticking | .sending => allowance
  | .failing | .finished => 0

def Ticker.work : Ticker → Nat
  | .sending => 4
  | .unborn | .ticking | .failing => 1
  | .finished => 0

variable {cfg : RateLimiterCfg}

def Main.replies : Main cfg → Nat
  | .listing => 1
  | _ => 0

def Main.work : Main cfg → Nat
  | .queueing rest => 2 * rest.length + 6
  | .spawningPeers => 5
  | .spawningMessages => 4
  | .spawningTicker => 3
  | .starting => 2
  | .consuming _ => 1
  | .listing | .exited _ _ | .failed => 0

def State.replies (labels : List Label) (s : State cfg) : Nat :=
  s.main.replies + s.reconnection.replies (allowance labels .reconnection) +
    s.peers.replies (allowance labels .peers) + s.messages.replies (allowance labels .messages) +
    s.ticker.replies (allowance labels .ticker)

def State.work (s : State cfg) : Nat :=
  s.main.work + s.queue.length + s.reconnection.work + s.peers.work + s.messages.work +
    s.ticker.work

def rank (labels : List Label) (s : State cfg) : Nat ×ₗ Nat := toLex (s.replies labels, s.work)

def Label.cost (label : Label) (producer : Producer) : Nat :=
  if label.passes = some producer then 1 else 0

theorem allowance_concat {parts : Parts} {labels : List Label} {s : State parts.cfg}
    {label : Label} (triggered : sinceTrigger labels ≠ []) (allowed : prompt parts labels s label)
    (producer : Producer) :
    allowance (labels ++ [label]) producer + label.cost producer = allowance labels producer := by
  have extended : passed (labels ++ [label]) producer =
      (passed labels producer || label.passes == some producer) := by
    simp [passed, sinceTrigger_concat label triggered]
  unfold allowance Label.cost
  rw [extended]
  by_cases passes : label.passes = some producer
  · have unspent : passed labels producer = false := by
      simpa [prompt, passes] using allowed
    simp [unspent, passes]
  · simp [passes]

variable {T : Type}

/-- The move lowers the rank of its task, also counting the event that it sends. -/
def Local.Lowers (replies work : T → Nat) (r w : Nat) : Local T → Prop
  | .goto task | .trigger task => replies task < r ∨ replies task = r ∧ work task < w
  | .send _ sent failed =>
      replies sent ≤ r ∧ work sent + 1 < w ∧ replies failed ≤ r ∧ work failed < w
  | .notify _ => False

theorem Performed.lowers {s shared : State cfg} {done : Local T} {task : T}
    {replies work : T → Nat} {r w : Nat} (performed : Performed s done shared task)
    (lowers : done.Lowers replies work r w) :
    ∃ queue shutdown, shared = { s with queue := queue, shutdown := shutdown } ∧
      (replies task < r ∨
        replies task = r ∧ work task + queue.length < w + s.queue.length) := by
  cases performed with
  | goto _ kind =>
      rw [kind] at lowers
      simp only [Local.Lowers] at lowers
      exact ⟨s.queue, s.shutdown, rfl, by omega⟩
  | sent event _ failed kind =>
      rw [kind] at lowers
      simp only [Local.Lowers] at lowers
      refine ⟨s.queue ++ [event], s.shutdown, rfl, ?_⟩
      rw [List.length_append, List.length_singleton]
      omega
  | refused event sent _ kind =>
      rw [kind] at lowers
      simp only [Local.Lowers] at lowers
      exact ⟨s.queue, s.shutdown, rfl, by omega⟩
  | woke _ kind | unheard _ kind =>
      rw [kind] at lowers
      cases lowers
  | triggered _ kind =>
      rw [kind] at lowers
      simp only [Local.Lowers] at lowers
      exact ⟨s.queue, true, rfl, by omega⟩

section Lowering

variable {parts : Parts} {now later : Nat}

theorem Reconnection.sendAll_replies (entries : List (PublicKey × Bool)) :
    (Reconnection.sendAll entries).replies now = 2 * now := by
  cases entries <;> rfl

theorem Reconnection.sendAll_work (entries : List (PublicKey × Bool)) :
    (Reconnection.sendAll entries).work = 2 * entries.length + 3 := by
  cases entries <;> rfl

theorem Reconnection.next_lowers {task : Reconnection} {move : ReconnectionMove}
    {done : Local Reconnection} (taken : task.next parts true move = some done)
    (works : (Label.reconnection move).idle = false)
    (spent : later + (Label.reconnection move).cost .reconnection = now) :
    done.Lowers (Reconnection.replies later) Reconnection.work (task.replies now) task.work := by
  unfold Reconnection.next at taken
  split at taken
  case h_1 | h_2 | h_3 =>
      rw [(onShutdown_cases taken).2]
      simp only [Local.Lowers, replies, work]
      omega
  case h_4 | h_5 =>
      cases taken
      simp only [Label.cost, Label.passes, if_true] at spent
      simp only [Local.Lowers, replies, work]
      omega
  case h_6 peers =>
      simp only [Label.cost, Label.passes, reduceCtorEq, if_false] at spent
      split at taken <;> cases taken
      · simp only [Local.Lowers, sendAll_replies]
        simp only [replies]
        omega
      · simp only [Local.Lowers, replies]
        omega
  case h_7 e =>
      have final : isRetryableError e = false := works
      rw [final] at taken
      cases taken
      simp only [Local.Lowers, replies]
      omega
  case h_8 entry rest =>
      cases taken
      simp only [Label.cost, Label.passes, reduceCtorEq, if_false] at spent
      simp only [Local.Lowers, sendAll_replies, sendAll_work]
      simp only [replies, work, List.length_cons]
      omega
  case h_9 =>
      cases taken
      exact Or.inr ⟨rfl, Nat.one_pos⟩
  case h_10 => cases taken

theorem PeerProducer.next_lowers {task : PeerProducer} {move : PeerMove}
    {done : Local PeerProducer} (taken : task.next parts true move = some done)
    (works : (Label.peers move).idle = false)
    (spent : later + (Label.peers move).cost .peers = now) :
    done.Lowers (PeerProducer.replies later) PeerProducer.work (task.replies now) task.work := by
  unfold PeerProducer.next at taken
  split at taken
  case h_2 e =>
      have final : isRetryableError e = false := works
      rw [final] at taken
      cases taken
      simp only [Local.Lowers, replies]
      omega
  case h_3 =>
      rw [(onShutdown_cases taken).2]
      simp only [Local.Lowers, replies, work]
      omega
  case h_4 event =>
      simp only [Label.cost, Label.passes, if_true] at spent
      split at taken <;> cases taken <;> simp only [Local.Lowers, replies] <;> omega
  case h_5 e =>
      cases taken
      simp only [Label.cost, Label.passes, if_true] at spent
      simp only [Local.Lowers, replies]
      omega
  case h_9 =>
      cases taken
      exact Or.inr ⟨rfl, Nat.one_pos⟩
  case h_10 => cases taken
  all_goals
    cases taken
    simp only [Label.cost, Label.passes, reduceCtorEq, if_false] at spent
    simp only [Local.Lowers, replies, work]
    omega

theorem MessageProducer.next_lowers {task : MessageProducer} {move : MessageMove}
    {done : Local MessageProducer} (taken : task.next parts true move = some done)
    (works : (Label.messages move).idle = false)
    (spent : later + (Label.messages move).cost .messages = now) :
    done.Lowers (MessageProducer.replies later) MessageProducer.work (task.replies now)
      task.work := by
  unfold MessageProducer.next at taken
  split at taken
  case h_1 | h_5 =>
      rw [(onShutdown_cases taken).2]
      simp only [Local.Lowers, replies, work]
      omega
  case h_2 | h_7 =>
      cases taken
      simp only [Label.cost, Label.passes, if_true] at spent
      simp only [Local.Lowers, replies]
      omega
  case h_4 e =>
      have final : isRetryableError e = false := works
      rw [final] at taken
      cases taken
      simp only [Local.Lowers, replies]
      omega
  case h_6 message =>
      simp only [Label.cost, Label.passes, if_true] at spent
      -- Whatever becomes of the message, the `select!` has been passed.
      have passes : ∀ after : MessageProducer, after.replies later = 0 ∨
          after.replies later = 2 * later → done = .goto after →
          done.Lowers (MessageProducer.replies later) work (replies now .receiving)
            (work .receiving) := by
        rintro after few rfl
        have before : replies now .receiving = 2 * now := rfl
        left
        omega
      split at taken
      · cases taken
        exact passes _ (Or.inr rfl) rfl
      · split at taken
        · cases taken
          exact passes _ (Or.inl rfl) rfl
        · split at taken <;> cases taken <;> exact passes _ (Or.inr rfl) rfl
  case h_10 => cases taken
  all_goals
    cases taken
    simp only [Label.cost, Label.passes, reduceCtorEq, if_false] at spent
    simp only [Local.Lowers, replies, work]
    omega

theorem Ticker.next_lowers {task : Ticker} {move : TickerMove} {done : Local Ticker}
    (taken : task.next true move = some done)
    (spent : later + (Label.ticker move).cost .ticker = now) :
    done.Lowers (Ticker.replies later) Ticker.work (task.replies now) task.work := by
  unfold Ticker.next at taken
  split at taken
  case h_1 =>
      rw [(onShutdown_cases taken).2]
      simp only [Local.Lowers, replies, work]
      omega
  case h_4 =>
      cases taken
      exact Or.inr ⟨rfl, Nat.one_pos⟩
  case h_5 => cases taken
  all_goals
    cases taken
    simp only [Label.cost, Label.passes, reduceCtorEq, if_true, if_false] at spent
    simp only [Local.Lowers, replies, work]
    omega

end Lowering

end Ranks

section Staged

def Main.stage {cfg : RateLimiterCfg} : Main cfg → Nat
  | .listing | .queueing _ | .failed => 0
  | .spawningPeers => 1
  | .spawningMessages => 2
  | .spawningTicker => 3
  | .starting | .consuming _ | .exited _ _ => 4

structure Staged {cfg : RateLimiterCfg} (s : State cfg) : Prop where
  reconnection : s.reconnection = .unborn ↔ s.main.stage < 1
  peers : s.peers = .unborn ↔ s.main.stage < 2
  messages : s.messages = .unborn ↔ s.main.stage < 3
  ticker : s.ticker = .unborn ↔ s.main.stage < 4
  room : 0 < s.main.stage → 0 < s.capacity
  entry : s.reconnection ≠ .sending []

variable {parts : Parts} {s s' : State parts.cfg} {label : Label}

theorem Performed.staged {T : Type} {shared : State parts.cfg} {done : Local T} {task : T}
    (performed : Performed s done shared task) (holds : Staged s) : Staged shared := by
  obtain ⟨reconnection, peers, messages, ticker, room, entry⟩ := holds
  cases performed with
  | woke _ _ waiting =>
      rw [waiting] at reconnection
      have late : ¬ s.main.stage < 1 := fun early => nomatch reconnection.mpr early
      exact ⟨⟨nofun, fun early => absurd early late⟩, peers, messages, ticker, room, nofun⟩
  | _ => exact ⟨reconnection, peers, messages, ticker, room, entry⟩

theorem Reconnection.sendAll_born (entries : List (PublicKey × Bool)) :
    Reconnection.sendAll entries ≠ .unborn ∧ Reconnection.sendAll entries ≠ .sending [] := by
  cases entries <;> exact ⟨nofun, nofun⟩

theorem Reconnection.next_born {shutdown : Bool} {task : Reconnection} {move : ReconnectionMove}
    {done : Local Reconnection} (taken : task.next parts shutdown move = some done) :
    task ≠ .unborn ∧ done.leads fun after => after ≠ .unborn ∧ after ≠ .sending [] := by
  unfold Reconnection.next at taken
  split at taken
  case h_1 | h_2 | h_3 =>
      rw [(onShutdown_cases taken).2]
      exact ⟨nofun, nofun, nofun⟩
  case h_6 =>
      split at taken <;> cases taken
      · exact ⟨nofun, sendAll_born _⟩
      · exact ⟨nofun, nofun, nofun⟩
  case h_7 => split at taken <;> cases taken <;> exact ⟨nofun, nofun, nofun⟩
  case h_8 =>
      cases taken
      exact ⟨nofun, sendAll_born _, nofun, nofun⟩
  case h_10 => cases taken
  all_goals
    cases taken
    exact ⟨nofun, nofun, nofun⟩

theorem PeerProducer.next_born {shutdown : Bool} {task : PeerProducer} {move : PeerMove}
    {done : Local PeerProducer} (taken : task.next parts shutdown move = some done) :
    task ≠ .unborn ∧ done.leads fun after => after ≠ .unborn := by
  unfold PeerProducer.next at taken
  split at taken
  case h_2 | h_4 => split at taken <;> cases taken <;> exact ⟨nofun, nofun⟩
  case h_3 =>
      rw [(onShutdown_cases taken).2]
      exact ⟨nofun, nofun⟩
  case h_7 | h_8 =>
      cases taken
      exact ⟨nofun, nofun, nofun⟩
  case h_10 => cases taken
  all_goals
    cases taken
    exact ⟨nofun, nofun⟩

theorem MessageProducer.next_born {shutdown : Bool} {task : MessageProducer} {move : MessageMove}
    {done : Local MessageProducer} (taken : task.next parts shutdown move = some done) :
    task ≠ .unborn ∧ done.leads fun after => after ≠ .unborn := by
  unfold MessageProducer.next at taken
  split at taken
  case h_1 | h_5 =>
      rw [(onShutdown_cases taken).2]
      exact ⟨nofun, nofun⟩
  case h_4 => split at taken <;> cases taken <;> exact ⟨nofun, nofun⟩
  case h_6 =>
      split at taken
      · cases taken
        exact ⟨nofun, nofun⟩
      · split at taken
        · cases taken
          exact ⟨nofun, nofun⟩
        · split at taken <;> cases taken <;> exact ⟨nofun, nofun⟩
  case h_8 | h_9 =>
      cases taken
      exact ⟨nofun, nofun, nofun⟩
  case h_10 => cases taken
  all_goals
    cases taken
    exact ⟨nofun, nofun⟩

theorem Ticker.next_born {shutdown : Bool} {task : Ticker} {move : TickerMove}
    {done : Local Ticker} (taken : task.next shutdown move = some done) :
    task ≠ .unborn ∧ done.leads fun after => after ≠ .unborn := by
  unfold Ticker.next at taken
  split at taken
  case h_1 =>
      rw [(onShutdown_cases taken).2]
      exact ⟨nofun, nofun⟩
  case h_3 =>
      cases taken
      exact ⟨nofun, nofun, nofun⟩
  case h_5 => cases taken
  all_goals
    cases taken
    exact ⟨nofun, nofun⟩

theorem born_iff {T : Type} {before after unborn : T} {early : Prop}
    (staged : before = unborn ↔ early) (was : before ≠ unborn) (stays : after ≠ unborn) :
    after = unborn ↔ early :=
  ⟨fun same => absurd same stays, fun holds => absurd (staged.mpr holds) was⟩

theorem Staged.step (holds : Staged s) (loaded : Loaded s) (stepped : Stepped parts s label s') :
    Staged s' := by
  have whole := holds
  obtain ⟨reconnection, peers, messages, ticker, room, entry⟩ := holds
  cases stepped with
  | listed answer here =>
      rw [here] at reconnection peers messages ticker
      unfold State.listed
      split <;> exact ⟨reconnection, peers, messages, ticker, nofun, entry⟩
  | unlisted e here | queued first rest here =>
      rw [here] at reconnection peers messages ticker
      exact ⟨reconnection, peers, messages, ticker, nofun, entry⟩
  | spawnReconnection here =>
      have sized : s.capacity = (entriesOf s.currentPeers).length + 1 := by
        have loaded := loaded
        unfold Loaded at loaded
        rw [here] at loaded
        exact loaded.2
      rw [here] at peers messages ticker
      refine ⟨⟨nofun, by simp [Main.stage]⟩, ?_, ?_, ?_, fun _ => ?_, nofun⟩
      · simpa [Main.stage] using peers
      · simpa [Main.stage] using messages
      · simpa [Main.stage] using ticker
      · show 0 < s.capacity
        omega
  | spawnPeers here =>
      rw [here] at reconnection messages ticker room
      refine ⟨?_, ⟨nofun, by simp [Main.stage]⟩, ?_, ?_, fun _ => room (Nat.zero_lt_succ _), entry⟩
      · simpa [Main.stage] using reconnection
      · simpa [Main.stage] using messages
      · simpa [Main.stage] using ticker
  | spawnMessages here =>
      rw [here] at reconnection peers ticker room
      refine ⟨?_, ?_, ⟨nofun, by simp [Main.stage]⟩, ?_, fun _ => room (Nat.zero_lt_succ _), entry⟩
      · simpa [Main.stage] using reconnection
      · simpa [Main.stage] using peers
      · simpa [Main.stage] using ticker
  | spawnTicker here =>
      rw [here] at reconnection peers messages room
      refine ⟨?_, ?_, ?_, ⟨nofun, by simp [Main.stage]⟩, fun _ => room (Nat.zero_lt_succ _), entry⟩
      · simpa [Main.stage] using reconnection
      · simpa [Main.stage] using peers
      · simpa [Main.stage] using messages
  | consume here | hangUp consumer here =>
      rw [here] at reconnection peers messages ticker room
      exact ⟨reconnection, peers, messages, ticker, room, entry⟩
  | take consumer event rest accepted here head =>
      have unmoved : (consumer.handle parts.clock accepted event).stage = s.main.stage := by
        rcases consumer.handle_cases parts.clock accepted event with
          ⟨_, handled⟩ | ⟨_, handled⟩ <;> rw [handled, here] <;> rfl
      rw [← unmoved] at reconnection peers messages ticker room
      exact ⟨reconnection, peers, messages, ticker, room, entry⟩
  | interrupt | lnd => exact ⟨reconnection, peers, messages, ticker, room, entry⟩
  | reconnection move done taken performed =>
      obtain ⟨shared, task, effect, rfl⟩ := perform_cases performed
      obtain ⟨was, leads⟩ := Reconnection.next_born taken
      have stays := effect.leads leads
      obtain ⟨_, peers, messages, ticker, room, _⟩ := effect.staged whole
      refine ⟨?_, peers, messages, ticker, room, stays.2⟩
      exact born_iff (effect.main ▸ reconnection) was stays.1
  | peers move done taken performed =>
      obtain ⟨shared, task, effect, rfl⟩ := perform_cases performed
      obtain ⟨was, leads⟩ := PeerProducer.next_born taken
      obtain ⟨reconnection, _, messages, ticker, room, entry⟩ := effect.staged whole
      refine ⟨reconnection, ?_, messages, ticker, room, entry⟩
      exact born_iff (effect.main ▸ peers) was (effect.leads leads)
  | messages move done taken performed =>
      obtain ⟨shared, task, effect, rfl⟩ := perform_cases performed
      obtain ⟨was, leads⟩ := MessageProducer.next_born taken
      obtain ⟨reconnection, peers, _, ticker, room, entry⟩ := effect.staged whole
      refine ⟨reconnection, peers, ?_, ticker, room, entry⟩
      exact born_iff (effect.main ▸ messages) was (effect.leads leads)
  | ticker move done taken performed =>
      obtain ⟨shared, task, effect, rfl⟩ := perform_cases performed
      obtain ⟨was, leads⟩ := Ticker.next_born taken
      obtain ⟨reconnection, peers, messages, _, room, entry⟩ := effect.staged whole
      refine ⟨reconnection, peers, messages, ?_, room, entry⟩
      exact born_iff (effect.main ▸ ticker) was (effect.leads leads)

theorem run_staged {guard : Lts.Guard (State parts.cfg) Label} {labels : List Label}
    (run : (messenger parts).Run guard labels s) : Staged s := by
  refine run.invariant (I := fun _ s => Staged s) ?_ ?_
  · exact ⟨⟨fun _ => Nat.zero_lt_succ _, fun _ => rfl⟩, ⟨fun _ => Nat.zero_lt_succ _, fun _ => rfl⟩,
      ⟨fun _ => Nat.zero_lt_succ _, fun _ => rfl⟩, ⟨fun _ => Nat.zero_lt_succ _, fun _ => rfl⟩,
      nofun, nofun⟩
  · intro labels s label s' before holds _ taken
    exact holds.step (run_loaded before) (next_stepped taken)

end Staged

/-! ## Every step that is not idle lowers the rank -/

section Steps

variable {parts : Parts} {s s' : State parts.cfg} {label : Label} {labels : List Label}

theorem rank_lt {cfg : RateLimiterCfg} {labels labels' : List Label} {s s' : State cfg} :
    rank labels' s' < rank labels s ↔
      s'.replies labels' < s.replies labels ∨
        s'.replies labels' = s.replies labels ∧ s'.work < s.work :=
  Prod.Lex.toLex_lt_toLex

structure SameTasks {cfg : RateLimiterCfg} (s s' : State cfg) : Prop where
  replies : ∀ labels, s'.replies labels + s.main.replies = s.replies labels + s'.main.replies
  work : s'.work + (s.main.work + s.queue.length) = s.work + (s'.main.work + s'.queue.length)

theorem sameTasks_of_eq {cfg : RateLimiterCfg} {s s' : State cfg}
    (reconnection : s'.reconnection = s.reconnection) (peers : s'.peers = s.peers)
    (messages : s'.messages = s.messages) (ticker : s'.ticker = s.ticker) : SameTasks s s' := by
  constructor
  · intro labels
    simp only [State.replies, reconnection, peers, messages, ticker]
    omega
  · simp only [State.work, reconnection, peers, messages, ticker]
    omega

theorem SameTasks.lowers (tasks : SameTasks s s')
    (same : ∀ producer, allowance (labels ++ [label]) producer = allowance labels producer)
    (lower : s'.main.replies < s.main.replies ∨ s'.main.replies ≤ s.main.replies ∧
      s'.main.work + s'.queue.length < s.main.work + s.queue.length) :
    rank (labels ++ [label]) s' < rank labels s := by
  have unspent : s'.replies (labels ++ [label]) = s'.replies labels := by
    simp only [State.replies, same]
  rw [rank_lt, unspent]
  have replies := tasks.replies labels
  have work := tasks.work
  omega

theorem Staged.spawn (staged : Staged s) (stepped : Stepped parts s .spawn s') :
    SameTasks s s' := by
  cases stepped with
  | spawnReconnection here =>
      have unborn := staged.reconnection.mpr (by rw [here]; exact Nat.zero_lt_succ _)
      constructor
      · intro labels
        simp only [State.replies, unborn, Reconnection.replies]
        omega
      · simp only [State.work, unborn, Reconnection.work]
        omega
  | spawnPeers here =>
      have unborn := staged.peers.mpr (by rw [here]; exact Nat.one_lt_two)
      constructor
      · intro labels
        simp only [State.replies, unborn, PeerProducer.replies]
        omega
      · simp only [State.work, unborn, PeerProducer.work]
        omega
  | spawnMessages here =>
      have unborn := staged.messages.mpr (by rw [here]; exact Nat.lt_succ_self 2)
      constructor
      · intro labels
        simp only [State.replies, unborn, MessageProducer.replies]
        omega
      · simp only [State.work, unborn, MessageProducer.work]
        omega
  | spawnTicker here =>
      have unborn := staged.ticker.mpr (by rw [here]; exact Nat.lt_succ_self 3)
      constructor
      · intro labels
        simp only [State.replies, unborn, Ticker.replies]
        omega
      · simp only [State.work, unborn, Ticker.work]
        omega

theorem Stepped.lowers_main (stepped : Stepped parts s label s') (staged : Staged s)
    (same : ∀ producer, allowance (labels ++ [label]) producer = allowance labels producer)
    (main : label.isMain = true) : rank (labels ++ [label]) s' < rank labels s := by
  have whole := stepped
  cases stepped with
  | listed answer here =>
      refine SameTasks.lowers ?_ same (Or.inl ?_)
      · unfold State.listed
        split <;> exact sameTasks_of_eq rfl rfl rfl rfl
      · rw [here]
        unfold State.listed
        split <;> exact Nat.one_pos
  | unlisted e here =>
      refine SameTasks.lowers (sameTasks_of_eq rfl rfl rfl rfl) same (Or.inl ?_)
      rw [here]
      exact Nat.one_pos
  | queued entry rest here room =>
      refine SameTasks.lowers (sameTasks_of_eq rfl rfl rfl rfl) same (Or.inr ⟨Nat.zero_le _, ?_⟩)
      simp only [here, Main.work, List.length_append, List.length_cons, List.length_nil]
      omega
  | spawnReconnection here | spawnPeers here | spawnMessages here | spawnTicker here =>
      refine (staged.spawn whole).lowers same (Or.inr ⟨Nat.zero_le _, ?_⟩)
      simp [here, Main.work]
  | consume here | hangUp consumer here empty =>
      refine SameTasks.lowers (sameTasks_of_eq rfl rfl rfl rfl) same (Or.inr ⟨Nat.zero_le _, ?_⟩)
      simp [here, Main.work]
  | take consumer event rest accepted here head =>
      refine SameTasks.lowers (sameTasks_of_eq rfl rfl rfl rfl) same (Or.inr ?_)
      rcases consumer.handle_cases parts.clock accepted event with
          ⟨_, handled⟩ | ⟨_, handled⟩ <;>
        exact ⟨by rw [handled]; exact Nat.zero_le _, by
          simp only [handled, here, head, Main.work, List.length_cons]; omega⟩
  | _ => cases main

theorem allowance_other {producer : Producer}
    (spent : allowance (labels ++ [label]) producer + label.cost producer =
      allowance labels producer) (aside : label.passes ≠ some producer) :
    allowance (labels ++ [label]) producer = allowance labels producer := by
  rw [← spent, Label.cost, if_neg aside, Nat.add_zero]

theorem Label.passes_reconnection (move : ReconnectionMove) {producer : Producer}
    (other : producer ≠ .reconnection) : (Label.reconnection move).passes ≠ some producer := by
  cases move <;> simp [Label.passes, other.symm]

theorem Label.passes_peers (move : PeerMove) {producer : Producer}
    (other : producer ≠ .peers) : (Label.peers move).passes ≠ some producer := by
  cases move <;> simp [Label.passes, other.symm]

theorem Label.passes_messages (move : MessageMove) {producer : Producer}
    (other : producer ≠ .messages) : (Label.messages move).passes ≠ some producer := by
  cases move <;> simp [Label.passes, other.symm]

theorem Label.passes_ticker (move : TickerMove) {producer : Producer}
    (other : producer ≠ .ticker) : (Label.ticker move).passes ≠ some producer := by
  cases move <;> simp [Label.passes, other.symm]

theorem Stepped.lowers_aside (stepped : Stepped parts s label s') (asked : s.shutdown = true)
    (spent : ∀ producer, allowance (labels ++ [label]) producer + label.cost producer =
      allowance labels producer)
    (works : label.idle = false) (aside : label.isMain = false) :
    rank (labels ++ [label]) s' < rank labels s := by
  cases stepped with
  | reconnection move done taken performed =>
      obtain ⟨shared, task, effect, rfl⟩ := perform_cases performed
      rw [asked] at taken
      obtain ⟨queue, shutdown, rfl, lower⟩ :=
        effect.lowers (Reconnection.next_lowers taken works (spent .reconnection))
      rw [rank_lt]
      simp only [State.setReconnection, State.replies, State.work,
        allowance_other (spent .peers) (Label.passes_reconnection move (by decide)),
        allowance_other (spent .messages) (Label.passes_reconnection move (by decide)),
        allowance_other (spent .ticker) (Label.passes_reconnection move (by decide))]
      omega
  | peers move done taken performed =>
      obtain ⟨shared, task, effect, rfl⟩ := perform_cases performed
      rw [asked] at taken
      obtain ⟨queue, shutdown, rfl, lower⟩ :=
        effect.lowers (PeerProducer.next_lowers taken works (spent .peers))
      rw [rank_lt]
      simp only [State.setPeers, State.replies, State.work,
        allowance_other (spent .reconnection) (Label.passes_peers move (by decide)),
        allowance_other (spent .messages) (Label.passes_peers move (by decide)),
        allowance_other (spent .ticker) (Label.passes_peers move (by decide))]
      omega
  | messages move done taken performed =>
      obtain ⟨shared, task, effect, rfl⟩ := perform_cases performed
      rw [asked] at taken
      obtain ⟨queue, shutdown, rfl, lower⟩ :=
        effect.lowers (MessageProducer.next_lowers taken works (spent .messages))
      rw [rank_lt]
      simp only [State.setMessages, State.replies, State.work,
        allowance_other (spent .reconnection) (Label.passes_messages move (by decide)),
        allowance_other (spent .peers) (Label.passes_messages move (by decide)),
        allowance_other (spent .ticker) (Label.passes_messages move (by decide))]
      omega
  | ticker move done taken performed =>
      obtain ⟨shared, task, effect, rfl⟩ := perform_cases performed
      rw [asked] at taken
      obtain ⟨queue, shutdown, rfl, lower⟩ :=
        effect.lowers (Ticker.next_lowers taken (spent .ticker))
      rw [rank_lt]
      simp only [State.setTicker, State.replies, State.work,
        allowance_other (spent .reconnection) (Label.passes_ticker move (by decide)),
        allowance_other (spent .peers) (Label.passes_ticker move (by decide)),
        allowance_other (spent .messages) (Label.passes_ticker move (by decide))]
      omega
  | interrupt | lnd => cases works
  | _ => cases aside

theorem Reconnection.next_retried {shutdown : Bool} {task : Reconnection} {e : Status}
    {done : Local Reconnection} (retried : isRetryableError e = true)
    (taken : task.next parts shutdown (.reply (.error e)) = some done) :
    task = .listing ∧ done = .goto .listing := by
  unfold Reconnection.next at taken
  split at taken <;> simp_all

theorem PeerProducer.next_retried {shutdown : Bool} {task : PeerProducer} {e : Status}
    {done : Local PeerProducer} (retried : isRetryableError e = true)
    (taken : task.next parts shutdown (.subscribe (.error e)) = some done) :
    task = .subscribing ∧ done = .notify .subscribing := by
  unfold PeerProducer.next at taken
  split at taken <;> simp_all

theorem MessageProducer.next_retried {shutdown : Bool} {task : MessageProducer} {e : Status}
    {done : Local MessageProducer} (retried : isRetryableError e = true)
    (taken : task.next parts shutdown (.subscribe (.error e)) = some done) :
    task = .subscribing ∧ done = .goto .subscribing := by
  unfold MessageProducer.next at taken
  split at taken <;> simp_all

/-- LND's retried failures leave everything as it is, except that a sleeping listener may
be woken. -/
theorem Stepped.idle_keeps (stepped : Stepped parts s label s') (labels : List Label)
    (idle : label.idle = true) : s'.replies labels = s.replies labels ∧ s'.work = s.work := by
  cases stepped with
  | interrupt | lnd => exact ⟨rfl, rfl⟩
  | reconnection move done taken performed =>
      unfold Label.idle at idle
      split at idle
      case h_3 e same =>
        cases same
        obtain ⟨here, rfl⟩ := Reconnection.next_retried idle taken
        cases performed
        simp only [State.setReconnection, State.replies, State.work, here, and_self]
      all_goals simp_all
  | peers move done taken performed =>
      unfold Label.idle at idle
      split at idle
      case h_4 e same =>
        cases same
        obtain ⟨here, rfl⟩ := PeerProducer.next_retried idle taken
        obtain ⟨shared, task, effect, rfl⟩ := perform_cases performed
        cases effect with
        | woke _ kind waiting =>
            cases kind
            simp only [State.setPeers, State.replies, State.work, here, waiting,
              Reconnection.replies, Reconnection.work, and_self]
        | unheard _ kind =>
            cases kind
            simp only [State.setPeers, State.replies, State.work, here, and_self]
        | goto _ kind | sent _ _ _ kind | refused _ _ _ kind | triggered _ kind => cases kind
      all_goals simp_all
  | messages move done taken performed =>
      unfold Label.idle at idle
      split at idle
      case h_5 e same =>
        cases same
        obtain ⟨here, rfl⟩ := MessageProducer.next_retried idle taken
        cases performed
        simp only [State.setMessages, State.replies, State.work, here, and_self]
      all_goals simp_all
  | _ => cases idle

/-- Once the signal is triggered, every step is idle or lowers the rank. -/
theorem shutdown_ranked (parts : Parts) :
    Lts.Ranked (messenger parts) (prompt parts) (fun s => s.shutdown = true)
      (fun label => label.idle = true) rank where
  stays _ asked _ taken := (next_stepped taken).stays_triggered asked
  keeps := by
    intro labels s label s' run asked allowed taken idle
    have same : ∀ producer,
        allowance (labels ++ [label]) producer = allowance labels producer := fun producer =>
      allowance_other (allowance_concat (run_triggered run asked) allowed producer)
        (by rw [Label.passes_of_idle idle]; exact nofun)
    have unspent : s'.replies (labels ++ [label]) = s'.replies labels := by
      simp only [State.replies, same]
    obtain ⟨replies, work⟩ := (next_stepped taken).idle_keeps labels idle
    rw [rank, rank, unspent, replies, work]
  lowers := by
    intro labels s label s' run asked allowed taken works
    have spent := allowance_concat (run_triggered run asked) allowed
    have works : label.idle = false := by simpa using works
    cases main : label.isMain with
    | true =>
        refine (next_stepped taken).lowers_main (run_staged run) (fun producer => ?_) main
        exact allowance_other (spent producer) (by rw [Label.passes_of_main main]; exact nofun)
    | false => exact (next_stepped taken).lowers_aside asked spent works main

end Steps

/-- A run that goes on for ever after the signal does nothing any more but retry what LND
keeps failing. -/
theorem shutdown_terminates (parts : Parts)
    (endless : Lts.Endless (messenger parts) (prompt parts)) (n : Nat)
    (asked : (endless.state n).shutdown = true) :
    ∃ last, ∀ m, last ≤ m → (endless.label m).idle = true :=
  (shutdown_ranked parts).settles endless asked

def stuckLabel : Nat → Label
  | 0 => .listPeers (.ok [])
  | 1 => .spawn
  | 2 => .spawn
  | 3 => .interrupt
  | _ + 4 => .peers (.subscribe (.error outage))

def stuckState : Nat → State sampleParts.cfg
  | 0 => .init sampleParts.cfg
  | n + 1 => ((stuckState n).next sampleParts (stuckLabel n)).getD (stuckState n)

theorem stuckState_stays (n : Nat) : stuckState (n + 4) = stuckState 4 := by
  induction n with
  | zero => rfl
  | succ n ih =>
      rw [show n + 1 + 4 = (n + 4) + 1 from rfl, stuckState, ih]
      rfl

def stuck : Lts.Endless (messenger sampleParts) (prompt sampleParts) where
  state := stuckState
  label := stuckLabel
  start := rfl
  allowed
    | 0 | 1 | 2 | 3 | _ + 4 => rfl
  taken
    | 0 | 1 | 2 | 3 => rfl
    | n + 4 => by
        rw [show stuckState (n + 4 + 1) = stuckState 4 from stuckState_stays (n + 1),
          stuckState_stays n]
        rfl

theorem shutdown_terminates_stuck :
    (stuck.state 4).shutdown = true ∧
      ∃ last, ∀ m, last ≤ m → (stuck.label m).idle = true :=
  ⟨rfl, shutdown_terminates sampleParts stuck 4 rfl⟩

end LndkFormal.Messenger
