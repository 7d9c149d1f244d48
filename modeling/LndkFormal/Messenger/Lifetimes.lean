import LndkFormal.Messenger.Steps

/-!
# The lives of the producers

Two properties of the four producers.  None of them ends while the consumer goes
on, unless the shutdown signal has been triggered; and the reconnection listener
does not go to sleep on a notice.  Each fails in one place of the source.
-/

set_option autoImplicit false

namespace LndkFormal.Messenger

open LndkFormal.Async
open LndkFormal.Ldk
open LndkFormal.Lnd
open LndkFormal.RateLimit

/-! ## Producers that have ended -/

/-- The move does not end the task, except by triggering the shutdown. -/
def Local.goesOn {T : Type} (finished : T) : Local T → Prop
  | .goto task => task ≠ finished
  | .send _ sent failed => sent ≠ finished ∧ failed ≠ finished
  | .notify task => task ≠ finished
  | .trigger _ => True

theorem Performed.alarmed {cfg : RateLimiterCfg} {T : Type} {s shared : State cfg}
    {done : Local T} {task finished : T} (performed : Performed s done shared task)
    (signalled : s.shutdown = true ∨ done.goesOn finished) (ended : task = finished) :
    shared.shutdown = true := by
  subst ended
  rcases signalled with triggered | goesOn
  · exact performed.shutdown triggered
  · cases performed with
    | goto _ kind =>
        rw [kind] at goesOn
        exact absurd rfl goesOn
    | sent event _ failed kind =>
        rw [kind] at goesOn
        exact absurd rfl goesOn.1
    | refused event sent _ kind =>
        rw [kind] at goesOn
        exact absurd rfl goesOn.2
    | woke _ kind =>
        rw [kind] at goesOn
        exact absurd rfl goesOn
    | unheard _ kind =>
        rw [kind] at goesOn
        exact absurd rfl goesOn
    | triggered _ kind => rfl

section Moves

variable {parts : Parts} {shutdown : Bool}

theorem Reconnection.sendAll_ne_finished (rest : List (PublicKey × Bool)) :
    Reconnection.sendAll rest ≠ .finished := by
  cases rest <;> exact nofun

theorem Reconnection.next_signalled {task : Reconnection} {move : ReconnectionMove}
    {done : Local Reconnection} (taken : task.next parts shutdown move = some done) :
    shutdown = true ∨ done.goesOn .finished := by
  unfold Reconnection.next at taken
  split at taken
  case h_1 | h_2 | h_3 => exact Or.inl (onShutdown_cases taken).1
  case h_6 =>
      right
      split at taken
      · cases taken
        exact sendAll_ne_finished _
      · cases taken
        exact nofun
  case h_7 =>
      right
      split at taken <;> cases taken <;> exact nofun
  case h_8 =>
      right
      cases taken
      exact ⟨sendAll_ne_finished _, nofun⟩
  case h_10 => cases taken
  all_goals
    right
    cases taken
    first | exact trivial | exact nofun

theorem PeerProducer.next_signalled {task : PeerProducer} {move : PeerMove}
    {done : Local PeerProducer} (taken : task.next parts shutdown move = some done) :
    shutdown = true ∨ done.goesOn .finished := by
  unfold PeerProducer.next at taken
  split at taken
  case h_2 =>
      right
      split at taken <;> cases taken <;> exact nofun
  case h_3 => exact Or.inl (onShutdown_cases taken).1
  case h_4 =>
      right
      split at taken <;> cases taken <;> exact nofun
  case h_7 | h_8 =>
      right
      cases taken
      exact ⟨nofun, nofun⟩
  case h_10 => cases taken
  all_goals
    right
    cases taken
    first | exact trivial | exact nofun

/-- The subscription to custom messages does not fail for good. -/
def MessageMove.persists : MessageMove → Bool
  | .subscribe (.error e) => isRetryableError e
  | _ => true

theorem MessageProducer.next_signalled {task : MessageProducer} {move : MessageMove}
    {done : Local MessageProducer} (taken : task.next parts shutdown move = some done)
    (persists : move.persists = true) : shutdown = true ∨ done.goesOn .finished := by
  unfold MessageProducer.next at taken
  split at taken
  case h_1 | h_5 => exact Or.inl (onShutdown_cases taken).1
  case h_4 e =>
      right
      have retried : isRetryableError e = true := persists
      rw [if_pos retried] at taken
      cases taken
      exact nofun
  case h_6 =>
      right
      split at taken
      · cases taken
        exact nofun
      · split at taken
        · cases taken
          exact nofun
        · split at taken <;> cases taken <;> exact nofun
  case h_8 | h_9 =>
      right
      cases taken
      exact ⟨nofun, nofun⟩
  case h_10 => cases taken
  all_goals
    right
    cases taken
    exact nofun

theorem Ticker.next_signalled {task : Ticker} {move : TickerMove} {done : Local Ticker}
    (taken : task.next shutdown move = some done) :
    shutdown = true ∨ done.goesOn .finished := by
  unfold Ticker.next at taken
  split at taken
  case h_1 => exact Or.inl (onShutdown_cases taken).1
  case h_3 =>
      right
      cases taken
      exact ⟨nofun, nofun⟩
  case h_5 => cases taken
  all_goals
    right
    cases taken
    first | exact trivial | exact nofun

end Moves

section Alarm

variable {parts : Parts}

def State.producerFinished {cfg : RateLimiterCfg} (s : State cfg) : Prop :=
  s.reconnection = .finished ∨ s.peers = .finished ∨ s.messages = .finished ∨
    s.ticker = .finished

/-- Where a producer has ended, the shutdown has been triggered. -/
structure Alarmed {cfg : RateLimiterCfg} (s : State cfg) : Prop where
  reconnection : s.reconnection = .finished → s.shutdown = true
  peers : s.peers = .finished → s.shutdown = true
  messages : s.messages = .finished → s.shutdown = true
  ticker : s.ticker = .finished → s.shutdown = true

def persistent (parts : Parts) : Lts.Guard (State parts.cfg) Label := fun _ _ label =>
  match label with
  | .messages move => move.persists = true
  | _ => True

instance (past : List Label) (s : State parts.cfg) :
    (label : Label) → Decidable (persistent parts past s label)
  | .messages move => inferInstanceAs (Decidable (move.persists = true))
  | .listPeers _ | .queueStartup | .spawn | .consume | .take _ | .hangUp | .interrupt
  | .reconnection _ | .peers _ | .ticker _ | .lnd _ => isTrue trivial

theorem Performed.keeps_alarm {T : Type} {s shared : State parts.cfg} {done : Local T} {task : T}
    (performed : Performed s done shared task) (holds : Alarmed s) : Alarmed shared := by
  obtain ⟨reconnection, peers, messages, ticker⟩ := holds
  cases performed with
  | goto | sent | refused | unheard => exact ⟨reconnection, peers, messages, ticker⟩
  | woke _ _ waiting => exact ⟨nofun, peers, messages, ticker⟩
  | triggered => exact ⟨fun _ => rfl, fun _ => rfl, fun _ => rfl, fun _ => rfl⟩

theorem Alarmed.step {s s' : State parts.cfg} {label : Label} (holds : Alarmed s)
    (persists : persistent parts [] s label) (stepped : Stepped parts s label s') :
    Alarmed s' := by
  have whole := holds
  obtain ⟨reconnection, peers, messages, ticker⟩ := holds
  cases stepped with
  | listed answer here =>
      unfold State.listed
      split <;> exact ⟨reconnection, peers, messages, ticker⟩
  | unlisted | queued | consume | take | hangUp | lnd =>
      exact ⟨reconnection, peers, messages, ticker⟩
  | spawnReconnection here => exact ⟨nofun, peers, messages, ticker⟩
  | spawnPeers here => exact ⟨reconnection, nofun, messages, ticker⟩
  | spawnMessages here => exact ⟨reconnection, peers, nofun, ticker⟩
  | spawnTicker here => exact ⟨reconnection, peers, messages, nofun⟩
  | interrupt => exact ⟨fun _ => rfl, fun _ => rfl, fun _ => rfl, fun _ => rfl⟩
  | reconnection move done taken performed =>
      obtain ⟨shared, task, effect, rfl⟩ := perform_cases performed
      obtain ⟨_, peers, messages, ticker⟩ := effect.keeps_alarm whole
      exact ⟨effect.alarmed (Reconnection.next_signalled taken), peers, messages, ticker⟩
  | peers move done taken performed =>
      obtain ⟨shared, task, effect, rfl⟩ := perform_cases performed
      obtain ⟨reconnection, _, messages, ticker⟩ := effect.keeps_alarm whole
      exact ⟨reconnection, effect.alarmed (PeerProducer.next_signalled taken), messages, ticker⟩
  | messages move done taken performed =>
      obtain ⟨shared, task, effect, rfl⟩ := perform_cases performed
      obtain ⟨reconnection, peers, _, ticker⟩ := effect.keeps_alarm whole
      exact ⟨reconnection, peers,
        effect.alarmed (MessageProducer.next_signalled taken persists), ticker⟩
  | ticker move done taken performed =>
      obtain ⟨shared, task, effect, rfl⟩ := perform_cases performed
      obtain ⟨reconnection, peers, messages, _⟩ := effect.keeps_alarm whole
      exact ⟨reconnection, peers, messages, effect.alarmed (Ticker.next_signalled taken)⟩

end Alarm

/-- The consumer goes on without one of its producers, and nobody has been told. -/
def HalfDead {cfg : RateLimiterCfg} (s : State cfg) : Prop :=
  (∃ consumer, s.main = .consuming consumer) ∧ s.producerFinished ∧ s.shutdown = false

/-- The messenger is never half dead, as long as LND does not refuse the subscription
to custom messages for good. -/
theorem persistent_not_halfDead (parts : Parts) (labels : List Label) (s : State parts.cfg)
    (run : (messenger parts).Run (persistent parts) labels s) : ¬ HalfDead s := by
  rintro ⟨_, ended, silent⟩
  have holds : Alarmed s := by
    refine run.invariant (I := fun _ s => Alarmed s) ?_ ?_
    · constructor <;> exact fun ended => by cases ended
    · intro labels s label s' before holds persists taken
      exact holds.step persists (next_stepped taken)
  have triggered : s.shutdown = true := by
    rcases ended with done | done | done | done
    · exact holds.reconnection done
    · exact holds.peers done
    · exact holds.messages done
    · exact holds.ticker done
  rw [silent] at triggered
  cases triggered

def refusal : Status := { code := .permissionDenied, message := "" }

def outage : Status := { code := .unavailable, message := "" }

theorem persistent_not_halfDead_interrupted :
    ∃ s : State sampleParts.cfg, s.producerFinished ∧ ¬ HalfDead s := by
  obtain ⟨s, followed, ended⟩ : ∃ s, (messenger sampleParts).follow (persistent sampleParts) []
      (startAlone ++ [.interrupt, .ticker .quit]) (messenger sampleParts).init = some s ∧
      s.ticker = .finished := ⟨_, rfl, rfl⟩
  refine ⟨s, Or.inr (Or.inr (Or.inr ended)), ?_⟩
  exact persistent_not_halfDead sampleParts _ s (Lts.run_of_follow followed)

/-- LND refuses the subscription to custom messages, and the messenger stays deaf. -/
theorem messenger_halfDead :
    ¬ ∀ (labels : List Label) (s : State sampleParts.cfg),
      (messenger sampleParts).Run Lts.unguarded labels s → ¬ HalfDead s := by
  intro claim
  obtain ⟨s, followed, dead⟩ : ∃ s, (messenger sampleParts).follow Lts.unguarded []
      (startAlone ++ [.messages .begin, .messages (.subscribe (.error refusal))])
      (messenger sampleParts).init = some s ∧ HalfDead s :=
    ⟨_, rfl, ⟨_, rfl⟩, Or.inr (Or.inr (Or.inl rfl)), rfl⟩
  exact claim _ s (Lts.run_of_follow followed) dead

/-! ## Notices of a reconnection -/

def Label.isRequest : Label → Bool
  | .reconnection .request => true
  | _ => false

/-- The peer subscription fails and is tried again, and `notify_waiters` is called. -/
def Label.isNotice : Label → Bool
  | .peers (.subscribe (.error e)) => isRetryableError e
  | _ => false

/-- What has happened since the listener last asked LND for its peers, latest first. -/
def sinceRequest (labels : List Label) : List Label :=
  labels.reverse.takeWhile fun label => !label.isRequest

/-- The listener sleeps on a notice: it waits for the next one, and has not asked LND
for its peers since the last. -/
def Oversleeps {cfg : RateLimiterCfg} (labels : List Label) (s : State cfg) : Prop :=
  s.reconnection = .waiting ∧ (sinceRequest labels).any Label.isNotice = true

theorem sinceRequest_concat (labels : List Label) (label : Label) :
    sinceRequest (labels ++ [label]) =
      if label.isRequest then [] else label :: sinceRequest labels := by
  cases found : label.isRequest <;> simp [sinceRequest, found]

def Reconnection.awake : Reconnection → Bool
  | .woken | .failing | .finished | .panicked => true
  | _ => false

/-- A notice is given only while the listener waits for one, or is already awake. -/
def heard (parts : Parts) : Lts.Guard (State parts.cfg) Label := fun _ s label =>
  label.isNotice = true → s.reconnection = .waiting ∨ s.reconnection.awake = true

instance (parts : Parts) (past : List Label) (s : State parts.cfg) (label : Label) :
    Decidable (heard parts past s label) :=
  inferInstanceAs (Decidable (_ → _ ∨ _))

section Notices

variable {parts : Parts} {labels : List Label} {s s' : State parts.cfg} {label : Label}

theorem Reconnection.next_awake {shutdown : Bool} {task : Reconnection} {move : ReconnectionMove}
    {done : Local Reconnection} (taken : task.next parts shutdown move = some done)
    (awake : task.awake = true) :
    (Label.reconnection move).isRequest = true ∨ done = .goto .finished ∨
      done = .trigger .finished := by
  unfold Reconnection.next at taken
  split at taken
  case h_3 =>
      exact Or.inr (Or.inl (onShutdown_cases taken).2)
  case h_5 => exact Or.inl rfl
  case h_9 =>
      cases taken
      exact Or.inr (Or.inr rfl)
  case h_10 => cases taken
  all_goals cases awake

theorem Performed.stays_awake {T : Type} {shared : State parts.cfg} {done : Local T} {task : T}
    (performed : Performed s done shared task) (awake : s.reconnection.awake = true) :
    shared.reconnection.awake = true := by
  cases performed with
  | woke => rfl
  | _ => exact awake

theorem Stepped.notice (stepped : Stepped parts s label s') (notice : label.isNotice = true)
    (attended : s.reconnection = .waiting ∨ s.reconnection.awake = true) :
    s'.reconnection.awake = true := by
  cases stepped with
  | peers move done taken performed =>
      have kind : ∃ task, done = .notify task := by
        unfold Label.isNotice at notice
        split at notice
        next e same =>
          cases same
          unfold PeerProducer.next at taken
          split at taken
          case h_2 retried =>
              cases retried
              rw [if_pos notice] at taken
              cases taken
              exact ⟨_, rfl⟩
          all_goals simp_all
        next => cases notice
      obtain ⟨task, rfl⟩ := kind
      obtain ⟨shared, _, effect, rfl⟩ := perform_cases performed
      cases effect with
      | woke => rfl
      | unheard _ _ away =>
          rcases attended with waiting | awake
          · exact absurd waiting away
          · exact awake
      | goto _ kind | triggered _ kind => cases kind
      | sent _ _ _ kind | refused _ _ _ kind => cases kind
  | _ => cases notice

theorem Stepped.stays_awake (stepped : Stepped parts s label s') (late : s.early = false)
    (other : label.isRequest = false) (awake : s.reconnection.awake = true) :
    s'.reconnection.awake = true := by
  cases stepped with
  | listed answer here =>
      unfold State.listed
      split <;> exact awake
  | spawnReconnection here =>
      simp only [State.early, here] at late
      cases late
  | reconnection move done taken performed =>
      rcases Reconnection.next_awake taken awake with request | rfl | rfl
      · rw [other] at request
        cases request
      · cases performed
        rfl
      · cases performed
        rfl
  | peers move done taken performed =>
      obtain ⟨shared, task, effect, rfl⟩ := perform_cases performed
      exact effect.stays_awake awake
  | messages move done taken performed =>
      obtain ⟨shared, task, effect, rfl⟩ := perform_cases performed
      exact effect.stays_awake awake
  | ticker move done taken performed =>
      obtain ⟨shared, task, effect, rfl⟩ := perform_cases performed
      exact effect.stays_awake awake
  | _ => exact awake

/-- Whoever is not awake has asked LND for its peers since the last notice. -/
theorem run_heard (run : (messenger parts).Run (heard parts) labels s)
    (asleep : s.reconnection.awake = false) :
    (sinceRequest labels).any Label.isNotice = false := by
  revert asleep
  refine run.invariant (I := fun labels s => s.reconnection.awake = false →
    (sinceRequest labels).any Label.isNotice = false) (fun _ => rfl) ?_
  intro labels s label s' before ih attended taken asleep
  have stepped := next_stepped taken
  rw [sinceRequest_concat]
  cases request : label.isRequest with
  | true => rfl
  | false =>
      cases notice : label.isNotice with
      | true =>
          have woken := stepped.notice notice (attended notice)
          rw [asleep] at woken
          cases woken
      | false =>
          have slept : s.reconnection.awake = false := by
            cases early : s.early with
            | true =>
                rw [(run_unspawned before early).reconnection]
                rfl
            | false =>
                by_contra awake
                have still := stepped.stays_awake early request (by simpa using awake)
                rw [asleep] at still
                cases still
          simp [notice, ih slept]

end Notices

/-- No notice is slept on, as long as each is given while the listener waits for it. -/
theorem heard_not_oversleeps (parts : Parts) (labels : List Label) (s : State parts.cfg)
    (run : (messenger parts).Run (heard parts) labels s) : ¬ Oversleeps labels s := by
  rintro ⟨waiting, missed⟩
  have quiet := run_heard run (by rw [waiting]; rfl)
  rw [missed] at quiet
  cases quiet

theorem heard_not_oversleeps_again :
    ∃ s : State sampleParts.cfg, s.reconnection = .waiting ∧
      ¬ Oversleeps (startAlone ++ [.reconnection .register, .peers (.subscribe (.error outage)),
        .reconnection .request, .reconnection (.reply (.ok [])), .reconnection .register]) s := by
  obtain ⟨s, followed, waiting⟩ : ∃ s, (messenger sampleParts).follow (heard sampleParts) []
      (startAlone ++ [.reconnection .register, .peers (.subscribe (.error outage)),
        .reconnection .request, .reconnection (.reply (.ok [])), .reconnection .register])
      (messenger sampleParts).init = some s ∧ s.reconnection = .waiting := ⟨_, rfl, rfl⟩
  exact ⟨s, waiting, heard_not_oversleeps sampleParts _ s (Lts.run_of_follow followed)⟩

/-- The peer subscription fails before the listener is first polled, and the listener
then waits for a notice that has been given. -/
theorem messenger_oversleeps :
    ¬ ∀ (labels : List Label) (s : State sampleParts.cfg),
      (messenger sampleParts).Run Lts.unguarded labels s → ¬ Oversleeps labels s := by
  intro claim
  obtain ⟨s, followed, asleep⟩ : ∃ s, (messenger sampleParts).follow Lts.unguarded []
      [.listPeers (.ok []), .spawn, .spawn, .peers (.subscribe (.error outage)),
        .reconnection .register] (messenger sampleParts).init = some s ∧
      Oversleeps [.listPeers (.ok []), .spawn, .spawn, .peers (.subscribe (.error outage)),
        .reconnection .register] s := ⟨_, rfl, rfl, rfl⟩
  exact claim _ s (Lts.run_of_follow followed) asleep

end LndkFormal.Messenger
