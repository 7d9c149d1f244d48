import LndkFormal.System.Logs

/-!
# Entries and the requests that own them

Every entry of `active_payments` should belong to a request that is still
running.  That holds in every run in which no reply of LND makes a request
panic or leave early while it holds an entry, and fails when the lookup of a
channel fails in `pay_invoice`.
-/

set_option autoImplicit false

namespace LndkFormal.System

open LndkFormal.Async
open LndkFormal.Lnd
open LndkFormal.Ldk
open LndkFormal.Offers
open LndkFormal.Server

section Guards

variable (ldk : Library) (handler : OfferHandler)

/-- A bare call of `get_invoice` leaves its entry to its caller. -/
def leavesEntry : Request → Bool
  | .getInvoice _ => true
  | _ => false

/-- Clients and peers send whole requests. -/
def served : LndkGuard := fun _ _ label =>
  match label with
  | .spawn request => leavesEntry request = false
  | .act _ _ => True

/-- No task gets a reply that ends it while it holds an entry. -/
def spared : LndkGuard := fun _ pool label =>
  match label with
  | .spawn request => leavesEntry request = false
  | .act i event =>
      ∀ task ∈ pool.tasks[i]?, (progressOf ldk handler task).struckBy ldk event = false

instance (labels : List LndkLabel) (pool : LndkPool) :
    (label : LndkLabel) → Decidable (served labels pool label)
  | .spawn request => inferInstanceAs (Decidable (leavesEntry request = false))
  | .act _ _ => isTrue trivial

instance (labels : List LndkLabel) (pool : LndkPool) :
    (label : LndkLabel) → Decidable (spared ldk handler labels pool label)
  | .spawn request => inferInstanceAs (Decidable (leavesEntry request = false))
  | .act i event => inferInstanceAs (Decidable (∀ task ∈ pool.tasks[i]?,
      (progressOf ldk handler task).struckBy ldk event = false))

end Guards

section Holders

variable {ldk : Library} {handler : OfferHandler} {init : OfferState} {guard : LndkGuard}
variable {labels : List LndkLabel} {pool pool' : LndkPool} {label : LndkLabel}
variable {id : PaymentId}

theorem progressOf_extend {task task' : LndkTask} {event : Event Sig}
    (sameRequest : task'.request = task.request) (extended : task'.log = task.log ++ [event]) :
    progressOf ldk handler task' =
      (protocol ldk handler task.request).next (progressOf ldk handler task) event := by
  simp only [progressOf, Task.ghostOf, sameRequest, extended, Monitor.after_append,
    Monitor.after_cons, Monitor.after_nil]

/-- In a spared run no task has seen a mishap, and none leaves its entry behind. -/
theorem run_spared (run : Run (lndk ldk handler) init (spared ldk handler) labels pool) :
    ∀ (i : Nat) (task : LndkTask), pool.tasks[i]? = some task →
      (progressOf ldk handler task).mishap = false ∧ leavesEntry task.request = false := by
  intro i task found
  refine run.each_task (P := fun task => (progressOf ldk handler task).mishap = false ∧
    leavesEntry task.request = false) ?_ ?_ found
  · exact fun _ _ request whole => ⟨rfl, whole⟩
  · rintro _ pool i event task task' allowed old ⟨clean, whole⟩ sameRequest extended _
    have harmless : (progressOf ldk handler task).struckBy ldk event = false :=
      allowed task old
    rw [progressOf_extend sameRequest extended, sameRequest]
    refine ⟨?_, whole⟩
    simp only [protocol, clean, harmless, Bool.or_self]

/-- Who holds an entry keeps holding it, or the entry goes. -/
theorem Acts.holder {i : Nat} {event : Event Sig} {task : LndkTask}
    (acts : Acts ldk handler pool pool' i event task) {j : Nat} {stage : Stage}
    (reached : stageAt ldk handler pool j = some stage) (held : stage.held = some id) :
    (∃ later, stageAt ldk handler pool' j = some later ∧ later.held = some id) ∨
      pool'.shared.entry id = none := by
  by_cases same : j = i
  · subst same
    rw [acts.stage, Option.some.injEq] at reached
    subst reached
    rcases Stage.next_held (task.request.invoice ldk) event held with still | ⟨other, reply, rfl⟩
    · exact Or.inl ⟨_, acts.moved, still⟩
    · obtain rfl := allowed_remove reply acts.allowed held
      right
      rw [acts.effect.2]
      exact Access.entry_remove pool.shared other
  · exact Or.inl ⟨stage, by rw [acts.others j same, reached], held⟩

/-- Every entry has a task that is answerable for it. -/
theorem run_held (run : Run (lndk ldk handler) .new guard labels pool) :
    ∀ id info, pool.shared.entry id = some info →
      ∃ i stage, stageAt ldk handler pool i = some stage ∧ stage.held = some id := by
  induction run with
  | start => simp
  | @step labels pool pool' label before allowed taken ih =>
      intro id info found
      rcases lndk_cases before taken with ⟨request, rfl, spawns⟩ | ⟨i, event, task, rfl, acts⟩
      · rw [spawns.shared] at found
        obtain ⟨j, stage, reached, held⟩ := ih id info found
        have old : j ≠ pool.tasks.length := by
          rintro rfl
          rw [spawns.absent] at reached
          cases reached
        exact ⟨j, stage, by rw [spawns.others j old, reached], held⟩
      · have earlier : (∃ info, pool.shared.entry id = some info) ∨
            stageAt ldk handler pool' i = some (.waiting id) := by
          cases acts.alters id with
          | same kept => exact Or.inl ⟨info, by rw [← kept, found]⟩
          | inserted here isEvent =>
              right
              rw [acts.moved, here, isEvent]
              rfl
          | received info _ _ _ before => exact Or.inl ⟨info, before⟩
          | dispatched info _ _ _ _ _ before => exact Or.inl ⟨info, before⟩
          | stored state _ _ _ _ before => exact Or.inl ⟨_, before⟩
          | removed info _ before => exact Or.inl ⟨info, before⟩
        rcases earlier with ⟨info, present⟩ | claimed
        · obtain ⟨j, stage, reached, held⟩ := ih id info present
          rcases acts.holder reached held with ⟨later, reached', held'⟩ | absent
          · exact ⟨j, later, reached', held'⟩
          · simp [absent] at found
        · exact ⟨i, _, claimed, rfl⟩

/-! ## No leaks -/

/-- A task that is answerable for an entry is still running. -/
theorem running_of_held (run : Run (lndk ldk handler) init (spared ldk handler) labels pool)
    {i : Nat} {task : LndkTask} (found : pool.tasks[i]? = some task)
    (held : (progressOf ldk handler task).stage.held = some id) : task.prog.Running := by
  obtain ⟨clean, whole⟩ := run_spared run i task found
  have kept := run.task_satisfies (start_protocol ldk handler) found
  have notDone : ¬ (progressOf ldk handler task).MayEnd := by
    intro mayEnd
    have mishap := mayEnd (by rw [held]; simp)
    rw [clean] at mishap
    cases mishap
  cases left : task.prog with
  | ret outcome =>
      rw [left] at kept
      refine absurd (Ends.released kept ?_) notDone
      intro cfg same
      rw [same] at whole
      cases whole
  | panic message =>
      rw [left] at kept
      exact absurd kept notDone
  | access op next => trivial
  | call req next => trivial

end Holders

/-- Each entry belongs to a request that is still running; a request that has
ended has removed what it claimed; a refused one has removed nothing. -/
structure NoLeaks (pool : LndkPool) : Prop where
  running : ∀ id info, pool.shared.entry id = some info →
    ∃ (i : Nat) (task : LndkTask), pool.tasks[i]? = some task ∧ task.prog.Running ∧
      .access (.insertVacant id) true ∈ task.log
  exits : ∀ (i : Nat) (task : LndkTask) (id : PaymentId), pool.tasks[i]? = some task →
    ¬ task.prog.Running → .access (.insertVacant id) true ∈ task.log →
    .access (.remove id) () ∈ task.log
  refusals : ∀ (i : Nat) (task : LndkTask) (outcome : Outcome), pool.tasks[i]? = some task →
    task.prog = .ret outcome → outcome.reason = some "ALREADY_PROCESSING" →
    ∀ id, .access (.remove id) () ∉ task.log

/-- Nothing leaks in a run in which LND's replies spare the tasks that hold entries. -/
theorem spared_noLeaks (ldk : Library) (handler : OfferHandler) (labels : List LndkLabel)
    (pool : LndkPool) (run : Run (lndk ldk handler) .new (spared ldk handler) labels pool) :
    NoLeaks pool where
  running := by
    intro id info found
    obtain ⟨i, stage, reached, held⟩ := run_held run id info found
    obtain ⟨task, present, rfl⟩ := Option.map_eq_some_iff.mp reached
    refine ⟨i, task, present, running_of_held run present held, ?_⟩
    exact task_claimed run present (Stage.owns_of_held held)
  exits := by
    intro i task id found ended claimed
    rcases task_released run found claimed with held | removed
    · exact absurd (running_of_held run found held) ended
    · exact removed
  refusals := by
    intro i task outcome found result refused id
    have ended := run.task_satisfies (start_protocol ldk handler) found
    rw [result] at ended
    obtain ⟨other, stage⟩ := (Ends.accounts ended).2 refused
    exact task_refused run found stage id

def sampleRequest : PayOfferRequest where
  metadata := .macaroon ""
  offer := ""
  amount := some 1000
  payerNote := none
  responseInvoiceTimeout := none
  feeLimit := none
  feeLimitPercent := none

def paySchedule (invoice : Bolt12Invoice) : List (Choice Sig Request) :=
  .spawn (.payOfferRpc sampleRequest) :: goOn 0 12 ++
    .spawn (sampleAnswer invoice) :: goOn 1 1 ++ goOn 0 7

theorem spared_noLeaks_paid :
    let reached := schedule (lndk (.plain .twoPaths) sampleHandler) (paySchedule .twoPaths)
      ([], ⟨.new, []⟩)
    reached.2.shared.entry ⟨1⟩ = none ∧ NoLeaks reached.2 := by
  refine ⟨by decide +kernel, ?_⟩
  exact spared_noLeaks (.plain .twoPaths) sampleHandler _ _
    (schedule_run (paySchedule .twoPaths) .start (by decide +kernel))

def channelInvoice : Bolt12Invoice :=
  { Bolt12Invoice.twoPaths with
    paymentPaths := [{ BlindedPaymentPath.through (.repeated 2) with
      introductionNode := .directedShortChannelId .nodeOne 5 }] }

/-- LND does not know the channel: PayOffer fails and its entry stays. -/
theorem payOffer_leaks :
    ¬ ∀ (labels : List LndkLabel) (pool : LndkPool),
      Run (lndk (.plain .twoPaths) sampleHandler) .new served labels pool → NoLeaks pool := by
  intro claim
  have leaks := claim _ _ (schedule_run (paySchedule channelInvoice) .start (by decide +kernel))
  obtain ⟨i, task, found, running, _⟩ := leaks.running ⟨1⟩
    ⟨.invoiceReceived, some channelInvoice⟩ (by decide +kernel)
  have ended : ∀ task ∈ (schedule (lndk (.plain .twoPaths) sampleHandler)
      (paySchedule channelInvoice) ([], ⟨.new, []⟩)).2.tasks, ¬ task.prog.Running := by
    decide +kernel
  exact ended task (List.mem_of_getElem? found) running

end LndkFormal.System
