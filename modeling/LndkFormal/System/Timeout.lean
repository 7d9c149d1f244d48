import LndkFormal.System.Lifecycle
import LndkFormal.System.Logs

/-!
# The timeout of `get_invoice`

`get_invoice` looks at its entry every two seconds and gives up when its timer
fires.  An invoice that the message handler stores after the last look goes
down with the entry.  Without such a store no invoice is lost.
-/

set_option autoImplicit false

namespace LndkFormal.System

open LndkFormal.Async
open LndkFormal.Ldk
open LndkFormal.Offers

def invoiceFor (s : OfferState) (id : PaymentId) : Option Bolt12Invoice :=
  (s.entry id).bind PaymentInfo.invoice

def isCheck (i : Nat) : LndkLabel → Bool
  | .act j (.access (.readInvoice _) _) => j == i
  | _ => false

def isStore (id : PaymentId) : LndkLabel → Bool
  | .act _ (.access (.storeInvoice other _) _) => other == id
  | _ => false

/-- What has happened since task `i` last looked at its entry, latest first. -/
def sinceCheck (i : Nat) (labels : List LndkLabel) : List LndkLabel :=
  labels.reverse.takeWhile fun label => !isCheck i label

def firesTimer : Event Sig → Bool
  | .call .sleepOrTimeout .elapsed => true
  | .call .timeoutElapsed _ => true
  | _ => false

/-- The payment that a task gives up on with this event: its timer fires, or it
drops the entry after that. -/
def Stage.givesUp : Stage → Event Sig → Option PaymentId
  | .waiting id, event => if firesTimer event then some id else none
  | .expired id, .access (.remove _) _ => some id
  | _, _ => none

theorem sinceCheck_concat (i : Nat) (labels : List LndkLabel) (label : LndkLabel) :
    sinceCheck i (labels ++ [label]) =
      if isCheck i label then [] else label :: sinceCheck i labels := by
  cases found : isCheck i label <;> simp [sinceCheck, found]

section Guard

variable (ldk : Library) (handler : OfferHandler)

/-- A task gives up only if no invoice for its payment came in after its last look. -/
def unraced : LndkGuard := fun labels pool label =>
  match label with
  | .spawn _ => True
  | .act i event => ∀ stage ∈ stageAt ldk handler pool i, ∀ id ∈ stage.givesUp event,
      (sinceCheck i labels).any (isStore id) = false

instance (labels : List LndkLabel) (pool : LndkPool) :
    (label : LndkLabel) → Decidable (unraced ldk handler labels pool label)
  | .spawn _ => isTrue trivial
  | .act i event => inferInstanceAs (Decidable (∀ stage ∈ stageAt ldk handler pool i,
      ∀ id ∈ stage.givesUp event, (sinceCheck i labels).any (isStore id) = false))

end Guard

/-! ## Where an unseen invoice comes from -/

def Stage.awaits : Stage → Option PaymentId
  | .waiting id => some id
  | .expired id => some id
  | _ => none

theorem Request.stage_awaits (request : Request) : request.stage.awaits = none := by
  cases request <;> rfl

theorem Stage.next_awaits {paid : Option Bolt12Invoice} {stage : Stage} {event : Event Sig}
    {id : PaymentId} (awaits : (stage.next paid event).awaits = some id) :
    (stage.awaits = some id ∧
        ∀ other invoice, event = .access (.readInvoice other) (some invoice) →
          stage ≠ .waiting other) ∨
      (stage = .drawn id ∧ ∃ other, event = .access (.insertVacant other) true) := by
  have moved := stage.next_moves paid event
  generalize stage.next paid event = later at moved awaits
  cases moved with
  | claim =>
      cases awaits
      exact Or.inr ⟨rfl, _, rfl⟩
  | sleepOver | expire => exact Or.inl ⟨awaits, nofun⟩
  | stay still =>
      refine Or.inl ⟨awaits, ?_⟩
      rintro other invoice rfl rfl
      cases still
  | _ => cases awaits

section Waiting

variable {ldk : Library} {handler : OfferHandler} {guard : LndkGuard}
variable {labels : List LndkLabel} {pool pool' : LndkPool} {id : PaymentId}
variable {i : Nat} {event : Event Sig} {task : LndkTask}

/-- Only a store puts an invoice into an entry. -/
theorem Acts.invoice_kept (acts : Acts ldk handler pool pool' i event task)
    (unset : invoiceFor pool.shared id = none) :
    isStore id (.act i event) = true ∨ invoiceFor pool'.shared id = none := by
  unfold invoiceFor at unset ⊢
  cases acts.alters id with
  | same kept =>
      rw [kept]
      exact Or.inr unset
  | inserted _ _ _ after =>
      rw [after]
      exact Or.inr rfl
  | received info _ _ _ before after =>
      rw [before] at unset
      rw [after]
      exact Or.inr unset
  | dispatched info _ _ _ _ _ before after =>
      rw [before] at unset
      rw [after]
      exact Or.inr unset
  | stored state invoice _ _ isEvent =>
      rw [isEvent]
      simp [isStore]
  | removed info _ _ after =>
      rw [after]
      exact Or.inr rfl

/-- While a task waits, an invoice in its entry is one that came in after its last look. -/
def UnseenIsNew (ldk : Library) (handler : OfferHandler) (labels : List LndkLabel)
    (pool : LndkPool) : Prop :=
  ∀ i stage id, stageAt ldk handler pool i = some stage → stage.awaits = some id →
    (sinceCheck i labels).any (isStore id) = true ∨ invoiceFor pool.shared id = none

theorem Acts.unseen_kept {j : Nat} (acts : Acts ldk handler pool pool' j event task)
    (other : isCheck i (.act j event) = false)
    (known : (sinceCheck i labels).any (isStore id) = true ∨ invoiceFor pool.shared id = none) :
    (sinceCheck i (labels ++ [.act j event])).any (isStore id) = true ∨
      invoiceFor pool'.shared id = none := by
  rw [sinceCheck_concat, other]
  rcases known with came | unset
  · left
    simp [came]
  · rcases acts.invoice_kept unset with stored | still
    · left
      simp [stored]
    · exact Or.inr still

/-- A look that finds nothing says that nothing was there. -/
theorem Acts.check_empty {other : PaymentId}
    (acts : Acts ldk handler pool pool' i (.access (.readInvoice other) none) task)
    (here : (progressOf ldk handler task).stage.awaits = some id) :
    invoiceFor pool'.shared id = none := by
  have waiting : (progressOf ldk handler task).stage = .waiting other := acts.allowed
  rw [waiting] at here
  obtain rfl : other = id := Option.some.inj here
  obtain ⟨answer, shared⟩ := acts.effect
  rw [shared]
  exact answer.symm

theorem UnseenIsNew.act (holds : UnseenIsNew ldk handler labels pool)
    (acts : Acts ldk handler pool pool' i event task) :
    UnseenIsNew ldk handler (labels ++ [.act i event]) pool' := by
  intro j stage id reached awaits
  rcases acts.stage_cases reached with ⟨elsewhere, old⟩ | ⟨rfl, rfl⟩
  · refine acts.unseen_kept ?_ (holds j stage id old awaits)
    unfold isCheck
    split
    next same =>
      cases same
      simp [Ne.symm elsewhere]
    next => rfl
  · rcases Stage.next_awaits awaits with ⟨before, missed⟩ | ⟨drawn, other, rfl⟩
    · cases look : isCheck j (.act j event) with
      | false => exact acts.unseen_kept look (holds j _ id acts.stage before)
      | true =>
          right
          unfold isCheck at look
          split at look
          next same =>
            cases same
            rename_i reply
            cases reply with
            | none => exact acts.check_empty before
            | some invoice => exact absurd acts.allowed (missed _ invoice rfl)
          next => cases look
    · -- the entry was vacant, so no invoice was in it
      have same : (progressOf ldk handler task).stage = .drawn other := acts.allowed
      rw [drawn] at same
      cases same
      refine acts.unseen_kept rfl (Or.inr ?_)
      rw [invoiceFor, Access.vacant_of_insert acts.effect.1.symm]
      rfl

theorem run_unseen (run : Run (lndk ldk handler) .new guard labels pool) :
    UnseenIsNew ldk handler labels pool := by
  induction run with
  | start =>
      intro i stage id reached
      simp [stageAt] at reached
  | @step labels pool pool' label before allowed taken ih =>
      rcases lndk_cases before taken with ⟨request, rfl, spawns⟩ | ⟨i, event, task, rfl, acts⟩
      · intro i stage id reached awaits
        rcases spawns.stage_cases reached with old | ⟨_, rfl⟩
        · rw [sinceCheck_concat, spawns.shared]
          rcases ih i stage id old awaits with came | unset
          · left
            simp [isCheck, came]
          · exact Or.inr unset
        · rw [request.stage_awaits] at awaits
          cases awaits
      · exact ih.act acts

/-- A task that gives up under the guard leaves no invoice behind. -/
theorem Acts.nothing_lost (run : Run (lndk ldk handler) .new (unraced ldk handler) labels pool)
    (acts : Acts ldk handler pool pool' i event task)
    (allowed : unraced ldk handler labels pool (.act i event))
    (givesUp : (progressOf ldk handler task).stage.givesUp event = some id) :
    invoiceFor pool.shared id = none := by
  have awaits : (progressOf ldk handler task).stage.awaits = some id := by
    generalize (progressOf ldk handler task).stage = stage at givesUp
    unfold Stage.givesUp at givesUp
    split at givesUp
    · split at givesUp
      · exact givesUp
      · cases givesUp
    · exact givesUp
    · cases givesUp
  rcases run_unseen run i _ id acts.stage awaits with came | unset
  · have quiet := allowed _ acts.stage id givesUp
    rw [came] at quiet
    cases quiet
  · exact unset

theorem allowed_firesTimer {request : Request} {stage : Stage}
    (allowed : Allowed ldk handler request stage event) (fires : firesTimer event = true) :
    ∃ id, stage = .waiting id := by
  unfold firesTimer at fires
  split at fires
  · exact allowed
  · exact allowed
  · cases fires

theorem Stage.next_timedOut {paid : Option Bolt12Invoice} {stage : Stage}
    (timedOut : stage.next paid event = .timedOut id) :
    stage = .timedOut id ∨
      (stage = .expired id ∧ ∃ other reply, event = .access (.remove other) reply) := by
  have moved := stage.next_moves paid event
  rw [timedOut] at moved
  cases moved with
  | giveUp => exact Or.inr ⟨rfl, _, _, rfl⟩
  | stay still => exact Or.inl rfl

end Waiting

/-- A request that is `task` after its `event` in state `before` has lost no
invoice: if it failed with a timeout, this event dropped an entry without an
invoice, and no look of it had found one; nor was there one when its timer
fired. -/
structure NoInvoiceLost (before : OfferState) (event : Event Sig) (task : LndkTask) : Prop where
  returned : ∀ outcome, task.prog = .ret outcome → outcome.reason = some "INVOICE_TIMEOUT" →
    ∃ id, event = .access (.remove id) () ∧ .access (.insertVacant id) true ∈ task.log ∧
      invoiceFor before id = none
  heeded : ∀ outcome, task.prog = .ret outcome → outcome.reason = some "INVOICE_TIMEOUT" →
    ∀ id invoice, .access (.readInvoice id) (some invoice) ∉ task.log
  fired : firesTimer event = true → ∀ id, .access (.insertVacant id) true ∈ task.log →
    invoiceFor before id = none

section Lost

variable {ldk : Library} {handler : OfferHandler} {guard : LndkGuard}
variable {labels : List LndkLabel} {pool : LndkPool} {i : Nat} {task : LndkTask}

theorem stage_of_timeout (run : Run (lndk ldk handler) .new guard labels pool)
    (found : pool.tasks[i]? = some task) {outcome : Outcome} (result : task.prog = .ret outcome)
    (timeout : outcome.reason = some "INVOICE_TIMEOUT") :
    ∃ id, (progressOf ldk handler task).stage = .timedOut id := by
  have ended := run.task_satisfies (start_protocol ldk handler) found
  rw [result] at ended
  exact (Ends.accounts ended).1 timeout

end Lost

/-- No invoice is lost to the timeout in a run in which no invoice comes in between
a task's last look and its giving up. -/
theorem unraced_noInvoiceLost (ldk : Library) (handler : OfferHandler)
    (labels : List LndkLabel) (i : Nat) (event : Event Sig) (pool : LndkPool) (task : LndkTask)
    (run : Run (lndk ldk handler) .new (unraced ldk handler) (labels ++ [.act i event]) pool)
    (found : pool.tasks[i]? = some task) :
    NoInvoiceLost (stateAfter ldk handler labels) event task := by
  obtain ⟨before, soFar, allowed, taken⟩ := run.last_step
  have state : stateAfter ldk handler labels = before.shared := soFar.shared_eq_replay.symm
  rcases lndk_cases soFar taken with ⟨_, same, _⟩ | ⟨_, _, old, same, acts⟩
  · cases same
  cases same
  have stage := acts.moved
  rw [stageAt_eq found, Option.some.injEq] at stage
  refine ⟨?_, ?_, ?_⟩
  · intro outcome result timeout
    obtain ⟨id, timedOut⟩ := stage_of_timeout run found result timeout
    rw [stage] at timedOut
    rcases Stage.next_timedOut timedOut with already | ⟨expired, other, reply, rfl⟩
    · have stuck : (progressOf ldk handler old).stage.over = true := by rw [already]; rfl
      exact absurd acts.allowed (not_allowed_over stuck)
    · have held : (progressOf ldk handler old).stage.held = some id := by rw [expired]; rfl
      obtain rfl := allowed_remove reply acts.allowed held
      refine ⟨other, rfl, ?_, ?_⟩
      · refine task_claimed run found ?_
        rw [stage, timedOut]
        rfl
      · rw [state]
        refine acts.nothing_lost soFar allowed ?_
        rw [expired]
        rfl
  · intro outcome result timeout id invoice read
    obtain ⟨_, timedOut⟩ := stage_of_timeout run found result timeout
    have has := task_read run found read
    rw [timedOut] at has
    cases has
  · intro fires id claimed
    obtain ⟨other, waiting⟩ := allowed_firesTimer acts.allowed fires
    have owns := task_owns run found claimed
    have kept := Stage.next_owned (old.request.invoice ldk) event
      (show (progressOf ldk handler old).stage.owns = some other by rw [waiting]; rfl)
    rw [← stage, owns] at kept
    obtain rfl := Option.some.inj kept
    rw [state]
    refine acts.nothing_lost soFar allowed ?_
    rw [waiting]
    simp [Stage.givesUp, fires]

def impatient : (request : Call) → request.Reply
  | .sleepOrTimeout => .elapsed
  | request => willing request

def timeoutSchedule (meanwhile : List (Choice Sig Request)) : List (Choice Sig Request) :=
  .spawn (.getInvoice samplePayment) :: goOn 0 9 ++ meanwhile ++ [.act 0 impatient]

theorem unraced_noInvoiceLost_silence :
    let before := schedule (lndk (.plain .twoPaths) sampleHandler) (timeoutSchedule [])
      ([], ⟨.new, []⟩)
    ∃ task outcome, (schedule (lndk (.plain .twoPaths) sampleHandler) (goOn 0 1)
        before).2.tasks[0]? = some task ∧ task.prog = .ret outcome ∧
      outcome.reason = some "INVOICE_TIMEOUT" ∧
      NoInvoiceLost (stateAfter (.plain .twoPaths) sampleHandler before.1)
        (.access (.remove ⟨1⟩) ()) task := by
  refine ⟨_, _, rfl, rfl, rfl, ?_⟩
  exact unraced_noInvoiceLost (.plain .twoPaths) sampleHandler _ 0 _ _ _
    (schedule_run (timeoutSchedule [] ++ goOn 0 1) .start (by decide)) rfl

/-- The invoice comes in during the last sleep, and the timeout drops it. -/
theorem getInvoice_loses_invoice :
    ¬ ∀ (labels : List LndkLabel) (i : Nat) (event : Event Sig) (pool : LndkPool)
      (task : LndkTask),
      Run (lndk (.plain .twoPaths) sampleHandler) .new anyStep (labels ++ [.act i event]) pool →
      pool.tasks[i]? = some task →
      NoInvoiceLost (stateAfter (.plain .twoPaths) sampleHandler labels) event task := by
  intro claim
  let late := timeoutSchedule (.spawn (sampleAnswer .twoPaths) :: goOn 1 1)
  let before := schedule (lndk (.plain .twoPaths) sampleHandler) late ([], ⟨.new, []⟩)
  have kept := claim before.1 0 (.access (.remove ⟨1⟩) ()) _ _
    (schedule_run (late ++ goOn 0 1) .start (permitted_anyStep _ _)) rfl
  obtain ⟨id, same, _, unset⟩ := kept.returned _ rfl rfl
  cases same
  have stored : invoiceFor (stateAfter (.plain .twoPaths) sampleHandler before.1) ⟨1⟩ =
      some .twoPaths := by decide
  rw [stored] at unset
  cases unset

end LndkFormal.System
