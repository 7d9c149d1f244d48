import LndkFormal.System.Lifecycle
import LndkFormal.System.Logs

/-!
# Abandoned payments

An authentic invoice error makes the handler drop the entry of a payment.  A call
that still waits for the invoice then never sees one.  A call that has the invoice
in hand does not look at the entry again, and pays.
-/

set_option autoImplicit false

namespace LndkFormal.System

open LndkFormal.Async
open LndkFormal.Ldk
open LndkFormal.Offers

section Errors

variable (ldk : Library) (handler : OfferHandler)

/-- The payment that the handler abandons on a request: the invoice error is authentic. -/
def Request.abandons : Request → Option PaymentId
  | .handleMessage (.invoiceError _) (some (.outboundPayment id nonce (some hmac))) _ =>
      if ldk.verifyForOfferPayment id hmac nonce handler.expandedKey then some id else none
  | .handleInvoiceError id nonce hmac =>
      if ldk.verifyForOfferPayment id hmac nonce handler.expandedKey then some id else none
  | _ => none

def drawnBy : Event Sig → Option PaymentId
  | .call .randomPaymentId id => some id
  | _ => none

def drew (id : PaymentId) (log : List (Event Sig)) : Bool :=
  log.any fun event => decide (drawnBy event = some id)

def sendsFor (pool : LndkPool) (id : PaymentId) : LndkLabel → Bool
  | .act j (.call (.sendToRouteV2 _ _) _) =>
      pool.tasks[j]?.any fun task => drew id task.log
  | _ => false

/-- The payment that a step abandons: it drops the entry on an authentic invoice error. -/
def abandonedBy (pool : LndkPool) : LndkLabel → Option PaymentId
  | .act k (.access (.remove id) _) =>
      pool.tasks[k]?.bind fun task =>
        if task.request.abandons ldk handler = some id then some id else none
  | _ => none

/-- After the run up to `pool`, nothing is sent for a payment that was abandoned while it
had an entry and nothing had been sent for it. -/
def AbandonedUnpaid (labels : List LndkLabel) (pool : LndkPool) : Prop :=
  ∀ pre abandon post id label pool', labels = pre ++ abandon :: post →
    abandonedBy ldk handler pool abandon = some id →
    (stateAfter ldk handler pre).entry id ≠ none →
    (∀ earlier ∈ pre, sendsFor pool id earlier = false) →
    Step (lndk ldk handler) pool label pool' → sendsFor pool id label = false

/-- Ids are distinct, and a payment is abandoned only while no call has its invoice in hand. -/
def unread : LndkGuard := fun labels pool label =>
  distinctIds labels pool label ∧ ∀ id ∈ abandonedBy ldk handler pool label,
    ∀ task ∈ pool.tasks, (progressOf ldk handler task).stage.pays ≠ some id

instance (labels : List LndkLabel) (pool : LndkPool) (label : LndkLabel) :
    Decidable (unread ldk handler labels pool label) :=
  inferInstanceAs (Decidable (_ ∧ ∀ id ∈ abandonedBy ldk handler pool label,
    ∀ task ∈ pool.tasks, (progressOf ldk handler task).stage.pays ≠ some id))

end Errors

theorem abandonedBy_cases {ldk : Library} {handler : OfferHandler} {pool : LndkPool}
    {label : LndkLabel} {id : PaymentId}
    (abandoned : abandonedBy ldk handler pool label = some id) :
    ∃ k task, label = .act k (.access (.remove id) ()) ∧ pool.tasks[k]? = some task ∧
      task.request.abandons ldk handler = some id := by
  unfold abandonedBy at abandoned
  split at abandoned
  next k other reply =>
    obtain ⟨task, found, accepted⟩ := Option.bind_eq_some_iff.mp abandoned
    split at accepted
    next same =>
      cases accepted
      exact ⟨k, task, rfl, found, same⟩
    next => cases accepted
  next => cases abandoned

theorem Stage.next_kept_subject {paid : Option Bolt12Invoice} {stage : Stage}
    (event : Event Sig) {id : PaymentId} (subject : stage.subject = some id) :
    (stage.next paid event).subject = some id := by
  have moved := stage.next_moves paid event
  generalize stage.next paid event = later at moved ⊢
  cases moved with
  | draw | given | handle => cases subject
  | _ => exact subject

section Draws

variable {ldk : Library} {handler : OfferHandler} {init : OfferState} {guard : LndkGuard}
variable {labels : List LndkLabel} {pool : LndkPool} {i : Nat} {task : LndkTask}
variable {id : PaymentId}

/-- A task works on the payment it has drawn. -/
theorem task_drew (run : Run (lndk ldk handler) init guard labels pool)
    (found : pool.tasks[i]? = some task) (drawn : drew id task.log = true) :
    (progressOf ldk handler task).stage.subject = some id := by
  refine run.log_invariant (start_protocol ldk handler) (I := fun _ reached past =>
    drew id past = true → reached.stage.subject = some id) ?_ ?_ found drawn
  · intro request drawn
    cases drawn
  · intro request reached past event ih allowed drawn
    simp only [drew, List.any_append, Bool.or_eq_true, List.any_cons, List.any_nil, Bool.or_false,
      decide_eq_true_eq] at drawn
    rcases drawn with before | now
    · exact Stage.next_kept_subject event (ih before)
    · unfold drawnBy at now
      split at now
      next =>
        cases now
        have idle : reached.stage = .idle := allowed.1
        simp only [protocol, idle, Stage.next]
        cases request.invoice ldk <;> rfl
      next => cases now

end Draws

/-! ## No payment after the error -/

section Forsaken

variable (ldk : Library) (handler : OfferHandler)

/-- The payment is gone, and nobody has its invoice in hand. -/
structure Forsaken (labels : List LndkLabel) (pool : LndkPool) (id : PaymentId) : Prop where
  gone : Gone ldk handler labels pool id
  unpaid : ∀ j stage, stageAt ldk handler pool j = some stage → stage.pays ≠ some id

variable {ldk handler} {labels : List LndkLabel} {pool pool' : LndkPool} {label : LndkLabel}
variable {id : PaymentId}

/-- A payment that is gone has no invoice to be read. -/
theorem Gone.not_read {i : Nat} {task : LndkTask} {invoice : Bolt12Invoice}
    (gone : Gone ldk handler labels pool id)
    (acts : Acts ldk handler pool pool' i (.access (.readInvoice id) (some invoice)) task) :
    False := by
  have answer := acts.effect.1
  simp only [Access.run, gone.absent, Option.bind_none] at answer
  cases answer

theorem Forsaken.step (holds : Forsaken ldk handler labels pool id)
    (run : Run (lndk ldk handler) .new distinctIds labels pool)
    (allowed : distinctIds labels pool label) (taken : Step (lndk ldk handler) pool label pool') :
    Forsaken ldk handler (labels ++ [label]) pool' id := by
  refine ⟨holds.gone.step run allowed taken, ?_⟩
  intro j stage reached pays
  rcases lndk_cases run taken with ⟨request, rfl, spawns⟩ | ⟨i, event, task, rfl, acts⟩
  · rcases spawns.stage_cases reached with old | ⟨_, rfl⟩
    · exact holds.unpaid j stage old pays
    · obtain ⟨amount, invoice, feeLimit, rfl⟩ :=
        Request.stage_subject (Stage.subject_of_pays pays)
      rcases distinctIds_payInvoice allowed with fresh | returned
      · exact fresh holds.gone.drawn
      · obtain ⟨k, paid, acquired⟩ := returned_stage run returned
        exact holds.unpaid k _ acquired rfl
  · rcases acts.pays_cases reached pays with ⟨before, old, paid⟩ | ⟨invoice, rfl⟩ | rfl
    · exact holds.unpaid j before old paid
    · exact holds.gone.not_read acts
    · exact distinctIds_draw allowed holds.gone.drawn

/-- An invoice error that comes in time forsakes the payment. -/
theorem forsaken_of_error {k : Nat} {task : LndkTask}
    (run : Run (lndk ldk handler) .new distinctIds labels pool)
    (acts : Acts ldk handler pool pool' k (.access (.remove id) ()) task)
    (taken : Step (lndk ldk handler) pool (.act k (.access (.remove id) ())) pool')
    (allowed : unread ldk handler labels pool (.act k (.access (.remove id) ())))
    (accepted : task.request.abandons ldk handler = some id)
    (present : pool.shared.entry id ≠ none) :
    Forsaken ldk handler (labels ++ [.act k (.access (.remove id) ())]) pool' id := by
  obtain ⟨info, before⟩ := Option.ne_none_iff_exists'.mp present
  have after : pool'.shared.entry id = none := by
    rw [acts.effect.2]
    exact Access.entry_remove pool.shared id
  refine ⟨gone_of_removed run allowed.1 taken before after, ?_⟩
  intro j stage reached pays
  rcases acts.pays_cases reached pays with ⟨earlier, old, paid⟩ | ⟨invoice, same⟩ | same
  · obtain ⟨paying, found, rfl⟩ := Option.map_eq_some_iff.mp old
    refine allowed.2 id ?_ paying (List.mem_of_getElem? found) paid
    simp [abandonedBy, acts.found, accepted]
  · cases same
  · cases same

theorem unread_distinct (run : Run (lndk ldk handler) .new (unread ldk handler) labels pool) :
    Run (lndk ldk handler) .new distinctIds labels pool :=
  run.mono fun _ _ _ allowed => allowed.1

/-- From the error on, the payment is forsaken. -/
theorem run_forsaken {pre post : List LndkLabel} {k : Nat} {task : LndkTask}
    (run : Run (lndk ldk handler) .new (unread ldk handler)
      (pre ++ .act k (.access (.remove id) ()) :: post) pool)
    (found : pool.tasks[k]? = some task) (accepted : task.request.abandons ldk handler = some id)
    (present : (stateAfter ldk handler pre).entry id ≠ none) :
    Forsaken ldk handler (pre ++ .act k (.access (.remove id) ()) :: post) pool id := by
  rw [← List.singleton_append, ← List.append_assoc] at run ⊢
  obtain ⟨middle, reached, keeps, carried⟩ := run.invariant_from
    (I := fun labels pool => Forsaken ldk handler labels pool id)
    (fun _ _ _ _ soFar holds allowed taken => holds.step (unread_distinct soFar) allowed.1 taken)
  obtain ⟨before, soFar, allowed, taken⟩ := reached.last_step
  rcases lndk_cases soFar taken with ⟨_, same, _⟩ | ⟨_, _, old, same, acts⟩
  · cases same
  cases same
  obtain ⟨_, found', same⟩ := (taken.keeps.trans keeps) k old acts.found
  rw [found] at found'
  cases found'
  rw [same] at accepted
  rw [show stateAfter ldk handler pre = before.shared from soFar.shared_eq_replay.symm] at present
  exact carried (forsaken_of_error (unread_distinct soFar) acts taken allowed accepted present)

end Forsaken

/-- An abandoned payment is not sent for, in any run in which invoice errors come while no
call has the payment's invoice in hand. -/
theorem unread_abandonedUnpaid (ldk : Library) (handler : OfferHandler)
    (labels : List LndkLabel) (pool : LndkPool)
    (run : Run (lndk ldk handler) .new (unread ldk handler) labels pool) :
    AbandonedUnpaid ldk handler labels pool := by
  rintro pre abandon post id label pool' rfl abandoned present - taken
  obtain ⟨k, task, rfl, found, accepted⟩ := abandonedBy_cases abandoned
  have forsaken := run_forsaken run found accepted present
  by_contra sends
  unfold sendsFor at sends
  split at sends
  next j hash route reply =>
    rcases lndk_cases run taken with ⟨_, same, _⟩ | ⟨_, _, sender, same, acts⟩
    · cases same
    cases same
    have drawn : drew id sender.log = true := by
      simpa only [acts.found, Option.any_some, Bool.not_eq_false] using sends
    -- the sender has an invoice in hand, and it is the one of the payment it has drawn
    obtain ⟨owner, other, invoice, resolved, here, _⟩ := acts.allowed
    have subject := task_drew run acts.found drawn
    rw [here] at subject
    cases subject
    exact forsaken.unpaid j _ acts.stage (by rw [here]; rfl)
  next => exact sends rfl

def sampleError : Request :=
  .handleMessage (.invoiceError ⟨""⟩) (some (.outboundPayment ⟨1⟩ ⟨0⟩ (some ⟨1⟩))) none

def earlyError : List (Choice Sig Request) :=
  .spawn (.payOffer samplePayment) :: goOn 0 10 ++ .spawn sampleError :: goOn 1 1 ++ goOn 0 1

theorem unread_abandonedUnpaid_early :
    let reached := schedule (lndk (.plain .twoPaths) sampleHandler) earlyError ([], ⟨.new, []⟩)
    reached.2.shared.entry ⟨1⟩ = none ∧
      AbandonedUnpaid (.plain .twoPaths) sampleHandler reached.1 reached.2 := by
  refine ⟨by decide, ?_⟩
  exact unread_abandonedUnpaid (.plain .twoPaths) sampleHandler _ _
    (schedule_run earlyError .start (by decide))

def lateError : List (Choice Sig Request) :=
  .spawn (.payOffer samplePayment) :: goOn 0 10 ++ .spawn (sampleAnswer .twoPaths) :: goOn 1 1 ++
    goOn 0 2 ++ .spawn sampleError :: goOn 2 1 ++ goOn 0 1

/-- The error comes after the call has read its invoice, and the call sends the payment. -/
theorem payOffer_pays_abandoned :
    ¬ ∀ (labels : List LndkLabel) (pool : LndkPool),
      Run (lndk (.plain .twoPaths) sampleHandler) .new distinctIds labels pool →
      AbandonedUnpaid (.plain .twoPaths) sampleHandler labels pool := by
  intro claim
  let late := schedule (lndk (.plain .twoPaths) sampleHandler) lateError ([], ⟨.new, []⟩)
  have unpaid := claim late.1 late.2 (schedule_run _ .start (by decide))
  -- the error is the step after the first sixteen, and the send is the next one
  have error : late.1[16]?.bind (abandonedBy (.plain .twoPaths) sampleHandler late.2) =
      some ⟨1⟩ := by decide
  obtain ⟨abandon, here, abandoned⟩ := Option.bind_eq_some_iff.mp error
  have whole : late.1 = late.1.take 16 ++ abandon :: late.1.drop 17 := by
    obtain ⟨long, rfl⟩ := List.getElem?_eq_some_iff.mp here
    rw [List.getElem_cons_drop, List.take_append_drop]
  obtain ⟨label, member, sends⟩ : ∃ label ∈ (advance (lndk (.plain .twoPaths) sampleHandler)
      late.2 (.act 0 willing)).1, sendsFor late.2 ⟨1⟩ label = true := by decide
  have unsent := unpaid _ abandon _ ⟨1⟩ label _ whole abandoned (by decide) (by decide)
    (advance_step member)
  rw [sends] at unsent
  cases unsent

end LndkFormal.System
