import LndkFormal.System.Abandoned
import LndkFormal.System.Mail

/-!
# The queue of outgoing messages

`get_invoice` and `handle_message` append to the queue, the onion messenger
takes it batch by batch.  Nothing is lost, doubled or reordered on the way.  The
entry of a payment is in the map before its invoice request is in the queue, so
that an answer finds it however fast it comes.
-/

set_option autoImplicit false

namespace LndkFormal.System

open LndkFormal.Async
open LndkFormal.Ldk
open LndkFormal.Offers

def releasedBy : LndkLabel → List PendingMessage
  | .act _ (.access .takeMessages batch) => batch
  | _ => []

def appendedBy : LndkLabel → List PendingMessage
  | .act _ (.access (.pushMessage message) _) => [message]
  | _ => []

def released (labels : List LndkLabel) : List PendingMessage := labels.flatMap releasedBy

def appended (labels : List LndkLabel) : List PendingMessage := labels.flatMap appendedBy

section Queue

variable {ldk : Library} {handler : OfferHandler} {guard : LndkGuard}
variable {labels : List LndkLabel} {pool pool' : LndkPool} {label : LndkLabel}

/-- One step takes from the front of the queue and appends at its end. -/
theorem step_queue (taken : Step (lndk ldk handler) pool label pool') :
    releasedBy label ++ pool'.shared.pendingMessages =
      pool.shared.pendingMessages ++ appendedBy label := by
  rcases taken.shared_cases with ⟨same, other⟩ | ⟨i, op, rfl, shared⟩
  · rw [same]
    cases label with
    | spawn request => exact (List.append_nil _).symm
    | act i event =>
        cases event with
        | access op reply => exact absurd rfl (other i op reply)
        | call request reply => exact (List.append_nil _).symm
  · have after : pool'.shared = (op.run pool.shared).2 := shared
    rw [after, Access.pendingMessages_run]
    cases op with
    | pushMessage message => rfl
    | takeMessages => rfl
    | _ => exact (List.append_nil _).symm

theorem run_queue (run : Run (lndk ldk handler) .new guard labels pool) :
    released labels ++ pool.shared.pendingMessages = appended labels := by
  refine run.invariant (I := fun labels pool =>
    released labels ++ pool.shared.pendingMessages = appended labels) rfl ?_
  intro labels pool label pool' _ ih _ taken
  have one := step_queue taken
  simp only [released, appended, List.flatMap_append, List.flatMap_cons, List.flatMap_nil,
    List.append_nil] at ih ⊢
  rw [List.append_assoc, one, ← List.append_assoc, ih]

end Queue

section Logs

variable {ldk : Library} {handler : OfferHandler} {init : OfferState} {guard : LndkGuard}
variable {labels : List LndkLabel} {pool : LndkPool} {i : Nat} {task : LndkTask}

end Logs

/-! ## The entry of a call that waits -/

/-- The payment that a call of `get_invoice` holds an entry for. -/
def Stage.fetching : Stage → Option PaymentId
  | .waiting id => some id
  | .expired id => some id
  | .read id _ => some id
  | _ => none

section Fetching

variable {paid : Option Bolt12Invoice} {stage : Stage} {event : Event Sig} {id : PaymentId}

theorem Stage.claims_of_fetching (fetching : stage.fetching = some id) :
    stage.claims = some id := by
  cases stage <;> first | exact fetching | cases fetching

theorem Stage.fetching_cases (fetching : (stage.next paid event).fetching = some id) :
    stage.fetching = some id ∨
      (stage = .drawn id ∧ ∃ other, event = .access (.insertVacant other) true) := by
  have moved := stage.next_moves paid event
  generalize stage.next paid event = later at moved fetching
  cases moved with
  | claim =>
      cases fetching
      exact Or.inr ⟨rfl, _, rfl⟩
  | read | sleepOver | expire | stay => exact Or.inl fetching
  | _ => cases fetching

end Fetching

section Entries

variable (ldk : Library) (handler : OfferHandler)

def AbandonedIn (labels : List LndkLabel) (pool : LndkPool) (id : PaymentId) : Prop :=
  ∃ pre abandon post, labels = pre ++ abandon :: post ∧
    abandonedBy ldk handler pool abandon = some id ∧ (stateAfter ldk handler pre).entry id ≠ none

def removesByHand : Request → Bool
  | .removeActivePayment _ => true
  | _ => false

/-- Ids are distinct, and entries are left to the calls that made them. -/
def handsOff : LndkGuard := fun labels pool label =>
  distinctIds labels pool label ∧
    match label with
    | .spawn request => removesByHand request = false
    | .act _ _ => True

instance (labels : List LndkLabel) (pool : LndkPool) :
    (label : LndkLabel) → Decidable (handsOff labels pool label)
  | .spawn request =>
      inferInstanceAs (Decidable (distinctIds _ _ _ ∧ removesByHand request = false))
  | .act _ _ => inferInstanceAs (Decidable (distinctIds _ _ _ ∧ True))

variable {ldk handler} {init : OfferState} {guard : LndkGuard} {labels : List LndkLabel}
variable {pool pool' : LndkPool} {label : LndkLabel} {id : PaymentId}

theorem handsOff_distinct (run : Run (lndk ldk handler) init handsOff labels pool) :
    Run (lndk ldk handler) init distinctIds labels pool :=
  run.mono fun _ _ _ allowed => allowed.1

theorem handsOff_request (run : Run (lndk ldk handler) init handsOff labels pool) {i : Nat}
    {task : LndkTask} (found : pool.tasks[i]? = some task) :
    removesByHand task.request = false :=
  run.requests (P := fun request => removesByHand request = false)
    (fun _ _ _ allowed => allowed.2) found

theorem abandonedBy_keeps (keeps : pool.Keeps pool')
    (abandoned : abandonedBy ldk handler pool label = some id) :
    abandonedBy ldk handler pool' label = some id := by
  obtain ⟨k, task, rfl, found, accepted⟩ := abandonedBy_cases abandoned
  obtain ⟨task', found', same⟩ := keeps k task found
  simp [abandonedBy, found', same, accepted]

theorem AbandonedIn.extend (abandoned : AbandonedIn ldk handler labels pool id)
    (keeps : pool.Keeps pool') : AbandonedIn ldk handler (labels ++ [label]) pool' id := by
  obtain ⟨pre, abandon, post, rfl, error, present⟩ := abandoned
  exact ⟨pre, abandon, post ++ [label], by simp, abandonedBy_keeps keeps error, present⟩

/-- A direct call of `handle_invoice_error` that removes an entry has verified the error. -/
theorem handleInvoiceError_verified {i : Nat} {event : Event Sig} {task : LndkTask} {nonce : Nonce}
    {hmac : Hmac} (run : Run (lndk ldk handler) init guard labels pool)
    (taken : Step (lndk ldk handler) pool (.act i event) pool')
    (found : pool.tasks[i]? = some task)
    (direct : task.request = .handleInvoiceError id nonce hmac) :
    ldk.verifyForOfferPayment id hmac nonce handler.expandedKey = true := by
  by_contra unverified
  have idle : start ldk handler task.request = .ret .done := by
    rw [direct]
    simp [start, handleInvoiceError, unverified]
  obtain ⟨actor, _, here, _, _, _, stepped⟩ := taken.actor
  rw [found, Option.some.injEq] at here
  subst here
  have reached := run.task_reaches found
  change Reaches (start ldk handler task.request) _ _ at reached
  rw [idle] at reached
  have silent := (reached.trans stepped).of_ret
  simp at silent

/-- Who can remove an entry: the call it belongs to, which then stops fetching,
or an authentic invoice error. -/
theorem removed_cases {k : Nat} {task : LndkTask}
    (run : Run (lndk ldk handler) init handsOff labels pool)
    (taken : Step (lndk ldk handler) pool (.act k (.access (.remove id) ())) pool')
    (acts : Acts ldk handler pool pool' k (.access (.remove id) ()) task) :
    ((progressOf ldk handler task).stage.subject = some id ∧
      ∀ stage, stageAt ldk handler pool' k = some stage → stage.fetching = none) ∨
    task.request.abandons ldk handler = some id := by
  have own : ∀ stage : Stage, (progressOf ldk handler task).stage = stage →
      stage.subject = some id →
      (stage.next (task.request.invoice ldk) (.access (.remove id) ())).fetching = none →
      ((progressOf ldk handler task).stage.subject = some id ∧
        ∀ stage, stageAt ldk handler pool' k = some stage → stage.fetching = none) := by
    rintro _ rfl subject stopped
    refine ⟨subject, ?_⟩
    intro stage reached
    rw [acts.moved, Option.some.injEq] at reached
    rw [← reached, stopped]
  rcases acts.allowed with here | here | ⟨owner, invoice, resolved, here⟩ |
    ⟨_, error | direct | byHand⟩
  · exact Or.inl (own _ here rfl rfl)
  · exact Or.inl (own _ here rfl rfl)
  · exact Or.inl (own _ here rfl rfl)
  · obtain ⟨error, nonce, hmac, responder, same, verified⟩ := error
    right
    simp [same, Request.abandons, verified]
  · obtain ⟨nonce, hmac, same⟩ := direct
    right
    simp [same, Request.abandons, handleInvoiceError_verified run taken acts.found same]
  · have other := handsOff_request run acts.found
    rw [byHand] at other
    cases other

variable (ldk handler) in
/-- Every call that is fetching finds its entry, unless the payment was abandoned. -/
def Present (labels : List LndkLabel) (pool : LndkPool) : Prop :=
  ∀ i stage id, stageAt ldk handler pool i = some stage → stage.fetching = some id →
    pool.shared.entry id ≠ none ∨ AbandonedIn ldk handler labels pool id

theorem Present.spawn {request : Request} (holds : Present ldk handler labels pool)
    (keeps : pool.Keeps pool') (spawns : Spawns ldk handler pool pool' request) :
    Present ldk handler (labels ++ [.spawn request]) pool' := by
  intro i stage id reached fetching
  rcases spawns.stage_cases reached with old | ⟨_, rfl⟩
  · rw [spawns.shared]
    exact (holds i stage id old fetching).imp_right fun abandoned => abandoned.extend keeps
  · have claims := Stage.claims_of_fetching fetching
    rw [Request.stage_claims] at claims
    cases claims

theorem Present.act {k : Nat} {event : Event Sig} {task : LndkTask}
    (holds : Present ldk handler labels pool)
    (run : Run (lndk ldk handler) .new handsOff labels pool)
    (taken : Step (lndk ldk handler) pool (.act k event) pool')
    (acts : Acts ldk handler pool pool' k event task) :
    Present ldk handler (labels ++ [.act k event]) pool' := by
  intro i stage id reached fetching
  have lifecycle := run_lifecycle (handsOff_distinct run)
  -- a call that begins to fetch has found its entry vacant
  have before : (∃ old, stageAt ldk handler pool i = some old ∧ old.fetching = some id) ∨
      event = .access (.insertVacant id) true := by
    rcases acts.stage_cases reached with ⟨_, old⟩ | ⟨rfl, rfl⟩
    · exact Or.inl ⟨stage, old, fetching⟩
    · rcases Stage.fetching_cases fetching with old | ⟨here, other, rfl⟩
      · exact Or.inl ⟨_, acts.stage, old⟩
      · have same : (progressOf ldk handler task).stage = .drawn other := acts.allowed
        rw [here] at same
        cases same
        exact Or.inr rfl
  cases acts.alters id with
  | removed info isEvent present absent =>
      subst isEvent
      rcases before with ⟨old, was, fetched⟩ | inserted
      · rcases removed_cases run taken acts with ⟨subject, stopped⟩ | accepted
        · have same := lifecycle.alone i k old _ id was (Stage.claims_of_fetching fetched)
            acts.stage subject
          subst same
          rw [stopped stage reached] at fetching
          cases fetching
        · right
          refine ⟨labels, _, [], rfl, abandonedBy_keeps taken.keeps ?_, ?_⟩
          · simp [abandonedBy, acts.found, accepted]
          · rw [show stateAfter ldk handler labels = pool.shared from run.shared_eq_replay.symm,
              present]
            simp
      · cases inserted
  | same unchanged =>
      rcases before with ⟨old, was, fetched⟩ | inserted
      · rw [unchanged]
        exact (holds i old id was fetched).imp_right fun abandoned => abandoned.extend taken.keeps
      · subst inserted
        left
        rw [acts.effect.2]
        exact Access.entry_insertVacant pool.shared id
  | inserted _ _ _ after => simp [after]
  | received _ _ _ _ _ after => simp [after]
  | dispatched _ _ _ _ _ _ _ after => simp [after]
  | stored _ _ _ _ _ _ after => simp [after]

end Entries

end LndkFormal.System
