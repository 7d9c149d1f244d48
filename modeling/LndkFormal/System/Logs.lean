import LndkFormal.System.Stages

/-!
# What a task's log says

Facts about the events a task has taken, read off its stage: which entry it
has claimed, what it has removed, which invoice it pays, and what a handled
message may touch.  Each is an invariant of the stage and the log together.
-/

set_option autoImplicit false

namespace LndkFormal.System

open LndkFormal.Async
open LndkFormal.Ldk
open LndkFormal.Offers

/-- The payment whose entry the task has claimed. -/
def Stage.owns : Stage → Option PaymentId
  | .waiting id => some id
  | .expired id => some id
  | .timedOut id => some id
  | .read id _ => some id
  | .acquired owner id _ _ => if owner then some id else none
  | .closed id => some id
  | .finished owner id _ => if owner then some id else none
  | _ => none

/-- The invoice to pay, wherever it is from. -/
def Stage.invoice : Stage → Option Bolt12Invoice
  | .read _ invoice => some invoice
  | .acquired _ _ invoice _ => some invoice
  | .finished _ _ invoice => some invoice
  | _ => none

/-- The invoice that the task has read from its own entry. -/
def Stage.fetched : Stage → Option (PaymentId × Bolt12Invoice)
  | .read id invoice => some (id, invoice)
  | .acquired owner id invoice _ => if owner then some (id, invoice) else none
  | .finished owner id invoice => if owner then some (id, invoice) else none
  | _ => none

def Stage.quiet : Stage → Bool
  | .idle => true
  | .drawn _ => true
  | .refused _ => true
  | _ => false

def Stage.direct : Stage → Bool
  | .acquired owner _ _ _ => !owner
  | .finished owner _ _ => !owner
  | _ => false

theorem Stage.owns_of_held {stage : Stage} {id : PaymentId} (held : stage.held = some id) :
    stage.owns = some id := by
  cases stage <;> first | exact held | cases held

def isPayment : Event Sig → Bool
  | .call (.queryRoutes _) _ => true
  | .call (.sendToRouteV2 _ _) _ => true
  | .call (.trackPaymentV2 _ _) _ => true
  | _ => false

section Next

variable {paid : Option Bolt12Invoice} {stage : Stage} {event : Event Sig} {id : PaymentId}

theorem Stage.next_owns (owns : (stage.next paid event).owns = some id) :
    stage.owns = some id ∨
      (stage = .drawn id ∧ ∃ other, event = .access (.insertVacant other) true) := by
  have moved := stage.next_moves paid event
  generalize stage.next paid event = later at moved owns
  cases moved with
  | draw | given => cases owns
  | claim =>
      cases owns
      exact Or.inr ⟨rfl, _, rfl⟩
  | _ => exact Or.inl owns

/-- A task never forgets which entry it has claimed. -/
theorem Stage.next_owned (paid : Option Bolt12Invoice) (event : Event Sig)
    (owns : stage.owns = some id) : (stage.next paid event).owns = some id := by
  have moved := stage.next_moves paid event
  generalize stage.next paid event = later at moved ⊢
  cases moved with
  | draw | given | handle | claim | refuse => cases owns
  | _ => exact owns

/-- A held entry is let go only by a removal. -/
theorem Stage.next_held (paid : Option Bolt12Invoice) (event : Event Sig)
    (held : stage.held = some id) :
    (stage.next paid event).held = some id ∨
      ∃ other reply, event = .access (.remove other) reply := by
  have moved := stage.next_moves paid event
  generalize stage.next paid event = later at moved ⊢
  cases moved with
  | draw | given | handle | claim | refuse => cases held
  | close | giveUp | finish => exact Or.inr ⟨_, _, rfl⟩
  | _ => exact Or.inl held

theorem Stage.next_invoice (paid : Option Bolt12Invoice) (event : Event Sig)
    {invoice : Bolt12Invoice} (has : stage.invoice = some invoice) :
    (stage.next paid event).invoice = some invoice := by
  have moved := stage.next_moves paid event
  generalize stage.next paid event = later at moved ⊢
  cases moved with
  | read => cases has
  | receive | resolve | finish | stay => exact has
  | _ => cases has

/-- An invoice to pay from one's own entry comes from a check of the entry. -/
theorem Stage.next_fetched {invoice : Bolt12Invoice}
    (fetched : (stage.next paid event).fetched = some (id, invoice)) :
    stage.fetched = some (id, invoice) ∨
      (stage = .waiting id ∧ ∃ other, event = .access (.readInvoice other) (some invoice)) := by
  have moved := stage.next_moves paid event
  generalize stage.next paid event = later at moved fetched
  cases moved with
  | draw | given => cases fetched
  | read =>
      cases fetched
      exact Or.inr ⟨rfl, _, rfl⟩
  | _ => exact Or.inl fetched

theorem Stage.next_quiet (quiet : (stage.next paid event).quiet = true) :
    stage.quiet = true := by
  have moved := stage.next_moves paid event
  generalize stage.next paid event = later at moved quiet
  cases moved with
  | draw | given | handle | claim | refuse => rfl
  | _ => exact quiet

end Next

section Allowed

variable {ldk : Library} {handler : OfferHandler} {request : Request} {id : PaymentId}
variable {op : Access} {reply : op.Reply}

theorem allowed_drawn (allowed : Allowed ldk handler request (.drawn id) (.access op reply)) :
    op = .insertVacant id := by
  cases op <;> simp_all [Allowed]

theorem not_allowed_over {stage : Stage} {event : Event Sig} (stuck : stage.over = true) :
    ¬ Allowed ldk handler request stage event := by
  cases stage with
  | refused | timedOut | closed | finished | handled =>
      cases event with
      | access op reply => cases op <;> simp [Allowed]
      | call req reply => cases req <;> simp [Allowed, Stage.Pays, Stage.over]
  | _ => cases stuck

/-- A task that holds an entry removes no other. -/
theorem allowed_remove {stage : Stage} {other : PaymentId} (reply : (Access.remove other).Reply)
    (allowed : Allowed ldk handler request stage (.access (.remove other) reply))
    (held : stage.held = some id) : other = id := by
  rcases allowed with rfl | rfl | ⟨owner, invoice, resolved, rfl⟩ | ⟨rfl, _⟩
  · exact Option.some.inj held
  · exact Option.some.inj held
  · cases owner with
    | true => exact Option.some.inj held
    | false => cases held
  · cases held

end Allowed

/-! ## Invariants of stage and log -/

section Logs

variable {ldk : Library} {handler : OfferHandler} {init : OfferState} {guard : LndkGuard}
variable {labels : List LndkLabel} {pool : LndkPool} {i : Nat} {task : LndkTask}
variable {id : PaymentId}

theorem progress_owns (request : Request) : request.progress.stage.owns = none := by
  cases request <;> rfl

theorem task_claimed (run : Run (lndk ldk handler) init guard labels pool)
    (found : pool.tasks[i]? = some task)
    (owns : (progressOf ldk handler task).stage.owns = some id) :
    .access (.insertVacant id) true ∈ task.log := by
  refine run.log_invariant (start_protocol ldk handler) (I := fun _ reached past =>
    ∀ id, reached.stage.owns = some id → .access (.insertVacant id) true ∈ past) ?_ ?_ found id owns
  · intro request id owns
    rw [progress_owns] at owns
    cases owns
  · intro request reached past event ih allowed id owns
    rw [List.mem_append]
    rcases Stage.next_owns owns with before | ⟨here, other, rfl⟩
    · exact Or.inl (ih id before)
    · have same : reached.stage = .drawn other := allowed
      rw [here] at same
      cases same
      exact Or.inr (List.mem_singleton_self _)

theorem task_owns (run : Run (lndk ldk handler) init guard labels pool)
    (found : pool.tasks[i]? = some task)
    (claimed : .access (.insertVacant id) true ∈ task.log) :
    (progressOf ldk handler task).stage.owns = some id := by
  refine run.log_invariant (start_protocol ldk handler) (I := fun _ reached past =>
    ∀ id, .access (.insertVacant id) true ∈ past → reached.stage.owns = some id) ?_ ?_ found id
    claimed
  · intro request id claimed
    cases claimed
  · intro request reached past event ih allowed id claimed
    rw [List.mem_append, List.mem_singleton] at claimed
    rcases claimed with before | rfl
    · exact Stage.next_owned (request.invoice ldk) event (ih id before)
    · have here : reached.stage = .drawn id := allowed
      simp only [protocol, here]
      rfl

theorem task_read (run : Run (lndk ldk handler) init guard labels pool)
    (found : pool.tasks[i]? = some task) {invoice : Bolt12Invoice}
    (read : .access (.readInvoice id) (some invoice) ∈ task.log) :
    (progressOf ldk handler task).stage.invoice = some invoice := by
  refine run.log_invariant (start_protocol ldk handler) (I := fun _ reached past =>
    .access (.readInvoice id) (some invoice) ∈ past → reached.stage.invoice = some invoice) ?_ ?_
    found read
  · intro request read
    cases read
  · intro request reached past event ih allowed read
    rw [List.mem_append, List.mem_singleton] at read
    rcases read with before | rfl
    · exact Stage.next_invoice (request.invoice ldk) event (ih before)
    · have here : reached.stage = .waiting id := allowed
      simp only [protocol, here]
      rfl

theorem Request.stage_fetched (request : Request) : request.stage.fetched = none := by
  cases request <;> rfl

/-- An entry that a task has claimed is one it holds or has removed. -/
theorem task_released (run : Run (lndk ldk handler) init guard labels pool)
    (found : pool.tasks[i]? = some task)
    (claimed : .access (.insertVacant id) true ∈ task.log) :
    (progressOf ldk handler task).stage.held = some id ∨ .access (.remove id) () ∈ task.log := by
  refine run.log_invariant (start_protocol ldk handler) (I := fun _ reached past =>
    ∀ id, .access (.insertVacant id) true ∈ past →
      reached.stage.held = some id ∨ .access (.remove id) () ∈ past) ?_ ?_ found id claimed
  · intro request id claimed
    cases claimed
  · intro request reached past event ih allowed id claimed
    rw [List.mem_append, List.mem_singleton] at claimed
    rcases claimed with before | rfl
    · rcases ih id before with held | removed
      · rcases Stage.next_held (request.invoice ldk) event held with still | ⟨other, reply, rfl⟩
        · exact Or.inl still
        · obtain rfl := allowed_remove reply allowed held
          exact Or.inr (List.mem_append_right past (List.mem_singleton.mpr rfl))
      · exact Or.inr (List.mem_append_left _ removed)
    · have here : reached.stage = .drawn id := allowed
      left
      simp only [protocol, here]
      rfl

theorem request_quiet_step {request : Request} {stage : Stage} {event : Event Sig}
    (allowed : Allowed ldk handler request stage event)
    (quiet : (stage.next (request.invoice ldk) event).quiet = true) (other : PaymentId) :
    event ≠ .access (.remove other) () := by
  rintro rfl
  have before := Stage.next_quiet quiet
  cases stage with
  | idle => cases quiet
  | drawn id => cases allowed_drawn allowed
  | refused id => exact not_allowed_over rfl allowed
  | _ => cases before

theorem task_refused (run : Run (lndk ldk handler) init guard labels pool)
    (found : pool.tasks[i]? = some task)
    (refused : (progressOf ldk handler task).stage = .refused id) (other : PaymentId) :
    .access (.remove other) () ∉ task.log := by
  have quiet : (progressOf ldk handler task).stage.quiet = true := by
    rw [refused]
    rfl
  refine run.log_invariant (start_protocol ldk handler) (I := fun _ reached past =>
    reached.stage.quiet = true → ∀ other, .access (.remove other) () ∉ past) ?_ ?_ found quiet other
  · exact fun request _ _ => List.not_mem_nil
  · intro request reached past event ih allowed quiet other
    rw [List.mem_append, List.mem_singleton, not_or]
    refine ⟨ih (Stage.next_quiet quiet) other, ?_⟩
    exact (request_quiet_step allowed quiet other).symm

end Logs

end LndkFormal.System
