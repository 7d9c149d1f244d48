import LndkFormal.System.Requests

/-!
# The stages of a running pool

A pool of LNDK seen through the stage of each task.  `lndk_cases` says
everything a step can do: spawn a request, or let one task take an event that
its stage allows, with the effect of that event on the shared state.
-/

set_option autoImplicit false

namespace LndkFormal.System

open LndkFormal.Async
open LndkFormal.Ldk
open LndkFormal.Offers

/-- Everything an event can do to a stage. -/
inductive Stage.Moves (paid : Option Bolt12Invoice) : Stage → Event Sig → Stage → Prop where
  | draw {id : PaymentId} (fetches : paid = none) :
      Moves paid .idle (.call .randomPaymentId id) (.drawn id)
  | given {id : PaymentId} {invoice : Bolt12Invoice} (given : paid = some invoice) :
      Moves paid .idle (.call .randomPaymentId id) (.acquired false id invoice false)
  | handle {op : Access} {reply : op.Reply} : Moves paid .idle (.access op reply) .handled
  | claim {id other : PaymentId} :
      Moves paid (.drawn id) (.access (.insertVacant other) true) (.waiting id)
  | refuse {id other : PaymentId} :
      Moves paid (.drawn id) (.access (.insertVacant other) false) (.refused id)
  | read {id other : PaymentId} {invoice : Bolt12Invoice} :
      Moves paid (.waiting id) (.access (.readInvoice other) (some invoice)) (.read id invoice)
  | close {id other : PaymentId} {reply : (Access.remove other).Reply} :
      Moves paid (.waiting id) (.access (.remove other) reply) (.closed id)
  | sleepOver {id : PaymentId} :
      Moves paid (.waiting id) (.call .sleepOrTimeout .elapsed) (.expired id)
  | expire {id : PaymentId} {reply : Call.timeoutElapsed.Reply} :
      Moves paid (.waiting id) (.call .timeoutElapsed reply) (.expired id)
  | giveUp {id other : PaymentId} {reply : (Access.remove other).Reply} :
      Moves paid (.expired id) (.access (.remove other) reply) (.timedOut id)
  | receive {id other : PaymentId} {invoice : Bolt12Invoice}
      {reply : (Access.setReceived other).Reply} :
      Moves paid (.read id invoice) (.access (.setReceived other) reply)
        (.acquired true id invoice false)
  | resolve {owner resolved resolved' : Bool} {id : PaymentId} {invoice : Bolt12Invoice}
      {scid : UInt64} {reply : (Call.getChanInfo scid).Reply} :
      Moves paid (.acquired owner id invoice resolved) (.call (.getChanInfo scid) reply)
        (.acquired owner id invoice resolved')
  | finish {owner resolved : Bool} {id other : PaymentId} {invoice : Bolt12Invoice}
      {reply : (Access.remove other).Reply} :
      Moves paid (.acquired owner id invoice resolved) (.access (.remove other) reply)
        (.finished owner id invoice)
  | stay {stage : Stage} {event : Event Sig} (still : stage.next paid event = stage) :
      Moves paid stage event stage

theorem Stage.next_moves (paid : Option Bolt12Invoice) (stage : Stage) (event : Event Sig) :
    Stage.Moves paid stage event (stage.next paid event) := by
  generalize moved : stage.next paid event = later
  have still := moved
  unfold Stage.next at moved
  split at moved
  case h_1 id =>
      split at moved
      next invoice =>
        subst moved
        exact .given rfl
      next =>
        subst moved
        exact .draw rfl
  all_goals subst moved
  case h_2 => exact .handle
  case h_3 => exact .claim
  case h_4 => exact .refuse
  case h_5 => exact .read
  case h_6 => exact .close
  case h_7 => exact .sleepOver
  case h_8 => exact .expire
  case h_9 => exact .giveUp
  case h_10 => exact .receive
  case h_11 => exact .resolve
  case h_12 => exact .resolve
  case h_13 => exact .finish
  case h_14 => exact .stay still

def Stage.subject : Stage → Option PaymentId
  | .idle => none
  | .drawn id => some id
  | .refused id => some id
  | .waiting id => some id
  | .expired id => some id
  | .timedOut id => some id
  | .read id _ => some id
  | .acquired _ id _ _ => some id
  | .closed id => some id
  | .finished _ id _ => some id
  | .handled => none

/-- The payment that a task has drawn and not yet fetched the invoice of. -/
def Stage.claims : Stage → Option PaymentId
  | .drawn id => some id
  | .waiting id => some id
  | .expired id => some id
  | .read id _ => some id
  | _ => none

def Stage.pays : Stage → Option PaymentId
  | .read id _ => some id
  | .acquired _ id _ _ => some id
  | _ => none

theorem Stage.subject_of_claims {stage : Stage} {id : PaymentId}
    (claims : stage.claims = some id) : stage.subject = some id := by
  cases stage <;> first | exact claims | cases claims

theorem Stage.subject_of_pays {stage : Stage} {id : PaymentId} (pays : stage.pays = some id) :
    stage.subject = some id := by
  cases stage <;> first | exact pays | cases pays

section Next

variable {paid : Option Bolt12Invoice} {stage : Stage} {event : Event Sig} {id : PaymentId}

theorem Stage.next_subject (subject : (stage.next paid event).subject = some id) :
    stage.subject = some id ∨ (stage = .idle ∧ event = .call .randomPaymentId id) := by
  have moved := stage.next_moves paid event
  generalize stage.next paid event = later at moved subject
  cases moved with
  | draw fetches =>
      cases subject
      exact Or.inr ⟨rfl, rfl⟩
  | given invoice =>
      cases subject
      exact Or.inr ⟨rfl, rfl⟩
  | _ => exact Or.inl subject

theorem Stage.next_claims (claims : (stage.next paid event).claims = some id) :
    stage.claims = some id ∨ (stage = .idle ∧ event = .call .randomPaymentId id) := by
  have moved := stage.next_moves paid event
  generalize stage.next paid event = later at moved claims
  cases moved with
  | draw fetches =>
      cases claims
      exact Or.inr ⟨rfl, rfl⟩
  | claim | read | sleepOver | expire | stay => exact Or.inl claims
  | _ => cases claims

/-- A task leaves `drawn` by its attempt to claim the entry. -/
theorem Stage.next_drawn (drawn : stage.next paid event = .drawn id) :
    (stage = .drawn id ∧ ∀ other vacant, event ≠ .access (.insertVacant other) vacant) ∨
      (stage = .idle ∧ event = .call .randomPaymentId id) := by
  have moved := stage.next_moves paid event
  rw [drawn] at moved
  cases moved with
  | draw fetches => exact Or.inr ⟨rfl, rfl⟩
  | stay still =>
      refine Or.inl ⟨rfl, ?_⟩
      rintro other (_ | _) rfl <;> cases still

/-- An invoice to pay comes from a check of the entry, from the stage before,
or with a PayInvoice request. -/
theorem Stage.next_pays (pays : (stage.next paid event).pays = some id) :
    stage.pays = some id ∨
      (stage = .waiting id ∧ ∃ other invoice, event = .access (.readInvoice other) (some invoice)) ∨
      (stage = .idle ∧ event = .call .randomPaymentId id) := by
  have moved := stage.next_moves paid event
  generalize stage.next paid event = later at moved pays
  cases moved with
  | given invoice =>
      cases pays
      exact Or.inr (Or.inr ⟨rfl, rfl⟩)
  | read =>
      cases pays
      exact Or.inr (Or.inl ⟨rfl, _, _, rfl⟩)
  | receive | resolve | stay => exact Or.inl pays
  | _ => cases pays

end Next

/-! ## Steps of a pool -/

section Steps

variable (ldk : Library) (handler : OfferHandler)

def progressOf (task : LndkTask) : Progress :=
  task.ghostOf (protocol ldk handler) Request.progress

def stageAt (pool : LndkPool) (i : Nat) : Option Stage :=
  pool.tasks[i]?.map fun task => (progressOf ldk handler task).stage

def Effect (s : OfferState) : Event Sig → OfferState → Prop
  | .access op reply, s' => reply = (op.run s).1 ∧ s' = (op.run s).2
  | .call _ _, s' => s' = s

structure Spawns (pool pool' : LndkPool) (request : Request) : Prop where
  shared : pool'.shared = pool.shared
  absent : stageAt ldk handler pool pool.tasks.length = none
  fresh : stageAt ldk handler pool' pool.tasks.length = some request.stage
  others : ∀ j, j ≠ pool.tasks.length → stageAt ldk handler pool' j = stageAt ldk handler pool j

/-- Task `i` takes an event that its stage allows. -/
structure Acts (pool pool' : LndkPool) (i : Nat) (event : Event Sig)
    (task : LndkTask) : Prop where
  found : pool.tasks[i]? = some task
  allowed : Allowed ldk handler task.request (progressOf ldk handler task).stage event
  moved : stageAt ldk handler pool' i =
    some ((progressOf ldk handler task).stage.next (task.request.invoice ldk) event)
  others : ∀ j, j ≠ i → stageAt ldk handler pool' j = stageAt ldk handler pool j
  effect : Effect pool.shared event pool'.shared

variable {ldk handler} {init : OfferState} {guard : LndkGuard} {labels : List LndkLabel}
variable {pool pool' : LndkPool} {label : LndkLabel}

theorem stageAt_eq {i : Nat} {task : LndkTask}
    (found : pool.tasks[i]? = some task) :
    stageAt ldk handler pool i = some (progressOf ldk handler task).stage := by
  rw [stageAt, found]
  rfl

theorem Acts.stage {i : Nat} {event : Event Sig} {task : LndkTask}
    (acts : Acts ldk handler pool pool' i event task) :
    stageAt ldk handler pool i = some (progressOf ldk handler task).stage :=
  stageAt_eq acts.found

theorem spawns_of_append {request : Request}
    (shared : pool'.shared = pool.shared)
    (tasks : pool'.tasks = pool.tasks ++ [⟨request, [], start ldk handler request⟩]) :
    Spawns ldk handler pool pool' request where
  shared := shared
  absent := by simp [stageAt]
  fresh := by
    simp only [stageAt, tasks, List.getElem?_concat_length, Option.map_some]
    rfl
  others := by
    intro j other
    simp only [stageAt, tasks]
    by_cases old : j < pool.tasks.length
    · rw [List.getElem?_append_left old]
    · have beyond : pool.tasks.length < j := by omega
      rw [List.getElem?_eq_none (by simp; omega), List.getElem?_eq_none (by omega)]

/-- Everything a step of LNDK can do. -/
theorem lndk_cases (run : Run (lndk ldk handler) init guard labels pool)
    (taken : Step (lndk ldk handler) pool label pool') :
    (∃ request, label = .spawn request ∧ Spawns ldk handler pool pool' request) ∨
      (∃ i event task, label = .act i event ∧ Acts ldk handler pool pool' i event task) := by
  cases label with
  | spawn request =>
      cases taken
      exact Or.inl ⟨request, rfl, spawns_of_append rfl rfl⟩
  | act i event =>
      obtain ⟨task, task', found, found', _, _, demanded, moved⟩ :=
        run.act_demand (start_protocol ldk handler) taken
      refine Or.inr ⟨i, event, task, rfl, found, demanded, ?_, ?_, ?_⟩
      · rw [stageAt_eq found']
        exact congrArg (some ∘ Progress.stage) moved
      · intro j other
        rw [stageAt, stageAt, taken.bystander (Ne.symm other)]
      · cases taken with
        | access _ here => exact ⟨rfl, rfl⟩
        | call _ here reply => exact rfl

theorem Acts.stage_cases {i : Nat} {event : Event Sig} {task : LndkTask}
    (acts : Acts ldk handler pool pool' i event task) {j : Nat} {stage : Stage}
    (reached : stageAt ldk handler pool' j = some stage) :
    (j ≠ i ∧ stageAt ldk handler pool j = some stage) ∨
      (j = i ∧
        stage = (progressOf ldk handler task).stage.next (task.request.invoice ldk) event) := by
  by_cases same : j = i
  · subst same
    rw [acts.moved, Option.some.injEq] at reached
    exact Or.inr ⟨rfl, reached.symm⟩
  · rw [acts.others j same] at reached
    exact Or.inl ⟨same, reached⟩

theorem Spawns.stage_cases {request : Request} (spawns : Spawns ldk handler pool pool' request)
    {j : Nat} {stage : Stage} (reached : stageAt ldk handler pool' j = some stage) :
    stageAt ldk handler pool j = some stage ∨
      (j = pool.tasks.length ∧ stage = request.stage) := by
  by_cases same : j = pool.tasks.length
  · subst same
    rw [spawns.fresh, Option.some.injEq] at reached
    exact Or.inr ⟨rfl, reached.symm⟩
  · rw [spawns.others j same] at reached
    exact Or.inl reached

/-- A task that claims `id` after a step has claimed it before, or draws it now. -/
theorem Acts.claims_cases {i : Nat} {event : Event Sig} {task : LndkTask}
    (acts : Acts ldk handler pool pool' i event task) {j : Nat} {stage : Stage} {id : PaymentId}
    (reached : stageAt ldk handler pool' j = some stage) (claims : stage.claims = some id) :
    (∃ before, stageAt ldk handler pool j = some before ∧ before.claims = some id) ∨
      event = .call .randomPaymentId id := by
  rcases acts.stage_cases reached with ⟨_, old⟩ | ⟨rfl, rfl⟩
  · exact Or.inl ⟨stage, old, claims⟩
  · rcases Stage.next_claims claims with before | ⟨_, drawn⟩
    · exact Or.inl ⟨_, acts.stage, before⟩
    · exact Or.inr drawn

theorem Acts.pays_cases {i : Nat} {event : Event Sig} {task : LndkTask}
    (acts : Acts ldk handler pool pool' i event task) {j : Nat} {stage : Stage} {id : PaymentId}
    (reached : stageAt ldk handler pool' j = some stage) (pays : stage.pays = some id) :
    (∃ before, stageAt ldk handler pool j = some before ∧ before.pays = some id) ∨
      (∃ invoice, event = .access (.readInvoice id) (some invoice)) ∨
      event = .call .randomPaymentId id := by
  rcases acts.stage_cases reached with ⟨_, old⟩ | ⟨rfl, rfl⟩
  · exact Or.inl ⟨stage, old, pays⟩
  · rcases Stage.next_pays pays with before | ⟨here, other, invoice, rfl⟩ | ⟨_, drawn⟩
    · exact Or.inl ⟨_, acts.stage, before⟩
    · have same := acts.allowed
      simp only [Allowed, here, Stage.waiting.injEq] at same
      subst same
      exact Or.inr (Or.inl ⟨invoice, rfl⟩)
    · exact Or.inr (Or.inr drawn)

/-- What one event of a task at `stage` can do to the entry of `id`. -/
inductive Alters (ldk : Library) (handler : OfferHandler) (request : Request) (stage : Stage)
    (event : Event Sig) (id : PaymentId) (old new : Option PaymentInfo) : Prop where
  | same (kept : new = old)
  | inserted (here : stage = .drawn id) (isEvent : event = .access (.insertVacant id) true)
      (before : old = none)
      (after : new = some { state := .invoiceRequestCreated, invoice := none })
  | received (info : PaymentInfo) (invoice : Bolt12Invoice) (here : stage = .read id invoice)
      (isEvent : event = .access (.setReceived id) ()) (before : old = some info)
      (after : new = some { info with state := .invoiceReceived })
  | dispatched (info : PaymentInfo) (owner : Bool) (invoice : Bolt12Invoice) (resolved : Bool)
      (here : stage = .acquired owner id invoice resolved)
      (isEvent : event = .access (.setDispatched id) ()) (before : old = some info)
      (after : new = some { info with state := .paymentDispatched })
  | stored (state : PaymentState) (invoice : Bolt12Invoice) (here : stage = .idle)
      (verified : VerifiedInvoice ldk handler request id invoice)
      (isEvent : event = .access (.storeInvoice id invoice) ())
      (before : old = some { state, invoice := none })
      (after : new = some { state := .invoiceReceived, invoice := some invoice })
  | removed (info : PaymentInfo) (isEvent : event = .access (.remove id) ())
      (before : old = some info) (after : new = none)

theorem Acts.alters {i : Nat} {event : Event Sig} {task : LndkTask}
    (acts : Acts ldk handler pool pool' i event task) (id : PaymentId) :
    Alters ldk handler task.request (progressOf ldk handler task).stage event id
      (pool.shared.entry id) (pool'.shared.entry id) := by
  obtain ⟨found, allowed, moved, others, effect⟩ := acts
  cases event with
  | call request reply =>
      have shared : pool'.shared = pool.shared := effect
      exact .same (by rw [shared])
  | access op reply =>
      obtain ⟨rfl, shared⟩ := effect
      rw [shared]
      rcases op.entry_cases pool.shared id with kept | change
      · exact .same kept
      · generalize before : pool.shared.entry id = old at change ⊢
        generalize (op.run pool.shared).2.entry id = new at change ⊢
        cases change with
        | insert =>
            have vacant : ((Access.insertVacant id).run pool.shared).1 = true := by
              simp only [Access.run, before]
              rfl
            exact .inserted allowed (by rw [vacant]) rfl rfl
        | received info =>
            obtain ⟨invoice, here⟩ := allowed
            exact .received info invoice here rfl rfl rfl
        | dispatched info =>
            obtain ⟨owner, invoice, resolved, here⟩ := allowed
            exact .dispatched info owner invoice resolved here rfl rfl rfl
        | stored state invoice =>
            exact .stored state invoice allowed.1 allowed.2 rfl rfl rfl
        | removed info => exact .removed info rfl rfl rfl

end Steps

end LndkFormal.System
