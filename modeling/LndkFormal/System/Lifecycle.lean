import LndkFormal.System.Stages

/-!
# The life of a payment

Payment ids are drawn pairwise distinct, and `pay_invoice` is called with a
fresh id or with one that `get_invoice` has returned.  In every run like that
an entry holds an invoice exactly when its state says so, its state moves
forward only, its invoice is never replaced, and an id once removed never comes
back.
-/

set_option autoImplicit false

namespace LndkFormal.System

open LndkFormal.Async
open LndkFormal.Lnd
open LndkFormal.Ldk
open LndkFormal.Offers

/-- The id that a step brings in: drawn at random, or handed to `pay_invoice`. -/
def draws : LndkLabel → Option PaymentId
  | .act _ (.call .randomPaymentId id) => some id
  | .spawn (.payInvoice _ _ id _) => some id
  | _ => none

def drawnIds (labels : List LndkLabel) : List PaymentId := labels.filterMap draws

def returnedId : Prog Sig Outcome → Option PaymentId
  | .ret (.invoice (.ok (_, _, id))) => some id
  | _ => none

def Returned (pool : LndkPool) (id : PaymentId) : Prop :=
  ∃ task ∈ pool.tasks, returnedId task.prog = some id

def isSpawn : LndkLabel → Bool
  | .spawn _ => true
  | .act _ _ => false

/-- No id is drawn twice, and `pay_invoice` is called for a fresh id or for one
that `get_invoice` has returned. -/
def distinctIds : LndkGuard := fun labels pool label =>
  ∀ id ∈ draws label, id ∉ drawnIds labels ∨ (isSpawn label = true ∧ Returned pool id)

instance (labels : List LndkLabel) (pool : LndkPool) (label : LndkLabel) :
    Decidable (distinctIds labels pool label) :=
  inferInstanceAs (Decidable (∀ id ∈ draws label, id ∉ drawnIds labels ∨
    (isSpawn label = true ∧ ∃ task ∈ pool.tasks, returnedId task.prog = some id)))

theorem distinctIds_draw {labels : List LndkLabel} {pool : LndkPool} {i : Nat} {id : PaymentId}
    (allowed : distinctIds labels pool (.act i (.call .randomPaymentId id))) :
    id ∉ drawnIds labels := by
  rcases allowed id rfl with fresh | ⟨spawned, _⟩
  · exact fresh
  · cases spawned

theorem distinctIds_payInvoice {labels : List LndkLabel} {pool : LndkPool} {amount : UInt64}
    {invoice : Bolt12Invoice} {id : PaymentId} {feeLimit : Option FeeLimit}
    (allowed : distinctIds labels pool (.spawn (.payInvoice amount invoice id feeLimit))) :
    id ∉ drawnIds labels ∨ Returned pool id := by
  rcases allowed id rfl with fresh | ⟨_, returned⟩
  · exact Or.inl fresh
  · exact Or.inr returned

theorem mem_drawnIds_append {labels : List LndkLabel} {label : LndkLabel} {id : PaymentId} :
    id ∈ drawnIds (labels ++ [label]) ↔ id ∈ drawnIds labels ∨ draws label = some id := by
  simp [drawnIds, List.filterMap_append, eq_comm]

/-! ## The invariant -/

section Invariant

variable (ldk : Library) (handler : OfferHandler)

structure Lifecycle (labels : List LndkLabel) (pool : LndkPool) : Prop where
  /-- Every task works on an id that was drawn. -/
  known : ∀ i stage id, stageAt ldk handler pool i = some stage → stage.subject = some id →
    id ∈ drawnIds labels
  /-- Every entry is for an id that was drawn. -/
  listed : ∀ id info, pool.shared.entry id = some info → id ∈ drawnIds labels
  /-- While a task fetches the invoice of an id, no other task works on that id. -/
  alone : ∀ i j stage other id, stageAt ldk handler pool i = some stage →
    stage.claims = some id → stageAt ldk handler pool j = some other →
    other.subject = some id → j = i
  /-- A drawn id has no entry until its task claims it. -/
  unborn : ∀ i id, stageAt ldk handler pool i = some (.drawn id) → pool.shared.entry id = none
  undispatched : ∀ i stage id info, stageAt ldk handler pool i = some stage →
    stage.claims = some id → pool.shared.entry id = some info → info.state ≠ .paymentDispatched
  /-- A task that has an invoice to pay finds one in the entry, if there is an entry. -/
  settled : ∀ i stage id info, stageAt ldk handler pool i = some stage →
    stage.pays = some id → pool.shared.entry id = some info → info.invoice.isSome
  consistent : ∀ id info, pool.shared.entry id = some info →
    (info.invoice.isSome ↔ info.state ≠ .invoiceRequestCreated)

theorem lifecycle_start : Lifecycle ldk handler [] ⟨.new, []⟩ where
  known := by simp [stageAt]
  listed := by simp
  alone := by simp [stageAt]
  unborn := by simp [stageAt]
  undispatched := by simp [stageAt]
  settled := by simp [stageAt]
  consistent := by simp

variable {ldk handler} {guard : LndkGuard} {labels : List LndkLabel} {pool pool' : LndkPool}

theorem Request.stage_subject {request : Request} {id : PaymentId}
    (subject : request.stage.subject = some id) :
    ∃ amount invoice feeLimit, request = .payInvoice amount invoice id feeLimit := by
  cases request with
  | payInvoice amount invoice other feeLimit =>
      cases subject
      exact ⟨amount, invoice, feeLimit, rfl⟩
  | _ => cases subject

theorem Request.stage_claims (request : Request) : request.stage.claims = none := by
  cases request <;> rfl

/-- The task whose result was `id` has acquired it. -/
theorem returned_stage {init : OfferState} (run : Run (lndk ldk handler) init guard labels pool)
    {id : PaymentId} (returned : Returned pool id) :
    ∃ k invoice, stageAt ldk handler pool k = some (.acquired true id invoice false) := by
  obtain ⟨⟨request, log, prog⟩, member, result⟩ := returned
  obtain ⟨k, found⟩ := List.getElem?_of_mem member
  have ended := run.task_satisfies (start_protocol ldk handler) found
  simp only [returnedId] at result
  split at result
  next invoice amount other =>
    cases result
    refine ⟨k, invoice, ?_⟩
    rw [stageAt_eq found]
    exact congrArg some (Ends.returned ended invoice amount id rfl)
  next => cases result

theorem Lifecycle.spawn {init : OfferState} {request : Request}
    (run : Run (lndk ldk handler) init guard labels pool)
    (holds : Lifecycle ldk handler labels pool)
    (allowed : distinctIds labels pool (.spawn request))
    (spawns : Spawns ldk handler pool pool' request) :
    Lifecycle ldk handler (labels ++ [.spawn request]) pool' := by
  -- the one case with work to do: a call of `pay_invoice` for `id`
  have free : ∀ i stage id, stageAt ldk handler pool i = some stage → stage.claims = some id →
      request.stage.subject ≠ some id := by
    intro i stage id reached claims subject
    obtain ⟨amount, invoice, feeLimit, rfl⟩ := Request.stage_subject subject
    rcases distinctIds_payInvoice allowed with fresh | returned
    · exact fresh (holds.known i stage id reached (Stage.subject_of_claims claims))
    · obtain ⟨k, paid, acquired⟩ := returned_stage run returned
      obtain rfl := holds.alone i k stage _ id reached claims acquired rfl
      rw [reached, Option.some.injEq] at acquired
      subst acquired
      cases claims
  have filled : ∀ id info, request.stage.subject = some id →
      pool.shared.entry id = some info → info.invoice.isSome := by
    intro id info subject found
    obtain ⟨amount, invoice, feeLimit, rfl⟩ := Request.stage_subject subject
    rcases distinctIds_payInvoice allowed with fresh | returned
    · exact absurd (holds.listed id info found) fresh
    · obtain ⟨k, paid, acquired⟩ := returned_stage run returned
      exact holds.settled k _ id info acquired rfl found
  refine ⟨?_, ?_, ?_, ?_, ?_, ?_, ?_⟩
  · intro i stage id reached subject
    rw [mem_drawnIds_append]
    rcases spawns.stage_cases reached with old | ⟨_, rfl⟩
    · exact Or.inl (holds.known i stage id old subject)
    · obtain ⟨amount, invoice, feeLimit, rfl⟩ := Request.stage_subject subject
      exact Or.inr rfl
  · intro id info found
    rw [spawns.shared] at found
    exact mem_drawnIds_append.mpr (Or.inl (holds.listed id info found))
  · intro i j stage other id reached claims reachedOther subject
    rcases spawns.stage_cases reached with old | ⟨_, rfl⟩
    · rcases spawns.stage_cases reachedOther with oldOther | ⟨_, rfl⟩
      · exact holds.alone i j stage other id old claims oldOther subject
      · exact absurd subject (free i stage id old claims)
    · rw [Request.stage_claims] at claims
      cases claims
  · intro i id reached
    rw [spawns.shared]
    rcases spawns.stage_cases reached with old | ⟨_, same⟩
    · exact holds.unborn i id old
    · have claims := Request.stage_claims request
      rw [← same] at claims
      cases claims
  · intro i stage id info reached claims found
    rw [spawns.shared] at found
    rcases spawns.stage_cases reached with old | ⟨_, rfl⟩
    · exact holds.undispatched i stage id info old claims found
    · rw [Request.stage_claims] at claims
      cases claims
  · intro i stage id info reached pays found
    rw [spawns.shared] at found
    rcases spawns.stage_cases reached with old | ⟨_, rfl⟩
    · exact holds.settled i stage id info old pays found
    · exact filled id info (Stage.subject_of_pays pays) found
  · intro id info found
    rw [spawns.shared] at found
    exact holds.consistent id info found

section Act

variable {i : Nat} {event : Event Sig} {task : LndkTask}

theorem Lifecycle.act_known (holds : Lifecycle ldk handler labels pool)
    (acts : Acts ldk handler pool pool' i event task) (j : Nat) (stage : Stage) (id : PaymentId)
    (reached : stageAt ldk handler pool' j = some stage) (subject : stage.subject = some id) :
    id ∈ drawnIds (labels ++ [.act i event]) := by
  rw [mem_drawnIds_append]
  rcases acts.stage_cases reached with ⟨_, old⟩ | ⟨_, rfl⟩
  · exact Or.inl (holds.known j stage id old subject)
  · rcases Stage.next_subject subject with before | ⟨_, rfl⟩
    · exact Or.inl (holds.known i _ id acts.stage before)
    · exact Or.inr rfl

theorem Lifecycle.act_listed (holds : Lifecycle ldk handler labels pool)
    (acts : Acts ldk handler pool pool' i event task) (id : PaymentId) (info : PaymentInfo)
    (found : pool'.shared.entry id = some info) : id ∈ drawnIds (labels ++ [.act i event]) := by
  rw [mem_drawnIds_append]
  left
  cases acts.alters id with
  | same kept =>
      rw [kept] at found
      exact holds.listed id info found
  | inserted here => exact holds.known i _ id acts.stage (by rw [here]; rfl)
  | received info _ _ _ before => exact holds.listed id info before
  | dispatched info _ _ _ _ _ before => exact holds.listed id info before
  | stored state _ _ _ _ before => exact holds.listed id _ before
  | removed _ _ _ after =>
      rw [after] at found
      cases found

theorem Lifecycle.entry_of_draw (holds : Lifecycle ldk handler labels pool) {id : PaymentId}
    (allowed : distinctIds labels pool (.act i (.call .randomPaymentId id)))
    (acts : Acts ldk handler pool pool' i (.call .randomPaymentId id) task) :
    pool'.shared.entry id = none := by
  have shared : pool'.shared = pool.shared := acts.effect
  rw [shared]
  cases found : pool.shared.entry id with
  | none => rfl
  | some info => exact absurd (holds.listed id info found) (distinctIds_draw allowed)

theorem Lifecycle.act_alone (holds : Lifecycle ldk handler labels pool)
    (allowed : distinctIds labels pool (.act i event))
    (acts : Acts ldk handler pool pool' i event task) (j k : Nat) (stage other : Stage)
    (id : PaymentId) (reached : stageAt ldk handler pool' j = some stage)
    (claims : stage.claims = some id) (reachedOther : stageAt ldk handler pool' k = some other)
    (subject : other.subject = some id) : k = j := by
  rcases acts.stage_cases reachedOther with ⟨differs, old⟩ | ⟨rfl, rfl⟩
  · rcases acts.claims_cases reached claims with ⟨before, was, claimed⟩ | rfl
    · exact holds.alone j k before other id was claimed old subject
    · exact absurd (holds.known k other id old subject) (distinctIds_draw allowed)
  · rcases Stage.next_subject subject with before | ⟨_, rfl⟩
    · rcases acts.claims_cases reached claims with ⟨earlier, was, claimed⟩ | rfl
      · exact holds.alone j k earlier _ id was claimed acts.stage before
      · exact absurd (holds.known k _ id acts.stage before) (distinctIds_draw allowed)
    · rcases acts.stage_cases reached with ⟨_, old⟩ | ⟨rfl, _⟩
      · exact absurd (holds.known j stage id old (Stage.subject_of_claims claims))
          (distinctIds_draw allowed)
      · rfl

theorem Lifecycle.act_unborn (holds : Lifecycle ldk handler labels pool)
    (allowed : distinctIds labels pool (.act i event))
    (acts : Acts ldk handler pool pool' i event task) (j : Nat) (id : PaymentId)
    (reached : stageAt ldk handler pool' j = some (.drawn id)) :
    pool'.shared.entry id = none := by
  have before : event = .call .randomPaymentId id ∨
      (stageAt ldk handler pool j = some (.drawn id) ∧
        (j = i → event ≠ .access (.insertVacant id) true)) := by
    rcases acts.stage_cases reached with ⟨differs, old⟩ | ⟨rfl, moved⟩
    · exact Or.inr ⟨old, fun same => absurd same differs⟩
    · rcases Stage.next_drawn moved.symm with ⟨here, other⟩ | ⟨_, drawn⟩
      · exact Or.inr ⟨by rw [acts.stage, here], fun _ => other id true⟩
      · exact Or.inl drawn
  rcases before with rfl | ⟨old, waits⟩
  · exact holds.entry_of_draw allowed acts
  · have absent := holds.unborn j id old
    cases acts.alters id with
    | same kept => rw [kept, absent]
    | inserted here isEvent =>
        have same := holds.alone i j _ _ id acts.stage (by rw [here]; rfl) old rfl
        exact absurd isEvent (waits same)
    | received _ _ _ _ was => simp [absent] at was
    | dispatched _ _ _ _ _ _ was => simp [absent] at was
    | stored _ _ _ _ _ was => simp [absent] at was
    | removed _ _ _ after => exact after

theorem Lifecycle.act_undispatched (holds : Lifecycle ldk handler labels pool)
    (allowed : distinctIds labels pool (.act i event))
    (acts : Acts ldk handler pool pool' i event task) (j : Nat) (stage : Stage) (id : PaymentId)
    (info : PaymentInfo) (reached : stageAt ldk handler pool' j = some stage)
    (claims : stage.claims = some id) (found : pool'.shared.entry id = some info) :
    info.state ≠ .paymentDispatched := by
  rcases acts.claims_cases reached claims with ⟨before, was, claimed⟩ | rfl
  · cases acts.alters id with
    | same kept =>
        rw [kept] at found
        exact holds.undispatched j before id info was claimed found
    | dispatched _ owner invoice resolved here =>
        -- the task that dispatches would be the one still fetching
        obtain rfl := holds.alone j i before _ id was claimed acts.stage (by rw [here]; rfl)
        rw [acts.stage, here, Option.some.injEq] at was
        subst was
        cases claimed
    | inserted _ _ _ after =>
        rw [after] at found
        cases found
        simp
    | received _ _ _ _ _ after =>
        rw [after] at found
        cases found
        simp
    | stored _ _ _ _ _ _ after =>
        rw [after] at found
        cases found
        simp
    | removed _ _ _ after => simp [after] at found
  · simp [holds.entry_of_draw allowed acts] at found

theorem Lifecycle.act_settled (holds : Lifecycle ldk handler labels pool)
    (allowed : distinctIds labels pool (.act i event))
    (acts : Acts ldk handler pool pool' i event task) (j : Nat) (stage : Stage) (id : PaymentId)
    (info : PaymentInfo) (reached : stageAt ldk handler pool' j = some stage)
    (pays : stage.pays = some id) (found : pool'.shared.entry id = some info) :
    info.invoice.isSome := by
  rcases acts.pays_cases reached pays with ⟨before, was, paid⟩ | ⟨invoice, rfl⟩ | rfl
  · cases acts.alters id with
    | same kept =>
        rw [kept] at found
        exact holds.settled j before id info was paid found
    | inserted here =>
        -- a task that pays would be at work on an id that is being claimed
        obtain rfl := holds.alone i j _ before id acts.stage (by rw [here]; rfl) was
          (Stage.subject_of_pays paid)
        rw [acts.stage, here, Option.some.injEq] at was
        subst was
        cases paid
    | received earlier _ _ _ present after =>
        rw [after] at found
        cases found
        exact holds.settled j before id earlier was paid present
    | dispatched earlier _ _ _ _ _ present after =>
        rw [after] at found
        cases found
        exact holds.settled j before id earlier was paid present
    | stored _ _ _ _ _ _ after =>
        rw [after] at found
        cases found
        rfl
    | removed _ _ _ after => simp [after] at found
  · obtain ⟨answer, shared⟩ := acts.effect
    have unchanged : pool'.shared = pool.shared := shared
    rw [unchanged] at found
    have stored : some invoice = (pool.shared.entry id).bind PaymentInfo.invoice := answer
    rw [found] at stored
    exact Option.isSome_iff_exists.mpr ⟨invoice, stored.symm⟩
  · simp [holds.entry_of_draw allowed acts] at found

theorem Lifecycle.act_consistent (holds : Lifecycle ldk handler labels pool)
    (acts : Acts ldk handler pool pool' i event task) (id : PaymentId) (info : PaymentInfo)
    (found : pool'.shared.entry id = some info) :
    info.invoice.isSome ↔ info.state ≠ .invoiceRequestCreated := by
  cases acts.alters id with
  | same kept =>
      rw [kept] at found
      exact holds.consistent id info found
  | inserted _ _ _ after =>
      rw [after] at found
      cases found
      simp
  | received earlier invoice here _ present after =>
      have filled := holds.settled i _ id earlier acts.stage (by rw [here]; rfl) present
      rw [after] at found
      cases found
      simp [filled]
  | dispatched earlier _ _ _ here _ present after =>
      have filled := holds.settled i _ id earlier acts.stage (by rw [here]; rfl) present
      rw [after] at found
      cases found
      simp [filled]
  | stored _ _ _ _ _ _ after =>
      rw [after] at found
      cases found
      simp
  | removed _ _ _ after => simp [after] at found

theorem Lifecycle.act (holds : Lifecycle ldk handler labels pool)
    (allowed : distinctIds labels pool (.act i event))
    (acts : Acts ldk handler pool pool' i event task) :
    Lifecycle ldk handler (labels ++ [.act i event]) pool' where
  known := holds.act_known acts
  listed := holds.act_listed acts
  alone := holds.act_alone allowed acts
  unborn := holds.act_unborn allowed acts
  undispatched := holds.act_undispatched allowed acts
  settled := holds.act_settled allowed acts
  consistent := holds.act_consistent acts

end Act

theorem Lifecycle.step {init : OfferState} {label : LndkLabel}
    (run : Run (lndk ldk handler) init guard labels pool)
    (holds : Lifecycle ldk handler labels pool) (allowed : distinctIds labels pool label)
    (taken : Step (lndk ldk handler) pool label pool') :
    Lifecycle ldk handler (labels ++ [label]) pool' := by
  rcases lndk_cases run taken with ⟨request, rfl, spawns⟩ | ⟨i, event, task, rfl, acts⟩
  · exact holds.spawn run allowed spawns
  · exact holds.act allowed acts

theorem run_lifecycle (run : Run (lndk ldk handler) .new distinctIds labels pool) :
    Lifecycle ldk handler labels pool :=
  Run.invariant (lifecycle_start ldk handler)
    (fun _ _ _ _ before holds allowed taken => holds.step before allowed taken) run

end Invariant

/-! ## Histories -/

def PaymentState.rank : PaymentState → Nat
  | .invoiceRequestCreated => 0
  | .invoiceReceived => 1
  | .paymentDispatched => 2

structure Continues (earlier later : PaymentInfo) : Prop where
  state : PaymentState.rank earlier.state ≤ PaymentState.rank later.state
  invoice : ∀ invoice, earlier.invoice = some invoice → later.invoice = some invoice

theorem Continues.refl (info : PaymentInfo) : Continues info info := ⟨le_refl _, fun _ same => same⟩

theorem Continues.trans {first second third : PaymentInfo} (earlier : Continues first second)
    (later : Continues second third) : Continues first third where
  state := le_trans earlier.state later.state
  invoice invoice held := later.invoice invoice (earlier.invoice invoice held)

section History

variable (ldk : Library) (handler : OfferHandler)

/-- The shared state after a list of labels. -/
def stateAfter (labels : List LndkLabel) : OfferState := replay (lndk ldk handler) .new labels

/-- The id has been used up: it has no entry and no task can claim one for it. -/
structure Gone (labels : List LndkLabel) (pool : LndkPool) (id : PaymentId) : Prop where
  absent : pool.shared.entry id = none
  drawn : id ∈ drawnIds labels
  unclaimed : ∀ i, stageAt ldk handler pool i ≠ some (.drawn id)

variable {ldk handler} {labels : List LndkLabel} {pool pool' : LndkPool} {label : LndkLabel}
variable {id : PaymentId}

/-- What one step does to an entry that stays. -/
theorem Lifecycle.continues (run : Run (lndk ldk handler) .new distinctIds labels pool)
    (taken : Step (lndk ldk handler) pool label pool') {earlier later : PaymentInfo}
    (before : pool.shared.entry id = some earlier)
    (after : pool'.shared.entry id = some later) : Continues earlier later := by
  have holds := run_lifecycle run
  rcases lndk_cases run taken with ⟨request, rfl, spawns⟩ | ⟨i, event, task, rfl, acts⟩
  · rw [spawns.shared, before] at after
    cases after
    exact .refl _
  · cases acts.alters id with
    | same kept =>
        rw [kept, before] at after
        cases after
        exact .refl _
    | inserted _ _ absent _ =>
        rw [before] at absent
        cases absent
    | received info invoice here _ present changed =>
        rw [before] at present
        cases present
        rw [changed] at after
        cases after
        have early := holds.undispatched i _ id earlier acts.stage (by rw [here]; rfl) before
        refine ⟨?_, fun _ same => same⟩
        cases state : earlier.state <;> simp_all [PaymentState.rank]
    | dispatched info owner invoice resolved here _ present changed =>
        rw [before] at present
        cases present
        rw [changed] at after
        cases after
        refine ⟨?_, fun _ same => same⟩
        cases earlier.state <;> simp [PaymentState.rank]
    | stored state invoice _ _ _ present changed =>
        rw [before] at present
        cases present
        rw [changed] at after
        cases after
        -- an entry without an invoice is still at its first state
        have created := holds.consistent id _ before
        have first : state = .invoiceRequestCreated := by simpa using created
        subst first
        exact ⟨Nat.zero_le _, nofun⟩
    | removed _ _ _ absent =>
        rw [after] at absent
        cases absent

theorem Gone.step (gone : Gone ldk handler labels pool id)
    (run : Run (lndk ldk handler) .new distinctIds labels pool)
    (allowed : distinctIds labels pool label) (taken : Step (lndk ldk handler) pool label pool') :
    Gone ldk handler (labels ++ [label]) pool' id := by
  have drawn : id ∈ drawnIds (labels ++ [label]) := mem_drawnIds_append.mpr (Or.inl gone.drawn)
  rcases lndk_cases run taken with ⟨request, rfl, spawns⟩ | ⟨i, event, task, rfl, acts⟩
  · refine ⟨by rw [spawns.shared]; exact gone.absent, drawn, ?_⟩
    intro j reached
    rcases spawns.stage_cases reached with old | ⟨_, same⟩
    · exact gone.unclaimed j old
    · have claims := Request.stage_claims request
      rw [← same] at claims
      cases claims
  · refine ⟨?_, drawn, ?_⟩
    · cases acts.alters id with
      | same kept => rw [kept, gone.absent]
      | inserted here => exact absurd (by rw [acts.stage, here]) (gone.unclaimed i)
      | received _ _ _ _ present => simp [gone.absent] at present
      | dispatched _ _ _ _ _ _ present => simp [gone.absent] at present
      | stored _ _ _ _ _ present => simp [gone.absent] at present
      | removed _ _ _ after => exact after
    · intro j reached
      rcases acts.stage_cases reached with ⟨_, old⟩ | ⟨rfl, moved⟩
      · exact gone.unclaimed j old
      · rcases Stage.next_drawn moved.symm with ⟨here, _⟩ | ⟨_, rfl⟩
        · exact gone.unclaimed j (by rw [acts.stage, here])
        · exact distinctIds_draw allowed gone.drawn

/-- The step that removes an entry uses up its id. -/
theorem gone_of_removed (run : Run (lndk ldk handler) .new distinctIds labels pool)
    (allowed : distinctIds labels pool label) (taken : Step (lndk ldk handler) pool label pool')
    {info : PaymentInfo} (before : pool.shared.entry id = some info)
    (after : pool'.shared.entry id = none) : Gone ldk handler (labels ++ [label]) pool' id := by
  have holds := run_lifecycle run
  have listed := holds.listed id info before
  refine ⟨after, mem_drawnIds_append.mpr (Or.inl listed), ?_⟩
  intro j reached
  rcases lndk_cases run taken with ⟨request, rfl, spawns⟩ | ⟨i, event, task, rfl, acts⟩
  · rw [spawns.shared, before] at after
    cases after
  · rcases acts.stage_cases reached with ⟨_, old⟩ | ⟨rfl, moved⟩
    · simp [holds.unborn j id old] at before
    · rcases Stage.next_drawn moved.symm with ⟨here, _⟩ | ⟨_, rfl⟩
      · simp [holds.unborn j id (by rw [acts.stage, here])] at before
      · exact distinctIds_draw allowed listed

variable (ldk handler) in
/-- What the present says about every earlier point of a run. -/
structure Remembers (labels : List LndkLabel) (pool : LndkPool) : Prop where
  forward : ∀ pre post id earlier later, pre ++ post = labels →
    (stateAfter ldk handler pre).entry id = some earlier → pool.shared.entry id = some later →
    Continues earlier later
  ended : ∀ pre between post id earlier, pre ++ between ++ post = labels →
    (stateAfter ldk handler pre).entry id = some earlier →
    (stateAfter ldk handler (pre ++ between)).entry id = none → Gone ldk handler labels pool id

theorem Remembers.step (remembers : Remembers ldk handler labels pool)
    (run : Run (lndk ldk handler) .new distinctIds labels pool)
    (allowed : distinctIds labels pool label) (taken : Step (lndk ldk handler) pool label pool') :
    Remembers ldk handler (labels ++ [label]) pool' := by
  have now : stateAfter ldk handler labels = pool.shared := run.shared_eq_replay.symm
  have then_ : stateAfter ldk handler (labels ++ [label]) = pool'.shared :=
    (Run.step run allowed taken).shared_eq_replay.symm
  refine ⟨?_, ?_⟩
  · intro pre post id earlier later whole before after
    rcases append_eq_concat whole with ⟨rfl, rfl⟩ | ⟨rest, rfl, rfl⟩
    · rw [then_, after] at before
      cases before
      exact .refl _
    · cases found : pool.shared.entry id with
      | none =>
          have gone := remembers.ended pre rest [] id earlier (by simp) before (by rw [now, found])
          simp [(gone.step run allowed taken).absent] at after
      | some info =>
          have soFar := remembers.forward pre rest id earlier info rfl before found
          exact soFar.trans (Lifecycle.continues run taken found after)
  · intro pre between post id earlier whole before absent
    rcases append_eq_concat whole with ⟨rfl, cut⟩ | ⟨rest, rfl, rfl⟩
    · rcases append_eq_concat cut with ⟨rfl, _⟩ | ⟨rest, rfl, rfl⟩
      · simp [before] at absent
      · cases found : pool.shared.entry id with
        | none =>
            have gone := remembers.ended pre rest [] id earlier (by simp) before
              (by rw [now, found])
            exact gone.step run allowed taken
        | some info =>
            rw [cut, then_] at absent
            exact gone_of_removed run allowed taken found absent
    · exact (remembers.ended pre between rest id earlier rfl before absent).step run allowed taken

theorem remembers_start : Remembers ldk handler [] ⟨.new, []⟩ where
  forward := by simp [stateAfter]
  ended := by
    intro pre between post id earlier whole before
    simp only [List.append_eq_nil_iff] at whole
    rw [whole.1.1] at before
    cases before

theorem run_remembers (run : Run (lndk ldk handler) .new distinctIds labels pool) :
    Remembers ldk handler labels pool :=
  Run.invariant remembers_start
    (fun _ _ _ _ soFar remembers allowed taken => remembers.step soFar allowed taken) run

variable (ldk handler) in
/-- An entry holds an invoice exactly when its state says so; its state moves
forward only; a stored invoice stays; an id once removed stays removed. -/
structure LivesForward (labels : List LndkLabel) (pool : LndkPool) : Prop where
  consistent : ∀ id info, pool.shared.entry id = some info →
    (info.invoice.isSome ↔ info.state = .invoiceReceived ∨ info.state = .paymentDispatched)
  forward : ∀ pre post id earlier later, pre ++ post = labels →
    (stateAfter ldk handler pre).entry id = some earlier → pool.shared.entry id = some later →
    Continues earlier later
  ended : ∀ pre between post id earlier, pre ++ between ++ post = labels →
    (stateAfter ldk handler pre).entry id = some earlier →
    (stateAfter ldk handler (pre ++ between)).entry id = none → pool.shared.entry id = none

/-- Payments live forward in every run with distinct payment ids. -/
theorem payments_live_forward (ldk : Library) (handler : OfferHandler)
    (labels : List LndkLabel) (pool : LndkPool)
    (run : Run (lndk ldk handler) .new distinctIds labels pool) :
    LivesForward ldk handler labels pool where
  consistent id info found := by
    rw [(run_lifecycle run).consistent id info found]
    cases info.state <;> simp
  forward := (run_remembers run).forward
  ended pre between post id earlier whole before absent :=
    ((run_remembers run).ended pre between post id earlier whole before absent).absent

def dispatchSchedule : List (Choice Sig Request) :=
  .spawn (.payOffer samplePayment) :: goOn 0 10 ++
    .spawn (sampleAnswer .twoPaths) :: goOn 1 1 ++ goOn 0 5

theorem payments_live_forward_dispatch :
    let reached := schedule (lndk (.plain .twoPaths) sampleHandler) dispatchSchedule
      ([], ⟨.new, []⟩)
    reached.2.shared.entry ⟨1⟩ = some ⟨.paymentDispatched, some .twoPaths⟩ ∧
      LivesForward (.plain .twoPaths) sampleHandler reached.1 reached.2 := by
  refine ⟨by decide, ?_⟩
  exact payments_live_forward _ _ _ _ (schedule_run dispatchSchedule .start (by decide))

end History

end LndkFormal.System
