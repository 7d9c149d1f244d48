import LndkFormal.Offers.Footprints
import LndkFormal.Server.Amounts
import LndkFormal.System.Requests

/-!
# Fee limits

A PayOffer or PayInvoice request can set a fixed limit on routing fees, a
percentage, or both.  `create_fee_limit` makes one limit of the two fields, and
every query for routes on behalf of the request carries that limit.
-/

set_option autoImplicit false

namespace LndkFormal.System

open LndkFormal.Async
open LndkFormal.Lnd
open LndkFormal.Ldk
open LndkFormal.Offers
open LndkFormal.Server

def LimitedBy (limit : Option FeeLimit) : Event Sig → Prop
  | .call (.queryRoutes request) _ => request.feeLimit = limit
  | _ => True

section Limited

variable {limit : Option FeeLimit}

theorem limitedBy_of_greeting (event : Event Sig) (greeting : Greeting event) :
    LimitedBy limit event := by
  cases event with
  | access op reply => exact greeting.elim
  | call request reply => cases request <;> first | exact greeting.elim | trivial

theorem limitedBy_of_fetching (event : Event Sig) (fetching : Fetching event) :
    LimitedBy limit event := by
  cases event with
  | access op reply => trivial
  | call request reply => cases request <;> first | exact fetching.elim | trivial

theorem limitedBy_of_paying {id : PaymentId} (event : Event Sig) (paying : Paying limit id event) :
    LimitedBy limit event := by
  cases event with
  | access op reply => trivial
  | call request reply => cases request <;> first | exact paying | trivial

end Limited

section Programs

variable (ldk : Library) (handler : OfferHandler)

theorem connect_limited (limit : Option FeeLimit) (metadata : Metadata) :
    (connect metadata).Within (LimitedBy limit) :=
  (connect_only metadata).within.mono limitedBy_of_greeting

theorem payInvoice_limited (amount : UInt64) (invoice : Bolt12Invoice) (id : PaymentId)
    (limit : Option FeeLimit) :
    (payInvoice ldk amount invoice id limit).Within (LimitedBy limit) :=
  (payPaths_within ldk amount invoice invoice.paymentPaths none).mono limitedBy_of_paying

theorem payOfferRpc_limited (rpc : PayOfferRequest) :
    (payOfferRpc ldk handler rpc).Within
      (LimitedBy (createFeeLimit rpc.feeLimit rpc.feeLimitPercent)) := by
  refine (connect_limited _ rpc.metadata).andThen fun _ => ?_
  refine ((readOffer_only ldk rpc.offer).within.mono limitedBy_of_greeting).andThen ?_
  rintro ⟨offer, destination, network⟩
  refine Prog.Within.mapErrorThen ?_ fun _ => trivial
  refine ((getInvoice_within ldk handler _).mono limitedBy_of_fetching).andThen ?_
  rintro ⟨invoice, amount, id⟩
  exact payInvoice_limited ldk amount invoice id _

theorem payInvoiceArgs_limited (rpc : PayInvoiceRequest) :
    (payInvoiceArgs ldk rpc).Satisfies
      (.each (LimitedBy (createFeeLimit rpc.feeLimit rpc.feeLimitPercent)))
      (fun result _ => ∀ args, result = .ok args →
        args.feeLimit = createFeeLimit rpc.feeLimit rpc.feeLimitPercent) () := by
  refine Prog.Satisfies.andThen (connect_limited _ rpc.metadata) (fun _ _ _ => nofun) ?_
  intro _ _ _
  refine Prog.satisfies_checked (fun _ _ => nofun) fun invoice _ => ?_
  refine Prog.satisfies_checked (fun _ _ => nofun) fun amount _ => ?_
  refine Prog.satisfies_request_bind.mpr fun id => ⟨trivial, ?_⟩
  rintro _ ⟨⟩
  rfl

theorem payInvoiceRpc_limited (rpc : PayInvoiceRequest) :
    (payInvoiceRpc ldk rpc).Within
      (LimitedBy (createFeeLimit rpc.feeLimit rpc.feeLimitPercent)) := by
  refine (payInvoiceArgs_limited ldk rpc).andThen (fun _ _ _ => trivial) ?_
  intro args _ limited
  rw [← limited args rfl]
  exact (payInvoice_limited ldk args.amount args.invoice args.paymentId args.feeLimit).mapErrorThen
    fun _ => trivial

end Programs

/-! ## The limits of a request -/

/-- The two fields of a request that pays, fixed in millisatoshi and in percent. -/
def Request.feeLimits : Request → Option (Option UInt32 × Option UInt32)
  | .payOfferRpc rpc => some (rpc.feeLimit, rpc.feeLimitPercent)
  | .payInvoiceRpc rpc => some (rpc.feeLimit, rpc.feeLimitPercent)
  | _ => none

/-- The limit sent to LND has the kind and the value of one that was set. -/
def CarriesLimit (fixed percent : Option UInt32) (sent : Option FeeLimit) : Prop :=
  (∃ msats value, fixed = some msats ∧ sent = some ⟨some (.fixedMsat value)⟩ ∧
    value.toInt = msats.toNat) ∨
  ∃ share value, percent = some share ∧ sent = some ⟨some (.percent value)⟩ ∧
    value.toInt = share.toNat

theorem toInt64_toInt_of_uint32 (value : UInt32) :
    value.toUInt64.toInt64.toInt = value.toNat := by
  have small : value.toUInt64.toNat < 2 ^ 63 := by
    rw [UInt32.toNat_toUInt64]
    have bound := value.toNat_lt
    omega
  rw [← UInt32.toNat_toUInt64]
  exact (toInt64_eq_iff _ _).mpr ⟨small, rfl⟩

/-- Of one field a limit is made, of two none. -/
theorem carriesLimit_createFeeLimit_iff {fixed percent : Option UInt32}
    (set : fixed.isSome = true ∨ percent.isSome = true) :
    CarriesLimit fixed percent (createFeeLimit fixed percent) ↔
      ¬ (fixed.isSome = true ∧ percent.isSome = true) := by
  rcases fixed with _ | msats <;> rcases percent with _ | share
  · simp at set
  · simp [CarriesLimit, createFeeLimit, toInt64_toInt_of_uint32]
  · simp [CarriesLimit, createFeeLimit, toInt64_toInt_of_uint32]
  · simp [CarriesLimit, createFeeLimit]

theorem start_limited (ldk : Library) (handler : OfferHandler) {request : Request}
    {fixed percent : Option UInt32} (limits : request.feeLimits = some (fixed, percent)) :
    (start ldk handler request).Within (LimitedBy (createFeeLimit fixed percent)) := by
  cases request with
  | payOfferRpc rpc =>
      cases limits
      exact (payOfferRpc_limited ldk handler rpc).bind fun _ => trivial
  | payInvoiceRpc rpc =>
      cases limits
      exact (payInvoiceRpc_limited ldk rpc).bind fun _ => trivial
  | _ => cases limits

/-- In every run, the queries for routes of a request that sets a limit carry a
limit it set exactly if it did not set both. -/
theorem queried_carriesLimit_iff (ldk : Library) (handler : OfferHandler)
    (labels : List LndkLabel) (pool : LndkPool)
    (run : Run (lndk ldk handler) .new anyStep labels pool) (i : Nat) (task : LndkTask)
    (found : pool.tasks[i]? = some task) (fixed percent : Option UInt32)
    (limits : task.request.feeLimits = some (fixed, percent))
    (set : fixed.isSome = true ∨ percent.isSome = true) (routes : QueryRoutesRequest)
    (reply : Except Status QueryRoutesResponse)
    (queried : .call (.queryRoutes routes) reply ∈ task.log) :
    CarriesLimit fixed percent routes.feeLimit ↔
      ¬ (fixed.isSome = true ∧ percent.isSome = true) := by
  have same : routes.feeLimit = createFeeLimit fixed percent :=
    within_reaches (start_limited ldk handler limits) (run.task_reaches found) _ queried
  rw [same]
  exact carriesLimit_createFeeLimit_iff set

def limitedRequest (fixed percent : Option UInt32) : PayInvoiceRequest :=
  ⟨.macaroon "", "", some 1000, fixed, percent⟩

def querySchedule (fixed percent : Option UInt32) : List (Choice Sig Request) :=
  .spawn (.payInvoiceRpc (limitedRequest fixed percent)) :: goOn 0 3

theorem querySchedule_queries (fixed percent : Option UInt32) :
    ∃ task routes reply,
      (schedule (lndk (.plain .twoPaths) sampleHandler) (querySchedule fixed percent)
        ([], ⟨.new, []⟩)).2.tasks[0]? = some task ∧
      task.request.feeLimits = some (fixed, percent) ∧
      .call (.queryRoutes routes) reply ∈ task.log ∧
      routes.feeLimit = createFeeLimit fixed percent :=
  ⟨_, _, _, rfl, rfl, .tail _ (.tail _ (.head _)), rfl⟩

theorem queried_carriesLimit_fixed :
    ∃ (labels : List LndkLabel) (pool : LndkPool) (task : LndkTask) (routes : QueryRoutesRequest)
        (reply : Except Status QueryRoutesResponse),
      Run (lndk (.plain .twoPaths) sampleHandler) .new anyStep labels pool ∧
      pool.tasks[0]? = some task ∧ task.request.feeLimits = some (some 7, none) ∧
      .call (.queryRoutes routes) reply ∈ task.log ∧
      CarriesLimit (some 7) none routes.feeLimit := by
  obtain ⟨task, routes, reply, found, limits, queried, -⟩ := querySchedule_queries (some 7) none
  have run := schedule_run (querySchedule (some 7) none) .start
    (permitted_anyStep (M := lndk (.plain .twoPaths) sampleHandler) _ ([], ⟨.new, []⟩))
  refine ⟨_, _, task, routes, reply, run, found, limits, queried, ?_⟩
  exact (queried_carriesLimit_iff _ _ _ _ run 0 task found _ _ limits (.inl rfl) routes reply
    queried).mpr (by decide)

/-- A client that sets both fields sets no limit. -/
theorem queried_unlimited_both :
    ¬ ∀ (labels : List LndkLabel) (pool : LndkPool) (i : Nat) (task : LndkTask)
        (fixed percent : Option UInt32) (routes : QueryRoutesRequest)
        (reply : Except Status QueryRoutesResponse),
      Run (lndk (.plain .twoPaths) sampleHandler) .new anyStep labels pool →
      pool.tasks[i]? = some task → task.request.feeLimits = some (fixed, percent) →
      fixed.isSome = true ∨ percent.isSome = true →
      .call (.queryRoutes routes) reply ∈ task.log →
      CarriesLimit fixed percent routes.feeLimit := by
  intro claim
  obtain ⟨task, routes, reply, found, limits, queried, unlimited⟩ :=
    querySchedule_queries (some 7) (some 1)
  have run := schedule_run (querySchedule (some 7) (some 1)) .start
    (permitted_anyStep (M := lndk (.plain .twoPaths) sampleHandler) _ ([], ⟨.new, []⟩))
  have carried := claim _ _ 0 task _ _ routes reply run found limits (.inl rfl) queried
  rw [unlimited] at carried
  rcases carried with ⟨_, _, _, same, _⟩ | ⟨_, _, _, same, _⟩
  · cases same
  · cases same

end LndkFormal.System
