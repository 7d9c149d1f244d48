import LndkFormal.Offers.Dispatch
import LndkFormal.Offers.Footprints
import LndkFormal.System.Logs
import LndkFormal.System.Requests

/-!
# What a status tells the client

A client of the gRPC server sees a result or a status, and from the status it has
to decide whether it may try again.  The monitor `extent` follows how far a request
has gone: whether it has done more than connect to LND, whether an invoice request
was queued, whether it has begun to pay, and the success that LND has reported last.
The code and the reason of a status bound how far it had gone.
-/

set_option autoImplicit false

namespace LndkFormal.System

open LndkFormal.Async
open LndkFormal.Lnd
open LndkFormal.Ldk
open LndkFormal.Offers
open LndkFormal.Server

def isGreeting : Event Sig → Bool
  | .call (.connectLnd _) _ => true
  | .call .getInfo _ => true
  | _ => false

def isQueueing : Event Sig → Bool
  | .access (.pushMessage _) _ => true
  | _ => false

structure Extent where
  greeting : Bool
  queued : Bool
  paying : Bool
  settled : Option Payment

def Extent.start : Extent := ⟨true, false, false, none⟩

def lastUpdate (before : Option Payment) : Event Sig → Option Payment
  | .call (.trackPaymentV2 _ _) (.ok stream) => finalUpdate stream
  | _ => before

def Extent.next (extent : Extent) (event : Event Sig) : Extent where
  greeting := extent.greeting && isGreeting event
  queued := extent.queued || isQueueing event
  paying := extent.paying || isPayment event
  settled := lastUpdate extent.settled event

def extent : Monitor Sig Extent where
  demand _ _ := True
  next := Extent.next
  panicOk _ := True

/-- LND has reported the payment as succeeded. -/
def Succeeded (log : List (Event Sig)) (payment : Payment) : Prop :=
  payment.status = .succeeded ∧ ∃ hash event, event ∈ log ∧ Reports hash payment event

/-- What the extent says about the events so far. -/
structure Extent.Sums (extent : Extent) (log : List (Event Sig)) : Prop where
  greeting : extent.greeting = true → ∀ event ∈ log, isGreeting event = true
  queued : extent.queued = false → ∀ event ∈ log, isQueueing event = false
  paying : extent.paying = false → ∀ event ∈ log, isPayment event = false
  settled : ∀ payment, extent.settled = some payment → ∃ hash event,
    event ∈ log ∧ Reports hash payment event

theorem Extent.sums_start : Extent.start.Sums [] :=
  ⟨by simp, by simp, by simp, by simp [Extent.start]⟩

theorem Extent.Sums.next {ghost : Extent} {log : List (Event Sig)} (sums : ghost.Sums log)
    (event : Event Sig) : (ghost.next event).Sums (log ++ [event]) := by
  refine ⟨?_, ?_, ?_, ?_⟩
  · intro still other member
    rw [Extent.next, Bool.and_eq_true] at still
    rcases List.mem_append.mp member with old | new
    · exact sums.greeting still.1 other old
    · rw [List.mem_singleton.mp new]
      exact still.2
  · intro still other member
    rw [Extent.next, Bool.or_eq_false_iff] at still
    rcases List.mem_append.mp member with old | new
    · exact sums.queued still.1 other old
    · rw [List.mem_singleton.mp new]
      exact still.2
  · intro still other member
    rw [Extent.next, Bool.or_eq_false_iff] at still
    rcases List.mem_append.mp member with old | new
    · exact sums.paying still.1 other old
    · rw [List.mem_singleton.mp new]
      exact still.2
  · intro payment reported
    have old : ghost.settled = some payment → ∃ hash event',
        event' ∈ log ++ [event] ∧ Reports hash payment event' := by
      intro before
      obtain ⟨hash, event', member, reports⟩ := sums.settled payment before
      exact ⟨hash, event', List.mem_append_left _ member, reports⟩
    unfold Extent.next lastUpdate at reported
    split at reported
    · exact ⟨_, _, List.mem_append_right _ (.head _), rfl, reported⟩
    · exact old reported

section Fetching

def Extent.Quiet (extent : Extent) : Prop := extent.queued = false ∧ extent.paying = false

theorem greeting_extent {α : Type} {Q : α → Prop} {p : Prog Sig α} (only : p.Only Greeting Q) :
    p.Satisfies extent (fun _ final => final = .start) .start := by
  refine (only.satisfies (I := fun ghost : Extent => ghost = .start) rfl ?_).mono
    fun _ _ kept => kept.1
  intro ghost event same greeting
  subst same
  cases event with
  | access op reply => exact greeting.elim
  | call request reply => cases request <;> first | exact greeting.elim | exact ⟨trivial, rfl⟩

theorem Extent.Quiet.fetching {ghost : Extent} {event : Event Sig} (quiet : ghost.Quiet)
    (fetching : Fetching event) (unqueued : isQueueing event = false) :
    (ghost.next event).Quiet := by
  refine ⟨by rw [Extent.next, quiet.1, unqueued]; rfl, ?_⟩
  have unpaid : isPayment event = false := by
    cases event with
    | access op reply => rfl
    | call request reply => cases request <;> first | rfl | exact fetching.elim
  rw [Extent.next, quiet.2, unpaid]
  rfl

theorem outreach_extent {α : Type} {p : Prog Sig α} {ghost : Extent} (within : p.Within Outreach)
    (quiet : ghost.Quiet) : p.Satisfies extent (fun _ final => final.Quiet) ghost := by
  refine within.keeps (I := Extent.Quiet) quiet ?_ fun _ _ => trivial
  intro ghost event quiet outreach
  have unqueued : isQueueing event = false := by
    cases event with
    | access op reply => exact outreach.elim
    | call request reply => rfl
  exact ⟨trivial, quiet.fetching (fetching_of_outreach event outreach) unqueued⟩

theorem Extent.unpaid_next {ghost : Extent} {event : Event Sig} (unpaid : ghost.paying = false)
    (aside : isPayment event = false) : (ghost.next event).paying = false := by
  rw [Extent.next, unpaid, aside]
  rfl

end Fetching

def Internal {α : Type} (result : Except OfferError α) : Prop :=
  ∀ e, result = .error e → e.grpcCode = .internal

theorem internal_ok {α : Type} (value : α) : Internal (.ok value) := by
  intro e impossible
  cases impossible

theorem internal_error {α : Type} {e : OfferError} (code : e.grpcCode = .internal) :
    Internal (.error e : Except OfferError α) := by
  intro other same
  cases same
  exact code

theorem Internal.error {α β : Type} {e : OfferError}
    (internal : Internal (.error e : Except OfferError α)) :
    Internal (.error e : Except OfferError β) :=
  internal_error (internal e rfl)

section Internal

variable (ldk : Library) (handler : OfferHandler)

theorem connectToPeer_internal (nodeId : PublicKey) :
    (connectToPeer ldk nodeId).Returns Internal := by
  refine Prog.returns_request_bind.mpr fun peers => ?_
  rcases peers with e | peers
  · exact internal_error rfl
  · dsimp only
    split
    · exact internal_ok ()
    · refine Prog.returns_request_bind.mpr fun info => ?_
      rcases info with e | info
      · exact internal_error rfl
      · dsimp only
        split
        · exact internal_error rfl
        · exact internal_error rfl
        · refine Prog.returns_request_bind.mpr fun connected => ?_
          cases connected with
          | error e => exact internal_error rfl
          | ok _ => exact internal_ok ()

theorem getNodeIdFromScid_internal (scid : UInt64) (direction : Direction) :
    (getNodeIdFromScid scid direction).Returns Internal := by
  refine Prog.returns_request_bind.mpr fun reply => ?_
  cases reply with
  | error e => exact internal_error rfl
  | ok info => cases direction <;> exact internal_ok _

theorem getNodeId_internal (scid : UInt64) (direction : Direction) :
    (getNodeId ldk scid direction).Returns Internal := by
  refine (getNodeIdFromScid_internal scid direction).andThen (fun e internal => internal.error) ?_
  intro pubkey _
  split
  · exact internal_ok _
  · exact internal_error rfl

theorem connectToDestination_internal (destination : Destination) :
    (connectToDestination ldk destination).Returns Internal := by
  unfold connectToDestination
  split
  · exact connectToPeer_internal ldk _
  · split
    · exact connectToPeer_internal ldk _
    · exact (getNodeId_internal ldk _ _).andThen (fun e internal => internal.error)
        fun pubkey _ => connectToPeer_internal ldk pubkey

theorem createReplyPath_internal (nodeId : PublicKey) (context : OffersContext) :
    (createReplyPathForOutgoingPayments ldk nodeId context).Returns Internal := by
  refine Prog.returns_request_bind.mpr fun peers => ?_
  rcases peers with e | peers
  · exact internal_error rfl
  · have found : (findIntroNode ldk peers).Returns fun _ => True :=
      Prog.satisfies_each_true _ ()
    refine found.bind fun intro _ => ?_
    cases intro
    all_goals
      refine Prog.returns_request_bind.mpr fun path => ?_
      cases path with
      | none => exact internal_error rfl
      | some path => exact internal_ok path

theorem sendInvoiceRequest_internal (destination : Destination) (invoiceRequest : InvoiceRequest)
    (context : OffersContext) :
    (sendInvoiceRequest ldk destination invoiceRequest context).Returns Internal := by
  refine (connectToDestination_internal ldk destination).andThen
    (fun e internal => internal.error) fun _ _ => ?_
  refine Prog.returns_request_bind.mpr fun info => ?_
  rcases info with e | info
  · trivial
  · dsimp only
    split
    · trivial
    · refine (createReplyPath_internal ldk _ context).andThen
        (fun e internal => internal.error) fun replyPath _ => ?_
      have resolved : (replyPathIntroNode ldk replyPath).Returns Internal := by
        unfold replyPathIntroNode
        split
        · exact internal_ok ()
        · exact (getNodeId_internal ldk _ _).andThen (fun e internal => internal.error)
            fun _ _ => internal_ok ()
      exact resolved.andThen (fun e internal => internal.error) fun _ _ => internal_ok _

end Internal

section Programs

variable (ldk : Library) (handler : OfferHandler)

/-- `get_invoice` pays nothing.  An error other than Internal comes before anything
has happened, and once the request is queued only the timeout is left. -/
def FetchTells {α : Type} (result : Except OfferError α) (final : Extent) : Prop :=
  final.paying = false ∧ ∀ e, result = .error e →
    (final = .start ∨ e.grpcCode = .internal) ∧
    (final.queued = false ∨ ∃ seconds, e = .invoiceTimeout seconds)

theorem createInvoiceRequest_extent (cfg : PayOfferParams) :
    (createInvoiceRequest ldk handler.expandedKey cfg.offer cfg.network cfg.amount
      cfg.payerNote).Satisfies extent
      (fun result final => final.Quiet ∧ ∀ e, result = .error e →
        final = .start ∨ e.grpcCode = .internal) .start := by
  unfold createInvoiceRequest
  split
  · exact ⟨⟨rfl, rfl⟩, fun _ _ => Or.inl rfl⟩
  · refine Prog.satisfies_request_bind.mpr fun id => ⟨trivial, ?_⟩
    refine Prog.satisfies_request_bind.mpr fun nonce => ⟨trivial, ?_⟩
    split
    · refine ⟨⟨rfl, rfl⟩, ?_⟩
      intro e same
      cases same
      exact Or.inr rfl
    · refine ⟨⟨rfl, rfl⟩, ?_⟩
      intro e impossible
      cases impossible

theorem fetchInvoice_extent (cfg : PayOfferParams) (invoiceRequest : InvoiceRequest)
    (id : PaymentId) (amount : UInt64) (context : OffersContext) {ghost : Extent}
    (quiet : ghost.Quiet) :
    (fetchInvoice ldk handler cfg invoiceRequest id amount context).Satisfies extent
      FetchTells ghost := by
  have sent := (outreach_extent
    (sendInvoiceRequest_within ldk cfg.destination invoiceRequest context) quiet).returns
    (sendInvoiceRequest_internal ldk cfg.destination invoiceRequest context)
  refine fetchInvoice_satisfies (W := fun ghost => ghost.paying = false) sent ?_ ?_ ⟨?_, ?_⟩
  · intro e final post
    have kept : (final.next (.access (.remove id) ())).Quiet := post.1.fetching trivial rfl
    refine ⟨trivial, kept.2, ?_⟩
    intro other same
    cases same
    exact ⟨Or.inr (post.2 e rfl), Or.inl kept.1⟩
  · exact fun message final post => ⟨trivial, Extent.unpaid_next post.1.2 rfl⟩
  · intro waiting unpaid invoice
    refine ⟨trivial, trivial, Extent.unpaid_next (Extent.unpaid_next unpaid rfl) rfl, ?_⟩
    intro e impossible
    cases impossible
  · intro waiting unpaid
    have checked : (waiting.next (.access (.readInvoice id) none)).paying = false :=
      Extent.unpaid_next unpaid rfl
    have late : ∀ final : Extent, final.paying = false →
        FetchTells (.error (.invoiceTimeout (invoiceTimeout handler cfg)) :
          Except OfferError (Bolt12Invoice × UInt64 × PaymentId)) final := by
      intro final unpaid
      refine ⟨unpaid, ?_⟩
      intro e same
      cases same
      exact ⟨Or.inr rfl, Or.inr ⟨_, rfl⟩⟩
    exact ⟨trivial, ⟨trivial, Extent.unpaid_next checked rfl⟩,
      ⟨trivial, trivial, late _ (Extent.unpaid_next (Extent.unpaid_next checked rfl) rfl)⟩,
      trivial, trivial, late _ (Extent.unpaid_next (Extent.unpaid_next checked rfl) rfl)⟩

theorem getInvoice_extent (cfg : PayOfferParams) :
    (getInvoice ldk handler cfg).Satisfies extent FetchTells .start := by
  refine getInvoice_satisfies (createInvoiceRequest_extent ldk handler cfg) ?_ ?_ ?_
  · intro e final post
    refine ⟨post.1.2, ?_⟩
    intro other same
    cases same
    exact ⟨post.2 e rfl, Or.inl post.1.1⟩
  · intro request id amount context final post
    have kept : (final.next (.access (.insertVacant id) false)).Quiet :=
      post.1.fetching trivial rfl
    refine ⟨trivial, kept.2, ?_⟩
    intro e same
    cases same
    exact ⟨Or.inr rfl, Or.inl kept.1⟩
  · intro request id amount context final post
    exact ⟨trivial, fetchInvoice_extent ldk handler cfg request id amount context
      (post.1.fetching trivial rfl)⟩

/-! ## Paying -/

def whilePaying : OfferError → Bool
  | .routeFailure _ => true
  | .paymentFailure => true
  | .getChannelInfo _ => true
  | _ => false

def PayTells (result : Except OfferError Payment) (final : Extent) : Prop :=
  match result with
  | .error e => whilePaying e = true
  | .ok payment => final.settled = some payment ∧ payment.status = .succeeded

theorem extent_any {α : Type} (p : Prog Sig α) (ghost : Extent) :
    p.Satisfies extent (fun _ _ => True) ghost := by
  have within : p.Within fun _ => True := Prog.satisfies_each_true p ()
  exact within.keeps (I := fun _ => True) trivial (fun _ _ _ _ => ⟨trivial, trivial⟩)
    fun _ _ => trivial

theorem introNodeId_fails (path : Ldk.BlindedPaymentPath) :
    (introNodeId ldk path).Returns fun result =>
      ∀ e, result = .error e → whilePaying e = true := by
  unfold introNodeId
  split
  · intro e impossible
    cases impossible
  · refine Prog.returns_request_bind.mpr fun reply => ?_
    cases reply with
    | error status =>
        intro e same
        cases same
        rfl
    | ok info =>
        rename_i direction _ _
        cases direction
        all_goals
          intro e impossible
          cases impossible

theorem sendPayment_fails (params : SendPaymentParams) :
    (sendPayment ldk params).Returns fun result =>
      ∀ e, result = .error e → whilePaying e = true := by
  have queried : (queryRoutes ldk params.path params.cltvExpiryDelta params.feeBaseMsat
      params.feePpm params.msats params.feeLimit).Returns fun _ => True :=
    Prog.satisfies_each_true _ ()
  refine queried.bind fun reply _ => ?_
  cases reply with
  | error status =>
      intro e same
      cases same
      rfl
  | ok resp =>
      dsimp only
      split
      · trivial
      · refine Prog.returns_request_bind.mpr fun sent => ?_
        cases sent with
        | error status =>
            intro e same
            cases same
            rfl
        | ok _ =>
            intro e impossible
            cases impossible

theorem trackPayment_extent (hash : PaymentHash) (ghost : Extent) :
    (trackPayment hash).Satisfies extent PayTells ghost := by
  have tracked : (InvoicePayer.trackPayment hash).Satisfies extent (fun result final =>
      ∀ payment, result = .ok payment →
        final.settled = some payment ∧ payment.status = .succeeded) ghost := by
    refine Prog.satisfies_request_bind.mpr fun reply => ⟨trivial, ?_⟩
    cases reply with
    | error status =>
        intro payment impossible
        cases impossible
    | ok stream =>
        intro payment same
        rcases settle_eq stream with ⟨reported, final, status, settled⟩ |
          ⟨reported, final, status, settled⟩ | ⟨final, e, settled⟩
        · rw [settled] at same
          cases same
          exact ⟨final, status⟩
        · rw [settled] at same
          cases same
        · rw [settled] at same
          cases same
  refine tracked.bind ?_
  intro result final post
  cases result with
  | error e => rfl
  | ok payment => exact post payment rfl

theorem payPaths_extent (amount : UInt64) (invoice : Bolt12Invoice) (id : PaymentId)
    (feeLimit : Option FeeLimit) (paths : List Ldk.BlindedPaymentPath)
    (lastError : Option OfferError) (ghost : Extent)
    (last : ∀ e, lastError = some e → whilePaying e = true) :
    (payPaths ldk amount invoice id feeLimit paths lastError).Satisfies extent PayTells
      ghost := by
  induction paths generalizing lastError ghost with
  | nil =>
      refine Prog.satisfies_enter_bind.mpr fun _ => ⟨trivial, ?_⟩
      cases lastError with
      | none => rfl
      | some e => exact last e rfl
  | cons path rest ih =>
      refine ((extent_any _ ghost).returns (introNodeId_fails ldk path)).andThen ?_ ?_
      · intro e final post
        exact post.2 e rfl
      · intro nodeId resolved _
        refine ((extent_any _ resolved).returns (sendPayment_fails ldk
          (sendPaymentParams amount invoice id feeLimit path))).bind ?_
        intro result sent post
        cases result with
        | error e =>
            apply ih
            intro other same
            cases same
            exact post.2 e rfl
        | ok _ =>
            refine Prog.satisfies_enter_bind.mpr fun _ => ⟨trivial, ?_⟩
            refine (trackPayment_extent invoice.paymentHash _).bind ?_
            intro result tracked post
            cases result with
            | error e =>
                apply ih
                intro other same
                cases same
                exact post
            | ok payment => exact Prog.satisfies_enter_bind.mpr fun _ => ⟨trivial, post⟩

theorem payInvoice_extent (amount : UInt64) (invoice : Bolt12Invoice) (id : PaymentId)
    (feeLimit : Option FeeLimit) (ghost : Extent) :
    (payInvoice ldk amount invoice id feeLimit).Satisfies extent PayTells ghost := by
  apply payPaths_extent
  intro e impossible
  cases impossible

end Programs

def payingReasons : List String := ["ROUTE_FAILURE", "PAYMENT_FAILURE", "GET_CHANNEL_INFO"]

def queuedReasons : List String :=
  ["INVOICE_TIMEOUT", "ENCODE_INVOICE_FAILURE"] ++ payingReasons

/-- What a result says about how far the request has gone. -/
structure ExtentTells (pays : Bool) (result : Except Status String) (final : Extent) :
    Prop where
  refused : ∀ status, result = .error status → status.code ≠ .internal →
    status.reason ≠ some "ENCODE_INVOICE_FAILURE" → final.greeting = true
  unqueued : ∀ status, result = .error status →
    (∀ reason ∈ queuedReasons, status.reason ≠ some reason) → final.queued = false
  unpaid : ∀ status, result = .error status →
    (∀ reason ∈ payingReasons, status.reason ≠ some reason) → final.paying = false
  fetches : pays = false → final.paying = false
  paid : pays = true → ∀ preimage, result = .ok preimage → ∃ payment,
    final.settled = some payment ∧ payment.status = .succeeded ∧
      payment.paymentPreimage = preimage

theorem extentTells_start (pays : Bool) (status : Status) :
    ExtentTells pays (.error status) .start := by
  refine ⟨fun _ _ _ _ => rfl, fun _ _ _ => rfl, fun _ _ _ => rfl, fun _ => rfl, ?_⟩
  intro _ preimage impossible
  cases impossible

theorem mem_payingReasons {e : OfferError} (paying : whilePaying e = true) :
    e.grpcCode = .internal ∧ e.code ∈ payingReasons := by
  cases e <;> simp_all [whilePaying, payingReasons, OfferError.grpcCode, OfferError.code]

theorem extentTells_fetching {α : Type} {pays : Bool} {e : OfferError} {final : Extent}
    (fetched : FetchTells (.error e : Except OfferError α) final) :
    ExtentTells pays (.error e.toStatus) final := by
  obtain ⟨unpaid, tells⟩ := fetched
  obtain ⟨early, unqueued⟩ := tells e rfl
  refine ⟨?_, ?_, fun _ _ _ => unpaid, fun _ => unpaid, ?_⟩
  · intro status same refusal _
    cases same
    rcases early with start | internal
    · rw [start]
      rfl
    · exact absurd internal refusal
  · intro status same other
    cases same
    rcases unqueued with unqueued | ⟨seconds, timeout⟩
    · exact unqueued
    · subst timeout
      exact absurd rfl (other "INVOICE_TIMEOUT" (by decide))
  · intro _ preimage impossible
    cases impossible

theorem extentTells_paying {e : OfferError} {final : Extent} (paying : whilePaying e = true) :
    ExtentTells true (.error e.toStatus) final := by
  obtain ⟨internal, listed⟩ := mem_payingReasons paying
  refine ⟨?_, ?_, ?_, ?_, ?_⟩
  · intro status same refusal _
    cases same
    exact absurd internal refusal
  · intro status same other
    cases same
    exact absurd rfl (other e.code (List.mem_append_right _ listed))
  · intro status same other
    cases same
    exact absurd rfl (other e.code listed)
  · intro impossible
    cases impossible
  · intro _ preimage impossible
    cases impossible

theorem extentTells_paid {payment : Payment} {final : Extent}
    (post : PayTells (.ok payment) final) :
    ExtentTells true (.ok payment.paymentPreimage) final := by
  refine ⟨?_, ?_, ?_, ?_, ?_⟩
  · intro status impossible
    cases impossible
  · intro status impossible
    cases impossible
  · intro status impossible
    cases impossible
  · intro impossible
    cases impossible
  · intro _ preimage same
    cases same
    exact ⟨payment, post.1, post.2, rfl⟩

theorem extentTells_encoded (ldk : Library) (invoice : Bolt12Invoice) {final : Extent}
    (unpaid : final.paying = false) :
    ExtentTells false ((encodeInvoiceAsHex ldk invoice).mapError OfferError.toStatus) final := by
  refine ⟨?_, ?_, fun _ _ _ => unpaid, fun _ => unpaid, ?_⟩
  · intro status failed _ other
    unfold encodeInvoiceAsHex at failed
    split at failed
    · cases failed
    · cases failed
      exact absurd rfl other
  · intro status failed other
    unfold encodeInvoiceAsHex at failed
    split at failed
    · cases failed
    · cases failed
      exact absurd rfl (other "ENCODE_INVOICE_FAILURE" (by decide))
  · intro impossible
    cases impossible

section Requests

variable (ldk : Library) (handler : OfferHandler)

theorem payOfferRpc_extent (rpc : PayOfferRequest) :
    (payOfferRpc ldk handler rpc).Satisfies extent (ExtentTells true) .start := by
  refine (greeting_extent (connect_only rpc.metadata)).andThen ?_ ?_
  · intro status final start
    rw [start]
    exact extentTells_start true status
  intro _ greeted start
  rw [start]
  refine (greeting_extent (readOffer_only ldk rpc.offer)).andThen ?_ ?_
  · intro status final start
    rw [start]
    exact extentTells_start true status
  intro (offer, destination, network) read start
  rw [start]
  have paid : (payOffer ldk handler
      { offer, amount := rpc.amount, payerNote := rpc.payerNote, network, destination
        responseInvoiceTimeout := rpc.responseInvoiceTimeout
        feeLimit := createFeeLimit rpc.feeLimit rpc.feeLimitPercent }).Satisfies extent
      (fun result final => match result with
        | .error e => ExtentTells true (.error e.toStatus) final
        | .ok payment => PayTells (.ok payment) final) .start := by
    refine (getInvoice_extent ldk handler _).andThen ?_ ?_
    · intro e final post
      exact extentTells_fetching post
    · intro (invoice, amount, id) fetched _
      refine (payInvoice_extent ldk amount invoice id _ fetched).mono ?_
      intro result final post
      cases result with
      | error e => exact extentTells_paying post
      | ok payment => exact post
  refine paid.mapErrorThen ?_ ?_
  · intro e final post
    exact post
  · intro payment final post
    exact extentTells_paid post

theorem getInvoiceRpc_extent (rpc : GetInvoiceRequest) :
    (getInvoiceRpc ldk handler rpc).Satisfies extent (ExtentTells false) .start := by
  refine (greeting_extent (connect_only rpc.metadata)).andThen ?_ ?_
  · intro status final start
    rw [start]
    exact extentTells_start false status
  intro _ greeted start
  rw [start]
  refine (greeting_extent (readOffer_only ldk rpc.offer)).andThen ?_ ?_
  · intro status final start
    rw [start]
    exact extentTells_start false status
  intro (offer, destination, network) read start
  rw [start]
  refine (getInvoice_extent ldk handler _).mapErrorThen ?_ ?_
  · intro e final post
    exact extentTells_fetching post
  · intro (invoice, _, id) final post
    refine Prog.satisfies_enter_bind.mpr fun _ => ⟨trivial, ?_⟩
    exact extentTells_encoded ldk invoice (by simp [extent, Extent.next, isPayment, post.1])

theorem payInvoiceRpc_extent (rpc : PayInvoiceRequest) :
    (payInvoiceRpc ldk rpc).Satisfies extent (ExtentTells true) .start := by
  have args : (payInvoiceArgs ldk rpc).Satisfies extent
      (fun result final => ∀ status, result = .error status → final = .start) .start := by
    refine (greeting_extent (connect_only rpc.metadata)).andThen ?_ ?_
    · intro status final start _ _
      exact start
    intro _ greeted start
    rw [start]
    refine Prog.satisfies_checked (fun _ _ _ _ => rfl) fun invoice _ => ?_
    refine Prog.satisfies_checked (fun _ _ _ _ => rfl) fun amount _ => ?_
    refine Prog.satisfies_request_bind.mpr fun id => ⟨trivial, ?_⟩
    intro status impossible
    cases impossible
  refine args.andThen ?_ ?_
  · intro status final start
    rw [start status rfl]
    exact extentTells_start true status
  · intro args ready _
    refine (payInvoice_extent ldk args.amount args.invoice args.paymentId args.feeLimit
      ready).mapErrorThen ?_ ?_
    · intro e final post
      exact extentTells_paying post
    · intro payment final post
      exact extentTells_paid post

/-- What holds when a gRPC request is answered; of other requests nothing is asked. -/
def RpcTells (request : Request) (outcome : Outcome) (final : Extent) : Prop :=
  ∀ result, outcome = .rpc result → ExtentTells request.pays result final

theorem rpcTells_bind {request : Request} {p : Prog Sig (Except Status String)}
    (proved : p.Satisfies extent (ExtentTells request.pays) .start) :
    (p >>= fun result => Prog.ret (Outcome.rpc result)).Satisfies extent (RpcTells request)
      .start := by
  refine proved.bind ?_
  intro result final tells other same
  cases same
  exact tells

theorem other_bind {α : Type} (request : Request) (p : Prog Sig α) (f : α → Outcome)
    (other : ∀ value result, f value ≠ .rpc result) :
    (p >>= fun value => Prog.ret (f value)).Satisfies extent (RpcTells request) .start := by
  refine (extent_any p .start).bind ?_
  intro value final _ result same
  exact absurd same (other value result)

theorem start_extent (request : Request) :
    (start ldk handler request).Satisfies extent (RpcTells request) .start := by
  cases request with
  | payOfferRpc rpc => exact rpcTells_bind (payOfferRpc_extent ldk handler rpc)
  | getInvoiceRpc rpc => exact rpcTells_bind (getInvoiceRpc_extent ldk handler rpc)
  | payInvoiceRpc rpc => exact rpcTells_bind (payInvoiceRpc_extent ldk rpc)
  | _ => exact other_bind _ _ _ (by simp)

end Requests

/-! ## Every run -/

/-- What the client of a gRPC request knows from its result: an error with a code other
than Internal has touched nothing; an error with other reasons than those of paying has
asked for no route and sent nothing; GetInvoice never pays; and a preimage is one that
LND has reported with a success. -/
structure StatusTells (request : Request) (result : Except Status String)
    (log : List (Event Sig)) : Prop where
  refused : ∀ status, result = .error status → status.code ≠ .internal →
    status.reason ≠ some "ENCODE_INVOICE_FAILURE" → ∀ event ∈ log, isGreeting event = true
  unqueued : ∀ status, result = .error status →
    (∀ reason ∈ queuedReasons, status.reason ≠ some reason) →
    ∀ event ∈ log, isQueueing event = false
  unpaid : ∀ status, result = .error status →
    (∀ reason ∈ payingReasons, status.reason ≠ some reason) →
    ∀ event ∈ log, isPayment event = false
  fetches : request.pays = false → ∀ event ∈ log, isPayment event = false
  paid : request.pays = true → ∀ preimage, result = .ok preimage → ∃ payment,
    Succeeded log payment ∧ payment.paymentPreimage = preimage

theorem start_statusTells {ldk : Library} {handler : OfferHandler} {request : Request}
    {log : List (Event Sig)} {result : Except Status String}
    (run : Reaches (start ldk handler request) log (.ret (.rpc result))) :
    StatusTells request result log := by
  obtain ⟨along, tells⟩ := satisfies_reaches (start_extent ldk handler request) run
  have final := tells result rfl
  have sums := Monitor.along_invariant _ (I := fun (reached : Extent) log => reached.Sums log)
    Extent.sums_start (fun _ _ event sums _ => sums.next event) along
  refine ⟨?_, ?_, ?_, ?_, ?_⟩
  · intro status failed code reason
    exact sums.greeting (final.refused status failed code reason)
  · intro status failed other
    exact sums.queued (final.unqueued status failed other)
  · intro status failed other
    exact sums.paying (final.unpaid status failed other)
  · intro fetches
    exact sums.paying (final.fetches fetches)
  · intro pays preimage paid
    obtain ⟨payment, settled, succeeded, same⟩ := final.paid pays preimage paid
    exact ⟨payment, ⟨succeeded, sums.settled payment settled⟩, same⟩

theorem rpc_statusTells (ldk : Library) (handler : OfferHandler) (labels : List LndkLabel)
    (pool : LndkPool) (run : Run (lndk ldk handler) .new anyStep labels pool) (i : Nat)
    (task : LndkTask) (found : pool.tasks[i]? = some task) (result : Except Status String)
    (answered : task.prog = .ret (.rpc result)) :
    StatusTells task.request result task.log := by
  have reached := run.task_reaches found
  rw [answered] at reached
  exact start_statusTells reached

def paidSchedule : List (Choice Sig Request) :=
  .spawn (.payInvoiceRpc ⟨.macaroon "", "", some 1000, none, none⟩) :: goOn 0 7

theorem rpc_statusTells_paid :
    ∃ (labels : List LndkLabel) (pool : LndkPool) (task : LndkTask),
      Run (lndk (.plain .twoPaths) sampleHandler) .new anyStep labels pool ∧
      pool.tasks[0]? = some task ∧ task.prog = .ret (.rpc (.ok "00")) ∧
      ∃ payment, Succeeded task.log payment ∧ payment.paymentPreimage = "00" := by
  have run := schedule_run paidSchedule .start
    (permitted_anyStep (M := lndk (.plain .twoPaths) sampleHandler) _ ([], ⟨.new, []⟩))
  obtain ⟨task, found, answered, pays⟩ : ∃ task,
      (schedule (lndk (.plain .twoPaths) sampleHandler) paidSchedule
        ([], ⟨.new, []⟩)).2.tasks[0]? = some task ∧ task.prog = .ret (.rpc (.ok "00")) ∧
      task.request.pays = true := ⟨_, rfl, rfl, rfl⟩
  refine ⟨_, _, task, run, found, answered, ?_⟩
  exact (rpc_statusTells _ _ _ _ run 0 task found _ answered).paid pays "00" rfl

end LndkFormal.System
