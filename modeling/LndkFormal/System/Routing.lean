import LndkFormal.Offers.Dispatch
import LndkFormal.System.QueriedAmounts
import LndkFormal.System.Statuses

/-!
# The routes that are paid along

A payment goes along a route that LND itself has proposed.  The monitor `routing`
follows one request: the invoice it pays, the queries for routes it has made, its
last event, and whether LND has reported a success.  From what it demands follows
that the queries go through the payment paths of one invoice in their order, that
each route sent along is the first one of the answer right before, and that
nothing is asked for after a success.
-/

set_option autoImplicit false

namespace LndkFormal.System

open LndkFormal.Async
open LndkFormal.Lnd
open LndkFormal.Ldk
open LndkFormal.Offers
open LndkFormal.Server

def queryOf : Event Sig → Option QueryRoutesRequest
  | .call (.queryRoutes query) _ => some query
  | _ => none

def queriesOf (log : List (Event Sig)) : List QueryRoutesRequest := log.filterMap queryOf

def QueriedEach (amount : UInt64) (feeLimit : Option FeeLimit) :
    List Ldk.BlindedPaymentPath → List QueryRoutesRequest → Prop :=
  List.Forall₂ fun path query => ∃ node, query = queryFor amount path node feeLimit

/-- The queries go through payment paths of the invoice in their order, each path at
most once, with one amount and one fee limit. -/
def Follows (invoice : Bolt12Invoice) (queries : List QueryRoutesRequest) : Prop :=
  ∃ amount feeLimit used, List.Sublist used invoice.paymentPaths ∧
    QueriedEach amount feeLimit used queries

def reportsSuccess : Event Sig → Bool
  | .call (.trackPaymentV2 _ _) (.ok stream) =>
      (finalUpdate stream).any fun payment => payment.status = .succeeded
  | _ => false

structure Routing where
  invoice : Option Bolt12Invoice
  queries : List QueryRoutesRequest
  last : Option (Event Sig)
  succeeded : Bool

def invoiceAfter (before : Option Bolt12Invoice) : Event Sig → Option Bolt12Invoice
  | .access (.readInvoice _) (some invoice) => some invoice
  | _ => before

def Routing.next (ghost : Routing) (event : Event Sig) : Routing where
  invoice := invoiceAfter ghost.invoice event
  queries := ghost.queries ++ (queryOf event).toList
  last := some event
  succeeded := ghost.succeeded || reportsSuccess event

/-- `reads` says whether the request takes its invoice from the map. -/
def Routing.Demands (reads : Bool) (ghost : Routing) : Event Sig → Prop
  | .access (.readInvoice _) _ => reads = true ∧ ghost.queries = []
  | .call (.queryRoutes query) _ => ghost.succeeded = false ∧
      ∃ invoice, ghost.invoice = some invoice ∧ Follows invoice (ghost.queries ++ [query])
  | .call (.sendToRouteV2 hash route) _ => ghost.succeeded = false ∧
      (∃ invoice, ghost.invoice = some invoice ∧ hash = invoice.paymentHash) ∧
      ∃ query routes, ghost.last = some (.call (.queryRoutes query) (.ok ⟨route :: routes⟩))
  | .call (.trackPaymentV2 _ _) _ => ghost.succeeded = false
  | _ => True

def routing (reads : Bool) : Monitor Sig Routing where
  demand := Routing.Demands reads
  next := Routing.next
  panicOk _ := True

def Unrouted : Event Sig → Prop
  | .access _ _ => False
  | .call (.queryRoutes _) _ => False
  | .call (.sendToRouteV2 _ _) _ => False
  | .call (.trackPaymentV2 _ _) _ => False
  | .call _ _ => True

theorem unrouted_of_greeting (event : Event Sig) (greeting : Greeting event) :
    Unrouted event := by
  cases event with
  | access op reply => exact greeting.elim
  | call request reply => cases request <;> first | exact greeting.elim | trivial

theorem unrouted_of_outreach (event : Event Sig) (outreach : Outreach event) :
    Unrouted event := by
  cases event with
  | access op reply => exact outreach.elim
  | call request reply => cases request <;> first | exact outreach.elim | trivial

theorem unrouted_of_drawing (event : Event Sig) (drawing : Drawing event) : Unrouted event := by
  cases event with
  | access op reply => exact drawing.elim
  | call request reply => cases request <;> first | exact drawing.elim | trivial

theorem unrouted_of_channelLookup (event : Event Sig) (lookup : ChannelLookup event) :
    Unrouted event :=
  unrouted_of_outreach event (outreach_of_lookup event (lookup_of_channelLookup event lookup))

def Routing.Fresh (invoice : Option Bolt12Invoice) (ghost : Routing) : Prop :=
  ghost.invoice = invoice ∧ ghost.queries = [] ∧ ghost.succeeded = false

section Fresh

variable {reads : Bool} {invoice : Option Bolt12Invoice} {ghost : Routing}

theorem Routing.Fresh.next {event : Event Sig} (fresh : ghost.Fresh invoice)
    (unasked : queryOf event = none) (unreported : reportsSuccess event = false)
    (unread : invoiceAfter invoice event = invoice) : (ghost.next event).Fresh invoice := by
  obtain ⟨same, none, open_⟩ := fresh
  refine ⟨by rw [Routing.next, same, unread], ?_, ?_⟩
  · simp [Routing.next, none, unasked]
  · simp [Routing.next, open_, unreported]

/-- From now on the invoice is the one that was read. -/
theorem Routing.Fresh.read (fresh : ghost.Fresh none) (id : PaymentId) (invoice : Bolt12Invoice) :
    (ghost.next (.access (.readInvoice id) (some invoice))).Fresh (some invoice) := by
  obtain ⟨_, none, open_⟩ := fresh
  refine ⟨rfl, ?_, ?_⟩
  · simp [Routing.next, none, queryOf]
  · simp [Routing.next, open_, reportsSuccess]

theorem Routing.Fresh.unrouted {event : Event Sig} (fresh : ghost.Fresh invoice)
    (unrouted : Unrouted event) : (routing reads).Steps event (Routing.Fresh invoice) ghost := by
  cases event with
  | access op reply => exact unrouted.elim
  | call request reply =>
      cases request <;>
        first | exact unrouted.elim | exact ⟨trivial, fresh.next rfl rfl rfl⟩

theorem unrouted_fresh {α : Type} {p : Prog Sig α} (within : p.Within Unrouted)
    (fresh : ghost.Fresh invoice) :
    p.Satisfies (routing reads) (fun _ final => final.Fresh invoice) ghost := by
  exact within.keeps fresh (fun _ _ fresh unrouted => fresh.unrouted unrouted) fun _ _ => trivial

end Fresh

section Programs

variable (ldk : Library) (handler : OfferHandler)

def TookRead {α : Type} (result : Except OfferError (Bolt12Invoice × α)) (final : Routing) :
    Prop :=
  ∀ invoice rest, result = .ok (invoice, rest) → final.Fresh (some invoice)

theorem tookRead_error {α : Type} (e : OfferError) (final : Routing) :
    TookRead (.error e : Except OfferError (Bolt12Invoice × α)) final := by
  intro invoice rest impossible
  cases impossible

theorem getInvoice_routing (cfg : PayOfferParams) {ghost : Routing} (fresh : ghost.Fresh none) :
    (getInvoice ldk handler cfg).Satisfies (routing true) TookRead ghost := by
  have created := (createInvoiceRequest_within ldk handler cfg).mono unrouted_of_drawing
  refine getInvoice_satisfies (unrouted_fresh created fresh)
    (fun e final _ => tookRead_error e final) ?_ ?_
  · exact fun _ _ _ _ _ _ => ⟨trivial, tookRead_error _ _⟩
  · intro request id amount context drawn fresh
    have claimed : (drawn.next (.access (.insertVacant id) true)).Fresh none :=
      fresh.next rfl rfl rfl
    have asked := (sendInvoiceRequest_within ldk cfg.destination request context).mono
      unrouted_of_outreach
    refine ⟨trivial, fetchInvoice_satisfies (W := Routing.Fresh none)
      (unrouted_fresh asked claimed) ?_ ?_ ⟨?_, ?_⟩⟩
    · exact fun _ _ _ => ⟨trivial, tookRead_error _ _⟩
    · exact fun _ _ fresh => ⟨trivial, fresh.next rfl rfl rfl⟩
    · intro waiting fresh invoice
      refine ⟨⟨rfl, fresh.2.1⟩, trivial, ?_⟩
      intro other rest same
      cases same
      exact (fresh.read id invoice).next rfl rfl rfl
    · intro waiting fresh
      have after : (waiting.next (.access (.readInvoice id) none)).Fresh none :=
        fresh.next rfl rfl rfl
      exact ⟨⟨rfl, fresh.2.1⟩, ⟨trivial, after.next rfl rfl rfl⟩,
        ⟨trivial, trivial, tookRead_error _ _⟩, trivial, trivial, tookRead_error _ _⟩

/-! ## Paying -/

/-- The queries so far went through some of these paths of the invoice, and no success
is reported. -/
def Routing.Asks (invoice : Bolt12Invoice) (amount : UInt64) (feeLimit : Option FeeLimit)
    (tried : List Ldk.BlindedPaymentPath) (ghost : Routing) : Prop :=
  ghost.invoice = some invoice ∧ ghost.succeeded = false ∧
    ∃ used, List.Sublist used tried ∧ QueriedEach amount feeLimit used ghost.queries

section Asks

variable {reads : Bool} {amount : UInt64} {invoice : Bolt12Invoice}
  {feeLimit : Option FeeLimit} {tried : List Ldk.BlindedPaymentPath} {ghost : Routing}

theorem Routing.Asks.more (asks : ghost.Asks invoice amount feeLimit tried)
    (path : Ldk.BlindedPaymentPath) : ghost.Asks invoice amount feeLimit (tried ++ [path]) := by
  obtain ⟨same, open_, used, sub, queried⟩ := asks
  exact ⟨same, open_, used, sub.trans (List.sublist_append_left _ _), queried⟩

theorem Routing.Asks.next {event : Event Sig} (asks : ghost.Asks invoice amount feeLimit tried)
    (unasked : queryOf event = none) (unreported : reportsSuccess event = false)
    (unread : invoiceAfter (some invoice) event = some invoice) :
    (ghost.next event).Asks invoice amount feeLimit tried := by
  obtain ⟨same, open_, used, sub, queried⟩ := asks
  refine ⟨by rw [Routing.next, same, unread], ?_, used, sub, ?_⟩
  · simp [Routing.next, open_, unreported]
  · simpa [Routing.next, unasked] using queried

theorem QueriedEach.append {used : List Ldk.BlindedPaymentPath}
    {queries : List QueryRoutesRequest} (queried : QueriedEach amount feeLimit used queries)
    (path : Ldk.BlindedPaymentPath) (node : PublicKey) :
    QueriedEach amount feeLimit (used ++ [path])
      (queries ++ [queryFor amount path node feeLimit]) := by
  unfold QueriedEach at queried ⊢
  induction queried with
  | nil => exact .cons ⟨node, rfl⟩ .nil
  | cons first _ ih => exact .cons first ih

theorem Routing.Asks.query {path : Ldk.BlindedPaymentPath}
    {rest : List Ldk.BlindedPaymentPath} (asks : ghost.Asks invoice amount feeLimit tried)
    (whole : invoice.paymentPaths = tried ++ path :: rest) (node : PublicKey)
    (reply : Except Status QueryRoutesResponse) :
    (routing reads).demand ghost (.call (.queryRoutes (queryFor amount path node feeLimit)) reply) ∧
      (ghost.next (.call (.queryRoutes (queryFor amount path node feeLimit)) reply)).Asks invoice
        amount feeLimit (tried ++ [path]) := by
  obtain ⟨same, open_, used, sub, queried⟩ := asks
  have longer : List.Sublist (used ++ [path]) (tried ++ [path]) := sub.append (.refl _)
  have listed : List.Sublist (used ++ [path]) invoice.paymentPaths := by
    rw [whole]
    exact sub.append (List.Sublist.cons_cons path (List.nil_sublist rest))
  have each := queried.append path node
  refine ⟨⟨open_, invoice, same, amount, feeLimit, used ++ [path], listed, each⟩, ?_⟩
  exact ⟨same, by simp [Routing.next, open_, reportsSuccess], used ++ [path], longer, each⟩

theorem unrouted_asks {α : Type} {p : Prog Sig α} (within : p.Within Unrouted)
    (asks : ghost.Asks invoice amount feeLimit tried) :
    p.Satisfies (routing reads) (fun _ final => final.Asks invoice amount feeLimit tried)
      ghost := by
  refine within.keeps (I := Routing.Asks invoice amount feeLimit tried) asks ?_ fun _ _ => trivial
  intro ghost event asks unrouted
  cases event with
  | access op reply => exact unrouted.elim
  | call request reply =>
      cases request <;> first | exact unrouted.elim | exact ⟨trivial, asks.next rfl rfl rfl⟩

theorem sendPayment_routing {path : Ldk.BlindedPaymentPath} {rest : List Ldk.BlindedPaymentPath}
    (id : PaymentId) (asks : ghost.Asks invoice amount feeLimit tried)
    (whole : invoice.paymentPaths = tried ++ path :: rest) :
    (sendPayment ldk (sendPaymentParams amount invoice id feeLimit path)).Satisfies (routing reads)
      (fun _ final => final.Asks invoice amount feeLimit (tried ++ [path])) ghost := by
  have queried : (queryRoutes ldk path path.payinfo.cltvExpiryDelta path.payinfo.feeBaseMsat
      path.payinfo.feeProportionalMillionths amount feeLimit).Satisfies (routing reads)
      (fun result final => final.Asks invoice amount feeLimit (tried ++ [path]) ∧
        ∀ response, result = .ok response → ∃ query,
          final.last = some (.call (.queryRoutes query) (.ok response))) ghost := by
    have resolves := (pathIntroductionNode_only ldk path).within.mono unrouted_of_channelLookup
    refine (unrouted_asks resolves asks).andThen ?_ ?_
    · intro status final asks
      refine ⟨asks.more path, ?_⟩
      intro response impossible
      cases impossible
    · intro node resolved asks reply
      obtain ⟨demanded, after⟩ := asks.query whole node reply
      refine ⟨demanded, after, ?_⟩
      intro response same
      cases same
      exact ⟨_, rfl⟩
  refine queried.bind ?_
  intro result final post
  cases result with
  | error status => exact post.1
  | ok response =>
      obtain ⟨asks, answered⟩ := post
      obtain ⟨query, last⟩ := answered response rfl
      obtain ⟨routes⟩ := response
      cases routes with
      | nil => trivial
      | cons route others =>
          refine Prog.satisfies_request_bind.mpr fun sent => ?_
          refine ⟨⟨asks.2.1, ⟨invoice, asks.1, rfl⟩, query, others, last⟩, ?_⟩
          have after : (final.next (.call (.sendToRouteV2 invoice.paymentHash route) sent)).Asks
              invoice amount feeLimit (tried ++ [path]) := asks.next rfl rfl rfl
          cases sent with
          | error status => exact after
          | ok attempt => exact after

theorem trackPayment_routing (hash : PaymentHash)
    (asks : ghost.Asks invoice amount feeLimit tried) :
    (trackPayment hash).Satisfies (routing reads)
      (fun result final => ∀ e, result = .error e →
        final.Asks invoice amount feeLimit tried) ghost := by
  have tracked : (InvoicePayer.trackPayment hash).Satisfies (routing reads)
      (fun result final => ∀ e, result = .error e →
        final.Asks invoice amount feeLimit tried) ghost := by
    refine Prog.satisfies_request_bind.mpr fun reply => ⟨asks.2.1, ?_⟩
    cases reply with
    | error status =>
        intro e _
        exact asks.next rfl rfl rfl
    | ok stream =>
        intro e failed
        refine asks.next rfl ?_ rfl
        rcases settle_eq stream with ⟨payment, final, status, settled⟩ |
          ⟨payment, final, status, settled⟩ | ⟨final, _, _⟩
        · rw [settled] at failed
          cases failed
        · simp [reportsSuccess, final, status]
        · simp [reportsSuccess, final]
  refine tracked.bind ?_
  intro result final post
  cases result with
  | error e =>
      intro _ _
      exact post e rfl
  | ok payment =>
      intro e impossible
      cases impossible

theorem payPaths_routing (id : PaymentId) (paths : List Ldk.BlindedPaymentPath)
    (lastError : Option OfferError) (whole : invoice.paymentPaths = tried ++ paths)
    (asks : ghost.Asks invoice amount feeLimit tried) :
    (payPaths ldk amount invoice id feeLimit paths lastError).Satisfies (routing reads)
      (fun _ _ => True) ghost := by
  induction paths generalizing tried ghost lastError with
  | nil => exact Prog.satisfies_enter_bind.mpr fun _ => ⟨trivial, trivial⟩
  | cons path rest ih =>
      have onward : invoice.paymentPaths = (tried ++ [path]) ++ rest := by simpa using whole
      have resolves := (introNodeId_only ldk path).within.mono unrouted_of_channelLookup
      refine (unrouted_asks resolves asks).andThen (fun _ _ _ => trivial) ?_
      intro _ resolved asks
      refine (sendPayment_routing ldk id asks whole).bind ?_
      intro result sent asks
      cases result with
      | error e => exact ih (some e) onward asks
      | ok _ =>
          refine Prog.satisfies_enter_bind.mpr fun _ => ⟨trivial, ?_⟩
          have marked : (sent.next (.access (.setDispatched id) ())).Asks invoice amount feeLimit
              (tried ++ [path]) := asks.next rfl rfl rfl
          refine (trackPayment_routing invoice.paymentHash marked).bind ?_
          intro result tracked post
          cases result with
          | error e => exact ih (some e) onward (post e rfl)
          | ok payment => exact Prog.satisfies_enter_bind.mpr fun _ => ⟨trivial, trivial⟩

end Asks

theorem payInvoice_routing (amount : UInt64) (invoice : Bolt12Invoice) (id : PaymentId)
    (feeLimit : Option FeeLimit) {reads : Bool} {ghost : Routing}
    (fresh : ghost.Fresh (some invoice)) :
    (payInvoice ldk amount invoice id feeLimit).Satisfies (routing reads) (fun _ _ => True)
      ghost := by
  obtain ⟨same, none, open_⟩ := fresh
  have asks : ghost.Asks invoice amount feeLimit [] := by
    refine ⟨same, open_, [], .refl _, ?_⟩
    rw [none]
    exact .nil
  exact payPaths_routing ldk id invoice.paymentPaths _ rfl asks

theorem payInvoiceRpc_routing (rpc : PayInvoiceRequest) {ghost : Routing}
    (fresh : ghost.Fresh (bolt12InvoiceFromString ldk rpc.invoice).toOption) :
    (payInvoiceRpc ldk rpc).Satisfies (routing false) (fun _ _ => True) ghost := by
  have args : (payInvoiceArgs ldk rpc).Satisfies (routing false)
      (fun result final => ∀ args, result = .ok args → final.Fresh (some args.invoice))
      ghost := by
    have connects := (connect_only rpc.metadata).within.mono unrouted_of_greeting
    refine (unrouted_fresh connects fresh).andThen ?_ ?_
    · intro status final _ args impossible
      cases impossible
    intro _ connected fresh
    refine Prog.satisfies_checked (fun _ _ _ impossible => by cases impossible) ?_
    intro invoice parsed
    refine Prog.satisfies_checked (fun _ _ _ impossible => by cases impossible) ?_
    intro amount _
    rw [parsed] at fresh
    refine Prog.satisfies_request_bind.mpr fun id => ⟨trivial, ?_⟩
    intro args same
    cases same
    exact fresh.next rfl rfl rfl
  refine args.andThen (fun _ _ _ => trivial) ?_
  intro args ready post
  exact (payInvoice_routing ldk args.amount args.invoice args.paymentId args.feeLimit
    (post args rfl)).mapErrorThen (fun _ _ _ => trivial) fun _ _ _ => trivial

end Programs

structure Routed (ldk : Library) (request : Request) (ghost : Routing)
    (log : List (Event Sig)) : Prop where
  last : ghost.last = log.getLast?
  queries : ghost.queries = queriesOf log
  source : ∀ invoice, ghost.invoice = some invoice → PaidInvoice ldk log invoice request
  follows : ghost.queries ≠ [] → ∃ invoice, ghost.invoice = some invoice ∧
    Follows invoice ghost.queries
  sends : ∀ pre post hash route reply,
    log = pre ++ .call (.sendToRouteV2 hash route) reply :: post →
    (∃ invoice, ghost.invoice = some invoice ∧ hash = invoice.paymentHash) ∧
    ∃ before query routes, pre = before ++ [.call (.queryRoutes query) (.ok ⟨route :: routes⟩)]

section Runs

variable {ldk : Library} {request : Request} {ghost : Routing} {log : List (Event Sig)}
  {event : Event Sig}

theorem queriesOf_concat (log : List (Event Sig)) (event : Event Sig) :
    queriesOf (log ++ [event]) = queriesOf log ++ (queryOf event).toList := by
  unfold queriesOf
  cases asked : queryOf event <;> simp [asked]

theorem PaidInvoice.append {invoice : Bolt12Invoice} (paid : PaidInvoice ldk log invoice request)
    (event : Event Sig) : PaidInvoice ldk (log ++ [event]) invoice request := by
  cases request with
  | payOfferRpc rpc =>
      obtain ⟨id, read⟩ := paid
      exact ⟨id, List.mem_append_left _ read⟩
  | payInvoiceRpc rpc => exact paid
  | _ => exact paid.elim

theorem Routing.Demands.keeps {reads : Bool} (demanded : ghost.Demands reads event)
    (asked : ghost.queries ≠ []) :
    invoiceAfter ghost.invoice event = ghost.invoice := by
  cases event with
  | access op reply => cases op <;> first | rfl | exact absurd demanded.2 asked
  | call request reply => rfl

/-- A payment that was sent had been asked for. -/
theorem Routed.asked {pre post : List (Event Sig)} {hash : PaymentHash} {route : Route}
    {reply : Except Status HtlcAttempt} (routed : Routed ldk request ghost log)
    (sent : log = pre ++ .call (.sendToRouteV2 hash route) reply :: post) :
    ghost.queries ≠ [] := by
  obtain ⟨_, before, query, routes, same⟩ := routed.sends pre post hash route reply sent
  rw [routed.queries, sent, same]
  simp [queriesOf, queryOf]

/-- An offer is paid with an invoice from the map, an invoice with itself. -/
theorem Routed.source_next (routed : Routed ldk request ghost log)
    (demanded : ghost.Demands request.fetches event) (pays : request.pays = true) :
    ∀ invoice, (ghost.next event).invoice = some invoice →
      PaidInvoice ldk (log ++ [event]) invoice request := by
  intro invoice here
  have kept : ghost.invoice = some invoice → PaidInvoice ldk (log ++ [event]) invoice request :=
    fun before => (routed.source invoice before).append event
  cases event with
  | call request reply => exact kept here
  | access op reply =>
      cases op with
      | readInvoice id =>
          cases reply with
          | none => exact kept here
          | some found =>
              obtain rfl : found = invoice := Option.some.inj here
              cases request with
              | payOfferRpc rpc => exact ⟨id, List.mem_append_right _ (.head _)⟩
              | payInvoiceRpc rpc => cases demanded.1
              | _ => cases pays
      | _ => exact kept here

theorem Routed.next (routed : Routed ldk request ghost log)
    (demanded : ghost.Demands request.fetches event) (pays : request.pays = true) :
    Routed ldk request (ghost.next event) (log ++ [event]) := by
  refine ⟨by simp [Routing.next], ?_, routed.source_next demanded pays, ?_, ?_⟩
  · rw [Routing.next, routed.queries, queriesOf_concat]
  · intro asked
    cases query : queryOf event with
    | none =>
        have before : ghost.queries ≠ [] := by simpa [Routing.next, query] using asked
        obtain ⟨invoice, here, follows⟩ := routed.follows before
        refine ⟨invoice, ?_, by simpa [Routing.next, query] using follows⟩
        rw [Routing.next, demanded.keeps before, here]
    | some asks =>
        obtain ⟨reply, rfl⟩ : ∃ reply, event = .call (.queryRoutes asks) reply := by
          cases event with
          | access op reply => cases query
          | call request reply =>
              cases request with
              | queryRoutes other =>
                  cases query
                  exact ⟨reply, rfl⟩
              | _ => cases query
        obtain ⟨_, invoice, here, follows⟩ := demanded
        exact ⟨invoice, here, follows⟩
  · intro pre post hash route reply whole
    rcases append_eq_concat whole.symm with ⟨impossible, _⟩ | ⟨rest, same, before⟩
    · cases impossible
    · cases rest with
      | nil =>
          cases same
          obtain ⟨_, known, query, routes, last⟩ := demanded
          refine ⟨known, ?_⟩
          rw [routed.last, before, List.append_nil] at last
          obtain ⟨earlier, split⟩ := List.getLast?_eq_some_iff.mp last
          exact ⟨earlier, query, routes, split⟩
      | cons first rest =>
          cases same
          obtain ⟨⟨invoice, here, equal⟩, proposed⟩ := routed.sends pre rest hash route reply before
          refine ⟨⟨invoice, ?_, equal⟩, proposed⟩
          rw [Routing.next, demanded.keeps (routed.asked before), here]

end Runs

/-- After a success the monitor lets no payment event pass. -/
theorem unpaid_after_success {reads : Bool} {ghost : Routing} {events : List (Event Sig)}
    (succeeded : ghost.succeeded = true)
    (along : (routing reads).Along (routing reads).demand ghost events) :
    ∀ event ∈ events, isPayment event = false := by
  induction events generalizing ghost with
  | nil => simp
  | cons first rest ih =>
      intro event member
      rcases List.mem_cons.mp member with same | later
      · rw [same]
        have demanded : ghost.Demands reads first := along.1
        cases payment : isPayment first with
        | false => rfl
        | true =>
            have open_ : ghost.succeeded = false := by
              cases first with
              | access op reply => cases payment
              | call request reply =>
                  cases request with
                  | queryRoutes query => exact demanded.1
                  | sendToRouteV2 hash route => exact demanded.1
                  | trackPaymentV2 hash flag => exact demanded
                  | _ => cases payment
            rw [succeeded] at open_
            cases open_
      · apply ih _ along.2 event later
        simp [routing, Routing.next, succeeded]

def Request.routing (ldk : Library) (request : Request) : Routing :=
  ⟨request.invoice ldk, [], none, false⟩

theorem start_routing (ldk : Library) (handler : OfferHandler) {request : Request}
    (pays : request.pays = true) :
    (start ldk handler request).Satisfies (System.routing request.fetches) (fun _ _ => True)
      (request.routing ldk) := by
  cases request with
  | payOfferRpc rpc =>
      refine start_satisfies rfl (I := Routing.Fresh none) (Q := TookRead) ?_
        (fun _ _ => trivial) ?_ ?_ ?_ ⟨rfl, rfl, rfl⟩
      · intro ghost event fresh greeting
        exact fresh.unrouted (unrouted_of_greeting event greeting)
      · exact fun cfg _ fresh => getInvoice_routing ldk handler cfg fresh
      · intro invoice amount id feeLimit _ took
        exact payInvoice_routing ldk amount invoice id feeLimit (took invoice _ rfl)
      · exact fun _ _ _ _ _ => trivial
  | payInvoiceRpc rpc =>
      exact (payInvoiceRpc_routing ldk rpc ⟨rfl, rfl, rfl⟩).bind fun _ _ _ => trivial
  | _ => cases pays

theorem routed_start (ldk : Library) {request : Request} (pays : request.pays = true) :
    Routed ldk request (request.routing ldk) [] := by
  refine ⟨rfl, rfl, ?_, fun asked => absurd rfl asked, ?_⟩
  · intro invoice here
    cases request with
    | payInvoiceRpc rpc =>
        change (bolt12InvoiceFromString ldk rpc.invoice).toOption = some invoice at here
        cases parsed : bolt12InvoiceFromString ldk rpc.invoice with
        | error e =>
            rw [parsed] at here
            cases here
        | ok found =>
            rw [parsed] at here
            cases here
            exact parsed
    | payOfferRpc rpc => cases here
    | _ => cases pays
  · intro pre post hash route reply impossible
    simp at impossible

/-- In every run, whatever else is going on, a request that pays goes through the payment
paths of one invoice in their order; each payment is sent along the first route of LND's
answer to the query right before it, for the invoice's hash; and after LND has reported
a success the request asks for nothing more. -/
theorem payments_routed (ldk : Library) (handler : OfferHandler) (labels : List LndkLabel)
    (pool : LndkPool) (run : Run (lndk ldk handler) .new anyStep labels pool) (i : Nat)
    (task : LndkTask) (found : pool.tasks[i]? = some task) (pays : task.request.pays = true)
    (asked : queriesOf task.log ≠ []) :
    (∃ invoice, PaidInvoice ldk task.log invoice task.request ∧
      Follows invoice (queriesOf task.log) ∧
      ∀ pre post hash route reply,
        task.log = pre ++ .call (.sendToRouteV2 hash route) reply :: post →
        hash = invoice.paymentHash ∧ ∃ before query routes,
          pre = before ++ [.call (.queryRoutes query) (.ok ⟨route :: routes⟩)]) ∧
    ∀ pre event post, task.log = pre ++ event :: post → reportsSuccess event = true →
      ∀ later ∈ post, isPayment later = false := by
  have along := (satisfies_reaches (start_routing ldk handler pays) (run.task_reaches found)).1
  have routed := Monitor.along_invariant _ (I := Routed ldk task.request)
    (routed_start ldk pays) (fun _ _ _ routed demanded => routed.next demanded pays) along
  constructor
  · rw [← routed.queries] at asked ⊢
    obtain ⟨invoice, here, follows⟩ := routed.follows asked
    refine ⟨invoice, routed.source invoice here, follows, ?_⟩
    intro pre post hash route reply whole
    obtain ⟨⟨other, alsoHere, equal⟩, proposed⟩ := routed.sends pre post hash route reply whole
    rw [here] at alsoHere
    cases alsoHere
    exact ⟨equal, proposed⟩
  · intro pre event post whole succeeded
    rw [whole, Monitor.along_append] at along
    refine unpaid_after_success ?_ along.2.2
    simp [System.routing, Routing.next, succeeded]

theorem payments_routed_paid :
    ∃ (labels : List LndkLabel) (pool : LndkPool) (task : LndkTask),
      Run (lndk (.plain .twoPaths) sampleHandler) .new anyStep labels pool ∧
      pool.tasks[0]? = some task ∧ (queriesOf task.log).length = 1 ∧
      ∃ invoice, Follows invoice (queriesOf task.log) := by
  have run := schedule_run paidSchedule .start
    (permitted_anyStep (M := lndk (.plain .twoPaths) sampleHandler) _ ([], ⟨.new, []⟩))
  obtain ⟨task, found, pays, asked⟩ : ∃ task,
      (schedule (lndk (.plain .twoPaths) sampleHandler) paidSchedule
        ([], ⟨.new, []⟩)).2.tasks[0]? = some task ∧ task.request.pays = true ∧
      (queriesOf task.log).length = 1 := ⟨_, rfl, rfl, rfl⟩
  have nonempty : queriesOf task.log ≠ [] := by
    intro none
    rw [none] at asked
    cases asked
  obtain ⟨⟨invoice, _, follows, _⟩, _⟩ :=
    payments_routed _ _ _ _ run 0 task found pays nonempty
  exact ⟨_, _, task, run, found, asked, invoice, follows⟩

end LndkFormal.System
