import LndkFormal.Offers.Footprints
import LndkFormal.Server.Amounts
import LndkFormal.System.Requests

/-!
# The amount LND is asked to route

A paying request validates an amount, an unsigned 64-bit number, and every
query for routes carries it as a signed one.  PayOffer puts the amount into an
invoice request first, which LDK refuses to build for more than there are
bitcoin; PayInvoice does not.
-/

set_option autoImplicit false

namespace LndkFormal.System

open LndkFormal.Async
open LndkFormal.Lnd
open LndkFormal.Ldk
open LndkFormal.Offers
open LndkFormal.Server

def CarriesPath (path : Ldk.BlindedPaymentPath) (routes : QueryRoutesRequest) : Prop :=
  ∃ sent route, routes.blindedPaymentPaths = [sent] ∧ sent.blindedPath = some route ∧
    route.blindingPoint = path.blindingPoint.bytes ∧
    route.blindedHops = path.blindedHops.map
      (fun hop => ⟨hop.blindedNodeId.bytes, hop.encryptedPayload⟩) ∧
    sent.totalCltvDelta.toNat = path.payinfo.cltvExpiryDelta.toNat + 120 ∧
    sent.baseFeeMsat.toNat = path.payinfo.feeBaseMsat.toNat ∧
    sent.proportionalFeeRate.toNat = path.payinfo.feeProportionalMillionths.toNat

def queryFor (amount : UInt64) (path : Ldk.BlindedPaymentPath) (node : PublicKey)
    (feeLimit : Option FeeLimit) : QueryRoutesRequest :=
  queryRoutesRequest node path path.payinfo.cltvExpiryDelta path.payinfo.feeBaseMsat
    path.payinfo.feeProportionalMillionths amount feeLimit

section Query

variable (amount : UInt64) (path : Ldk.BlindedPaymentPath) (node : PublicKey)
  (feeLimit : Option FeeLimit)

theorem queryFor_carriesPath : CarriesPath path (queryFor amount path node feeLimit) := by
  refine ⟨_, _, rfl, rfl, rfl, rfl, ?_, ?_, rfl⟩
  · have bound := path.payinfo.cltvExpiryDelta.toNat_lt
    simp only [UInt32.toNat_add, UInt16.toNat_toUInt32]
    have delta : (120 : UInt32).toNat = 120 := rfl
    rw [delta]
    apply Nat.mod_eq_of_lt
    omega
  · exact UInt32.toNat_toUInt64 _

/-- The cast `as i64` keeps the amounts below `2 ^ 63`. -/
theorem queryFor_amount_iff :
    (queryFor amount path node feeLimit).amtMsat.toInt = amount.toNat ↔ amount.toNat < 2 ^ 63 := by
  have cast := toInt64_eq_iff amount amount
  simp only [and_true] at cast
  exact cast

end Query

/-- A query made for one of these paths.  Paying does not read the map. -/
def AskedFor (amount : UInt64) (paths : List Ldk.BlindedPaymentPath) : Event Sig → Prop
  | .call (.queryRoutes routes) _ =>
      ∃ path ∈ paths, ∃ node feeLimit, routes = queryFor amount path node feeLimit
  | .access (.readInvoice _) _ => False
  | _ => True

section Paying

variable (ldk : Library) {amount : UInt64}

theorem askedFor_of_channelLookup (paths : List Ldk.BlindedPaymentPath) (event : Event Sig)
    (lookup : ChannelLookup event) : AskedFor amount paths event := by
  cases event with
  | access op reply => exact lookup.elim
  | call request reply => cases request <;> first | exact lookup.elim | trivial

theorem AskedFor.more (path : Ldk.BlindedPaymentPath) {paths : List Ldk.BlindedPaymentPath}
    (event : Event Sig) (asked : AskedFor amount paths event) :
    AskedFor amount (path :: paths) event := by
  cases event with
  | access op reply => cases op <;> first | exact asked.elim | trivial
  | call request reply =>
      cases request with
      | queryRoutes routes =>
          obtain ⟨other, listed, same⟩ := asked
          exact ⟨other, List.mem_cons_of_mem _ listed, same⟩
      | _ => trivial

theorem sendPayment_asks (invoice : Bolt12Invoice) (id : PaymentId) (feeLimit : Option FeeLimit)
    (path : Ldk.BlindedPaymentPath) (paths : List Ldk.BlindedPaymentPath) :
    (sendPayment ldk (sendPaymentParams amount invoice id feeLimit path)).Within
      (AskedFor amount (path :: paths)) := by
  have resolved : (pathIntroductionNode ldk path).Within (AskedFor amount (path :: paths)) :=
    (pathIntroductionNode_only ldk path).within.mono (askedFor_of_channelLookup (path :: paths))
  have queried : (queryRoutes ldk path path.payinfo.cltvExpiryDelta path.payinfo.feeBaseMsat
      path.payinfo.feeProportionalMillionths amount feeLimit).Within
        (AskedFor amount (path :: paths)) := by
    apply resolved.andThen
    intro node reply
    exact ⟨⟨path, List.mem_cons_self, node, feeLimit, rfl⟩, trivial⟩
  apply queried.bind
  intro result
  cases result with
  | error e => trivial
  | ok response =>
      dsimp only
      split
      · trivial
      · refine Prog.within_request_bind.mpr fun sent => ⟨trivial, ?_⟩
        cases sent <;> trivial

theorem trackPayment_asks (hash : PaymentHash) (paths : List Ldk.BlindedPaymentPath) :
    (trackPayment hash).Within (AskedFor amount paths) := by
  have tracked : (InvoicePayer.trackPayment hash).Within (AskedFor amount paths) := by
    refine Prog.within_request_bind.mpr fun reply => ⟨trivial, ?_⟩
    cases reply <;> trivial
  apply tracked.bind
  intro result
  cases result <;> trivial

theorem payPaths_asks (invoice : Bolt12Invoice) (id : PaymentId) (feeLimit : Option FeeLimit)
    (paths : List Ldk.BlindedPaymentPath) (lastError : Option OfferError) :
    (payPaths ldk amount invoice id feeLimit paths lastError).Within (AskedFor amount paths) := by
  induction paths generalizing lastError with
  | nil => exact Prog.within_enter_bind.mpr fun _ => ⟨trivial, trivial⟩
  | cons path rest ih =>
      have onward := fun e => (ih (some e)).mono (AskedFor.more path)
      have resolved : (introNodeId ldk path).Within (AskedFor amount (path :: rest)) :=
        (introNodeId_only ldk path).within.mono (askedFor_of_channelLookup (path :: rest))
      apply resolved.andThen
      intro _
      apply (sendPayment_asks ldk invoice id feeLimit path rest).bind
      intro sent
      cases sent with
      | error e => exact onward e
      | ok _ =>
          refine Prog.within_enter_bind.mpr fun _ => ⟨trivial, ?_⟩
          apply (trackPayment_asks invoice.paymentHash (path :: rest)).bind
          intro tracked
          cases tracked with
          | error e => exact onward e
          | ok payment => exact Prog.within_enter_bind.mpr fun _ => ⟨trivial, trivial⟩

end Paying

/-! ## The amount a request validates -/

/-- What `validate_amount` returns for the request. -/
def ValidatedAmount (ldk : Library) (amount : UInt64) : Request → Prop
  | .payOfferRpc rpc => ∃ offer, decode ldk rpc.offer = .ok offer ∧
      validateAmount offer.amount rpc.amount = .ok amount
  | .payInvoiceRpc rpc => ∃ invoice, bolt12InvoiceFromString ldk rpc.invoice = .ok invoice ∧
      validateAmount invoice.amount rpc.amount = .ok amount
  | _ => False

/-- The invoice that is paid: the one PayInvoice is given, or the one PayOffer
has found in the map. -/
def PaidInvoice (ldk : Library) (log : List (Event Sig)) (invoice : Bolt12Invoice) :
    Request → Prop
  | .payOfferRpc _ => ∃ id, .access (.readInvoice id) (some invoice) ∈ log
  | .payInvoiceRpc rpc => bolt12InvoiceFromString ldk rpc.invoice = .ok invoice
  | _ => False

/-- All the bitcoin there will be, in msat. -/
def MAX_VALUE_MSAT : Nat := 21000000 * 100000000 * 1000

/-- LDK's builder does not ask for more than there is. -/
def RejectsTooMuch (ldk : Library) : Prop :=
  ∀ offer key nonce id network msats note request,
    ldk.requestInvoice offer key nonce id network msats note = .ok request →
      msats.toNat ≤ MAX_VALUE_MSAT

/-- PayInvoice: the amount the user gives, or without one the amount the invoice
sets, is below `2 ^ 63` msat. -/
def AmountFits (ldk : Library) : Request → Prop
  | .payInvoiceRpc rpc =>
      (∀ msats, rpc.amount = some msats → msats.toNat < 2 ^ 63) ∧
      (rpc.amount = none → ∀ invoice set, bolt12InvoiceFromString ldk rpc.invoice = .ok invoice →
        invoice.amount = some (.bitcoin set) → set.toNat < 2 ^ 63)
  | _ => True

/-- The result is the amount that was asked for or set. -/
theorem validateAmount_source {set : Option Amount} {asked : Option UInt64} {amount : UInt64}
    (valid : validateAmount set asked = .ok amount) :
    asked = some amount ∨ (asked = none ∧ set = some (.bitcoin amount)) := by
  rcases (validateAmount_ok_iff set asked amount).mp valid with ⟨-, given⟩ | ⟨least, fixed, -, rest⟩
  · exact .inl given
  · rcases rest with ⟨absent, same⟩ | ⟨given, -⟩
    · rw [same]
      exact .inr ⟨absent, fixed⟩
    · exact .inl given

theorem validatedAmount_unique {ldk : Library} {request : Request} {amount other : UInt64}
    (valid : ValidatedAmount ldk amount request) (also : ValidatedAmount ldk other request) :
    amount = other := by
  cases request with
  | payOfferRpc rpc =>
      obtain ⟨offer, decoded, result⟩ := valid
      obtain ⟨offer', decoded', result'⟩ := also
      cases decoded.symm.trans decoded'
      exact Except.ok.inj (result.symm.trans result')
  | payInvoiceRpc rpc =>
      obtain ⟨invoice, parsed, result⟩ := valid
      obtain ⟨invoice', parsed', result'⟩ := also
      cases parsed.symm.trans parsed'
      exact Except.ok.inj (result.symm.trans result')
  | _ => exact valid.elim

theorem amountFits_payInvoice_iff {ldk : Library} {rpc : PayInvoiceRequest}
    {invoice : Bolt12Invoice} {amount : UInt64}
    (parsed : bolt12InvoiceFromString ldk rpc.invoice = .ok invoice)
    (valid : validateAmount invoice.amount rpc.amount = .ok amount) :
    AmountFits ldk (.payInvoiceRpc rpc) ↔ amount.toNat < 2 ^ 63 := by
  rcases validateAmount_source valid with given | ⟨absent, set⟩
  · constructor
    · intro fits
      exact fits.1 amount given
    · intro small
      refine ⟨fun msats same => ?_, fun absent => ?_⟩
      · rw [Option.some.inj (same.symm.trans given)]
        exact small
      · rw [absent] at given
        cases given
  · constructor
    · intro fits
      exact fits.2 absent invoice amount parsed set
    · intro small
      refine ⟨fun msats given => ?_, fun _ other least same fixed => ?_⟩
      · rw [absent] at given
        cases given
      · rw [Except.ok.inj (same.symm.trans parsed), set] at fixed
        cases fixed
        exact small

/-! ## Queries of a request -/

def QueriedFor (ldk : Library) (request : Request) (log : List (Event Sig))
    (routes : QueryRoutesRequest) : Prop :=
  ∃ amount invoice path node feeLimit, ValidatedAmount ldk amount request ∧
    (AmountFits ldk request ↔ amount.toNat < 2 ^ 63) ∧
    PaidInvoice ldk log invoice request ∧ path ∈ invoice.paymentPaths ∧
    routes = queryFor amount path node feeLimit

def Queries (P : QueryRoutesRequest → Prop) : Event Sig → Prop
  | .call (.queryRoutes routes) _ => P routes
  | _ => True

def Quiet : Event Sig → Prop
  | .call (.queryRoutes _) _ => False
  | .access (.readInvoice _) _ => False
  | _ => True

theorem quiet_of_greeting (event : Event Sig) (greeting : Greeting event) : Quiet event := by
  cases event with
  | access op reply => exact greeting.elim
  | call request reply => cases request <;> first | exact greeting.elim | trivial

theorem quiet_of_outreach (event : Event Sig) (outreach : Outreach event) : Quiet event := by
  cases event with
  | access op reply => exact outreach.elim
  | call request reply => cases request <;> first | exact outreach.elim | trivial

theorem queries_of_quiet {P : QueryRoutesRequest → Prop} (event : Event Sig)
    (quiet : Quiet event) : Queries P event := by
  cases event with
  | access op reply => trivial
  | call request reply => cases request <;> first | exact quiet.elim | trivial

/-- Follows the invoices read so far; the queries are made for their paths. -/
def invoicesRead (asks : List Bolt12Invoice → QueryRoutesRequest → Prop) :
    Monitor Sig (List Bolt12Invoice) where
  demand read := Queries (asks read)
  next
    | read, .access (.readInvoice _) (some invoice) => invoice :: read
    | read, _ => read
  panicOk _ := True

section Offer

variable (ldk : Library) (handler : OfferHandler)
  {asks : List Bolt12Invoice → QueryRoutesRequest → Prop}

theorem quiet_invoicesRead (read : List Bolt12Invoice) (event : Event Sig) (quiet : Quiet event) :
    (invoicesRead asks).demand read event ∧ (invoicesRead asks).next read event = read := by
  refine ⟨queries_of_quiet event quiet, ?_⟩
  cases event with
  | access op reply => cases op <;> first | exact quiet.elim | rfl
  | call request reply => rfl

/-- A program that does neither leaves the monitor where it is. -/
theorem quiet_satisfies {α : Type} {p : Prog Sig α} (quiet : p.Within Quiet)
    (read : List Bolt12Invoice) :
    p.Satisfies (invoicesRead asks) (fun _ final => final = read) read :=
  quiet.satisfies (fun event member => quiet_invoicesRead read event member) trivial

theorem createInvoiceRequest_validated (bounded : RejectsTooMuch ldk) (cfg : PayOfferParams)
    (read : List Bolt12Invoice) :
    (createInvoiceRequest ldk handler.expandedKey cfg.offer cfg.network cfg.amount
      cfg.payerNote).Satisfies (invoicesRead asks)
      (fun result _ => ∀ request id amount context, result = .ok (request, id, amount, context) →
        validateAmount cfg.offer.amount cfg.amount = .ok amount ∧ amount.toNat ≤ MAX_VALUE_MSAT)
      read := by
  unfold createInvoiceRequest
  split
  · intro _ _ _ _ impossible
    cases impossible
  · rename_i validated valid
    refine Prog.satisfies_request_bind.mpr fun id => ⟨trivial, ?_⟩
    refine Prog.satisfies_request_bind.mpr fun nonce => ⟨trivial, ?_⟩
    split
    · intro _ _ _ _ impossible
      cases impossible
    · rename_i request built
      intro _ _ _ _ same
      cases same
      exact ⟨valid, bounded _ _ _ _ _ _ _ _ built⟩

/-- What `get_invoice` returns was read from the map, and the amount is one that
LDK has put into a request. -/
def TookInvoice (cfg : PayOfferParams)
    (result : Except OfferError (Bolt12Invoice × UInt64 × PaymentId))
    (read : List Bolt12Invoice) : Prop :=
  ∀ invoice amount id, result = .ok (invoice, amount, id) → invoice ∈ read ∧
    validateAmount cfg.offer.amount cfg.amount = .ok amount ∧ amount.toNat ≤ MAX_VALUE_MSAT

theorem tookInvoice_error (cfg : PayOfferParams) (e : OfferError) (read : List Bolt12Invoice) :
    TookInvoice cfg (.error e) read := by
  intro _ _ _ impossible
  cases impossible

theorem getInvoice_took (bounded : RejectsTooMuch ldk) (cfg : PayOfferParams)
    (read : List Bolt12Invoice) :
    (getInvoice ldk handler cfg).Satisfies (invoicesRead asks) (TookInvoice cfg) read := by
  refine getInvoice_satisfies (createInvoiceRequest_validated ldk handler bounded cfg read)
    (fun e final _ => tookInvoice_error cfg e final) ?_ ?_
  · exact fun _ _ _ _ _ _ => ⟨trivial, tookInvoice_error cfg _ _⟩
  · intro request id amount context final built
    have valid := built _ _ _ _ rfl
    have sent := (sendInvoiceRequest_within ldk cfg.destination request context).mono
      quiet_of_outreach
    refine ⟨trivial, fetchInvoice_satisfies (W := fun _ => True) (quiet_satisfies sent _) ?_ ?_
      ⟨?_, ?_⟩⟩
    · exact fun _ _ _ => ⟨trivial, tookInvoice_error cfg _ _⟩
    · exact fun _ _ _ => ⟨trivial, trivial⟩
    · intro now _ invoice
      refine ⟨trivial, trivial, ?_⟩
      intro _ _ _ same
      cases same
      exact ⟨List.mem_cons_self, valid⟩
    · exact fun _ _ => ⟨trivial, ⟨trivial, trivial⟩,
        ⟨trivial, trivial, tookInvoice_error cfg _ _⟩, trivial, trivial,
        tookInvoice_error cfg _ _⟩

/-- PayOffer's queries: for paths of an invoice it has read, with the amount it
has validated and LDK has let pass. -/
def OfferAsks (rpc : PayOfferRequest) (read : List Bolt12Invoice) (routes : QueryRoutesRequest) :
    Prop :=
  ∃ amount, ValidatedAmount ldk amount (.payOfferRpc rpc) ∧ amount.toNat ≤ MAX_VALUE_MSAT ∧
    ∃ invoice ∈ read, ∃ path ∈ invoice.paymentPaths, ∃ node feeLimit,
      routes = queryFor amount path node feeLimit

theorem payInvoice_offerAsks {rpc : PayOfferRequest} {amount : UInt64} {invoice : Bolt12Invoice}
    {read : List Bolt12Invoice} (valid : ValidatedAmount ldk amount (.payOfferRpc rpc))
    (bounded : amount.toNat ≤ MAX_VALUE_MSAT) (known : invoice ∈ read) (id : PaymentId)
    (feeLimit : Option FeeLimit) :
    (payInvoice ldk amount invoice id feeLimit).Satisfies (invoicesRead (OfferAsks ldk rpc))
      (fun _ final => final = read) read := by
  refine (payPaths_asks ldk invoice id feeLimit invoice.paymentPaths none).satisfies ?_ trivial
  intro event asked
  cases event with
  | access op reply => cases op <;> first | exact asked.elim | exact ⟨trivial, rfl⟩
  | call request reply =>
      cases request with
      | queryRoutes routes =>
          have asks : OfferAsks ldk rpc read routes :=
            ⟨amount, valid, bounded, invoice, known, asked⟩
          exact ⟨asks, rfl⟩
      | _ => exact ⟨trivial, rfl⟩

theorem readOffer_decoded (text : String) (read : List Bolt12Invoice) :
    (readOffer ldk text).Satisfies (invoicesRead asks)
      (fun result _ => ∀ offer destination network, result = .ok (offer, destination, network) →
        decode ldk text = .ok offer) read := by
  refine Prog.satisfies_checked (fun _ _ _ _ _ impossible => by cases impossible) ?_
  intro offer decoded
  refine Prog.satisfies_checked (fun _ _ _ _ _ impossible => by cases impossible) ?_
  intro destination _
  refine Prog.satisfies_request_bind.mpr fun info => ⟨trivial, ?_⟩
  cases info with
  | error e =>
      intro _ _ _ impossible
      cases impossible
  | ok info =>
      dsimp only
      split
      · intro _ _ _ impossible
        cases impossible
      · intro _ _ _ same
        cases same
        exact decoded

theorem payOffer_asks (bounded : RejectsTooMuch ldk) {rpc : PayOfferRequest}
    (cfg : PayOfferParams) (decoded : decode ldk rpc.offer = .ok cfg.offer)
    (asked : cfg.amount = rpc.amount) (read : List Bolt12Invoice) :
    (payOffer ldk handler cfg).Satisfies (invoicesRead (OfferAsks ldk rpc)) (fun _ _ => True)
      read := by
  apply (getInvoice_took ldk handler bounded cfg read).andThen (fun _ _ _ => trivial)
  intro ⟨invoice, amount, id⟩ _ fetched
  obtain ⟨known, valid, small⟩ := fetched _ _ _ rfl
  rw [asked] at valid
  have validated : ValidatedAmount ldk amount (.payOfferRpc rpc) := ⟨cfg.offer, decoded, valid⟩
  exact (payInvoice_offerAsks ldk validated small known id _).mono fun _ _ _ => trivial

theorem payOfferRpc_asks (bounded : RejectsTooMuch ldk) (rpc : PayOfferRequest)
    (read : List Bolt12Invoice) :
    (payOfferRpc ldk handler rpc).Satisfies (invoicesRead (OfferAsks ldk rpc))
      (fun _ _ => True) read := by
  have connected := (connect_only rpc.metadata).within.mono quiet_of_greeting
  apply (quiet_satisfies connected read).andThen (fun _ _ _ => trivial)
  intro _ _ _
  apply (readOffer_decoded ldk rpc.offer _).andThen (fun _ _ _ => trivial)
  intro ⟨offer, destination, network⟩ now decoded
  have paid := payOffer_asks ldk handler bounded ⟨offer, rpc.amount, rpc.payerNote, network,
    destination, rpc.responseInvoiceTimeout, createFeeLimit rpc.feeLimit rpc.feeLimitPercent⟩
    (decoded _ _ _ rfl) rfl now
  exact paid.mapErrorThen (fun _ _ _ => trivial) fun _ _ _ => trivial

end Offer

section Invoice

variable (ldk : Library) (rpc : PayInvoiceRequest)

/-- The server hands over the invoice it was given and the amount it validated. -/
theorem payInvoiceArgs_validated (P : QueryRoutesRequest → Prop) :
    (payInvoiceArgs ldk rpc).Satisfies (.each (Queries P))
      (fun result _ => ∀ args, result = .ok args →
        bolt12InvoiceFromString ldk rpc.invoice = .ok args.invoice ∧
          validateAmount args.invoice.amount rpc.amount = .ok args.amount) () := by
  have connected := (connect_only rpc.metadata).within.mono fun event greeting =>
    queries_of_quiet (P := P) event (quiet_of_greeting event greeting)
  refine Prog.Satisfies.andThen connected (fun _ _ _ _ impossible => by cases impossible) ?_
  intro _ _ _
  refine Prog.satisfies_checked (fun _ _ _ impossible => by cases impossible) ?_
  intro invoice parsed
  refine Prog.satisfies_checked (fun _ _ _ impossible => by cases impossible) ?_
  intro amount valid
  refine Prog.satisfies_request_bind.mpr fun id => ⟨trivial, ?_⟩
  intro _ same
  cases same
  exact ⟨parsed, valid⟩

theorem payInvoiceRpc_asks (log : List (Event Sig)) :
    (payInvoiceRpc ldk rpc).Within (Queries (QueriedFor ldk (.payInvoiceRpc rpc) log)) := by
  refine (payInvoiceArgs_validated ldk rpc _).andThen (fun _ _ _ => trivial) ?_
  intro args _ handed
  obtain ⟨parsed, valid⟩ := handed args rfl
  refine Prog.Within.mapErrorThen ?_ fun _ => trivial
  refine (payPaths_asks ldk args.invoice args.paymentId args.feeLimit _ none).mono ?_
  intro event asked
  cases event with
  | access op reply => trivial
  | call request reply =>
      cases request with
      | queryRoutes routes =>
          obtain ⟨path, listed, node, feeLimit, same⟩ := asked
          exact ⟨args.amount, args.invoice, path, node, feeLimit, ⟨args.invoice, parsed, valid⟩,
            amountFits_payInvoice_iff parsed valid, parsed, listed, same⟩
      | _ => trivial

end Invoice

theorem QueriedFor.mono {ldk : Library} {request : Request} {log more : List (Event Sig)}
    {routes : QueryRoutesRequest} (queried : QueriedFor ldk request log routes)
    (kept : ∀ event ∈ log, event ∈ more) : QueriedFor ldk request more routes := by
  obtain ⟨amount, invoice, path, node, feeLimit, valid, fits, paid, listed, same⟩ := queried
  refine ⟨amount, invoice, path, node, feeLimit, valid, fits, ?_, listed, same⟩
  cases request with
  | payOfferRpc rpc =>
      obtain ⟨id, read⟩ := paid
      exact ⟨id, kept _ read⟩
  | payInvoiceRpc rpc => exact paid
  | _ => exact paid.elim

structure ReadAndQueried (ldk : Library) (rpc : PayOfferRequest) (read : List Bolt12Invoice)
    (past : List (Event Sig)) : Prop where
  read : ∀ invoice ∈ read, ∃ id, .access (.readInvoice id) (some invoice) ∈ past
  queried : ∀ routes reply, .call (.queryRoutes routes) reply ∈ past →
    QueriedFor ldk (.payOfferRpc rpc) past routes

theorem OfferAsks.queriedFor {ldk : Library} {rpc : PayOfferRequest}
    {read : List Bolt12Invoice} {past : List (Event Sig)} {routes : QueryRoutesRequest}
    (asks : OfferAsks ldk rpc read routes) (sofar : ReadAndQueried ldk rpc read past) :
    QueriedFor ldk (.payOfferRpc rpc) past routes := by
  obtain ⟨amount, valid, small, invoice, known, path, listed, node, feeLimit, same⟩ := asks
  have below : MAX_VALUE_MSAT < 2 ^ 63 := by decide
  have fits : AmountFits ldk (.payOfferRpc rpc) ↔ amount.toNat < 2 ^ 63 :=
    iff_of_true trivial (by omega)
  exact ⟨amount, invoice, path, node, feeLimit, valid, fits, sofar.read invoice known, listed, same⟩

theorem ReadAndQueried.next {ldk : Library} {rpc : PayOfferRequest} {read : List Bolt12Invoice}
    {past : List (Event Sig)} {event : Event Sig} (sofar : ReadAndQueried ldk rpc read past)
    (demanded : (invoicesRead (OfferAsks ldk rpc)).demand read event) :
    ReadAndQueried ldk rpc ((invoicesRead (OfferAsks ldk rpc)).next read event)
      (past ++ [event]) := by
  have kept : ∀ other ∈ past, other ∈ past ++ [event] := fun other => List.mem_append_left _
  constructor
  · intro invoice known
    have earlier : invoice ∈ read → ∃ id, .access (.readInvoice id) (some invoice) ∈
        past ++ [event] := by
      intro member
      obtain ⟨id, happened⟩ := sofar.read invoice member
      exact ⟨id, kept _ happened⟩
    cases event with
    | call request reply => exact earlier known
    | access op reply =>
        cases op with
        | readInvoice id =>
            cases reply with
            | none => exact earlier known
            | some found =>
                rcases List.mem_cons.mp known with same | member
                · rw [same]
                  exact ⟨id, List.mem_append_right _ List.mem_cons_self⟩
                · exact earlier member
        | _ => exact earlier known
  · intro routes reply happened
    rcases List.mem_append.mp happened with before | now
    · exact (sofar.queried routes reply before).mono kept
    · cases List.mem_singleton.mp now
      exact (OfferAsks.queriedFor demanded sofar).mono kept

theorem start_queriedFor (ldk : Library) (bounded : RejectsTooMuch ldk) (handler : OfferHandler)
    {request : Request} (pays : request.pays = true) {log : List (Event Sig)}
    {rest : Prog Sig Outcome}
    (run : Reaches (start ldk handler request) log rest) {routes : QueryRoutesRequest}
    {reply : Except Status QueryRoutesResponse}
    (queried : .call (.queryRoutes routes) reply ∈ log) :
    QueriedFor ldk request log routes := by
  cases request with
  | payOfferRpc rpc =>
      have spec : (start ldk handler (.payOfferRpc rpc)).Satisfies
          (invoicesRead (OfferAsks ldk rpc)) (fun _ _ => True) [] :=
        (payOfferRpc_asks ldk handler bounded rpc []).bind fun _ _ _ => trivial
      obtain ⟨along, -⟩ := satisfies_reaches spec run
      have nothing : ReadAndQueried ldk rpc [] [] := ⟨by simp, by simp⟩
      have all := Monitor.along_invariant _ nothing
        (fun _ _ _ sofar demanded => sofar.next demanded) along
      exact all.queried routes reply queried
  | payInvoiceRpc rpc =>
      have spec : (start ldk handler (.payInvoiceRpc rpc)).Within
          (Queries (QueriedFor ldk (.payInvoiceRpc rpc) log)) :=
        (payInvoiceRpc_asks ldk rpc log).bind fun _ => trivial
      exact within_reaches spec run _ queried
  | _ => cases pays

/-- In every run, a query for routes carries the validated amount and the terms
of the path it is made for exactly if the amount fits. -/
theorem queried_amount_iff (ldk : Library) (bounded : RejectsTooMuch ldk)
    (handler : OfferHandler) (labels : List LndkLabel) (pool : LndkPool)
    (run : Run (lndk ldk handler) .new anyStep labels pool) (i : Nat) (task : LndkTask)
    (found : pool.tasks[i]? = some task) (pays : task.request.pays = true)
    (routes : QueryRoutesRequest) (reply : Except Status QueryRoutesResponse)
    (queried : .call (.queryRoutes routes) reply ∈ task.log) :
    (∃ amount invoice path, ValidatedAmount ldk amount task.request ∧
      PaidInvoice ldk task.log invoice task.request ∧ path ∈ invoice.paymentPaths ∧
      CarriesPath path routes ∧ routes.amtMsat.toInt = amount.toNat) ↔
      AmountFits ldk task.request := by
  obtain ⟨amount, invoice, path, node, feeLimit, valid, fits, paid, listed, same⟩ :=
    start_queriedFor ldk bounded handler pays (run.task_reaches found) queried
  rw [fits, same]
  constructor
  · intro ⟨other, _, _, alsoValid, _, _, _, equal⟩
    rw [validatedAmount_unique valid alsoValid] at equal ⊢
    exact (queryFor_amount_iff other path node feeLimit).mp equal
  · intro small
    have carries := queryFor_carriesPath amount path node feeLimit
    exact ⟨amount, invoice, path, valid, paid, listed, carries,
      (queryFor_amount_iff amount path node feeLimit).mpr small⟩

def cappedLibrary : Library :=
  { Library.plain { Bolt12Invoice.twoPaths with amount := none } with
    requestInvoice := fun offer _ _ _ _ msats _ =>
      if msats.toNat ≤ MAX_VALUE_MSAT then .ok ⟨offer.amount, some msats, none, none, []⟩
      else .error ⟨"InvalidAmount"⟩ }

theorem cappedLibrary_rejectsTooMuch : RejectsTooMuch cappedLibrary := by
  intro offer key nonce id network msats note request built
  simp only [cappedLibrary] at built
  split at built
  · assumption
  · cases built

def amountSchedule (msats : UInt64) : List (Choice Sig Request) :=
  .spawn (.payInvoiceRpc ⟨.macaroon "", "", some msats, none, none⟩) :: goOn 0 3

theorem amountSchedule_queries (msats : UInt64) :
    ∃ task routes reply,
      (schedule (lndk cappedLibrary sampleHandler) (amountSchedule msats)
        ([], ⟨.new, []⟩)).2.tasks[0]? = some task ∧
      task.request = .payInvoiceRpc ⟨.macaroon "", "", some msats, none, none⟩ ∧
      .call (.queryRoutes routes) reply ∈ task.log ∧ routes.amtMsat = msats.toInt64 :=
  ⟨_, _, _, rfl, rfl, .tail _ (.tail _ (.head _)), rfl⟩

theorem amountSchedule_run (msats : UInt64) :
    Run (lndk cappedLibrary sampleHandler) .new anyStep
      (schedule (lndk cappedLibrary sampleHandler) (amountSchedule msats) ([], ⟨.new, []⟩)).1
      (schedule (lndk cappedLibrary sampleHandler) (amountSchedule msats) ([], ⟨.new, []⟩)).2 :=
  schedule_run (amountSchedule msats) .start
    (permitted_anyStep (M := lndk cappedLibrary sampleHandler) _ ([], ⟨.new, []⟩))

theorem queried_amount_small :
    ∃ (labels : List LndkLabel) (pool : LndkPool) (task : LndkTask) (routes : QueryRoutesRequest)
        (reply : Except Status QueryRoutesResponse) (amount : UInt64),
      Run (lndk cappedLibrary sampleHandler) .new anyStep labels pool ∧
      pool.tasks[0]? = some task ∧ task.request.pays = true ∧
      .call (.queryRoutes routes) reply ∈ task.log ∧
      ValidatedAmount cappedLibrary amount task.request ∧
      routes.amtMsat.toInt = amount.toNat := by
  obtain ⟨task, routes, reply, found, request, queried, -⟩ := amountSchedule_queries 5000
  have pays : task.request.pays = true := by
    rw [request]
    rfl
  have fits : AmountFits cappedLibrary task.request := by
    rw [request]
    refine ⟨fun msats given => ?_, fun absent => by cases absent⟩
    cases given
    decide
  have run := amountSchedule_run 5000
  obtain ⟨amount, _, _, valid, _, _, _, same⟩ := (queried_amount_iff cappedLibrary
    cappedLibrary_rejectsTooMuch sampleHandler _ _ run 0 task found pays routes reply queried).mpr
    fits
  exact ⟨_, _, task, routes, reply, amount, run, found, pays, queried, valid, same⟩

/-- PayInvoice with `2 ^ 63` msat asks for routes for a negative amount. -/
theorem queried_amount_negative :
    ¬ ∀ (labels : List LndkLabel) (pool : LndkPool) (i : Nat) (task : LndkTask)
        (routes : QueryRoutesRequest) (reply : Except Status QueryRoutesResponse),
      Run (lndk cappedLibrary sampleHandler) .new anyStep labels pool →
      pool.tasks[i]? = some task → task.request.pays = true →
      .call (.queryRoutes routes) reply ∈ task.log →
      ∃ amount invoice path, ValidatedAmount cappedLibrary amount task.request ∧
        PaidInvoice cappedLibrary task.log invoice task.request ∧
        path ∈ invoice.paymentPaths ∧ CarriesPath path routes ∧
        routes.amtMsat.toInt = amount.toNat := by
  intro claim
  obtain ⟨task, routes, reply, found, request, queried, sent⟩ :=
    amountSchedule_queries 9223372036854775808
  have pays : task.request.pays = true := by
    rw [request]
    rfl
  obtain ⟨amount, _, _, _, _, _, _, same⟩ := claim _ _ 0 task routes reply
    (amountSchedule_run _) found pays queried
  rw [sent] at same
  have negative : (9223372036854775808 : UInt64).toInt64.toInt = -9223372036854775808 := by decide
  rw [negative] at same
  omega

end LndkFormal.System
