import LndkFormal.Offers.LndRequests

/-!
# The offer handler

`get_invoice`, `pay_invoice`, `pay_offer` and the handling of incoming offers
messages, as programs.  Between any two critical sections other tasks may run.
-/

set_option autoImplicit false

namespace LndkFormal.Offers

open LndkFormal.Async
open LndkFormal.Lnd
open LndkFormal.Ldk

structure PayOfferParams where
  offer : Offer
  amount : Option UInt64
  payerNote : Option String
  network : Network
  destination : Destination
  responseInvoiceTimeout : Option UInt32
  feeLimit : Option FeeLimit

/-- The polling loop under its timeout.  A sleep can end with another check only
if it began before the timeout ran out, which bounds the checks left; `none`
says that the timeout ran out. -/
def waitForInvoice (paymentId : PaymentId) : Nat → Prog Sig (Option Bolt12Invoice)
  | 0 => do
      match ← lock (.readInvoice paymentId) with
      | some invoice => return some invoice
      | none =>
          let _ ← ask .timeoutElapsed
          return none
  | checks + 1 => do
      match ← lock (.readInvoice paymentId) with
      | some invoice => return some invoice
      | none =>
          match ← ask .sleepOrTimeout with
          | .slept => waitForInvoice paymentId checks
          | .elapsed => return none

/-- A sleep takes two seconds, so at most this many begin in time. -/
def sleepsWithin (seconds : UInt32) : Nat := (seconds.toNat + 1) / 2

section Handler

variable (ldk : Library) (handler : OfferHandler)

def invoiceTimeout (cfg : PayOfferParams) : UInt32 :=
  cfg.responseInvoiceTimeout.getD handler.responseInvoiceTimeout

def fetchInvoice (cfg : PayOfferParams) (invoiceRequest : InvoiceRequest) (paymentId : PaymentId)
    (validatedAmount : UInt64) (offerContext : OffersContext) :
    Prog Sig (Except OfferError (Bolt12Invoice × UInt64 × PaymentId)) := do
  match ← sendInvoiceRequest ldk cfg.destination invoiceRequest offerContext with
  | .error e =>
      let _ ← lock (.remove paymentId)
      return .error e
  | .ok message =>
      let _ ← lock (.pushMessage message)
      match ← waitForInvoice paymentId (sleepsWithin (invoiceTimeout handler cfg)) with
      | none =>
          let _ ← lock (.remove paymentId)
          return .error (.invoiceTimeout (invoiceTimeout handler cfg))
      | some invoice =>
          let _ ← lock (.setReceived paymentId)
          return .ok (invoice, validatedAmount, paymentId)

def getInvoice (cfg : PayOfferParams) :
    Prog Sig (Except OfferError (Bolt12Invoice × UInt64 × PaymentId)) :=
  (createInvoiceRequest ldk handler.expandedKey cfg.offer cfg.network cfg.amount
    cfg.payerNote).andThen fun (invoiceRequest, paymentId, validatedAmount, offerContext) => do
      match ← lock (.insertVacant paymentId) with
      | false => return .error (.alreadyProcessing paymentId)
      | true => fetchInvoice ldk handler cfg invoiceRequest paymentId validatedAmount offerContext

/-! ## Paying an invoice -/

def sendPaymentParams (amount : UInt64) (invoice : Bolt12Invoice) (paymentId : PaymentId)
    (feeLimit : Option FeeLimit) (path : Ldk.BlindedPaymentPath) : SendPaymentParams :=
  { path
    cltvExpiryDelta := path.payinfo.cltvExpiryDelta
    feeBaseMsat := path.payinfo.feeBaseMsat
    feePpm := path.payinfo.feeProportionalMillionths
    paymentHash := invoice.paymentHash
    msats := amount
    paymentId
    feeLimit }

/-- `pay_invoice` resolves the introduction node of a path for its log. -/
def introNodeId (path : Ldk.BlindedPaymentPath) : Prog Sig (Except OfferError String) :=
  match path.introductionNode with
  | .nodeId nodeId => .ret (.ok (ldk.publicKeyToString nodeId))
  | .directedShortChannelId direction scid => getNodeIdFromScid scid direction

theorem introNodeId_only (path : Ldk.BlindedPaymentPath) :
    (introNodeId ldk path).Only ChannelLookup Ordinary := by
  unfold introNodeId
  split
  · exact ordinary_ok _
  · exact getNodeIdFromScid_only _ _

def payPaths (amount : UInt64) (invoice : Bolt12Invoice) (paymentId : PaymentId)
    (feeLimit : Option FeeLimit) :
    List Ldk.BlindedPaymentPath → Option OfferError → Prog Sig (Except OfferError Payment)
  | [], lastError => do
      let _ ← lock (.remove paymentId)
      return .error (lastError.getD .paymentFailure)
  | path :: rest, _ =>
      (introNodeId ldk path).andThen fun _ => do
        match ← sendPayment ldk (sendPaymentParams amount invoice paymentId feeLimit path) with
        | .error e => payPaths amount invoice paymentId feeLimit rest (some e)
        | .ok () =>
            let _ ← lock (.setDispatched paymentId)
            match ← trackPayment invoice.paymentHash with
            | .error e => payPaths amount invoice paymentId feeLimit rest (some e)
            | .ok payment =>
                let _ ← lock (.remove paymentId)
                return .ok payment

def payInvoice (amount : UInt64) (invoice : Bolt12Invoice) (paymentId : PaymentId)
    (feeLimit : Option FeeLimit) : Prog Sig (Except OfferError Payment) :=
  payPaths ldk amount invoice paymentId feeLimit invoice.paymentPaths none

def payOffer (cfg : PayOfferParams) : Prog Sig (Except OfferError Payment) :=
  (getInvoice ldk handler cfg).andThen fun (invoice, validatedAmount, paymentId) =>
    payInvoice ldk validatedAmount invoice paymentId cfg.feeLimit

/-! ## Incoming messages -/

abbrev HandlerReply := Option (OffersMessage × ResponseInstruction)

def respondToInvoiceRequest (request : InvoiceRequest) (verified : VerifiedInvoiceRequest)
    (responder : Responder) : Prog Sig HandlerReply := do
  match ← createInvoiceInfoFromRequest ldk request with
  | .error _ => return none
  | .ok info =>
      match ldk.respondUsingDerivedKeys verified info.paymentPaths info.paymentHash with
      | .error _ => return none
      | .ok builder =>
          match ldk.buildAndSign builder with
          | .ok invoice =>
              let _ ← lock (.pushMessage (.invoice invoice, responder.respond.intoInstructions))
              return none
          | .error e => return some (.invoiceError ⟨e.debug⟩, responder.respond)

def handleInvoiceRequest (request : InvoiceRequest) (context : Option OffersContext)
    (responder : Option Responder) : Prog Sig HandlerReply :=
  match responder, context with
  | some responder, some (.invoiceRequest nonce) =>
      match ldk.verifyUsingRecipientData request nonce handler.expandedKey with
      | none => .ret none
      | some verified =>
          if handler.client then respondToInvoiceRequest ldk request verified responder
          else .ret none
  | _, _ => .ret none

def handleInvoice (invoice : Bolt12Invoice) (context : Option OffersContext)
    (responder : Option Responder) : Prog Sig HandlerReply :=
  match context with
  | some (.outboundPayment paymentId nonce _) =>
      match ldk.verifyUsingPayerData invoice paymentId nonce handler.expandedKey with
      | some paymentId => do
          let _ ← lock (.storeInvoice paymentId invoice)
          return none
      | none =>
          .ret (responder.map fun responder =>
            (.invoiceError ⟨"invoice verification failure"⟩, responder.respond))
  | _ => .ret none

def handleInvoiceError (paymentId : PaymentId) (nonce : Nonce) (hmac : Hmac) : Prog Sig Unit :=
  if ldk.verifyForOfferPayment paymentId hmac nonce handler.expandedKey then do
    let _ ← lock (.remove paymentId)
    return ()
  else .ret ()

def handleMessage (message : OffersMessage) (context : Option OffersContext)
    (responder : Option Responder) : Prog Sig HandlerReply :=
  match message with
  | .invoiceRequest request => handleInvoiceRequest ldk handler request context responder
  | .invoice invoice => handleInvoice ldk handler invoice context responder
  | .invoiceError _ =>
      match context with
      | some (.outboundPayment paymentId nonce (some hmac)) => do
          let _ ← handleInvoiceError ldk handler paymentId nonce hmac
          return none
      | _ => .ret none

def releasePendingMessages : Prog Sig (List PendingMessage) := lock .takeMessages

end Handler

end LndkFormal.Offers
