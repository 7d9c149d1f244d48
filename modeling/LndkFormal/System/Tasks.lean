import LndkFormal.Server.Rpc

/-!
# The running handler

Everything that can run against one `OfferHandler`: the gRPC requests, the
handler's own functions and the callbacks of the onion messenger.  `lndk` is
the machine whose pools interleave any number of them.
-/

set_option autoImplicit false

namespace LndkFormal.System

open LndkFormal.Async
open LndkFormal.Lnd
open LndkFormal.Ldk
open LndkFormal.Offers
open LndkFormal.Server

inductive Request where
  | payOfferRpc (request : PayOfferRequest)
  | getInvoiceRpc (request : GetInvoiceRequest)
  | payInvoiceRpc (request : PayInvoiceRequest)
  | payOffer (cfg : PayOfferParams)
  | getInvoice (cfg : PayOfferParams)
  | payInvoice (amount : UInt64) (invoice : Bolt12Invoice) (paymentId : PaymentId)
      (feeLimit : Option FeeLimit)
  | handleMessage (message : OffersMessage) (context : Option OffersContext)
      (responder : Option Responder)
  | handleInvoiceError (paymentId : PaymentId) (nonce : Nonce) (hmac : Hmac)
  | removeActivePayment (paymentId : PaymentId)
  | releasePendingMessages

inductive Outcome where
  | rpc (result : Except Status String)
  | payment (result : Except OfferError Payment)
  | invoice (result : Except OfferError (Bolt12Invoice × UInt64 × PaymentId))
  | handled (reply : HandlerReply)
  | released (messages : List PendingMessage)
  | done

def Outcome.reason : Outcome → Option String
  | .rpc (.error status) => status.reason
  | .payment (.error e) => some e.code
  | .invoice (.error e) => some e.code
  | _ => none

def Request.fetches : Request → Bool
  | .payOfferRpc _ => true
  | .getInvoiceRpc _ => true
  | .payOffer _ => true
  | .getInvoice _ => true
  | _ => false

def Request.pays : Request → Bool
  | .payOfferRpc _ => true
  | .payInvoiceRpc _ => true
  | _ => false

section Machine

variable (ldk : Library) (handler : OfferHandler)

def start : Request → Prog Sig Outcome
  | .payOfferRpc request => payOfferRpc ldk handler request >>= fun result => .ret (.rpc result)
  | .getInvoiceRpc request =>
      getInvoiceRpc ldk handler request >>= fun result => .ret (.rpc result)
  | .payInvoiceRpc request => payInvoiceRpc ldk request >>= fun result => .ret (.rpc result)
  | .payOffer cfg => payOffer ldk handler cfg >>= fun result => .ret (.payment result)
  | .getInvoice cfg => getInvoice ldk handler cfg >>= fun result => .ret (.invoice result)
  | .payInvoice amount invoice paymentId feeLimit =>
      payInvoice ldk amount invoice paymentId feeLimit >>= fun result => .ret (.payment result)
  | .handleMessage message context responder =>
      handleMessage ldk handler message context responder >>= fun reply => .ret (.handled reply)
  | .handleInvoiceError paymentId nonce hmac =>
      handleInvoiceError ldk handler paymentId nonce hmac >>= fun _ => .ret .done
  | .removeActivePayment paymentId => lock (.remove paymentId) >>= fun _ => .ret .done
  | .releasePendingMessages => releasePendingMessages >>= fun messages => .ret (.released messages)

/-- LNDK's offer handler with everything that runs against it. -/
def lndk : Machine Sig OfferState Request Outcome where
  start := start ldk handler
  access := Access.run

end Machine

abbrev LndkTask := Task Sig Request Outcome

abbrev LndkPool := Pool Sig OfferState Request Outcome

abbrev LndkLabel := Label Sig Request

abbrev LndkGuard := Guard Sig OfferState Request Outcome

section Verified

variable (ldk : Library) (handler : OfferHandler)

def VerifiedInvoice (request : Request) (id : PaymentId) (invoice : Bolt12Invoice) : Prop :=
  ∃ claimed nonce hmac responder,
    request = .handleMessage (.invoice invoice) (some (.outboundPayment claimed nonce hmac))
      responder ∧
    ldk.verifyUsingPayerData invoice claimed nonce handler.expandedKey = some id

def VerifiedError (request : Request) (id : PaymentId) : Prop :=
  ∃ error nonce hmac responder,
    request = .handleMessage (.invoiceError error) (some (.outboundPayment id nonce (some hmac)))
      responder ∧
    ldk.verifyForOfferPayment id hmac nonce handler.expandedKey = true

def VerifiedRequest (request : Request) : Prop :=
  ∃ invoiceRequest nonce responder verified,
    request = .handleMessage (.invoiceRequest invoiceRequest) (some (.invoiceRequest nonce))
      (some responder) ∧
    ldk.verifyUsingRecipientData invoiceRequest nonce handler.expandedKey = some verified

end Verified

/-! ## A sample payment -/

/-- A node that goes along with a payment. -/
def willing : (request : Call) → request.Reply
  | .randomPaymentId => ⟨1⟩
  | .connectLnd _ => .ok ()
  | .getInfo => .ok ⟨"", [⟨"bitcoin", "regtest"⟩]⟩
  | .listPeers => .ok [⟨"", []⟩]
  | .oneHopPath _ _ => some (.through (.repeated 2))
  | .queryRoutes _ => .ok ⟨[⟨[]⟩]⟩
  | .sendToRouteV2 _ _ => .ok ⟨1⟩
  | .trackPaymentV2 _ _ => .ok ⟨[⟨"00", .succeeded⟩], .closed⟩
  | .sleepOrTimeout => .slept
  | request => request.refused

def sampleHandler : OfferHandler := ⟨⟨0⟩, 15, true⟩

def samplePayment : PayOfferParams where
  offer := .atIssuer
  amount := some 1000
  payerNote := none
  network := .regtest
  destination := .node (.repeated 2)
  responseInvoiceTimeout := none
  feeLimit := none

def sampleAnswer (invoice : Bolt12Invoice) : Request :=
  .handleMessage (.invoice invoice) (some (.outboundPayment ⟨1⟩ ⟨0⟩ none)) none

def goOn (i steps : Nat) : List (Choice Sig Request) := List.replicate steps (.act i willing)

end LndkFormal.System
