import LndkFormal.Offers.Handler

/-!
# The gRPC server

The requests of LNDK's clients: PayOffer, GetInvoice and PayInvoice.  Each
checks its macaroon, connects to LND and hands over to the offer handler;
every error becomes a gRPC status.
-/

set_option autoImplicit false

namespace LndkFormal.Server

open LndkFormal.Async
open LndkFormal.Lnd
open LndkFormal.Ldk
open LndkFormal.Offers

inductive Metadata where
  | absent
  | notText (error : String)
  | macaroon (hex : String)
  deriving DecidableEq

def checkAuthMetadata : Metadata → Except Status String
  | .absent => .error AuthError.missingMacaroon.toStatus
  | .notText e => .error (AuthError.invalidMacaroon e).toStatus
  | .macaroon hex => .ok hex

def hexDigit (c : Char) : Option UInt8 :=
  if '0' ≤ c ∧ c ≤ '9' then some (UInt8.ofNat (c.toNat - '0'.toNat))
  else if 'a' ≤ c ∧ c ≤ 'f' then some (UInt8.ofNat (c.toNat - 'a'.toNat + 10))
  else if 'A' ≤ c ∧ c ≤ 'F' then some (UInt8.ofNat (c.toNat - 'A'.toNat + 10))
  else none

def hexDecodeChars : List Char → Option (List UInt8)
  | [] => some []
  | [_] => none
  | high :: low :: rest => do
      let high ← hexDigit high
      let low ← hexDigit low
      let bytes ← hexDecodeChars rest
      return (high * 16 + low) :: bytes

def hexEncode (bytes : List UInt8) : String :=
  String.ofList (bytes.flatMap fun byte =>
    [Nat.digitChar (byte.toNat / 16), Nat.digitChar (byte.toNat % 16)])

theorem hexDigit_digitChar {digit : Nat} (small : digit < 16) :
    hexDigit (Nat.digitChar digit) = some (UInt8.ofNat digit) := by
  revert digit
  decide

theorem hexDecodeChars_hexEncode (bytes : List UInt8) :
    hexDecodeChars (hexEncode bytes).toList = some bytes := by
  rw [hexEncode, String.toList_ofList]
  induction bytes with
  | nil => rfl
  | cons byte rest ih =>
      have bound := byte.toNat_lt
      have halves : UInt8.ofNat (byte.toNat / 16) * 16 + UInt8.ofNat (byte.toNat % 16) = byte := by
        rw [← UInt8.toNat_inj]
        simp
        omega
      simp only [List.flatMap_cons, List.cons_append, List.nil_append, hexDecodeChars, ih,
        hexDigit_digitChar (show byte.toNat / 16 < 16 by omega),
        hexDigit_digitChar (show byte.toNat % 16 < 16 by omega), Option.bind_eq_bind,
        Option.bind_some, halves]
      rfl

def bolt12InvoiceFromString (ldk : Library) (text : String) : Except OfferError Bolt12Invoice :=
  match (hexDecodeChars text.toList).bind ldk.invoiceFromBytes with
  | some invoice => .ok invoice
  | none => .error (.parseInvoiceFailure "InvalidValue")

def encodeInvoiceAsHex (ldk : Library) (invoice : Bolt12Invoice) : Except OfferError String :=
  match ldk.invoiceWrite invoice with
  | .ok bytes => .ok (hexEncode bytes)
  | .error e => .error (.encodeInvoiceFailure e)

theorem bolt12InvoiceFromString_ordinary (ldk : Library) (text : String) :
    Ordinary (bolt12InvoiceFromString ldk text) := by
  unfold bolt12InvoiceFromString
  split
  · exact ordinary_ok _
  · exact ordinary_error rfl

theorem encodeInvoiceAsHex_ordinary (ldk : Library) (invoice : Bolt12Invoice) :
    Ordinary (encodeInvoiceAsHex ldk invoice) := by
  unfold encodeInvoiceAsHex
  split
  · exact ordinary_ok _
  · exact ordinary_error rfl

def stringToNetwork (network : String) : Except LndError Network :=
  match network.toLower with
  | "mainnet" => .ok .bitcoin
  | "testnet" => .ok .testnet
  | "signet" => .ok .signet
  | "regtest" => .ok .regtest
  | other => .error (.networkParseError other)

/-- The last bitcoin chain LND lists names the network. -/
def getNetwork (info : GetInfoResponse) : Except LndError Network :=
  match info.chains.foldl (fun found chain =>
      if chain.chain == "bitcoin" then some chain.network else found) none with
  | none => .error .networkNotConnected
  | some network => stringToNetwork network

def createFeeLimit (feeLimit feeLimitPercent : Option UInt32) : Option FeeLimit :=
  match feeLimit, feeLimitPercent with
  | some fixed, none => some ⟨some (.fixedMsat fixed.toUInt64.toInt64)⟩
  | none, some percent => some ⟨some (.percent percent.toUInt64.toInt64)⟩
  | _, _ => none

structure PayOfferRequest where
  metadata : Metadata
  offer : String
  amount : Option UInt64
  payerNote : Option String
  responseInvoiceTimeout : Option UInt32
  feeLimit : Option UInt32
  feeLimitPercent : Option UInt32

structure GetInvoiceRequest where
  metadata : Metadata
  offer : String
  amount : Option UInt64
  payerNote : Option String
  responseInvoiceTimeout : Option UInt32

structure PayInvoiceRequest where
  metadata : Metadata
  invoice : String
  amount : Option UInt64
  feeLimit : Option UInt32
  feeLimitPercent : Option UInt32

/-! ## The requests -/

section Requests

variable (ldk : Library) (handler : OfferHandler)

def connect (metadata : Metadata) : Prog Sig (Except Status Unit) :=
  (Prog.ret (checkAuthMetadata metadata)).andThen fun macaroon => do
    match ← ask (.connectLnd macaroon) with
    | .error e => return .error (LndError.connectError e).toStatus
    | .ok () => return .ok ()

/-- The offer of a request, where to send to, and LND's network. -/
def readOffer (text : String) : Prog Sig (Except Status (Offer × Destination × Network)) :=
  (Prog.ret ((decode ldk text).mapError OfferError.toStatus)).andThen fun offer =>
    (Prog.ret ((getDestination offer).mapError OfferError.toStatus)).andThen fun destination => do
      match ← ask .getInfo with
      | .error e => return .error (LndError.serviceUnavailable e.message).toStatus
      | .ok info =>
          match getNetwork info with
          | .error e => return .error e.toStatus
          | .ok network => return .ok (offer, destination, network)

/-- The answer is the payment's preimage. -/
def payOfferRpc (request : PayOfferRequest) : Prog Sig (Except Status String) :=
  (connect request.metadata).andThen fun _ =>
    (readOffer ldk request.offer).andThen fun (offer, destination, network) =>
      ((payOffer ldk handler
        { offer, amount := request.amount, payerNote := request.payerNote, network, destination
          responseInvoiceTimeout := request.responseInvoiceTimeout
          feeLimit := createFeeLimit request.feeLimit request.feeLimitPercent }).mapError
        OfferError.toStatus).andThen fun payment => .ret (.ok payment.paymentPreimage)

/-- The answer is the hex text of the invoice. -/
def getInvoiceRpc (request : GetInvoiceRequest) : Prog Sig (Except Status String) :=
  (connect request.metadata).andThen fun _ =>
    (readOffer ldk request.offer).andThen fun (offer, destination, network) =>
      ((getInvoice ldk handler
        { offer, amount := request.amount, payerNote := request.payerNote, network, destination
          responseInvoiceTimeout := request.responseInvoiceTimeout
          feeLimit := none }).mapError
        OfferError.toStatus).andThen fun (invoice, _, paymentId) => do
            let _ ← lock (.remove paymentId)
            return (encodeInvoiceAsHex ldk invoice).mapError OfferError.toStatus

/-- What the server hands to the handler's `pay_invoice`. -/
structure PayInvoiceArgs where
  amount : UInt64
  invoice : Bolt12Invoice
  paymentId : PaymentId
  feeLimit : Option FeeLimit

def payInvoiceArgs (request : PayInvoiceRequest) : Prog Sig (Except Status PayInvoiceArgs) :=
  (connect request.metadata).andThen fun _ =>
    (Prog.ret ((bolt12InvoiceFromString ldk request.invoice).mapError
        OfferError.toStatus)).andThen fun invoice =>
      (Prog.ret ((validateAmount invoice.amount request.amount).mapError
          OfferError.toStatus)).andThen fun amount => do
        let paymentId ← ask .randomPaymentId
        return .ok
          { amount, invoice, paymentId
            feeLimit := createFeeLimit request.feeLimit request.feeLimitPercent }

def payInvoiceRpc (request : PayInvoiceRequest) : Prog Sig (Except Status String) :=
  (payInvoiceArgs ldk request).andThen fun args =>
    ((payInvoice ldk args.amount args.invoice args.paymentId args.feeLimit).mapError
      OfferError.toStatus).andThen fun payment => .ret (.ok payment.paymentPreimage)

end Requests

end LndkFormal.Server
