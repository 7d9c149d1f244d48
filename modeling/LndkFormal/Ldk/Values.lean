import LndkFormal.Lnd.Messages

/-!
# LDK's values and functions

The BOLT 12 objects LNDK handles, as what their accessors return.  Each keeps
its encoding, so that two objects which agree on the modelled accessors may
still be different.  The functions LNDK calls on them live in LDK and
secp256k1: `Library` collects them as a parameter of the model.  Functions that
draw randomness are not here, they are requests to the surroundings.
-/

set_option autoImplicit false

namespace LndkFormal.Ldk

/-- A compressed secp256k1 key. -/
structure PublicKey where
  bytes : List UInt8
  length : bytes.length = 33
  deriving DecidableEq

structure PaymentId where
  bytes : BitVec 256
  deriving DecidableEq

structure PaymentHash where
  bytes : BitVec 256
  deriving DecidableEq

structure Nonce where
  bytes : BitVec 128
  deriving DecidableEq

structure Hmac where
  bytes : BitVec 256
  deriving DecidableEq

structure ExpandedKey where
  seed : BitVec 256
  deriving DecidableEq

inductive Network where
  | bitcoin | testnet | signet | regtest
  deriving DecidableEq

inductive Amount where
  | bitcoin (amountMsats : UInt64)
  | currency (iso4217Code : List UInt8) (amount : UInt64)
  deriving DecidableEq

inductive Direction where
  | nodeOne | nodeTwo
  deriving DecidableEq

inductive IntroductionNode where
  | nodeId (key : PublicKey)
  | directedShortChannelId (direction : Direction) (scid : UInt64)
  deriving DecidableEq

structure BlindedHop where
  blindedNodeId : PublicKey
  encryptedPayload : List UInt8
  deriving DecidableEq

structure BlindedPayInfo where
  feeBaseMsat : UInt32
  feeProportionalMillionths : UInt32
  cltvExpiryDelta : UInt16
  htlcMinimumMsat : UInt64
  htlcMaximumMsat : UInt64
  /-- Little-endian feature bytes. -/
  features : List UInt8
  deriving DecidableEq

structure BlindedPaymentPath where
  introductionNode : IntroductionNode
  blindingPoint : PublicKey
  blindedHops : List BlindedHop
  payinfo : BlindedPayInfo
  deriving DecidableEq

structure BlindedMessagePath where
  introductionNode : IntroductionNode
  encoding : List UInt8
  deriving DecidableEq

structure Offer where
  amount : Option Amount
  paths : List BlindedMessagePath
  issuerSigningPubkey : Option PublicKey
  encoding : List UInt8
  deriving DecidableEq

/-- `amount` is the offer's amount for one item, `amountMsats` the amount the
payer set in the request. -/
structure InvoiceRequest where
  amount : Option Amount
  amountMsats : Option UInt64
  quantity : Option UInt64
  description : Option String
  encoding : List UInt8
  deriving DecidableEq

structure VerifiedInvoiceRequest where
  inner : InvoiceRequest
  deriving DecidableEq

/-- `amount` is the originating offer's amount for one item, `amountMsats` the
total the invoice asks for. -/
structure Bolt12Invoice where
  paymentHash : PaymentHash
  paymentPaths : List BlindedPaymentPath
  amount : Option Amount
  amountMsats : UInt64
  encoding : List UInt8
  deriving DecidableEq

structure InvoiceBuilder where
  draft : Bolt12Invoice
  deriving DecidableEq

structure InvoiceError where
  message : String
  deriving DecidableEq

structure Bolt12SemanticError where
  debug : String
  deriving DecidableEq

structure Bolt12ParseError where
  debug : String
  deriving DecidableEq

inductive OffersMessage where
  | invoiceRequest (request : InvoiceRequest)
  | invoice (invoice : Bolt12Invoice)
  | invoiceError (error : InvoiceError)
  deriving DecidableEq

inductive OffersContext where
  | invoiceRequest (nonce : Nonce)
  | outboundPayment (paymentId : PaymentId) (nonce : Nonce) (hmac : Option Hmac)
  | inboundPayment (paymentHash : PaymentHash) (nonce : Nonce) (hmac : Hmac)
  deriving DecidableEq

inductive Destination where
  | node (key : PublicKey)
  | blindedPath (path : BlindedMessagePath)
  deriving DecidableEq

structure Responder where
  replyPath : BlindedMessagePath
  deriving DecidableEq

structure ResponseInstruction where
  responder : Responder
  deriving DecidableEq

def Responder.respond (responder : Responder) : ResponseInstruction := ⟨responder⟩

inductive MessageSendInstructions where
  | withSpecifiedReplyPath (destination : Destination) (replyPath : BlindedMessagePath)
  | forReply (instructions : ResponseInstruction)
  deriving DecidableEq

def ResponseInstruction.intoInstructions (instruction : ResponseInstruction) :
    MessageSendInstructions := .forReply instruction

structure Library where
  publicKeyFromStr : String → Option PublicKey
  publicKeyFromSlice : List UInt8 → Option PublicKey
  publicKeyToString : PublicKey → String
  offerFromStr : String → Except Bolt12ParseError Offer
  invoiceFromBytes : List UInt8 → Option Bolt12Invoice
  invoiceWrite : Bolt12Invoice → Except String (List UInt8)
  sha256FromStr : String → Except String PaymentHash
  /-- The builder chain `request_invoice`, `chain`, `amount_msats`,
  `payer_note`, `build_and_sign`. -/
  requestInvoice : Offer → ExpandedKey → Nonce → PaymentId → Network → UInt64 →
    Option String → Except Bolt12SemanticError InvoiceRequest
  hmacForOfferPayment : PaymentId → Nonce → ExpandedKey → Hmac
  verifyForOfferPayment : PaymentId → Hmac → Nonce → ExpandedKey → Bool
  verifyUsingRecipientData : InvoiceRequest → Nonce → ExpandedKey →
    Option VerifiedInvoiceRequest
  respondUsingDerivedKeys : VerifiedInvoiceRequest → List BlindedPaymentPath →
    PaymentHash → Except Bolt12SemanticError InvoiceBuilder
  buildAndSign : InvoiceBuilder → Except Bolt12SemanticError Bolt12Invoice
  verifyUsingPayerData : Bolt12Invoice → PaymentId → Nonce → ExpandedKey → Option PaymentId

/-- The amount LDK gives to the invoice that answers a request: the request's
own amount, and without one the offer's amount for as many items as are asked
for.  Without an amount in bitcoin, or on overflow, there is no invoice. -/
def InvoiceRequest.invoiceAmount (request : InvoiceRequest) : Option UInt64 :=
  match request.amountMsats, request.amount with
  | some msats, _ => some msats
  | none, some (.bitcoin perItem) =>
      if perItem.toNat * (request.quantity.getD 1).toNat < UInt64.size then
        some (perItem * request.quantity.getD 1)
      else none
  | none, _ => none

/-! ## Sample values -/

def PublicKey.repeated (byte : UInt8) : PublicKey := ⟨List.replicate 33 byte, by simp⟩

def BlindedPaymentPath.through (introduction : PublicKey) : BlindedPaymentPath where
  introductionNode := .nodeId introduction
  blindingPoint := .repeated 3
  blindedHops := []
  payinfo := ⟨0, 0, 40, 0, 0, List.replicate 16 0⟩

/-- An invoice for one item of 1000 msat with two payment paths. -/
def Bolt12Invoice.twoPaths : Bolt12Invoice where
  paymentHash := ⟨7⟩
  paymentPaths := [.through (.repeated 2), .through (.repeated 3)]
  amount := some (.bitcoin 1000)
  amountMsats := 1000
  encoding := []

def BlindedMessagePath.through (introduction : PublicKey) : BlindedMessagePath where
  introductionNode := .nodeId introduction
  encoding := []

def Offer.atIssuer : Offer := ⟨none, [], some (.repeated 2), []⟩

/-- A library without cryptography: every verification succeeds and every
encoding is empty. -/
def Library.plain (decoded : Bolt12Invoice) : Library where
  publicKeyFromStr _ := some (.repeated 2)
  publicKeyFromSlice bytes := if h : bytes.length = 33 then some ⟨bytes, h⟩ else none
  publicKeyToString _ := ""
  offerFromStr _ := .ok .atIssuer
  invoiceFromBytes _ := some decoded
  invoiceWrite _ := .ok []
  sha256FromStr _ := .ok ⟨0⟩
  requestInvoice offer _ _ _ _ msats _ := .ok ⟨offer.amount, some msats, none, none, []⟩
  hmacForOfferPayment id _ _ := ⟨id.bytes⟩
  verifyForOfferPayment id hmac _ _ := hmac.bytes = id.bytes
  verifyUsingRecipientData request _ _ := some ⟨request⟩
  respondUsingDerivedKeys verified paths hash :=
    match verified.inner.invoiceAmount with
    | some msats => .ok ⟨⟨hash, paths, verified.inner.amount, msats, []⟩⟩
    | none => .error ⟨"MissingAmount"⟩
  buildAndSign builder := .ok builder.draft
  verifyUsingPayerData _ id _ _ := some id

end LndkFormal.Ldk
