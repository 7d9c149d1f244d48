import Mathlib.Data.List.Basic

/-!
# LND's gRPC messages

The messages LNDK exchanges with LND, with the fields the modelled functions
read or write.  Byte strings are lists of bytes and machine integers keep their
width.  A payment-tracking stream is the list of updates LND delivers together
with the way the stream ends; a stream that never ends is a reply that never
comes.
-/

set_option autoImplicit false

namespace LndkFormal.Lnd

inductive Code where
  | ok | cancelled | unknown | invalidArgument | deadlineExceeded | notFound
  | alreadyExists | permissionDenied | resourceExhausted | failedPrecondition
  | aborted | outOfRange | unimplemented | internal | unavailable | dataLoss
  | unauthenticated
  deriving DecidableEq, Repr

/-- A gRPC status.  `reason` is the error-info reason that LNDK's own errors
carry in the domain `lndk`. -/
structure Status where
  code : Code
  message : String
  reason : Option String := none
  deriving DecidableEq, Repr

def Status.unknown (message : String) : Status := { code := .unknown, message }

structure Peer where
  pubKey : String
  /-- The keys of the peer's feature map. -/
  features : List UInt32
  deriving DecidableEq, Repr

structure NodeAddress where
  addr : String
  deriving DecidableEq, Repr

structure LightningNode where
  addresses : List NodeAddress
  features : List UInt32
  deriving DecidableEq, Repr

structure ChannelEdge where
  channelId : UInt64
  node1Pub : String
  node2Pub : String
  deriving DecidableEq, Repr

structure NodeInfo where
  node : Option LightningNode
  channels : List ChannelEdge
  deriving DecidableEq, Repr

structure Chain where
  chain : String
  network : String
  deriving DecidableEq, Repr

structure GetInfoResponse where
  identityPubkey : String
  chains : List Chain
  deriving DecidableEq, Repr

inductive PaymentStatus where
  | unknown | inFlight | succeeded | failed | initiated
  deriving DecidableEq, Repr

structure Payment where
  paymentPreimage : String
  status : PaymentStatus
  deriving DecidableEq, Repr

inductive StreamEnd where
  | closed
  | broken (status : Status)
  deriving DecidableEq, Repr

/-- What `TrackPaymentV2` delivers until its stream ends. -/
structure PaymentStream where
  updates : List Payment
  ending : StreamEnd
  deriving DecidableEq, Repr

structure Route where
  raw : List UInt8
  deriving DecidableEq, Repr

structure HtlcAttempt where
  attemptId : UInt64
  deriving DecidableEq, Repr

inductive Limit where
  | fixed (sats : Int64)
  | fixedMsat (msats : Int64)
  | percent (percent : Int64)
  deriving DecidableEq

structure FeeLimit where
  limit : Option Limit
  deriving DecidableEq

structure BlindedHop where
  blindedNode : List UInt8
  encryptedData : List UInt8
  deriving DecidableEq

structure BlindedPath where
  introductionNode : List UInt8
  blindingPoint : List UInt8
  blindedHops : List BlindedHop
  deriving DecidableEq

structure BlindedPaymentPath where
  blindedPath : Option BlindedPath
  baseFeeMsat : UInt64
  proportionalFeeRate : UInt32
  totalCltvDelta : UInt32
  htlcMinMsat : UInt64 := 0
  htlcMaxMsat : UInt64 := 0
  features : List Int32 := []
  deriving DecidableEq

structure QueryRoutesRequest where
  amtMsat : Int64
  blindedPaymentPaths : List BlindedPaymentPath
  feeLimit : Option FeeLimit
  deriving DecidableEq

structure QueryRoutesResponse where
  routes : List Route
  deriving DecidableEq

structure Invoice where
  memo : String
  valueMsat : Int64
  expiry : Int64
  isBlinded : Bool
  deriving DecidableEq

structure AddInvoiceResponse where
  paymentRequest : String
  deriving DecidableEq

structure PayReq where
  paymentHash : String
  blindedPaths : List BlindedPaymentPath
  deriving DecidableEq

def ONION_MESSAGES_REQUIRED : UInt32 := 38

def ONION_MESSAGES_OPTIONAL : UInt32 := 39

def featuresSupportOnionMessages (features : List UInt32) : Bool :=
  features.contains ONION_MESSAGES_OPTIONAL || features.contains ONION_MESSAGES_REQUIRED

end LndkFormal.Lnd
