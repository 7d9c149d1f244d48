import LndkFormal.Offers.State
import LndkFormal.Offers.Parse

/-!
# Requests to LND

The functions of `lnd_requests.rs` and `client_impls.rs` that find peers and
nodes, ask for routes, send along a route, track a payment and register an
invoice.  Each is a program over the handler's signature; a Rust panic is a
panic of the program.
-/

set_option autoImplicit false

namespace LndkFormal.Offers

open LndkFormal.Async
open LndkFormal.Lnd
open LndkFormal.Ldk

variable (ldk : Library)

def connectToPeer (nodeId : PublicKey) : Prog Sig (Except OfferError Unit) := do
  match ← ask .listPeers with
  | .error e => return .error (.peerConnectError e.message)
  | .ok peers =>
      if peers.any fun peer => peer.pubKey == ldk.publicKeyToString nodeId then
        return .ok ()
      else
        match ← ask (.getNodeInfo (ldk.publicKeyToString nodeId) false) with
        | .error e => return .error (.peerConnectError e.message)
        | .ok info =>
            match info.node.map LightningNode.addresses with
            | none => return .error .nodeAddressNotFound
            | some [] => return .error .nodeAddressNotFound
            | some (address :: _) =>
                match ← ask (.connectPeer (ldk.publicKeyToString nodeId) address.addr) with
                | .error e => return .error (.peerConnectError e.message)
                | .ok () => return .ok ()

def getNodeIdFromScid (scid : UInt64) (direction : Direction) :
    Prog Sig (Except OfferError String) := do
  match ← ask (.getChanInfo scid) with
  | .error e => return .error (.getChannelInfo e.message)
  | .ok channelInfo =>
      match direction with
      | .nodeOne => return .ok channelInfo.node1Pub
      | .nodeTwo => return .ok channelInfo.node2Pub

def endpoint (channelInfo : ChannelEdge) : Direction → String
  | .nodeOne => channelInfo.node1Pub
  | .nodeTwo => channelInfo.node2Pub

/-- The bytes of the hex text, not of the key it spells, go to the parser. -/
def getNodeId (scid : UInt64) (direction : Direction) : Prog Sig (Except OfferError PublicKey) :=
  (getNodeIdFromScid scid direction).andThen fun pubkey =>
    match ldk.publicKeyFromSlice pubkey.toUTF8.toList with
    | some key => .ret (.ok key)
    | none => .ret (.error .introductionNodeNotFound)

/-- The peer loop of `create_reply_path_for_outgoing_payments`. -/
def findIntroNode : List Peer → Prog Sig (Option PublicKey)
  | [] => .ret none
  | peer :: rest =>
      match ldk.publicKeyFromStr peer.pubKey with
      | none => .panic "called `Result::unwrap()` on an `Err` value"
      | some pubkey =>
          if featuresSupportOnionMessages peer.features then do
            match ← ask (.getNodeInfo peer.pubKey true) with
            | .ok node =>
                if node.channels.isEmpty then findIntroNode rest else return some pubkey
            | .error _ => findIntroNode rest
          else findIntroNode rest

def createReplyPathForOutgoingPayments (nodeId : PublicKey) (context : OffersContext) :
    Prog Sig (Except OfferError BlindedMessagePath) := do
  match ← ask .listPeers with
  | .error e => return .error (.listPeersFailure e.message)
  | .ok currentPeers =>
      match ← findIntroNode ldk currentPeers with
      | none =>
          match ← ask (.oneHopPath nodeId context) with
          | some path => return .ok path
          | none => return .error .buildBlindedPathFailure
      | some introNode =>
          match ← ask (.messagePath [introNode] nodeId context) with
          | some path => return .ok path
          | none => return .error .buildBlindedPathFailure

/-- The node `send_invoice_request` connects to before it sends. -/
def connectToDestination : Destination → Prog Sig (Except OfferError Unit)
  | .node pubkey => connectToPeer ldk pubkey
  | .blindedPath path =>
      match path.introductionNode with
      | .nodeId pubkey => connectToPeer ldk pubkey
      | .directedShortChannelId direction scid =>
          (getNodeId ldk scid direction).andThen fun pubkey => connectToPeer ldk pubkey

/-- Looks up the introduction node of the reply path, whose key is only logged. -/
def replyPathIntroNode (replyPath : BlindedMessagePath) : Prog Sig (Except OfferError Unit) :=
  match replyPath.introductionNode with
  | .nodeId _ => .ret (.ok ())
  | .directedShortChannelId direction scid =>
      (getNodeId ldk scid direction).andThen fun _ => .ret (.ok ())

def sendInvoiceRequest (destination : Destination) (invoiceRequest : InvoiceRequest)
    (context : OffersContext) : Prog Sig (Except OfferError PendingMessage) :=
  (connectToDestination ldk destination).andThen fun _ => do
    match ← ask .getInfo with
    | .error _ => .panic "failed to get info"
    | .ok info =>
        match ldk.publicKeyFromStr info.identityPubkey with
        | none => .panic "called `Result::unwrap()` on an `Err` value"
        | some pubkey =>
            (createReplyPathForOutgoingPayments ldk pubkey context).andThen fun replyPath =>
              (replyPathIntroNode ldk replyPath).andThen fun _ =>
                .ret (.ok (.invoiceRequest invoiceRequest,
                  .withSpecifiedReplyPath destination replyPath))

def createInvoiceRequest (expandedKey : ExpandedKey) (offer : Offer) (network : Network)
    (msats : Option UInt64) (payerNote : Option String) :
    Prog Sig (Except OfferError (InvoiceRequest × PaymentId × UInt64 × OffersContext)) :=
  match validateAmount offer.amount msats with
  | .error e => .ret (.error e)
  | .ok validatedAmount => do
      let paymentId ← ask .randomPaymentId
      let nonce ← ask .randomNonce
      match ldk.requestInvoice offer expandedKey nonce paymentId network validatedAmount
          payerNote with
      | .error e => return .error (.buildUIRFailure e)
      | .ok invoiceRequest =>
          return .ok (invoiceRequest, paymentId, validatedAmount,
            .outboundPayment paymentId nonce
              (some (ldk.hmacForOfferPayment paymentId nonce expandedKey)))

/-! ## Paying -/

structure SendPaymentParams where
  path : Ldk.BlindedPaymentPath
  cltvExpiryDelta : UInt16
  feeBaseMsat : UInt32
  feePpm : UInt32
  paymentHash : PaymentHash
  msats : UInt64
  paymentId : PaymentId
  feeLimit : Option FeeLimit

def pathIntroductionNode (path : Ldk.BlindedPaymentPath) :
    Prog Sig (Except Status PublicKey) :=
  match path.introductionNode with
  | .nodeId pubkey => .ret (.ok pubkey)
  | .directedShortChannelId direction scid => do
      match ← getNodeId ldk scid direction with
      | .error _ => return .error (Status.unknown "Could not get node id.")
      | .ok pubkey => return .ok pubkey

def queryRoutesRequest (introductionNode : PublicKey) (path : Ldk.BlindedPaymentPath)
    (cltvExpiryDelta : UInt16) (feeBaseMsat feePpm : UInt32) (msats : UInt64)
    (feeLimit : Option FeeLimit) : QueryRoutesRequest :=
  { amtMsat := msats.toInt64
    blindedPaymentPaths := [
      { blindedPath := some
          { introductionNode := introductionNode.bytes
            blindingPoint := path.blindingPoint.bytes
            blindedHops := path.blindedHops.map fun hop =>
              { blindedNode := hop.blindedNodeId.bytes, encryptedData := hop.encryptedPayload } }
        totalCltvDelta := cltvExpiryDelta.toUInt32 + 120
        baseFeeMsat := feeBaseMsat.toUInt64
        proportionalFeeRate := feePpm }]
    feeLimit }

def queryRoutes (path : Ldk.BlindedPaymentPath) (cltvExpiryDelta : UInt16)
    (feeBaseMsat feePpm : UInt32) (msats : UInt64) (feeLimit : Option FeeLimit) :
    Prog Sig (Except Status QueryRoutesResponse) :=
  (pathIntroductionNode ldk path).andThen fun introductionNode =>
    ask (.queryRoutes (queryRoutesRequest introductionNode path cltvExpiryDelta feeBaseMsat
      feePpm msats feeLimit))

/-- Asks for routes and sends along the first one. -/
def sendPayment (params : SendPaymentParams) : Prog Sig (Except OfferError Unit) := do
  match ← queryRoutes ldk params.path params.cltvExpiryDelta params.feeBaseMsat params.feePpm
      params.msats params.feeLimit with
  | .error e => return .error (.routeFailure e.message)
  | .ok resp =>
      match resp.routes with
      | [] => .panic "index out of bounds: the len is 0 but the index is 0"
      | route :: _ =>
          match ← ask (.sendToRouteV2 params.paymentHash route) with
          | .error e => return .error (.routeFailure e.message)
          | .ok _ => return .ok ()

/-- `InvoicePayer::track_payment`'s loop over the updates of the stream. -/
def settle : List Payment → StreamEnd → Except OfferError Payment
  | [], .closed => .error .paymentFailure
  | [], .broken status => .error (.trackFailure status.message)
  | payment :: rest, ending =>
      match payment.status with
      | .succeeded => .ok payment
      | .failed => .error .paymentFailure
      | _ => settle rest ending

def InvoicePayer.trackPayment (paymentHash : PaymentHash) :
    Prog Sig (Except OfferError Payment) := do
  match ← ask (.trackPaymentV2 paymentHash true) with
  | .error e => return .error (.trackFailure e.message)
  | .ok stream => return settle stream.updates stream.ending

/-- Every kind of tracking error becomes `PaymentFailure`. -/
def trackPayment (paymentHash : PaymentHash) : Prog Sig (Except OfferError Payment) := do
  match ← InvoicePayer.trackPayment paymentHash with
  | .ok payment => return .ok payment
  | .error _ => return .error .paymentFailure

/-! ## Registering an invoice -/

def featureBitsToLeBytes (featureBits : List Int32) : List UInt8 :=
  let bits : BitVec 128 := featureBits.foldl (fun bits (bit : Int32) =>
    if 0 ≤ bit ∧ bit ≤ 127 then bits ||| (1#128 <<< bit.toNatClampNeg) else bits) 0
  (List.range 16).map fun i => UInt8.ofNat (bits >>> (8 * i)).toNat

def parseBlindedHops (hops : List Lnd.BlindedHop) : Except String (List Ldk.BlindedHop) :=
  hops.mapM fun hop =>
    match ldk.publicKeyFromSlice hop.blindedNode with
    | none => .error "Failed to parse blinding point"
    | some blindedNodeId => .ok { blindedNodeId, encryptedPayload := hop.encryptedData }

/-- An error is a panic of `parse_blinded_paths`. -/
def parseBlindedPath (path : Lnd.BlindedPaymentPath) : Except String Ldk.BlindedPaymentPath := do
  let payinfo : BlindedPayInfo :=
    { feeBaseMsat := path.baseFeeMsat.toUInt32
      feeProportionalMillionths := path.proportionalFeeRate
      cltvExpiryDelta := path.totalCltvDelta.toUInt16
      htlcMinimumMsat := path.htlcMinMsat
      htlcMaximumMsat := path.htlcMaxMsat
      features := featureBitsToLeBytes path.features }
  match path.blindedPath with
  | none => .error "called `Option::unwrap()` on a `None` value"
  | some lndPath =>
      match ldk.publicKeyFromSlice lndPath.introductionNode with
      | none => .error "Failed to parse introduction node public key"
      | some nodeId =>
          match ldk.publicKeyFromSlice lndPath.blindingPoint with
          | none => .error "Failed to parse blinding point"
          | some blindingPoint =>
              let blindedHops ← parseBlindedHops ldk lndPath.blindedHops
              .ok { introductionNode := .nodeId nodeId, blindingPoint, blindedHops, payinfo }

def parseBlindedPaths (paths : List Lnd.BlindedPaymentPath) :
    Except String (List Ldk.BlindedPaymentPath) :=
  paths.mapM (parseBlindedPath ldk)

/-- The LND invoice `add_invoice` registers for a request. -/
def lndInvoice (invoiceRequest : InvoiceRequest) : Invoice :=
  { memo := invoiceRequest.description.getD ""
    valueMsat :=
      match invoiceRequest.amount with
      | some (.bitcoin amountMsats) => amountMsats.toInt64
      | _ => 0
    expiry := 60 * 60 * 24
    isBlinded := true }

structure LndkBolt12InvoiceInfo where
  paymentHash : PaymentHash
  paymentPaths : List Ldk.BlindedPaymentPath

def createInvoiceInfoFromRequest (invoiceRequest : InvoiceRequest) :
    Prog Sig (Except OfferError LndkBolt12InvoiceInfo) := do
  match ← ask (.addInvoice (lndInvoice invoiceRequest)) with
  | .error e => return .error (.addInvoiceFailure e.message)
  | .ok response =>
      match ← ask (.decodePayReq response.paymentRequest) with
      | .error e => return .error (.decodePaymentRequestFailure e.message)
      | .ok payreq =>
          match ldk.sha256FromStr payreq.paymentHash with
          | .error e => return .error (.parsePaymentHashFailure e)
          | .ok paymentHash =>
              match parseBlindedPaths ldk payreq.blindedPaths with
              | .error message => .panic message
              | .ok paymentPaths => return .ok { paymentHash, paymentPaths }

def Lookup : Event Sig → Prop
  | .call (.getChanInfo _) _ => True
  | .call (.getNodeInfo _ _) _ => True
  | .call .listPeers _ => True
  | .call (.connectPeer _ _) _ => True
  | _ => False

def ChannelLookup : Event Sig → Prop
  | .call (.getChanInfo _) _ => True
  | _ => False

theorem getNodeIdFromScid_only (scid : UInt64) (direction : Direction) :
    (getNodeIdFromScid scid direction).Only ChannelLookup Ordinary := by
  refine Prog.only_request_bind.mpr fun reply => ⟨trivial, ?_⟩
  cases reply with
  | error e => exact ordinary_error rfl
  | ok info => cases direction <;> exact ordinary_ok _

theorem getNodeId_only (scid : UInt64) (direction : Direction) :
    (getNodeId ldk scid direction).Only ChannelLookup Ordinary := by
  refine (getNodeIdFromScid_only scid direction).andThen ?_ ?_
  · exact fun e plain => ordinary_error (plain e rfl)
  · intro pubkey
    cases ldk.publicKeyFromSlice pubkey.toUTF8.toList with
    | none => exact ordinary_error rfl
    | some key => exact ordinary_ok _

theorem connectToPeer_only (nodeId : PublicKey) :
    (connectToPeer ldk nodeId).Only Lookup Ordinary := by
  refine Prog.only_request_bind.mpr fun peers => ⟨trivial, ?_⟩
  rcases peers with e | peers
  · exact ordinary_error rfl
  · dsimp only
    split
    · exact ordinary_ok _
    · refine Prog.only_request_bind.mpr fun info => ⟨trivial, ?_⟩
      rcases info with e | info
      · exact ordinary_error rfl
      · dsimp only
        split
        · exact ordinary_error rfl
        · exact ordinary_error rfl
        · refine Prog.only_request_bind.mpr fun connected => ⟨trivial, ?_⟩
          cases connected with
          | error e => exact ordinary_error rfl
          | ok _ => exact ordinary_ok _

theorem pathIntroductionNode_only (path : Ldk.BlindedPaymentPath) :
    (pathIntroductionNode ldk path).Only ChannelLookup (fun _ => True) := by
  unfold pathIntroductionNode
  split
  · trivial
  · refine (getNodeId_only ldk _ _).bind ?_
    intro resolved _
    cases resolved <;> trivial

theorem lookup_of_channelLookup (event : Event Sig) (lookup : ChannelLookup event) :
    Lookup event := by
  cases event with
  | access op reply => exact lookup
  | call request reply => cases request <;> trivial

theorem connectToDestination_only (destination : Destination) :
    (connectToDestination ldk destination).Only Lookup Ordinary := by
  unfold connectToDestination
  split
  · exact connectToPeer_only ldk _
  · split
    · exact connectToPeer_only ldk _
    · refine ((getNodeId_only ldk _ _).mono lookup_of_channelLookup fun _ plain => plain).andThen
        ?_ (connectToPeer_only ldk)
      exact fun e plain => ordinary_error (plain e rfl)

theorem replyPathIntroNode_only (replyPath : BlindedMessagePath) :
    (replyPathIntroNode ldk replyPath).Only ChannelLookup Ordinary := by
  unfold replyPathIntroNode
  split
  · exact ordinary_ok _
  · refine (getNodeId_only ldk _ _).andThen ?_ fun _ => ordinary_ok _
    exact fun e plain => ordinary_error (plain e rfl)

end LndkFormal.Offers
