import LndkFormal.Offers.LndRequests

/-!
# Creating an offer

`create_offer` looks for channels on which blinded paths to our node can be
built, builds the paths and puts the first three of them into the offer.  It
shares no state with other tasks, so its programs only send requests.
-/

set_option autoImplicit false

namespace LndkFormal.Lnd

structure Channel where
  remotePubkey : String
  chanId : UInt64
  deriving DecidableEq

end LndkFormal.Lnd

namespace LndkFormal.Ldk

inductive Quantity where
  | bounded (most : UInt64) (positive : most ≠ 0)
  | unbounded
  | one
  deriving DecidableEq

structure Duration where
  secs : UInt64
  nanos : UInt32
  deriving DecidableEq

structure OfferBuilder where
  nodeId : PublicKey
  expandedKey : ExpandedKey
  nonce : Nonce
  chain : Network
  amountMsats : Option UInt64 := none
  paths : List BlindedMessagePath := []
  description : Option String := none
  issuer : Option String := none
  supportedQuantity : Option Quantity := none
  absoluteExpiry : Option Duration := none
  deriving DecidableEq

def OfferBuilder.path (builder : OfferBuilder) (path : BlindedMessagePath) : OfferBuilder :=
  { builder with paths := builder.paths ++ [path] }

end LndkFormal.Ldk

namespace LndkFormal.Offers

open LndkFormal.Async
open LndkFormal.Lnd
open LndkFormal.Ldk

/-- What the clock makes of an expiry counted from now. -/
inductive ExpiryTime where
  | overflow
  | beforeEpoch
  | reached (sinceEpoch : Duration)
  deriving DecidableEq

inductive CreationCall where
  | getInfo
  | randomNonce
  | listActivePublicChannels
  | getNodeInfo (pubkey : String) (includeChannels : Bool)
  /-- The order in which a hash set of nodes is iterated. -/
  | iterate (nodes : List PublicKey)
  | oneHopPath (recipient : PublicKey) (context : OffersContext)
  | messagePath (nodes : List PublicKey) (recipient : PublicKey) (context : OffersContext)
  | expiryFromNow (expiry : Duration)
  | buildOffer (builder : OfferBuilder)

def CreationCall.Reply : CreationCall → Type
  | .getInfo => Except Status GetInfoResponse
  | .randomNonce => Nonce
  | .listActivePublicChannels => Except Status (List Channel)
  | .getNodeInfo _ _ => Except Status NodeInfo
  | .iterate nodes => { order : List PublicKey // order.Perm nodes }
  | .oneHopPath _ _ => Option BlindedMessagePath
  | .messagePath _ _ _ => Option BlindedMessagePath
  | .expiryFromNow _ => ExpiryTime
  | .buildOffer _ => Except Bolt12SemanticError Offer

abbrev CreationSig : Signature where
  Access := Empty
  AccessReply := Empty.elim
  Call := CreationCall
  CallReply := CreationCall.Reply

abbrev inquire (request : CreationCall) : Prog CreationSig request.Reply :=
  (Prog.request request : Prog CreationSig _)

/-! ## Paths for the offer -/

variable (ldk : Library)

def insertNode (nodes : List PublicKey) (node : PublicKey) : List PublicKey :=
  if node ∈ nodes then nodes else nodes ++ [node]

/-- The channel loop of `create_reply_path_for_offer_creation`. -/
def findIntroChannels : List Channel → List PublicKey → Prog CreationSig (List PublicKey)
  | [], introChannels => .ret introChannels
  | channel :: rest, introChannels =>
      if introChannels.length > 3 then .ret introChannels
      else do
        match ← inquire (.getNodeInfo channel.remotePubkey true) with
        | .error _ => findIntroChannels rest introChannels
        | .ok nodeInfo =>
            match nodeInfo.node with
            | none => findIntroChannels rest introChannels
            | some node =>
                if nodeInfo.channels.isEmpty then findIntroChannels rest introChannels
                else
                  let onionSupport := featuresSupportOnionMessages node.features
                  let otherChannels := nodeInfo.channels.filter fun peerChannel =>
                    peerChannel.channelId != channel.chanId
                  if !otherChannels.isEmpty && onionSupport then
                    match ldk.publicKeyFromStr channel.remotePubkey with
                    | none => .panic "called `Result::unwrap()` on an `Err` value"
                    | some pubkey => findIntroChannels rest (insertNode introChannels pubkey)
                  else findIntroChannels rest introChannels

def buildPaths (nodeId : PublicKey) (context : OffersContext) :
    List PublicKey → Prog CreationSig (Except OfferError (List BlindedMessagePath))
  | [] => .ret (.ok [])
  | node :: rest => do
      match ← inquire (.messagePath [node] nodeId context) with
      | none => return .error .buildBlindedPathFailure
      | some path =>
          (buildPaths nodeId context rest).andThen fun paths => .ret (.ok (path :: paths))

def createReplyPathForOfferCreation (nodeId : PublicKey) (context : OffersContext) :
    Prog CreationSig (Except OfferError (List BlindedMessagePath)) := do
  match ← inquire .listActivePublicChannels with
  | .error e => return .error (.listChannelsFailure e.message)
  | .ok currentChannels =>
      let introChannels ← findIntroChannels ldk currentChannels []
      if introChannels.isEmpty then
        match ← inquire (.oneHopPath nodeId context) with
        | none => return .error .buildBlindedPathFailure
        | some path => return .ok [path]
      else
        let order ← inquire (.iterate introChannels)
        buildPaths nodeId context order.1

structure CreateOfferArgs where
  amountMsats : Option UInt64
  chain : Network
  description : Option String
  issuer : Option String
  quantity : Option Quantity
  expiry : Option Duration

def fillSlot (paths : List BlindedMessagePath) (slot : Nat) (builder : OfferBuilder) :
    OfferBuilder :=
  match paths[slot]? with
  | some path => builder.path path
  | none => builder

def fillSlots (paths : List BlindedMessagePath) (builder : OfferBuilder) : OfferBuilder :=
  fillSlot paths 2 (fillSlot paths 1 (fillSlot paths 0 builder))

def absoluteExpiry (expiry : Option Duration) :
    Prog CreationSig (Except OfferError (Option Duration)) :=
  match expiry with
  | none => .ret (.ok none)
  | some expiry => do
      match ← inquire (.expiryFromNow expiry) with
      | .overflow => .panic "overflow when adding duration to instant"
      | .beforeEpoch => return .error .createOfferTimeFailure
      | .reached sinceEpoch => return .ok (some sinceEpoch)

def createOffer (args : CreateOfferArgs) (expandedKey : ExpandedKey) :
    Prog CreationSig (Except OfferError Offer) := do
  match ← inquire .getInfo with
  | .error _ => return .error .nodeAddressNotFound
  | .ok info =>
      match ldk.publicKeyFromStr info.identityPubkey with
      | none => return .error .nodeAddressNotFound
      | some nodeId =>
          let nonce ← inquire .randomNonce
          (createReplyPathForOfferCreation ldk nodeId (.invoiceRequest nonce)).andThen fun paths =>
            (absoluteExpiry args.expiry).andThen fun absoluteExpiry => do
              let builder : OfferBuilder :=
                { nodeId, expandedKey, nonce
                  chain := args.chain
                  amountMsats := args.amountMsats }
              match ← inquire (.buildOffer
                { fillSlots paths builder with
                  description := args.description
                  issuer := args.issuer
                  supportedQuantity := args.quantity
                  absoluteExpiry }) with
              | .error e => return .error (.createOfferFailure e)
              | .ok offer => return .ok offer

end LndkFormal.Offers
