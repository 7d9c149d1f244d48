import LndkFormal.Bits.LittleEndian
import LndkFormal.Offers.OfferCreation
import LndkFormal.Server.Rpc
import Mathlib.Data.List.Forall2

/-!
# The contents of an invoice

DecodeInvoice and GetInvoice describe a Bolt12 invoice to the client.  The
description is built field by field from LDK's invoice.  `Reports` says when a
message describes a payment path: a client that reads the message gets the path
back.  The features are the exception, the server fills in one constant.
-/

set_option autoImplicit false

namespace LndkFormal.Ldk

structure InvoiceFields where
  /-- The text of the chain hash. -/
  chain : String
  quantity : Option UInt64
  description : Option String
  createdAt : Duration
  relativeExpiry : Duration
  signingPubkey : PublicKey
  /-- The text of the signature. -/
  signature : String
  /-- Little-endian feature bytes. -/
  invoiceFeatures : List UInt8
  payerNote : Option String
  deriving DecidableEq

end LndkFormal.Ldk

namespace LndkFormal.Lndkrpc

structure PublicKey where
  key : List UInt8
  deriving DecidableEq

structure PaymentHash where
  hash : BitVec 256
  deriving DecidableEq

inductive Direction where
  | nodeOne | nodeTwo
  deriving DecidableEq

/-- An enumeration travels as a number. -/
def Direction.toInt32 : Direction → Int32
  | .nodeOne => 0
  | .nodeTwo => 1

structure DirectedShortChannelId where
  direction : Int32
  scid : UInt64
  deriving DecidableEq

structure IntroductionNode where
  nodeId : Option PublicKey
  directedShortChannelId : Option DirectedShortChannelId
  deriving DecidableEq

structure BlindedHop where
  blindedNodeId : Option PublicKey
  encryptedPayload : List UInt8
  deriving DecidableEq

structure BlindedPath where
  introductionNode : Option IntroductionNode
  blindingPoint : Option PublicKey
  blindedHops : List BlindedHop
  deriving DecidableEq

structure BlindedPayInfo where
  feeBaseMsat : UInt32
  feeProportionalMillionths : UInt32
  cltvExpiryDelta : UInt32
  htlcMinimumMsat : UInt64
  htlcMaximumMsat : UInt64
  features : List Int32 := []
  deriving DecidableEq

structure PaymentPaths where
  blindedPayInfo : Option BlindedPayInfo
  blindedPath : Option BlindedPath
  deriving DecidableEq

structure Bolt12InvoiceContents where
  chain : String
  quantity : Option UInt64
  amountMsats : UInt64
  description : Option String
  paymentHash : Option PaymentHash
  paymentPaths : List PaymentPaths
  createdAt : Int64
  relativeExpiry : UInt64
  nodeId : Option PublicKey
  signature : String
  features : List Int32
  payerNote : Option String
  deriving DecidableEq

structure GetInvoiceResponse where
  invoiceHexStr : String
  invoiceContents : Option Bolt12InvoiceContents
  deriving DecidableEq

inductive FeatureBit where
  | datalossProtectReq | datalossProtectOpt | initialRouingSync
  | upfrontShutdownScriptReq | upfrontShutdownScriptOpt
  | gossipQueriesReq | gossipQueriesOpt | tlvOnionReq | tlvOnionOpt
  | extGossipQueriesReq | extGossipQueriesOpt | staticRemoteKeyReq | staticRemoteKeyOpt
  | paymentAddrReq | paymentAddrOpt | mppReq | mppOpt | wumboChannelsReq | wumboChannelsOpt
  | anchorsReq | anchorsOpt | anchorsZeroFeeHtlcReq | anchorsZeroFeeHtlcOpt
  | routeBlindingRequired | routeBlindingOptional | ampReq | ampOpt
  deriving DecidableEq

def FeatureBit.toInt32 : FeatureBit → Int32
  | .datalossProtectReq => 0
  | .datalossProtectOpt => 1
  | .initialRouingSync => 3
  | .upfrontShutdownScriptReq => 4
  | .upfrontShutdownScriptOpt => 5
  | .gossipQueriesReq => 6
  | .gossipQueriesOpt => 7
  | .tlvOnionReq => 8
  | .tlvOnionOpt => 9
  | .extGossipQueriesReq => 10
  | .extGossipQueriesOpt => 11
  | .staticRemoteKeyReq => 12
  | .staticRemoteKeyOpt => 13
  | .paymentAddrReq => 14
  | .paymentAddrOpt => 15
  | .mppReq => 16
  | .mppOpt => 17
  | .wumboChannelsReq => 18
  | .wumboChannelsOpt => 19
  | .anchorsReq => 20
  | .anchorsOpt => 21
  | .anchorsZeroFeeHtlcReq => 22
  | .anchorsZeroFeeHtlcOpt => 23
  | .routeBlindingRequired => 24
  | .routeBlindingOptional => 25
  | .ampReq => 30
  | .ampOpt => 31

end LndkFormal.Lndkrpc

namespace LndkFormal.Server

open LndkFormal.Async
open LndkFormal.Lnd (Status)
open LndkFormal.Ldk
open LndkFormal.Offers
open LndkFormal.Bits
open LndkFormal.Lndkrpc (FeatureBit Bolt12InvoiceContents PaymentPaths GetInvoiceResponse)

/-! ## The conversions -/

def convertPublicKey (nativePubKey : PublicKey) : Lndkrpc.PublicKey := ⟨nativePubKey.bytes⟩

/-- The features are not looked at. -/
def convertInvoiceFeatures (_features : List UInt8) : List Int32 := [FeatureBit.mppOpt.toInt32]

/-- The features are left at their default. -/
def convertBlindedPayInfo (nativeInfo : BlindedPayInfo) : Lndkrpc.BlindedPayInfo :=
  { feeBaseMsat := nativeInfo.feeBaseMsat
    feeProportionalMillionths := nativeInfo.feeProportionalMillionths
    cltvExpiryDelta := nativeInfo.cltvExpiryDelta.toUInt32
    htlcMinimumMsat := nativeInfo.htlcMinimumMsat
    htlcMaximumMsat := nativeInfo.htlcMaximumMsat }

def convertDirection : Direction → Lndkrpc.Direction
  | .nodeOne => .nodeOne
  | .nodeTwo => .nodeTwo

def convertIntroductionNode : IntroductionNode → Lndkrpc.IntroductionNode
  | .nodeId pubkey => ⟨some (convertPublicKey pubkey), none⟩
  | .directedShortChannelId direction scid =>
      ⟨none, some ⟨(convertDirection direction).toInt32, scid⟩⟩

def convertBlindedPath (nativeInfo : BlindedPaymentPath) : Lndkrpc.BlindedPath :=
  { introductionNode := some (convertIntroductionNode nativeInfo.introductionNode)
    blindingPoint := some (convertPublicKey nativeInfo.blindingPoint)
    blindedHops := nativeInfo.blindedHops.map fun hop =>
      ⟨some (convertPublicKey hop.blindedNodeId), hop.encryptedPayload⟩ }

def extractPaymentPaths (invoice : Bolt12Invoice) : List PaymentPaths :=
  invoice.paymentPaths.map fun path =>
    ⟨some (convertBlindedPayInfo path.payinfo), some (convertBlindedPath path)⟩

section Contents

variable (fields : Bolt12Invoice → InvoiceFields)

def generateBolt12InvoiceContents (invoice : Bolt12Invoice) : Bolt12InvoiceContents :=
  { chain := (fields invoice).chain
    quantity := (fields invoice).quantity
    amountMsats := invoice.amountMsats
    description := (fields invoice).description
    paymentHash := some ⟨invoice.paymentHash.bytes⟩
    createdAt := (fields invoice).createdAt.secs.toInt64
    relativeExpiry := (fields invoice).relativeExpiry.secs
    nodeId := some (convertPublicKey (fields invoice).signingPubkey)
    signature := (fields invoice).signature
    paymentPaths := extractPaymentPaths invoice
    features := convertInvoiceFeatures (fields invoice).invoiceFeatures
    payerNote := (fields invoice).payerNote }

variable (ldk : Library) (handler : OfferHandler)

def decodeInvoiceRpc (invoice : String) : Except Status Bolt12InvoiceContents :=
  ((bolt12InvoiceFromString ldk invoice).map (generateBolt12InvoiceContents fields)).mapError
    OfferError.toStatus

def getInvoiceReply (invoice : Bolt12Invoice) : Except Status GetInvoiceResponse :=
  ((encodeInvoiceAsHex ldk invoice).map fun invoiceHexStr =>
    ⟨invoiceHexStr, some (generateBolt12InvoiceContents fields invoice)⟩).mapError
    OfferError.toStatus

def getInvoiceResponseRpc (request : GetInvoiceRequest) :
    Prog Sig (Except Status GetInvoiceResponse) :=
  (connect request.metadata).andThen fun _ =>
    (readOffer ldk request.offer).andThen fun (offer, destination, network) =>
      ((getInvoice ldk handler
        { offer, amount := request.amount, payerNote := request.payerNote, network, destination
          responseInvoiceTimeout := request.responseInvoiceTimeout
          feeLimit := none }).mapError
        OfferError.toStatus).andThen fun (invoice, _, paymentId) => do
            let _ ← lock (.remove paymentId)
            return getInvoiceReply fields ldk invoice

end Contents

def readPublicKey (message : Lndkrpc.PublicKey) : Option PublicKey :=
  if length : message.key.length = 33 then some ⟨message.key, length⟩ else none

def readDirection (number : Int32) : Option Direction :=
  if number = 0 then some .nodeOne else if number = 1 then some .nodeTwo else none

def readIntroductionNode (message : Lndkrpc.IntroductionNode) : Option IntroductionNode :=
  match message.nodeId, message.directedShortChannelId with
  | some key, none => (readPublicKey key).map .nodeId
  | none, some channel =>
      (readDirection channel.direction).map fun direction =>
        .directedShortChannelId direction channel.scid
  | _, _ => none

def readBlindedHop (message : Lndkrpc.BlindedHop) : Option BlindedHop :=
  (message.blindedNodeId.bind readPublicKey).map fun node => ⟨node, message.encryptedPayload⟩

@[simp] theorem readPublicKey_convert (key : PublicKey) :
    readPublicKey (convertPublicKey key) = some key := dif_pos key.length

@[simp] theorem readDirection_convert (direction : Direction) :
    readDirection (convertDirection direction).toInt32 = some direction := by
  cases direction <;> rfl

@[simp] theorem readIntroductionNode_convert (node : IntroductionNode) :
    readIntroductionNode (convertIntroductionNode node) = some node := by
  cases node with
  | nodeId key => simp [convertIntroductionNode, readIntroductionNode]
  | directedShortChannelId direction scid => simp [convertIntroductionNode, readIntroductionNode]

structure ReportsRoute (path : BlindedPaymentPath) (message : Lndkrpc.BlindedPath) : Prop where
  introduction :
    message.introductionNode.bind readIntroductionNode = some path.introductionNode
  blindingPoint : message.blindingPoint.bind readPublicKey = some path.blindingPoint
  hops : message.blindedHops.map readBlindedHop = path.blindedHops.map some

structure ReportsTerms (payinfo : BlindedPayInfo) (message : Lndkrpc.BlindedPayInfo) : Prop where
  baseFee : message.feeBaseMsat.toNat = payinfo.feeBaseMsat.toNat
  feeRate : message.feeProportionalMillionths.toNat = payinfo.feeProportionalMillionths.toNat
  cltvDelta : message.cltvExpiryDelta.toNat = payinfo.cltvExpiryDelta.toNat
  htlcMinimum : message.htlcMinimumMsat.toNat = payinfo.htlcMinimumMsat.toNat
  htlcMaximum : message.htlcMaximumMsat.toNat = payinfo.htlcMaximumMsat.toNat

def Lists (listed : List Int32) (Sets : Nat → Prop) : Prop :=
  ∀ number : Int, number ∈ listed.map Int32.toInt ↔ ∃ k : Nat, number = k ∧ Sets k

structure Reports (path : BlindedPaymentPath) (message : PaymentPaths) : Prop where
  route : ∃ blinded, message.blindedPath = some blinded ∧ ReportsRoute path blinded
  payinfo : ∃ info, message.blindedPayInfo = some info ∧ ReportsTerms path.payinfo info ∧
    Lists info.features fun k => bitAt path.payinfo.features k = true

def Named (k : Nat) : Prop := ∃ bit : FeatureBit, bit.toInt32.toInt = k

/-- The contents describe the invoice's features, as far as they have names, and its
payment paths. -/
structure Describes (fields : Bolt12Invoice → InvoiceFields) (invoice : Bolt12Invoice)
    (contents : Bolt12InvoiceContents) : Prop where
  features : Lists contents.features fun k =>
    Named k ∧ bitAt (fields invoice).invoiceFeatures k = true
  paths : List.Forall₂ Reports invoice.paymentPaths contents.paymentPaths

/-! ## What is described -/

theorem convertBlindedPath_reports (path : BlindedPaymentPath) :
    ReportsRoute path (convertBlindedPath path) where
  introduction := readIntroductionNode_convert path.introductionNode
  blindingPoint := readPublicKey_convert path.blindingPoint
  hops := by
    simp [convertBlindedPath, readBlindedHop, Function.comp_def]

theorem convertBlindedPayInfo_reports (payinfo : BlindedPayInfo) :
    ReportsTerms payinfo (convertBlindedPayInfo payinfo) where
  baseFee := rfl
  feeRate := rfl
  cltvDelta := UInt16.toNat_toUInt32 payinfo.cltvExpiryDelta
  htlcMinimum := rfl
  htlcMaximum := rfl

theorem lists_iff {listed : List Int32} {numbers : List Nat}
    (same : listed.map Int32.toInt = numbers.map Nat.cast) (Sets : Nat → Prop) :
    Lists listed Sets ↔ ∀ k, k ∈ numbers ↔ Sets k := by
  unfold Lists
  rw [same]
  constructor
  · intro exactly k
    have atBit := exactly k
    simpa only [List.mem_map, Int.natCast_inj, exists_eq_right, exists_eq_left'] using atBit
  · intro exactly number
    rw [List.mem_map]
    constructor
    · rintro ⟨k, listed, rfl⟩
      exact ⟨k, rfl, (exactly k).mp listed⟩
    · rintro ⟨k, rfl, set⟩
      exact ⟨k, (exactly k).mpr set, rfl⟩

theorem mpp_named : Named 17 := ⟨.mppOpt, by decide⟩

/-- The features are described exactly if, of the named bits, the invoice sets MPP alone. -/
theorem convertInvoiceFeatures_lists_iff (features : List UInt8) :
    (Lists (convertInvoiceFeatures features) fun k => Named k ∧ bitAt features k = true) ↔
      ∀ k, Named k → (bitAt features k = true ↔ k = 17) := by
  have constant : (convertInvoiceFeatures features).map Int32.toInt = [17].map Nat.cast := by
    unfold convertInvoiceFeatures
    decide
  rw [lists_iff constant]
  simp only [List.mem_singleton]
  constructor
  · intro exactly k named
    rw [exactly k]
    exact (and_iff_right named).symm
  · intro exactly k
    constructor
    · rintro rfl
      exact ⟨mpp_named, (exactly 17 mpp_named).mpr rfl⟩
    · rintro ⟨named, set⟩
      exact (exactly k named).mp set

theorem reports_iff (path : BlindedPaymentPath) :
    Reports path ⟨some (convertBlindedPayInfo path.payinfo), some (convertBlindedPath path)⟩ ↔
      ∀ k, bitAt path.payinfo.features k = false := by
  have nothing : ([] : List Int32).map Int32.toInt = ([] : List Nat).map Nat.cast := rfl
  have lists : (Lists [] fun k => bitAt path.payinfo.features k = true) ↔
      ∀ k, bitAt path.payinfo.features k = false := by
    rw [lists_iff nothing]
    simp
  constructor
  · rintro ⟨-, info, present, -, listed⟩
    cases present
    exact lists.mp listed
  · intro none
    exact ⟨⟨_, rfl, convertBlindedPath_reports path⟩,
      ⟨_, rfl, convertBlindedPayInfo_reports path.payinfo, lists.mpr none⟩⟩

theorem extractPaymentPaths_reports_iff (invoice : Bolt12Invoice) :
    List.Forall₂ Reports invoice.paymentPaths (extractPaymentPaths invoice) ↔
      ∀ path ∈ invoice.paymentPaths, ∀ k, bitAt path.payinfo.features k = false := by
  unfold extractPaymentPaths
  rw [List.forall₂_map_right_iff, List.forall₂_same]
  exact forall₂_congr fun path _ => reports_iff path

/-- The contents of an invoice describe it exactly if the invoice sets MPP and no other named
feature, and its payment paths set no feature. -/
theorem invoiceContents_describe_iff (fields : Bolt12Invoice → InvoiceFields)
    (invoice : Bolt12Invoice) :
    Describes fields invoice (generateBolt12InvoiceContents fields invoice) ↔
      (∀ k, Named k → (bitAt (fields invoice).invoiceFeatures k = true ↔ k = 17)) ∧
        ∀ path ∈ invoice.paymentPaths, ∀ k, bitAt path.payinfo.features k = false := by
  rw [← convertInvoiceFeatures_lists_iff, ← extractPaymentPaths_reports_iff]
  constructor
  · intro described
    exact ⟨described.features, described.paths⟩
  · intro ⟨features, same⟩
    exact ⟨features, same⟩

def sampleFields (invoiceFeatures : List UInt8) : InvoiceFields where
  chain := ""
  quantity := none
  description := none
  createdAt := ⟨0, 0⟩
  relativeExpiry := ⟨7200, 0⟩
  signingPubkey := .repeated 2
  signature := ""
  invoiceFeatures
  payerNote := none

theorem invoiceContents_describe_mpp :
    Describes (fun _ => sampleFields [0, 0, 2]) .twoPaths
      (generateBolt12InvoiceContents (fun _ => sampleFields [0, 0, 2]) .twoPaths) := by
  refine (invoiceContents_describe_iff _ _).mpr ⟨?_, ?_⟩
  · rintro k ⟨bit, named⟩
    -- a named bit is one of the enumeration's numbers, so each can be tried
    have number : k = bit.toInt32.toInt.toNat := by omega
    subst number
    cases bit <;> decide
  · intro path listed k
    have sample : path = .through (.repeated 2) ∨ path = .through (.repeated 3) := by
      simpa [Bolt12Invoice.twoPaths] using listed
    rcases sample with rfl | rfl
    · exact bitAt_replicate_zero 16 k
    · exact bitAt_replicate_zero 16 k

def featuredInvoice : Bolt12Invoice :=
  { Bolt12Invoice.twoPaths with
    paymentPaths :=
      [{ BlindedPaymentPath.through (.repeated 2) with
          payinfo := ⟨0, 0, 40, 0, 0, [0, 0, 0, 2]⟩ }] }

/-- MPP is listed where the invoice sets nothing, and the feature of a path is lost. -/
theorem invoiceContents_misdescribe :
    ¬ Describes (fun _ => sampleFields []) .twoPaths
        (generateBolt12InvoiceContents (fun _ => sampleFields []) .twoPaths) ∧
      ¬ Describes (fun _ => sampleFields [0, 0, 2]) featuredInvoice
        (generateBolt12InvoiceContents (fun _ => sampleFields [0, 0, 2]) featuredInvoice) := by
  constructor
  · intro described
    have mpp := (convertInvoiceFeatures_lists_iff []).mp described.features 17 mpp_named
    exact absurd (mpp.mpr rfl) (by decide)
  · intro described
    have lost := (extractPaymentPaths_reports_iff featuredInvoice).mp described.paths _
      List.mem_cons_self 25
    exact absurd lost (by decide)

section Replies

variable {fields : Bolt12Invoice → InvoiceFields} {ldk : Library} {handler : OfferHandler}

theorem decodeInvoiceRpc_ok_iff {text : String} {contents : Bolt12InvoiceContents} :
    decodeInvoiceRpc fields ldk text = .ok contents ↔
      ∃ invoice, bolt12InvoiceFromString ldk text = .ok invoice ∧
        generateBolt12InvoiceContents fields invoice = contents := by
  unfold decodeInvoiceRpc
  cases bolt12InvoiceFromString ldk text with
  | error e => simp [Except.map, Except.mapError]
  | ok invoice => simp [Except.map, Except.mapError]

theorem getInvoiceReply_ok_iff {invoice : Bolt12Invoice} {response : GetInvoiceResponse} :
    getInvoiceReply fields ldk invoice = .ok response ↔
      encodeInvoiceAsHex ldk invoice = .ok response.invoiceHexStr ∧
        response.invoiceContents = some (generateBolt12InvoiceContents fields invoice) := by
  unfold getInvoiceReply
  cases encodeInvoiceAsHex ldk invoice with
  | error e => simp [Except.map, Except.mapError]
  | ok text =>
    cases response with
    | mk hex contents => simp [Except.map, Except.mapError, eq_comm]

theorem getInvoiceReply_hex (invoice : Bolt12Invoice) :
    (getInvoiceReply fields ldk invoice).map GetInvoiceResponse.invoiceHexStr =
      (encodeInvoiceAsHex ldk invoice).mapError OfferError.toStatus := by
  unfold getInvoiceReply
  cases encodeInvoiceAsHex ldk invoice with
  | error e => rfl
  | ok text => rfl

theorem getInvoiceResponseRpc_hex (request : GetInvoiceRequest) :
    (getInvoiceResponseRpc fields ldk handler request >>= fun reply =>
      .ret (reply.map GetInvoiceResponse.invoiceHexStr)) = getInvoiceRpc ldk handler request := by
  unfold getInvoiceResponseRpc getInvoiceRpc
  simp only [Prog.andThen_map, Prog.bind_assoc, Prog.pure_eq_ret, Prog.ret_bind,
    getInvoiceReply_hex]

theorem getInvoiceResponseRpc_reply {request : GetInvoiceRequest}
    {response : GetInvoiceResponse} {trace : List (Event Sig)}
    (run : Reaches (getInvoiceResponseRpc fields ldk handler request) trace
      (.ret (.ok response))) :
    ∃ invoice, getInvoiceReply fields ldk invoice = .ok response := by
  obtain ⟨_, _, _, _, afterConnect, _⟩ := reaches_andThen_ok run
  obtain ⟨_, _, ⟨offer, destination, network⟩, _, afterOffer, _⟩ :=
    reaches_andThen_ok afterConnect
  obtain ⟨_, _, ⟨invoice, validated, paymentId⟩, _, afterInvoice, _⟩ :=
    reaches_andThen_ok afterOffer
  refine ⟨invoice, ?_⟩
  cases afterInvoice with
  | access reply rest =>
    generalize getInvoiceReply fields ldk invoice = answer at rest
    cases rest
    rfl

/-- Assumed of LDK: what is written of an invoice is read as this invoice. -/
def InvoiceRoundTrip (ldk : Library) : Prop :=
  ∀ invoice bytes, ldk.invoiceWrite invoice = .ok bytes → ldk.invoiceFromBytes bytes = some invoice

theorem bolt12InvoiceFromString_encode (codec : InvoiceRoundTrip ldk) {invoice : Bolt12Invoice}
    {text : String} (encoded : encodeInvoiceAsHex ldk invoice = .ok text) :
    bolt12InvoiceFromString ldk text = .ok invoice := by
  unfold encodeInvoiceAsHex at encoded
  split at encoded
  · rename_i bytes written
    cases encoded
    simp [bolt12InvoiceFromString, hexDecodeChars_hexEncode, codec invoice bytes written]
  · cases encoded

/-- DecodeInvoice gives the contents of GetInvoice's reply for its hex text. -/
theorem decodeInvoiceRpc_getInvoice (codec : InvoiceRoundTrip ldk) {request : GetInvoiceRequest}
    {response : GetInvoiceResponse} {trace : List (Event Sig)}
    (run : Reaches (getInvoiceResponseRpc fields ldk handler request) trace
      (.ret (.ok response))) :
    ∃ contents, response.invoiceContents = some contents ∧
      decodeInvoiceRpc fields ldk response.invoiceHexStr = .ok contents := by
  obtain ⟨invoice, replied⟩ := getInvoiceResponseRpc_reply run
  obtain ⟨encoded, contents⟩ := getInvoiceReply_ok_iff.mp replied
  refine ⟨_, contents, decodeInvoiceRpc_ok_iff.mpr ⟨invoice, ?_, rfl⟩⟩
  exact bolt12InvoiceFromString_encode codec encoded

end Replies

end LndkFormal.Server
