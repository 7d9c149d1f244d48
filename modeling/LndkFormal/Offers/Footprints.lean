import LndkFormal.Offers.Fetching

/-!
# Footprints

The events that fetching an invoice and paying it can take part in, whatever
LND answers.  Results that depend on the kind of an event only use these.
-/

set_option autoImplicit false

namespace LndkFormal.Offers

open LndkFormal.Async
open LndkFormal.Lnd
open LndkFormal.Ldk

variable (ldk : Library) (handler : OfferHandler)

/-- The requests on the way to an invoice request that is ready to be sent. -/
def Outreach : Event Sig → Prop
  | .call (.getChanInfo _) _ => True
  | .call (.getNodeInfo _ _) _ => True
  | .call .listPeers _ => True
  | .call (.connectPeer _ _) _ => True
  | .call .getInfo _ => True
  | .call (.oneHopPath _ _) _ => True
  | .call (.messagePath _ _ _) _ => True
  | _ => False

theorem outreach_of_lookup (event : Event Sig) (lookup : Lookup event) : Outreach event := by
  cases event with
  | access op reply => exact lookup
  | call request reply => cases request <;> first | exact lookup.elim | trivial

theorem findIntroNode_within (peers : List Peer) : (findIntroNode ldk peers).Within Outreach := by
  induction peers with
  | nil => trivial
  | cons peer rest ih =>
      unfold findIntroNode
      split
      · trivial
      · split
        · refine Prog.within_request_bind.mpr fun reply => ⟨trivial, ?_⟩
          rcases reply with e | node
          · exact ih
          · dsimp only
            split
            · exact ih
            · trivial
        · exact ih

theorem createReplyPath_within (nodeId : PublicKey) (context : OffersContext) :
    (createReplyPathForOutgoingPayments ldk nodeId context).Within Outreach := by
  refine Prog.within_request_bind.mpr fun peers => ⟨trivial, ?_⟩
  rcases peers with e | peers
  · trivial
  · refine (findIntroNode_within ldk peers).bind ?_
    rintro (none | introNode)
    all_goals
      refine Prog.within_request_bind.mpr fun path => ⟨trivial, ?_⟩
      cases path <;> trivial

theorem sendInvoiceRequest_within (destination : Destination) (invoiceRequest : InvoiceRequest)
    (context : OffersContext) :
    (sendInvoiceRequest ldk destination invoiceRequest context).Within Outreach := by
  have connected := (connectToDestination_only ldk destination).within.mono outreach_of_lookup
  refine connected.andThen fun _ => ?_
  refine Prog.within_request_bind.mpr fun info => ⟨trivial, ?_⟩
  rcases info with e | info
  · trivial
  · dsimp only
    split
    · trivial
    · refine (createReplyPath_within ldk _ context).andThen fun replyPath => ?_
      have resolved := (replyPathIntroNode_only ldk replyPath).within.mono fun event lookup =>
        outreach_of_lookup event (lookup_of_channelLookup event lookup)
      exact resolved.andThen fun _ => trivial

def Fetching : Event Sig → Prop
  | .call .randomPaymentId _ => True
  | .call .randomNonce _ => True
  | .call .sleepOrTimeout _ => True
  | .call .timeoutElapsed _ => True
  | .access (.insertVacant _) _ => True
  | .access (.readInvoice _) _ => True
  | .access (.setReceived _) _ => True
  | .access (.remove _) _ => True
  | .access (.pushMessage _) _ => True
  | event => Outreach event

theorem fetching_of_outreach (event : Event Sig) (outreach : Outreach event) : Fetching event := by
  cases event with
  | access op reply => exact outreach.elim
  | call request reply => cases request <;> first | exact outreach.elim | trivial

/-- The events of `create_invoice_request`. -/
def Drawing : Event Sig → Prop
  | .call .randomPaymentId _ => True
  | .call .randomNonce _ => True
  | _ => False

theorem fetching_of_drawing (event : Event Sig) (drawing : Drawing event) : Fetching event := by
  cases event with
  | access op reply => exact drawing.elim
  | call request reply => cases request <;> first | exact drawing.elim | trivial

theorem createInvoiceRequest_within (cfg : PayOfferParams) :
    (createInvoiceRequest ldk handler.expandedKey cfg.offer cfg.network cfg.amount
      cfg.payerNote).Within Drawing := by
  unfold createInvoiceRequest
  split
  · trivial
  · refine Prog.within_request_bind.mpr fun id => ⟨trivial, ?_⟩
    refine Prog.within_request_bind.mpr fun nonce => ⟨trivial, ?_⟩
    split <;> trivial

theorem getInvoice_within (cfg : PayOfferParams) :
    (getInvoice ldk handler cfg).Within Fetching := by
  refine getInvoice_satisfies
    ((createInvoiceRequest_within ldk handler cfg).mono fetching_of_drawing)
    (fun _ _ _ => trivial) ?_ ?_
  · exact fun _ _ _ _ _ _ => ⟨trivial, trivial⟩
  · intro request id amount context final _
    refine ⟨trivial, fetchInvoice_satisfies (W := fun _ => True)
      ((sendInvoiceRequest_within ldk cfg.destination request context).mono fetching_of_outreach)
      ?_ ?_ ⟨?_, ?_⟩⟩
    · exact fun _ _ _ => ⟨trivial, trivial⟩
    · exact fun _ _ _ => ⟨trivial, trivial⟩
    · exact fun _ _ _ => ⟨trivial, trivial, trivial⟩
    · exact fun _ _ => ⟨trivial, ⟨trivial, trivial⟩, ⟨trivial, trivial, trivial⟩, trivial, trivial,
        trivial⟩

/-! ## Paying it -/

/-- The events of `pay_invoice` for payment `id`; its queries for routes carry
its fee limit. -/
def Paying (feeLimit : Option FeeLimit) (id : PaymentId) : Event Sig → Prop
  | .call (.getChanInfo _) _ => True
  | .call (.queryRoutes request) _ => request.feeLimit = feeLimit
  | .call (.sendToRouteV2 _ _) _ => True
  | .call (.trackPaymentV2 _ _) _ => True
  | .access (.setDispatched other) _ => other = id
  | .access (.remove other) _ => other = id
  | _ => False

theorem paying_of_channelLookup (feeLimit : Option FeeLimit) (id : PaymentId) (event : Event Sig)
    (lookup : ChannelLookup event) : Paying feeLimit id event := by
  cases event with
  | access op reply => exact lookup.elim
  | call request reply => cases request <;> first | exact lookup.elim | trivial

section Paying

variable {feeLimit : Option FeeLimit} {id : PaymentId}

theorem sendPayment_within (params : SendPaymentParams) :
    (sendPayment ldk params).Within (Paying params.feeLimit id) := by
  have routes : (queryRoutes ldk params.path params.cltvExpiryDelta params.feeBaseMsat
      params.feePpm params.msats params.feeLimit).Within (Paying params.feeLimit id) := by
    have resolved := (pathIntroductionNode_only ldk params.path).within.mono
      (paying_of_channelLookup params.feeLimit id)
    exact resolved.andThen fun _ reply => ⟨rfl, trivial⟩
  refine routes.bind ?_
  rintro (e | resp)
  · trivial
  · dsimp only
    split
    · trivial
    · refine Prog.within_request_bind.mpr fun sent => ⟨trivial, ?_⟩
      cases sent <;> trivial

theorem trackPayment_within (hash : PaymentHash) :
    (trackPayment hash).Within (Paying feeLimit id) := by
  have tracked : (InvoicePayer.trackPayment hash).Within (Paying feeLimit id) := by
    refine Prog.within_request_bind.mpr fun reply => ⟨trivial, ?_⟩
    cases reply <;> trivial
  refine tracked.bind ?_
  rintro (e | payment) <;> trivial

theorem payPaths_within (amount : UInt64) (invoice : Bolt12Invoice)
    (paths : List Ldk.BlindedPaymentPath) (lastError : Option OfferError) :
    (payPaths ldk amount invoice id feeLimit paths lastError).Within (Paying feeLimit id) := by
  induction paths generalizing lastError with
  | nil => exact Prog.within_enter_bind.mpr fun _ => ⟨rfl, trivial⟩
  | cons path rest ih =>
      have resolved := (introNodeId_only ldk path).within.mono
        (paying_of_channelLookup feeLimit id)
      refine resolved.andThen fun _ => ?_
      refine (sendPayment_within ldk (sendPaymentParams amount invoice id feeLimit path)).bind ?_
      rintro (e | _)
      · exact ih (some e)
      · refine Prog.within_enter_bind.mpr fun _ => ⟨rfl, ?_⟩
        refine (trackPayment_within invoice.paymentHash).bind ?_
        rintro (e | payment)
        · exact ih (some e)
        · exact Prog.within_enter_bind.mpr fun _ => ⟨rfl, trivial⟩

end Paying

end LndkFormal.Offers
