import LndkFormal.Offers.Fetching
import LndkFormal.System.Tasks

/-!
# What one task may do, step by step

The `protocol` monitor follows the life of a payment in one task: drawing an
id, claiming its entry, waiting, reading the invoice, paying, letting go.  It
says at which stage each critical section may happen.  A task that ends while
its entry may still be in the map has seen a mishap: an answer of LND that
makes it panic or leave early.
-/

set_option autoImplicit false

namespace LndkFormal.System

open LndkFormal.Async
open LndkFormal.Lnd
open LndkFormal.Ldk
open LndkFormal.Offers
open LndkFormal.Server

inductive Stage where
  | idle
  /-- A payment id was drawn. -/
  | drawn (id : PaymentId)
  /-- The entry was occupied. -/
  | refused (id : PaymentId)
  /-- The entry is claimed and no invoice has been read. -/
  | waiting (id : PaymentId)
  /-- The timeout ran out. -/
  | expired (id : PaymentId)
  /-- The entry was dropped after the timeout. -/
  | timedOut (id : PaymentId)
  /-- The check found an invoice. -/
  | read (id : PaymentId) (invoice : Bolt12Invoice)
  /-- The invoice is there to be paid.  `owner` says whether this task claimed
  the entry, `resolved` whether `pay_invoice` has looked up the channel of the
  current path. -/
  | acquired (owner : Bool) (id : PaymentId) (invoice : Bolt12Invoice) (resolved : Bool)
  /-- The task has dropped its payment before it had an invoice. -/
  | closed (id : PaymentId)
  /-- The task has dropped its payment after it had the invoice. -/
  | finished (owner : Bool) (id : PaymentId) (invoice : Bolt12Invoice)
  /-- A callback has entered its critical section. -/
  | handled
  deriving DecidableEq

/-- The payment whose entry the task is answerable for. -/
def Stage.held : Stage → Option PaymentId
  | .waiting id => some id
  | .expired id => some id
  | .read id _ => some id
  | .acquired owner id _ _ => if owner then some id else none
  | _ => none

def Stage.over : Stage → Bool
  | .refused _ => true
  | .timedOut _ => true
  | .closed _ => true
  | .finished _ _ _ => true
  | .handled => true
  | _ => false

/-- `paid` is the invoice of a PayInvoice request. -/
def Stage.next (paid : Option Bolt12Invoice) : Stage → Event Sig → Stage
  | .idle, .call .randomPaymentId id =>
      match paid with
      | some invoice => .acquired false id invoice false
      | none => .drawn id
  | .idle, .access _ _ => .handled
  | .drawn id, .access (.insertVacant _) true => .waiting id
  | .drawn id, .access (.insertVacant _) false => .refused id
  | .waiting id, .access (.readInvoice _) (some invoice) => .read id invoice
  | .waiting id, .access (.remove _) _ => .closed id
  | .waiting id, .call .sleepOrTimeout .elapsed => .expired id
  | .waiting id, .call .timeoutElapsed _ => .expired id
  | .expired id, .access (.remove _) _ => .timedOut id
  | .read id invoice, .access (.setReceived _) _ => .acquired true id invoice false
  | .acquired owner id invoice resolved, .call (.getChanInfo _) (.ok _) =>
      .acquired owner id invoice (!resolved)
  | .acquired owner id invoice _, .call (.getChanInfo _) (.error _) =>
      .acquired owner id invoice false
  | .acquired owner id invoice _, .access (.remove _) _ => .finished owner id invoice
  | stage, _ => stage

def Stage.informs : Stage → Event Sig → Bool
  | .waiting _, .call .getInfo (.ok _) => true
  | _, _ => false

def Request.invoice (ldk : Library) : Request → Option Bolt12Invoice
  | .payInvoiceRpc request => (bolt12InvoiceFromString ldk request.invoice).toOption
  | _ => none

def Request.isMessage : Request → Bool
  | .handleMessage _ _ _ => true
  | _ => false

def Request.stage : Request → Stage
  | .payInvoice _ invoice id _ => .acquired false id invoice false
  | _ => .idle

structure Progress where
  stage : Stage
  /-- An answer of LND has ended the task while it held an entry. -/
  mishap : Bool
  /-- The reply path is being made: from here on the keys of a list of peers are parsed. -/
  informed : Bool
  deriving DecidableEq

/-- The answers of LND that end a task while it holds an entry.  `connect_to_peer` only compares
the keys of a list of peers, as texts. -/
def Progress.struckBy (ldk : Library) (ghost : Progress) (event : Event Sig) : Bool :=
  match ghost.stage, event with
  | .waiting _, .call .getInfo (.error _) => true
  | .waiting _, .call .getInfo (.ok info) => (ldk.publicKeyFromStr info.identityPubkey).isNone
  | .waiting _, .call .listPeers (.ok peers) =>
      ghost.informed && peers.any fun peer => (ldk.publicKeyFromStr peer.pubKey).isNone
  | .acquired true _ _ _, .call (.queryRoutes _) (.ok resp) => resp.routes.isEmpty
  | .acquired true _ _ false, .call (.getChanInfo _) (.error _) => true
  | _, _ => false

/-- How far a request has come when it begins. -/
def Request.progress (request : Request) : Progress := ⟨request.stage, false, false⟩

/-- A request to LND that pays, pays this invoice: along one of its paths and for
its hash. -/
def PaymentFor (invoice : Bolt12Invoice) : Event Sig → Prop
  | .call (.queryRoutes request) _ =>
      ∃ path ∈ invoice.paymentPaths, ∃ node amount feeLimit,
        request = queryRoutesRequest node path path.payinfo.cltvExpiryDelta
          path.payinfo.feeBaseMsat path.payinfo.feeProportionalMillionths amount feeLimit
  | .call (.sendToRouteV2 hash _) _ => hash = invoice.paymentHash
  | .call (.trackPaymentV2 hash _) _ => hash = invoice.paymentHash
  | _ => True

def Stage.Pays (stage : Stage) (event : Event Sig) : Prop :=
  ∃ owner id invoice resolved, stage = .acquired owner id invoice resolved ∧
    PaymentFor invoice event

/-- A task may end when it holds no entry, or after a mishap. -/
def Progress.MayEnd (ghost : Progress) : Prop := ghost.stage.held ≠ none → ghost.mishap = true

section Monitor

variable (ldk : Library) (handler : OfferHandler) (request : Request)

def Allowed (stage : Stage) : Event Sig → Prop
  | .access (.insertVacant id) _ => stage = .drawn id
  | .access (.readInvoice id) _ => stage = .waiting id
  | .access (.setReceived id) _ => ∃ invoice, stage = .read id invoice
  | .access (.setDispatched id) _ =>
      ∃ owner invoice resolved, stage = .acquired owner id invoice resolved
  | .access (.storeInvoice id invoice) _ =>
      stage = .idle ∧ VerifiedInvoice ldk handler request id invoice
  | .access (.remove id) _ =>
      stage = .waiting id ∨ stage = .expired id ∨
        (∃ owner invoice resolved, stage = .acquired owner id invoice resolved) ∨
        (stage = .idle ∧ (VerifiedError ldk handler request id ∨
          (∃ nonce hmac, request = .handleInvoiceError id nonce hmac) ∨
          request = .removeActivePayment id))
  | .access (.pushMessage _) _ =>
      (∃ id, stage = .waiting id) ∨ (stage = .idle ∧ VerifiedRequest ldk handler request)
  | .access .takeMessages _ => stage = .idle ∧ request = .releasePendingMessages
  | .call .randomPaymentId _ => stage = .idle ∧ request.isMessage = false
  | .call (.queryRoutes routes) reply => stage.Pays (.call (.queryRoutes routes) reply)
  | .call (.sendToRouteV2 hash route) reply => stage.Pays (.call (.sendToRouteV2 hash route) reply)
  | .call (.trackPaymentV2 hash flag) reply => stage.Pays (.call (.trackPaymentV2 hash flag) reply)
  | .call (.addInvoice _) _ => stage = .idle ∧ VerifiedRequest ldk handler request
  | .call .sleepOrTimeout _ => ∃ id, stage = .waiting id
  | .call .timeoutElapsed _ => ∃ id, stage = .waiting id
  | .call _ _ => stage.over = false

def protocol : Monitor Sig Progress where
  demand ghost event := Allowed ldk handler request ghost.stage event
  next ghost event :=
    { stage := ghost.stage.next (request.invoice ldk) event
      mishap := ghost.mishap || ghost.struckBy ldk event
      informed := ghost.informed || ghost.stage.informs event }
  panicOk := Progress.MayEnd

end Monitor

/-! ## Fetching an invoice -/

section Fetching

variable (ldk : Library) (handler : OfferHandler) (request : Request)
variable {id : PaymentId} {ghost : Progress}

theorem lookup_protocol {α : Type} {Q : α → Prop} {p : Prog Sig α} (only : p.Only Lookup Q)
    (waiting : ghost.stage = .waiting id) :
    p.Satisfies (protocol ldk handler request)
      (fun value final => final.stage = .waiting id ∧ Q value) ghost := by
  refine only.satisfies (I := fun ghost : Progress => ghost.stage = .waiting id) waiting ?_
  rintro ⟨_, mishap⟩ event rfl lookup
  cases event with
  | access op reply => exact lookup.elim
  | call request reply => cases request <;> first | exact lookup.elim | exact ⟨rfl, rfl⟩

/-- The peer loop panics at a key that does not parse, which is a mishap. -/
theorem findIntroNode_protocol (peers : List Peer) (waiting : ghost.stage = .waiting id)
    (known : (peers.any fun peer => (ldk.publicKeyFromStr peer.pubKey).isNone) = true →
      ghost.mishap = true) :
    (findIntroNode ldk peers).Satisfies (protocol ldk handler request)
      (fun _ final => final.stage = .waiting id) ghost := by
  induction peers generalizing ghost with
  | nil => exact waiting
  | cons peer rest ih =>
      obtain ⟨_, mishap⟩ := ghost
      subst waiting
      have later : (rest.any fun peer => (ldk.publicKeyFromStr peer.pubKey).isNone) = true →
          mishap = true := fun unparsable => known (by simp [unparsable])
      unfold findIntroNode
      cases parsed : ldk.publicKeyFromStr peer.pubKey with
      | none => exact fun _ => known (by simp [parsed])
      | some pubkey =>
          dsimp only
          split
          · refine Prog.satisfies_request_bind.mpr fun reply => ⟨rfl, ?_⟩
            have still : (mishap || false) = mishap := Bool.or_false mishap
            rcases reply with e | node
            · exact ih rfl fun unparsable => still.trans (later unparsable)
            · dsimp only
              split
              · exact ih rfl fun unparsable => still.trans (later unparsable)
              · exact rfl
          · exact ih rfl later

theorem createReplyPath_protocol (nodeId : PublicKey) (context : OffersContext)
    (waiting : ghost.stage = .waiting id) (informed : ghost.informed = true) :
    (createReplyPathForOutgoingPayments ldk nodeId context).Satisfies
      (protocol ldk handler request)
      (fun result final => final.stage = .waiting id ∧ Ordinary result) ghost := by
  obtain ⟨_, mishap, _⟩ := ghost
  subst waiting informed
  refine Prog.satisfies_request_bind.mpr fun peers => ⟨rfl, ?_⟩
  rcases peers with e | peers
  · exact ⟨rfl, ordinary_error rfl⟩
  · refine (findIntroNode_protocol ldk handler request peers rfl ?_).bind ?_
    · intro unparsable
      simp [protocol, Progress.struckBy, unparsable]
    · rintro (none | introNode) ⟨_, mishap⟩ rfl
      all_goals
        refine Prog.satisfies_request_bind.mpr fun path => ⟨rfl, ?_⟩
        cases path with
        | none => exact ⟨rfl, ordinary_error rfl⟩
        | some path => exact ⟨rfl, ordinary_ok _⟩

theorem sendInvoiceRequest_protocol (destination : Destination) (invoiceRequest : InvoiceRequest)
    (context : OffersContext) (waiting : ghost.stage = .waiting id) :
    (sendInvoiceRequest ldk destination invoiceRequest context).Satisfies
      (protocol ldk handler request)
      (fun result final => final.stage = .waiting id ∧ Ordinary result) ghost := by
  refine (lookup_protocol ldk handler request (connectToDestination_only ldk destination)
    waiting).andThen ?_ ?_
  · exact fun e final kept => ⟨kept.1, ordinary_error (kept.2 e rfl)⟩
  · rintro _ ⟨_, mishap, informed⟩ ⟨rfl, _⟩
    refine Prog.satisfies_request_bind.mpr fun info => ⟨rfl, ?_⟩
    rcases info with e | info
    · exact fun _ => Bool.or_true mishap
    · dsimp only
      cases parsed : ldk.publicKeyFromStr info.identityPubkey with
      | none => exact fun _ => by simp [protocol, Progress.struckBy, parsed]
      | some pubkey =>
          refine (createReplyPath_protocol ldk handler request pubkey context rfl
            (Bool.or_true informed)).andThen ?_ ?_
          · exact fun e final kept => ⟨kept.1, ordinary_error (kept.2 e rfl)⟩
          · intro replyPath final kept
            have looked := (replyPathIntroNode_only ldk replyPath).mono lookup_of_channelLookup
              fun _ plain => plain
            refine (lookup_protocol ldk handler request looked kept.1).andThen ?_ ?_
            · exact fun e final kept => ⟨kept.1, ordinary_error (kept.2 e rfl)⟩
            · exact fun _ final kept => ⟨kept.1, ordinary_ok _⟩

/-- The two reasons that only `get_invoice` itself gives say where the task stands. -/
def Stage.Accounts (stage : Stage) (reason : Option String) : Prop :=
  (reason = some "INVOICE_TIMEOUT" → ∃ id, stage = .timedOut id) ∧
    (reason = some "ALREADY_PROCESSING" → ∃ id, stage = .refused id)

theorem accounts_of_ordinary (stage : Stage) {e : OfferError}
    (plain : e.raisedByGetInvoice = false) : stage.Accounts (some e.code) := by
  cases e <;> first | contradiction | simp [Stage.Accounts, OfferError.code]

/-- What holds when `get_invoice` returns. -/
def InvoicePost (result : Except OfferError (Bolt12Invoice × UInt64 × PaymentId))
    (final : Progress) : Prop :=
  match result with
  | .ok (invoice, _, id) => final.stage = .acquired true id invoice false
  | .error e => final.stage.held = none ∧ final.stage.Accounts (some e.code)

theorem fetchInvoice_protocol (cfg : PayOfferParams) (invoiceRequest : InvoiceRequest)
    (validatedAmount : UInt64) (offerContext : OffersContext)
    (waiting : ghost.stage = .waiting id) :
    (fetchInvoice ldk handler cfg invoiceRequest id validatedAmount offerContext).Satisfies
      (protocol ldk handler request) InvoicePost ghost := by
  refine fetchInvoice_satisfies (W := fun ghost : Progress => ghost.stage = .waiting id)
    (sendInvoiceRequest_protocol ldk handler request cfg.destination invoiceRequest offerContext
      waiting) ?_ ?_ ⟨?_, ?_⟩
  · rintro e ⟨_, mishap⟩ ⟨rfl, plain⟩
    exact ⟨Or.inl rfl, rfl, accounts_of_ordinary _ (plain e rfl)⟩
  · rintro message ⟨_, mishap⟩ ⟨rfl, _⟩
    exact ⟨Or.inl ⟨id, rfl⟩, rfl⟩
  · rintro ⟨_, mishap⟩ rfl invoice
    exact ⟨rfl, ⟨invoice, rfl⟩, rfl⟩
  · rintro ⟨_, mishap⟩ rfl
    refine ⟨rfl, ⟨⟨id, rfl⟩, rfl⟩, ⟨⟨id, rfl⟩, Or.inr (Or.inl rfl), ?_⟩, ⟨id, rfl⟩,
      Or.inr (Or.inl rfl), ?_⟩
    all_goals exact ⟨rfl, fun _ => ⟨id, rfl⟩, by simp [OfferError.code]⟩

theorem createInvoiceRequest_protocol (cfg : PayOfferParams) (idle : ghost.stage = .idle)
    (caller : request.isMessage = false) (unpaid : request.invoice ldk = none) :
    (createInvoiceRequest ldk handler.expandedKey cfg.offer cfg.network cfg.amount
      cfg.payerNote).Satisfies (protocol ldk handler request)
      (fun result final => match result with
        | .ok (_, id, _, _) => final.stage = .drawn id
        | .error e => final.stage.held = none ∧ e.raisedByGetInvoice = false) ghost := by
  obtain ⟨_, mishap⟩ := ghost
  subst idle
  unfold createInvoiceRequest
  split
  next e rejected => exact ⟨rfl, validateAmount_ordinary cfg.offer.amount cfg.amount e rejected⟩
  next validatedAmount _ =>
    refine Prog.satisfies_request_bind.mpr fun id => ⟨⟨rfl, caller⟩, ?_⟩
    have drawn : (Stage.idle.next (request.invoice ldk) (.call .randomPaymentId id)) =
        .drawn id := by rw [unpaid]; rfl
    simp only [protocol, drawn]
    refine Prog.satisfies_request_bind.mpr fun nonce => ⟨rfl, ?_⟩
    cases ldk.requestInvoice cfg.offer handler.expandedKey nonce id cfg.network validatedAmount
        cfg.payerNote with
    | error e => exact ⟨rfl, rfl⟩
    | ok invoiceRequest => exact rfl

theorem getInvoice_protocol (cfg : PayOfferParams) (idle : ghost.stage = .idle)
    (caller : request.isMessage = false) (unpaid : request.invoice ldk = none) :
    (getInvoice ldk handler cfg).Satisfies (protocol ldk handler request) InvoicePost ghost := by
  refine getInvoice_satisfies
    (createInvoiceRequest_protocol ldk handler request cfg idle caller unpaid) ?_ ?_ ?_
  · exact fun e final ended => ⟨ended.1, accounts_of_ordinary _ ended.2⟩
  · rintro invoiceRequest id validatedAmount offerContext ⟨_, mishap⟩ rfl
    exact ⟨rfl, rfl, by simp [OfferError.code], fun _ => ⟨id, rfl⟩⟩
  · rintro invoiceRequest id validatedAmount offerContext ⟨_, mishap⟩ rfl
    exact ⟨rfl, fetchInvoice_protocol ldk handler request cfg invoiceRequest validatedAmount
      offerContext rfl⟩

end Fetching

/-! ## Paying -/

section Paying

variable (ldk : Library) (handler : OfferHandler) (request : Request)
variable {owner : Bool} {id : PaymentId} {invoice : Bolt12Invoice} {ghost : Progress}

def namesChannel (path : Ldk.BlindedPaymentPath) : Bool :=
  match path.introductionNode with
  | .nodeId _ => false
  | .directedShortChannelId _ _ => true

/-- A failed lookup here leaves `pay_invoice`, with the entry still in the map. -/
theorem introNodeId_protocol (path : Ldk.BlindedPaymentPath)
    (acquired : ghost.stage = .acquired owner id invoice false) :
    (introNodeId ldk path).Satisfies (protocol ldk handler request)
      (fun result final => Ordinary result ∧ match result with
        | .ok _ => final.stage = .acquired owner id invoice (namesChannel path)
        | .error _ => final.MayEnd) ghost := by
  obtain ⟨_, mishap⟩ := ghost
  subst acquired
  unfold introNodeId namesChannel
  cases path.introductionNode with
  | nodeId nodeId => exact ⟨ordinary_ok _, rfl⟩
  | directedShortChannelId direction scid =>
      refine Prog.satisfies_request_bind.mpr fun info => ⟨rfl, ?_⟩
      rcases info with e | info
      · refine ⟨ordinary_error rfl, fun held => ?_⟩
        cases owner with
        | false => exact absurd rfl held
        | true => exact Bool.or_true mishap
      · cases direction <;> exact ⟨ordinary_ok _, rfl⟩

theorem pathIntroductionNode_protocol (path : Ldk.BlindedPaymentPath)
    (acquired : ghost.stage = .acquired owner id invoice (namesChannel path)) :
    (pathIntroductionNode ldk path).Satisfies (protocol ldk handler request)
      (fun _ final => final.stage = .acquired owner id invoice false) ghost := by
  obtain ⟨_, mishap, informed⟩ := ghost
  subst acquired
  unfold pathIntroductionNode namesChannel
  cases path.introductionNode with
  | nodeId nodeId => exact rfl
  | directedShortChannelId direction scid =>
      have looked : (getNodeIdFromScid scid direction).Satisfies (protocol ldk handler request)
          (fun _ final => final.stage = .acquired owner id invoice false)
          ⟨.acquired owner id invoice true, mishap, informed⟩ := by
        refine Prog.satisfies_request_bind.mpr fun info => ⟨rfl, ?_⟩
        rcases info with e | info
        · exact rfl
        · cases direction <;> exact rfl
      have parsed : (getNodeId ldk scid direction).Satisfies (protocol ldk handler request)
          (fun _ final => final.stage = .acquired owner id invoice false)
          ⟨.acquired owner id invoice true, mishap, informed⟩ := by
        refine looked.andThen (fun _ _ kept => kept) ?_
        intro pubkey final kept
        cases ldk.publicKeyFromSlice pubkey.toUTF8.toList <;> exact kept
      refine parsed.bind ?_
      intro resolved final kept
      cases resolved <;> exact kept

theorem sendPayment_protocol (amount : UInt64) (feeLimit : Option FeeLimit)
    {path : Ldk.BlindedPaymentPath} (listed : path ∈ invoice.paymentPaths)
    (acquired : ghost.stage = .acquired owner id invoice (namesChannel path)) :
    (sendPayment ldk (sendPaymentParams amount invoice id feeLimit path)).Satisfies
      (protocol ldk handler request)
      (fun result final => Ordinary result ∧ final.stage = .acquired owner id invoice false)
      ghost := by
  have routes : (queryRoutes ldk path path.payinfo.cltvExpiryDelta path.payinfo.feeBaseMsat
      path.payinfo.feeProportionalMillionths amount feeLimit).Satisfies
      (protocol ldk handler request)
      (fun result final => final.stage = .acquired owner id invoice false ∧
        (owner = true → ∀ resp, result = .ok resp → resp.routes = [] → final.mishap = true))
      ghost := by
    refine (pathIntroductionNode_protocol ldk handler request path acquired).andThen ?_ ?_
    · exact fun e final kept => ⟨kept, nofun⟩
    · rintro node ⟨_, mishap⟩ rfl reply
      refine ⟨⟨owner, id, invoice, false, rfl, path, listed, node, amount, feeLimit, rfl⟩, rfl, ?_⟩
      rintro rfl resp rfl empty
      simp [protocol, Progress.struckBy, empty]
  refine routes.bind ?_
  rintro (e | resp) ⟨_, mishap⟩ ⟨rfl, noted⟩
  · exact ⟨ordinary_error rfl, rfl⟩
  · dsimp only
    split
    next empty =>
      intro held
      cases owner with
      | false => exact absurd rfl held
      | true => exact noted rfl resp rfl empty
    next =>
      refine Prog.satisfies_request_bind.mpr fun attempt =>
        ⟨⟨owner, id, invoice, false, rfl, rfl⟩, ?_⟩
      cases attempt with
      | error e => exact ⟨ordinary_error rfl, rfl⟩
      | ok _ => exact ⟨ordinary_ok _, rfl⟩

theorem trackPayment_protocol (acquired : ghost.stage = .acquired owner id invoice false) :
    (trackPayment invoice.paymentHash).Satisfies (protocol ldk handler request)
      (fun result final => Ordinary result ∧ final.stage = .acquired owner id invoice false)
      ghost := by
  obtain ⟨_, mishap, informed⟩ := ghost
  subst acquired
  have tracked : (InvoicePayer.trackPayment invoice.paymentHash).Satisfies
      (protocol ldk handler request)
      (fun _ final => final.stage = .acquired owner id invoice false)
      ⟨.acquired owner id invoice false, mishap, informed⟩ := by
    refine Prog.satisfies_request_bind.mpr fun stream =>
      ⟨⟨owner, id, invoice, false, rfl, rfl⟩, ?_⟩
    cases stream <;> exact rfl
  refine tracked.bind ?_
  rintro (e | payment) final kept
  · exact ⟨ordinary_error rfl, kept⟩
  · exact ⟨ordinary_ok _, kept⟩

/-- Induction on the paths still to try: every round starts with the invoice
acquired and no channel looked up. -/
theorem payPaths_protocol (amount : UInt64) (feeLimit : Option FeeLimit)
    (paths : List Ldk.BlindedPaymentPath) (listed : ∀ path ∈ paths, path ∈ invoice.paymentPaths)
    (lastError : Option OfferError)
    (plain : ∀ e, lastError = some e → e.raisedByGetInvoice = false)
    (acquired : ghost.stage = .acquired owner id invoice false) :
    (payPaths ldk amount invoice id feeLimit paths lastError).Satisfies
      (protocol ldk handler request) (fun result final => Ordinary result ∧ final.MayEnd)
      ghost := by
  induction paths generalizing lastError ghost with
  | nil =>
      obtain ⟨_, mishap⟩ := ghost
      subst acquired
      refine Prog.satisfies_enter_bind.mpr fun _ =>
        ⟨Or.inr (Or.inr (Or.inl ⟨owner, invoice, false, rfl⟩)), ?_, fun held => absurd rfl held⟩
      cases lastError with
      | none => exact ordinary_error rfl
      | some e => exact ordinary_error (plain e rfl)
  | cons path rest ih =>
      have restListed : ∀ other ∈ rest, other ∈ invoice.paymentPaths :=
        fun other member => listed other (.tail _ member)
      refine (introNodeId_protocol ldk handler request path acquired).andThen ?_ ?_
      · exact fun e final ended => ⟨ordinary_error (ended.1 e rfl), ended.2⟩
      · intro _ resolved kept
        refine (sendPayment_protocol ldk handler request amount feeLimit
          (listed path (.head _)) kept.2).bind ?_
        rintro (e | _) ⟨_, mishap⟩ ⟨sent, rfl⟩
        · exact ih restListed _ (fun other same => by cases same; exact sent e rfl) rfl
        · refine Prog.satisfies_enter_bind.mpr fun _ => ⟨⟨owner, invoice, false, rfl⟩, ?_⟩
          refine (trackPayment_protocol ldk handler request rfl).bind ?_
          rintro (e | payment) ⟨_, mishap⟩ ⟨tracked, rfl⟩
          · exact ih restListed _ (fun other same => by cases same; exact tracked e rfl) rfl
          · exact Prog.satisfies_enter_bind.mpr fun _ =>
              ⟨Or.inr (Or.inr (Or.inl ⟨owner, invoice, false, rfl⟩)), ordinary_ok _,
                fun held => absurd rfl held⟩

/-- What holds when `pay_offer` or `pay_invoice` returns. -/
def PaymentPost (result : Except OfferError Payment) (final : Progress) : Prop :=
  final.MayEnd ∧ ∀ e, result = .error e → final.stage.Accounts (some e.code)

theorem payInvoice_protocol (amount : UInt64) (feeLimit : Option FeeLimit)
    (acquired : ghost.stage = .acquired owner id invoice false) :
    (payInvoice ldk amount invoice id feeLimit).Satisfies (protocol ldk handler request)
      PaymentPost ghost := by
  refine (payPaths_protocol ldk handler request amount feeLimit invoice.paymentPaths
    (fun _ member => member) none nofun acquired).mono ?_
  exact fun result final ended =>
    ⟨ended.2, fun e failed => accounts_of_ordinary _ (ended.1 e failed)⟩

end Paying

theorem mayEnd_of_free {final : Progress} (free : final.stage.held = none) : final.MayEnd :=
  fun held => absurd free held

theorem payOffer_protocol (ldk : Library) (handler : OfferHandler) (request : Request)
    {ghost : Progress} (cfg : PayOfferParams) (idle : ghost.stage = .idle)
    (caller : request.isMessage = false) (unpaid : request.invoice ldk = none) :
    (payOffer ldk handler cfg).Satisfies (protocol ldk handler request) PaymentPost ghost := by
  refine (getInvoice_protocol ldk handler request cfg idle caller unpaid).andThen ?_ ?_
  · rintro e final ⟨free, accounted⟩
    exact ⟨mayEnd_of_free free, fun other same => by cases same; exact accounted⟩
  · rintro ⟨invoice, amount, id⟩ final acquired
    exact payInvoice_protocol ldk handler request amount cfg.feeLimit acquired

end LndkFormal.System
