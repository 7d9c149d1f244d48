import LndkFormal.System.Protocol

/-!
# Every request keeps the protocol

The gRPC requests and the callbacks of the onion messenger, from their first
step to their answer.  `start_protocol` is what the results about runs use.
-/

set_option autoImplicit false

namespace LndkFormal.System

open LndkFormal.Async
open LndkFormal.Lnd
open LndkFormal.Ldk
open LndkFormal.Offers
open LndkFormal.Server

def Greeting : Event Sig → Prop
  | .call (.connectLnd _) _ => True
  | .call .getInfo _ => True
  | _ => False

def Unrelated {α : Type} (result : Except Status α) : Prop :=
  ∀ status, result = .error status → ∀ stage : Stage, stage.Accounts status.reason

theorem unrelated_ok {α : Type} (value : α) : Unrelated (.ok value) := nofun

theorem unrelated_of_ordinary {α : Type} {result : Except OfferError α} (plain : Ordinary result) :
    Unrelated (result.mapError OfferError.toStatus) := by
  rcases result with e | value
  · rintro _ ⟨⟩ stage
    exact accounts_of_ordinary stage (plain e rfl)
  · exact unrelated_ok value

theorem unrelated_lnd {α : Type} (e : LndError) :
    Unrelated (.error e.toStatus : Except Status α) := by
  rintro _ ⟨⟩ stage
  cases e <;> simp [Stage.Accounts, LndError.toStatus, LndError.code]

theorem unrelated_auth {α : Type} (e : AuthError) :
    Unrelated (.error e.toStatus : Except Status α) := by
  rintro _ ⟨⟩ stage
  cases e <;> simp [Stage.Accounts, AuthError.toStatus, AuthError.code]

theorem unrelated_error {α β : Type} {status : Status}
    (unrelated : Unrelated (.error status : Except Status α)) :
    Unrelated (.error status : Except Status β) := by
  rintro _ ⟨⟩ stage
  exact unrelated status rfl stage

theorem connect_only (metadata : Metadata) : (connect metadata).Only Greeting Unrelated := by
  have checked : (Prog.ret (checkAuthMetadata metadata) : Prog Sig _).Only Greeting Unrelated := by
    cases metadata with
    | absent => exact unrelated_auth .missingMacaroon
    | notText e => exact unrelated_auth (.invalidMacaroon e)
    | macaroon hex => exact unrelated_ok hex
  refine checked.andThen (fun _ unrelated => unrelated_error unrelated) ?_
  intro macaroon
  refine Prog.only_request_bind.mpr fun connected => ⟨trivial, ?_⟩
  cases connected with
  | error e => exact unrelated_lnd (.connectError e)
  | ok _ => exact unrelated_ok ()

theorem readOffer_only (ldk : Library) (text : String) :
    (readOffer ldk text).Only Greeting Unrelated := by
  have decoded : (Prog.ret ((decode ldk text).mapError OfferError.toStatus) : Prog Sig _).Only
      Greeting Unrelated := unrelated_of_ordinary (decode_ordinary ldk text)
  refine decoded.andThen (fun _ unrelated => unrelated_error unrelated) ?_
  intro offer
  have directed : (Prog.ret ((getDestination offer).mapError OfferError.toStatus) :
      Prog Sig _).Only Greeting Unrelated := unrelated_of_ordinary (getDestination_ordinary offer)
  refine directed.andThen (fun _ unrelated => unrelated_error unrelated) ?_
  intro destination
  refine Prog.only_request_bind.mpr fun info => ⟨trivial, ?_⟩
  rcases info with e | info
  · exact unrelated_lnd (.serviceUnavailable e.message)
  · dsimp only
    split
    · exact unrelated_lnd _
    · exact unrelated_ok _

section Requests

variable (ldk : Library) (handler : OfferHandler) (request : Request)
variable {ghost : Progress}

theorem greeting_protocol {α : Type} {Q : α → Prop} {p : Prog Sig α} (only : p.Only Greeting Q)
    (idle : ghost.stage = .idle) :
    p.Satisfies (protocol ldk handler request)
      (fun value final => final.stage = .idle ∧ Q value) ghost := by
  refine only.satisfies (I := fun ghost : Progress => ghost.stage = .idle) idle ?_
  rintro ⟨_, mishap⟩ event rfl greeting
  cases event with
  | access op reply => exact greeting.elim
  | call request reply => cases request <;> first | exact greeting.elim | exact ⟨rfl, rfl⟩

/-- What holds when a gRPC request is answered. -/
def RpcPost (result : Except Status String) (final : Progress) : Prop :=
  final.MayEnd ∧ ∀ status, result = .error status → final.stage.Accounts status.reason

theorem rpcPost_idle {result : Except Status String} {final : Progress}
    (idle : final.stage = .idle) (unrelated : Unrelated result) : RpcPost result final :=
  ⟨mayEnd_of_free (by rw [idle]; rfl), fun status failed => unrelated status failed final.stage⟩

theorem payOfferRpc_protocol (rpc : PayOfferRequest) (idle : ghost.stage = .idle)
    (caller : request.isMessage = false) (unpaid : request.invoice ldk = none) :
    (payOfferRpc ldk handler rpc).Satisfies (protocol ldk handler request) RpcPost ghost := by
  refine (greeting_protocol ldk handler request (connect_only rpc.metadata) idle).andThen ?_ ?_
  · exact fun _ _ kept => rpcPost_idle kept.1 (unrelated_error kept.2)
  · intro _ connected kept
    refine (greeting_protocol ldk handler request (readOffer_only ldk rpc.offer) kept.1).andThen
      ?_ ?_
    · exact fun _ _ kept => rpcPost_idle kept.1 (unrelated_error kept.2)
    · rintro ⟨offer, destination, network⟩ final kept
      refine (payOffer_protocol ldk handler request _ kept.1 caller unpaid).mapErrorThen ?_ ?_
      · rintro e final ⟨ended, accounted⟩
        exact ⟨ended, fun status failed => by cases failed; exact accounted e rfl⟩
      · exact fun _ _ ended => ⟨ended.1, nofun⟩

theorem getInvoiceRpc_protocol (rpc : GetInvoiceRequest) (idle : ghost.stage = .idle)
    (caller : request.isMessage = false) (unpaid : request.invoice ldk = none) :
    (getInvoiceRpc ldk handler rpc).Satisfies (protocol ldk handler request) RpcPost ghost := by
  refine (greeting_protocol ldk handler request (connect_only rpc.metadata) idle).andThen ?_ ?_
  · exact fun _ _ kept => rpcPost_idle kept.1 (unrelated_error kept.2)
  · intro _ connected kept
    refine (greeting_protocol ldk handler request (readOffer_only ldk rpc.offer) kept.1).andThen
      ?_ ?_
    · exact fun _ _ kept => rpcPost_idle kept.1 (unrelated_error kept.2)
    · rintro ⟨offer, destination, network⟩ final kept
      refine (getInvoice_protocol ldk handler request _ kept.1 caller unpaid).mapErrorThen ?_ ?_
      · rintro e final ⟨free, accounted⟩
        exact ⟨mayEnd_of_free free, fun status failed => by cases failed; exact accounted⟩
      · rintro ⟨invoice, amount, id⟩ ⟨_, mishap⟩ rfl
        refine Prog.satisfies_enter_bind.mpr fun _ =>
          ⟨Or.inr (Or.inr (Or.inl ⟨true, invoice, false, rfl⟩)), mayEnd_of_free rfl, ?_⟩
        exact fun status failed =>
          unrelated_of_ordinary (encodeInvoiceAsHex_ordinary ldk invoice) status failed _

theorem payInvoiceArgs_protocol (rpc : PayInvoiceRequest) (idle : ghost.stage = .idle) :
    (payInvoiceArgs ldk rpc).Satisfies (protocol ldk handler (.payInvoiceRpc rpc))
      (fun result final => match result with
        | .ok args => final.stage = .acquired false args.paymentId args.invoice false
        | .error _ => final.stage = .idle ∧ Unrelated result) ghost := by
  refine (greeting_protocol ldk handler (.payInvoiceRpc rpc) (connect_only rpc.metadata)
    idle).andThen ?_ ?_
  · exact fun _ _ kept => ⟨kept.1, unrelated_error kept.2⟩
  · rintro _ ⟨_, mishap⟩ ⟨rfl, _⟩
    refine Prog.satisfies_checked ?_ ?_
    · intro e parsed
      have plain := bolt12InvoiceFromString_ordinary ldk rpc.invoice e parsed
      exact ⟨rfl, unrelated_of_ordinary (ordinary_error plain)⟩
    · intro invoice parsed
      refine Prog.satisfies_checked ?_ ?_
      · intro e validated
        have plain := validateAmount_ordinary invoice.amount rpc.amount e validated
        exact ⟨rfl, unrelated_of_ordinary (ordinary_error plain)⟩
      · intro amount validated
        refine Prog.satisfies_request_bind.mpr fun id => ⟨⟨rfl, rfl⟩, ?_⟩
        simp [protocol, Stage.next, Request.invoice, parsed, Except.toOption]

theorem payInvoiceRpc_protocol (rpc : PayInvoiceRequest) (idle : ghost.stage = .idle) :
    (payInvoiceRpc ldk rpc).Satisfies (protocol ldk handler (.payInvoiceRpc rpc)) RpcPost
      ghost := by
  refine (payInvoiceArgs_protocol ldk handler rpc idle).andThen ?_ ?_
  · exact fun _ _ kept => rpcPost_idle kept.1 (unrelated_error kept.2)
  · intro args final acquired
    refine (payInvoice_protocol ldk handler _ args.amount args.feeLimit acquired).mapErrorThen ?_ ?_
    · rintro e final ⟨ended, accounted⟩
      exact ⟨ended, fun status failed => by cases failed; exact accounted e rfl⟩
    · exact fun _ _ ended => ⟨ended.1, nofun⟩

theorem handleInvoiceError_protocol (id : PaymentId) (nonce : Nonce) (hmac : Hmac)
    (idle : ghost.stage = .idle)
    (authentic : ldk.verifyForOfferPayment id hmac nonce handler.expandedKey = true →
      VerifiedError ldk handler request id ∨
        ∃ nonce hmac, request = .handleInvoiceError id nonce hmac) :
    (handleInvoiceError ldk handler id nonce hmac).Satisfies (protocol ldk handler request)
      (fun _ final => final.stage.held = none) ghost := by
  obtain ⟨_, mishap⟩ := ghost
  subst idle
  unfold handleInvoiceError
  split
  next verified =>
    refine Prog.satisfies_enter_bind.mpr fun _ => ⟨Or.inr (Or.inr (Or.inr ⟨rfl, ?_⟩)), rfl⟩
    rcases authentic verified with message | direct
    · exact Or.inl message
    · exact Or.inr (Or.inl direct)
  next => exact rfl

theorem respondToInvoiceRequest_protocol (invoiceRequest : InvoiceRequest)
    (verified : VerifiedInvoiceRequest) (responder : Responder) (idle : ghost.stage = .idle)
    (authentic : VerifiedRequest ldk handler request) :
    (respondToInvoiceRequest ldk invoiceRequest verified responder).Satisfies
      (protocol ldk handler request) (fun _ final => final.stage.held = none) ghost := by
  have registered : (createInvoiceInfoFromRequest ldk invoiceRequest).Satisfies
      (protocol ldk handler request) (fun _ final => final.stage = .idle) ghost := by
    obtain ⟨_, mishap⟩ := ghost
    subst idle
    refine Prog.satisfies_request_bind.mpr fun added => ⟨⟨rfl, authentic⟩, ?_⟩
    rcases added with e | response
    · exact rfl
    · refine Prog.satisfies_request_bind.mpr fun decoded => ⟨rfl, ?_⟩
      rcases decoded with e | payreq
      · exact rfl
      · dsimp only
        split
        · exact rfl
        · split
          · exact mayEnd_of_free rfl
          · exact rfl
  refine registered.bind ?_
  rintro (e | info) ⟨_, mishap⟩ rfl
  · exact rfl
  · dsimp only
    split
    · exact rfl
    · split
      · exact Prog.satisfies_enter_bind.mpr fun _ => ⟨Or.inr ⟨rfl, authentic⟩, rfl⟩
      · exact rfl

theorem handleMessage_protocol (message : OffersMessage) (context : Option OffersContext)
    (responder : Option Responder) (idle : ghost.stage = .idle) :
    (handleMessage ldk handler message context responder).Satisfies
      (protocol ldk handler (.handleMessage message context responder))
      (fun _ final => final.stage.held = none) ghost := by
  obtain ⟨_, mishap⟩ := ghost
  subst idle
  cases message with
  | invoiceRequest invoiceRequest =>
      unfold handleMessage handleInvoiceRequest
      dsimp only
      split
      next responder nonce =>
        split
        · exact rfl
        next verified accepted =>
          split
          · exact respondToInvoiceRequest_protocol ldk handler _ invoiceRequest verified responder
              rfl ⟨invoiceRequest, nonce, responder, verified, rfl, accepted⟩
          · exact rfl
      · exact rfl
  | invoice invoice =>
      unfold handleMessage handleInvoice
      dsimp only
      split
      next claimed nonce hmac =>
        split
        next id verified =>
          exact Prog.satisfies_enter_bind.mpr fun _ =>
            ⟨⟨rfl, claimed, nonce, hmac, responder, rfl, verified⟩, rfl⟩
        · exact rfl
      · exact rfl
  | invoiceError error =>
      unfold handleMessage
      dsimp only
      split
      next id nonce hmac =>
        refine (handleInvoiceError_protocol ldk handler _ id nonce hmac rfl ?_).bind ?_
        · exact fun verified => Or.inl ⟨error, nonce, hmac, responder, rfl, verified⟩
        · exact fun _ _ free => free
      · exact rfl

/-- What holds when a task is answered.  A bare call of `get_invoice` leaves the
entry to its caller. -/
structure Ends (request : Request) (outcome : Outcome) (final : Progress) : Prop where
  released : (∀ cfg, request ≠ .getInvoice cfg) → final.MayEnd
  returned : ∀ invoice amount id, outcome = .invoice (.ok (invoice, amount, id)) →
    final.stage = .acquired true id invoice false
  accounts : final.stage.Accounts outcome.reason

theorem accounts_none (stage : Stage) : stage.Accounts none := ⟨nofun, nofun⟩

theorem ends_rpc {result : Except Status String} {final : Progress}
    (ended : RpcPost result final) : Ends request (.rpc result) final where
  released _ := ended.1
  returned _ _ _ := nofun
  accounts := by
    cases result with
    | error status => exact ended.2 status rfl
    | ok text => exact accounts_none _

theorem ends_payment {result : Except OfferError Payment} {final : Progress}
    (ended : PaymentPost result final) : Ends request (.payment result) final where
  released _ := ended.1
  returned _ _ _ := nofun
  accounts := by
    cases result with
    | error e => exact ended.2 e rfl
    | ok payment => exact accounts_none _

theorem ends_invoice (cfg : PayOfferParams)
    {result : Except OfferError (Bolt12Invoice × UInt64 × PaymentId)} {final : Progress}
    (ended : InvoicePost result final) : Ends (.getInvoice cfg) (.invoice result) final := by
  rcases result with e | ⟨invoice, amount, id⟩
  · exact ⟨fun _ => mayEnd_of_free ended.1, nofun, ended.2⟩
  · refine ⟨fun other => absurd rfl (other cfg), ?_, accounts_none _⟩
    rintro _ _ _ ⟨⟩
    exact ended

theorem ends_callback {outcome : Outcome} {final : Progress} (free : final.stage.held = none)
    (silent : outcome.reason = none) (other : ∀ value, outcome ≠ .invoice (.ok value)) :
    Ends request outcome final where
  released _ := mayEnd_of_free free
  returned _ _ _ same := absurd same (other _)
  accounts := by rw [silent]; exact accounts_none _

theorem start_protocol :
    (start ldk handler request).Satisfies (protocol ldk handler request) (Ends request)
      request.progress := by
  cases request with
  | payOfferRpc rpc =>
      exact (payOfferRpc_protocol ldk handler _ rpc rfl rfl rfl).bind
        fun _ _ ended => ends_rpc _ ended
  | getInvoiceRpc rpc =>
      exact (getInvoiceRpc_protocol ldk handler _ rpc rfl rfl rfl).bind
        fun _ _ ended => ends_rpc _ ended
  | payInvoiceRpc rpc =>
      exact (payInvoiceRpc_protocol ldk handler rpc rfl).bind fun _ _ ended => ends_rpc _ ended
  | payOffer cfg =>
      exact (payOffer_protocol ldk handler _ cfg rfl rfl rfl).bind
        fun _ _ ended => ends_payment _ ended
  | getInvoice cfg =>
      exact (getInvoice_protocol ldk handler _ cfg rfl rfl rfl).bind
        fun _ _ ended => ends_invoice cfg ended
  | payInvoice amount invoice id feeLimit =>
      exact (payInvoice_protocol ldk handler _ amount feeLimit rfl).bind
        fun _ _ ended => ends_payment _ ended
  | handleMessage message context responder =>
      exact (handleMessage_protocol ldk handler message context responder rfl).bind
        fun _ _ free => ends_callback _ free rfl nofun
  | handleInvoiceError id nonce hmac =>
      exact (handleInvoiceError_protocol ldk handler _ id nonce hmac rfl
        fun _ => Or.inr ⟨nonce, hmac, rfl⟩).bind fun _ _ free => ends_callback _ free rfl nofun
  | removeActivePayment id =>
      refine Prog.satisfies_enter_bind.mpr fun _ =>
        ⟨Or.inr (Or.inr (Or.inr ⟨rfl, Or.inr (Or.inr rfl)⟩)), ends_callback _ rfl rfl nofun⟩
  | releasePendingMessages =>
      exact Prog.satisfies_enter_bind.mpr fun _ => ⟨⟨rfl, rfl⟩, ends_callback _ rfl rfl nofun⟩

end Requests

/-! ## A rule for the requests that fetch -/

section Rule

variable {G : Type} {m : Monitor Sig G} {I : G → Prop} {ghost : G}
variable {ldk : Library} {handler : OfferHandler}

theorem readOffer_satisfies {α : Type} {metadata : Metadata} {text : String}
    {k : Offer × Destination × Network → Prog Sig (Except Status α)}
    (greets : ∀ ghost event, I ghost → Greeting event → m.Steps event I ghost)
    (panics : ∀ ghost, I ghost → m.panicOk ghost)
    (calls : ∀ read final, I final → (k read).Satisfies m (fun _ _ => True) final)
    (begins : I ghost) :
    ((connect metadata).andThen fun _ => (readOffer ldk text).andThen k).Satisfies m
      (fun _ _ => True) ghost := by
  refine ((connect_only metadata).within.keeps begins greets panics).andThen
    (fun _ _ _ => trivial) ?_
  intro _ connected here
  exact ((readOffer_only ldk text).within.keeps here greets panics).andThen
    (fun _ _ _ => trivial) calls

/-- To follow a request that fetches, follow `get_invoice` and `pay_invoice`; `I` holds before. -/
theorem start_satisfies {request : Request} (fetches : request.fetches = true)
    {Q : Except OfferError (Bolt12Invoice × UInt64 × PaymentId) → G → Prop}
    (greets : ∀ ghost event, I ghost → Greeting event → m.Steps event I ghost)
    (panics : ∀ ghost, I ghost → m.panicOk ghost)
    (gets : ∀ cfg ghost, I ghost → (getInvoice ldk handler cfg).Satisfies m Q ghost)
    (pays : ∀ invoice amount id feeLimit ghost, Q (.ok (invoice, amount, id)) ghost →
      (payInvoice ldk amount invoice id feeLimit).Satisfies m (fun _ _ => True) ghost)
    (drops : ∀ invoice amount id ghost, Q (.ok (invoice, amount, id)) ghost →
      m.demand ghost (.access (.remove id) ())) (begins : I ghost) :
    (start ldk handler request).Satisfies m (fun _ _ => True) ghost := by
  have paid : ∀ cfg ghost, I ghost →
      (payOffer ldk handler cfg).Satisfies m (fun _ _ => True) ghost := by
    intro cfg ghost here
    refine (gets cfg ghost here).andThen (fun _ _ _ => trivial) ?_
    intro (invoice, amount, id) final fetched
    exact pays invoice amount id cfg.feeLimit final fetched
  cases request with
  | payOfferRpc rpc =>
      refine Prog.Satisfies.bind (readOffer_satisfies greets panics ?_ begins) fun _ _ _ => trivial
      intro (offer, destination, network) final here
      exact (paid _ final here).mapErrorThen (fun _ _ _ => trivial) fun _ _ _ => trivial
  | getInvoiceRpc rpc =>
      refine Prog.Satisfies.bind (readOffer_satisfies greets panics ?_ begins) fun _ _ _ => trivial
      intro (offer, destination, network) final here
      refine (gets _ final here).mapErrorThen (fun _ _ _ => trivial) ?_
      intro (invoice, amount, id) final fetched
      exact Prog.satisfies_enter_bind.mpr fun _ => ⟨drops invoice amount id final fetched, trivial⟩
  | payOffer cfg => exact (paid cfg ghost begins).bind fun _ _ _ => trivial
  | getInvoice cfg => exact (gets cfg ghost begins).bind fun _ _ _ => trivial
  | _ => cases fetches

end Rule

end LndkFormal.System
