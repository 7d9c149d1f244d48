import LndkFormal.System.Abandoned
import LndkFormal.System.QueriedAmounts

/-!
# What a call asks for and what it pays

A call that fetches an invoice draws one payment id, builds one invoice request
for it and queues that request and nothing else.  The amount of the request is
the amount of every later query for routes.  The answer to an invoice request is
queued by its handling alone, after LND has registered an invoice for it.
-/

set_option autoImplicit false

namespace LndkFormal.System

open LndkFormal.Async
open LndkFormal.Lnd
open LndkFormal.Ldk
open LndkFormal.Offers
open LndkFormal.Server

inductive Asking where
  | nothing
  | drawn (id : PaymentId)
  | asked (id : PaymentId) (request : InvoiceRequest)

/-- The request was built with this key for this payment, for an amount that was
validated against its offer. -/
def BuiltFor (ldk : Library) (key : ExpandedKey) (id : PaymentId) (amount : UInt64)
    (request : InvoiceRequest) : Prop :=
  ∃ offer nonce network asked note, validateAmount offer.amount asked = .ok amount ∧
    ldk.requestInvoice offer key nonce id network amount note = .ok request

section Monitor

variable (ldk : Library) (key : ExpandedKey)

def Asking.Allows : Asking → Event Sig → Prop
  | asking, .call .randomPaymentId _ => asking = .nothing
  | asking, .access (.pushMessage message) _ =>
      ∃ id amount request instructions, asking = .drawn id ∧
        message = (.invoiceRequest request, instructions) ∧ BuiltFor ldk key id amount request
  | asking, .call (.queryRoutes routes) _ =>
      ∃ id amount request, asking = .asked id request ∧ BuiltFor ldk key id amount request ∧
        routes.amtMsat = amount.toInt64
  | _, _ => True

def Asking.next : Asking → Event Sig → Asking
  | .nothing, .call .randomPaymentId id => .drawn id
  | .drawn id, .access (.pushMessage (.invoiceRequest request, _)) _ => .asked id request
  | asking, _ => asking

def asking : Monitor Sig Asking where
  demand := Asking.Allows ldk key
  next := Asking.next
  panicOk _ := True

end Monitor

def Aside : Event Sig → Prop
  | .call .randomPaymentId _ => False
  | .access (.pushMessage _) _ => False
  | .call (.queryRoutes _) _ => False
  | _ => True

theorem aside_of_outreach (event : Event Sig) (outreach : Outreach event) : Aside event := by
  cases event with
  | access op reply => exact outreach.elim
  | call request reply => cases request <;> first | exact outreach.elim | trivial

section Programs

variable (ldk : Library) (handler : OfferHandler) {key : ExpandedKey}

end Programs

/-! ## The log of a call -/

section Logs

variable {ldk : Library} {handler : OfferHandler} {key : ExpandedKey}

structure Asked (ldk : Library) (key : ExpandedKey) (reached : Asking)
    (past : List (Event Sig)) : Prop where
  drew : ∀ id, (reached = .drawn id ∨ ∃ request, reached = .asked id request) →
    drew id past = true
  queued : ∀ message, .access (.pushMessage message) () ∈ past →
    ∃ id amount request instructions, reached = .asked id request ∧
      message = (.invoiceRequest request, instructions) ∧ BuiltFor ldk key id amount request
  queried : ∀ routes reply, .call (.queryRoutes routes) reply ∈ past →
    ∃ id amount request, reached = .asked id request ∧ BuiltFor ldk key id amount request ∧
      routes.amtMsat = amount.toInt64

theorem drew_append (id : PaymentId) (past : List (Event Sig)) (event : Event Sig) :
    drew id (past ++ [event]) = (drew id past || decide (drawnBy event = some id)) := by
  simp [drew, List.any_append]

theorem Asking.next_asked (id : PaymentId) (request : InvoiceRequest) (event : Event Sig) :
    (Asking.asked id request).next event = .asked id request := by
  cases event <;> rfl

theorem Asking.drawn_of_next {reached : Asking} {event : Event Sig} {id : PaymentId}
    (working : reached.next event = .drawn id ∨ ∃ request, reached.next event = .asked id request) :
    (reached = .drawn id ∨ ∃ request, reached = .asked id request) ∨
      drawnBy event = some id := by
  cases reached with
  | nothing =>
      unfold Asking.next at working
      split at working
      · rcases working with same | ⟨_, impossible⟩
        · cases same
          exact Or.inr rfl
        · cases impossible
      · simp_all
      · simp_all
  | drawn own =>
      unfold Asking.next at working
      split at working <;> simp_all
  | asked own request =>
      rw [Asking.next_asked] at working
      exact Or.inl working

theorem Asked.step {reached : Asking} {past : List (Event Sig)} {event : Event Sig}
    (holds : Asked ldk key reached past) (allowed : reached.Allows ldk key event) :
    Asked ldk key (reached.next event) (past ++ [event]) where
  drew id working := by
    rw [drew_append, Bool.or_eq_true, decide_eq_true_eq]
    rcases Asking.drawn_of_next working with before | now
    · exact Or.inl (holds.drew id before)
    · exact Or.inr now
  queued message member := by
    rw [List.mem_append, List.mem_singleton] at member
    rcases member with old | rfl
    · obtain ⟨id, amount, request, instructions, rfl, same, built⟩ := holds.queued message old
      exact ⟨id, amount, request, instructions, Asking.next_asked id request event, same, built⟩
    · obtain ⟨id, amount, request, instructions, rfl, rfl, built⟩ := allowed
      exact ⟨id, amount, request, instructions, rfl, rfl, built⟩
  queried routes reply member := by
    rw [List.mem_append, List.mem_singleton] at member
    rcases member with old | rfl
    · obtain ⟨id, amount, request, rfl, built, same⟩ := holds.queried routes reply old
      exact ⟨id, amount, request, Asking.next_asked id request event, built, same⟩
    · obtain ⟨id, amount, request, rfl, built, same⟩ := allowed
      exact ⟨id, amount, request, rfl, built, same⟩

end Logs

def Unqueued : Event Sig → Prop
  | .access (.pushMessage _) _ => False
  | _ => True

theorem unqueued_of_greeting (event : Event Sig) (greeting : Greeting event) :
    Unqueued event := by
  cases event with
  | access op reply => exact greeting.elim
  | call request reply => trivial

theorem unqueued_of_paying {feeLimit : Option FeeLimit} {id : PaymentId} (event : Event Sig)
    (paying : Paying feeLimit id event) : Unqueued event := by
  cases event with
  | access op reply => cases op <;> first | exact paying.elim | trivial
  | call request reply => trivial

section Queues

variable (ldk : Library) (handler : OfferHandler)

theorem payInvoice_unqueued (amount : UInt64) (invoice : Bolt12Invoice) (id : PaymentId)
    (feeLimit : Option FeeLimit) :
    (payInvoice ldk amount invoice id feeLimit).Within Unqueued :=
  (payPaths_within ldk amount invoice invoice.paymentPaths none).mono unqueued_of_paying

theorem payInvoiceRpc_unqueued (rpc : PayInvoiceRequest) :
    (payInvoiceRpc ldk rpc).Within Unqueued := by
  have read : (payInvoiceArgs ldk rpc).Within Unqueued := by
    refine ((connect_only rpc.metadata).within.mono unqueued_of_greeting).andThen fun _ => ?_
    refine Prog.satisfies_checked (fun _ _ => trivial) fun invoice _ => ?_
    refine Prog.satisfies_checked (fun _ _ => trivial) fun amount _ => ?_
    exact Prog.within_request_bind.mpr fun _ => ⟨trivial, trivial⟩
  refine read.andThen fun args => ?_
  exact (payInvoice_unqueued ldk args.amount args.invoice args.paymentId args.feeLimit).mapErrorThen
    fun _ => trivial

theorem handleInvoiceError_unqueued (id : PaymentId) (nonce : Nonce) (hmac : Hmac) :
    (handleInvoiceError ldk handler id nonce hmac).Within Unqueued := by
  unfold handleInvoiceError
  split
  · exact Prog.within_enter_bind.mpr fun _ => ⟨trivial, trivial⟩
  · trivial

/-- Only calls that fetch and verified invoice requests queue a message. -/
theorem start_unqueued {request : Request} (fetches : request.fetches = false)
    (unverified : ¬ VerifiedRequest ldk handler request) :
    (start ldk handler request).Within Unqueued := by
  cases request with
  | payInvoiceRpc rpc => exact (payInvoiceRpc_unqueued ldk rpc).bind fun _ => trivial
  | payInvoice amount invoice id feeLimit =>
      exact (payInvoice_unqueued ldk amount invoice id feeLimit).bind fun _ => trivial
  | handleMessage message context responder =>
      refine Prog.Within.bind ?_ fun _ => trivial
      cases message with
      | invoiceRequest invoiceRequest =>
          unfold handleMessage handleInvoiceRequest
          dsimp only
          split
          next responder nonce =>
            split
            · trivial
            next verified accepted =>
              exact absurd ⟨invoiceRequest, nonce, responder, verified, rfl, accepted⟩ unverified
          · trivial
      | invoice invoice =>
          unfold handleMessage handleInvoice
          dsimp only
          split
          · split
            · exact Prog.within_enter_bind.mpr fun _ => ⟨trivial, trivial⟩
            · trivial
          · trivial
      | invoiceError error =>
          unfold handleMessage
          dsimp only
          split
          · exact (handleInvoiceError_unqueued ldk handler _ _ _).bind fun _ => trivial
          · trivial
  | handleInvoiceError id nonce hmac =>
      exact (handleInvoiceError_unqueued ldk handler id nonce hmac).bind fun _ => trivial
  | removeActivePayment id => exact Prog.within_enter_bind.mpr fun _ => ⟨trivial, trivial⟩
  | releasePendingMessages => exact Prog.within_enter_bind.mpr fun _ => ⟨trivial, trivial⟩
  | _ => cases fetches

/-- The log of a task that has answered `request` with `invoice`: LND has
registered an invoice for the request and decoded it, and its hash and paths went
into the answer. -/
def Answered (request : InvoiceRequest) (verified : VerifiedInvoiceRequest)
    (responder : Responder) (invoice : Bolt12Invoice) (log : List (Event Sig)) : Prop :=
  ∃ response payreq hash paths builder,
    log = [.call (.addInvoice (lndInvoice request)) (.ok response),
      .call (.decodePayReq response.paymentRequest) (.ok payreq),
      .access (.pushMessage (.invoice invoice, responder.respond.intoInstructions)) ()] ∧
    ldk.sha256FromStr payreq.paymentHash = .ok hash ∧
    parseBlindedPaths ldk payreq.blindedPaths = .ok paths ∧
    ldk.respondUsingDerivedKeys verified paths hash = .ok builder ∧
    ldk.buildAndSign builder = .ok invoice

/-- Follows the whole log: a message that is queued completes an answer, and
nothing happens after it. -/
def answering (request : InvoiceRequest) (verified : VerifiedInvoiceRequest)
    (responder : Responder) : Monitor Sig (List (Event Sig)) where
  demand past event :=
    (∀ message, .access (.pushMessage message) () ∉ past) ∧
      ∀ message, event = .access (.pushMessage message) () →
        ∃ invoice, message = (.invoice invoice, responder.respond.intoInstructions) ∧
          Answered ldk request verified responder invoice (past ++ [event])
  next past event := past ++ [event]
  panicOk _ := True

variable {ldk} {request : InvoiceRequest} {verified : VerifiedInvoiceRequest}
variable {responder : Responder}

theorem createInvoiceInfo_answering :
    (createInvoiceInfoFromRequest ldk request).Satisfies
      (answering ldk request verified responder)
      (fun result past => ∀ info, result = .ok info → ∃ response payreq,
        past = [.call (.addInvoice (lndInvoice request)) (.ok response),
          .call (.decodePayReq response.paymentRequest) (.ok payreq)] ∧
        ldk.sha256FromStr payreq.paymentHash = .ok info.paymentHash ∧
        parseBlindedPaths ldk payreq.blindedPaths = .ok info.paymentPaths) [] := by
  refine Prog.satisfies_request_bind.mpr fun added => ⟨⟨by simp, by simp⟩, ?_⟩
  rcases added with e | response
  · exact nofun
  · refine Prog.satisfies_request_bind.mpr fun decoded => ⟨⟨by simp [answering], by simp⟩, ?_⟩
    rcases decoded with e | payreq
    · exact nofun
    · dsimp only
      split
      · exact nofun
      · rename_i hash hashed
        split
        · trivial
        · rename_i paths parsed
          rintro _ ⟨⟩
          exact ⟨response, payreq, rfl, hashed, parsed⟩

theorem respond_answering :
    (respondToInvoiceRequest ldk request verified responder).Satisfies
      (answering ldk request verified responder) (fun _ _ => True) [] := by
  refine createInvoiceInfo_answering.bind ?_
  rintro (e | info) past reached
  · trivial
  · obtain ⟨response, payreq, rfl, hashed, parsed⟩ := reached info rfl
    dsimp only
    split
    · trivial
    · rename_i builder responded
      split
      · rename_i invoice signed
        refine Prog.satisfies_enter_bind.mpr fun _ => ⟨⟨by simp, ?_⟩, trivial⟩
        rintro _ ⟨⟩
        exact ⟨invoice, rfl, response, payreq, _, _, builder, rfl, hashed, parsed, responded,
          signed⟩
      · trivial

/-- A task that has queued an answer has done so at its end. -/
theorem respond_answered {log : List (Event Sig)} {rest : Prog Sig Outcome}
    (run : Reaches (respondToInvoiceRequest ldk request verified responder >>= fun reply =>
      .ret (.handled reply)) log rest) {message : PendingMessage}
    (queued : .access (.pushMessage message) () ∈ log) :
    ∃ invoice, message = (.invoice invoice, responder.respond.intoInstructions) ∧
      Answered ldk request verified responder invoice log := by
  have spec : (respondToInvoiceRequest ldk request verified responder >>= fun reply =>
      .ret (Outcome.handled reply)).Satisfies (answering ldk request verified responder)
      (fun _ _ => True) [] := respond_answering.bind fun _ _ _ => trivial
  obtain ⟨along, -⟩ := satisfies_reaches spec run
  have whole := Monitor.along_invariant _ (I := fun past log => past = log ∧
    ∀ message, .access (.pushMessage message) () ∈ log → ∃ invoice,
      message = (.invoice invoice, responder.respond.intoInstructions) ∧
        Answered ldk request verified responder invoice log) ⟨rfl, by simp⟩ ?_ along
  · exact whole.2 message queued
  · rintro _ past event ⟨rfl, _⟩ ⟨first, completes⟩
    refine ⟨rfl, ?_⟩
    intro message member
    rw [List.mem_append, List.mem_singleton] at member
    rcases member with old | now
    · exact absurd old (first message)
    · exact completes message now.symm

end Queues

end LndkFormal.System
