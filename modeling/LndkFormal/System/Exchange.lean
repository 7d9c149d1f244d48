import LndkFormal.Async.Network
import LndkFormal.System.Asking
import LndkFormal.System.Messages
import LndkFormal.System.Outbox

/-!
# Payer and issuer

Any number of nodes run LNDK.  A payer's call asks for an invoice, an issuer has
its LND register one and sends the answer back, and the payer's call pays it.  A
payment then carries the hash, the paths and the amount of an invoice that the
issuer's LND has registered, for the very request of the paying call.

What is assumed is what LDK does with a request and an invoice, and that nobody
can forge a signature or the metadata of a request.
-/

set_option autoImplicit false

namespace LndkFormal.System

open LndkFormal.Async
open LndkFormal.Lnd
open LndkFormal.Ldk
open LndkFormal.Offers
open LndkFormal.Server

/-! ## Assumptions -/

/-- What LDK does with requests and invoices.  `answers invoice` is the request
whose fields the invoice repeats. -/
structure Bolt12Rules (ldk : Library) (answers : Bolt12Invoice → InvoiceRequest) : Prop where
  verified : ∀ request nonce key verified,
    ldk.verifyUsingRecipientData request nonce key = some verified → verified.inner = request
  responded : ∀ verified paths hash builder invoice,
    ldk.respondUsingDerivedKeys verified paths hash = .ok builder →
    ldk.buildAndSign builder = .ok invoice →
      invoice.paymentHash = hash ∧ invoice.paymentPaths = paths ∧
        answers invoice = verified.inner ∧
        verified.inner.invoiceAmount = some invoice.amountMsats
  requested : ∀ offer key nonce id network msats note request,
    ldk.requestInvoice offer key nonce id network msats note = .ok request →
      request.amount = offer.amount ∧ request.amountMsats = some msats
  /-- An invoice verifies for the payment that its request was built for. -/
  identified : ∀ offer key nonce id network msats note invoice claimed other verified,
    ldk.requestInvoice offer key nonce id network msats note = .ok (answers invoice) →
    ldk.verifyUsingPayerData invoice claimed other key = some verified → verified = id

/-- The invoice that is delivered to a node, with its context. -/
def delivers : LndkLabel → Option (Bolt12Invoice × Option OffersContext)
  | .spawn (.handleMessage (.invoice invoice) context _) => some (invoice, context)
  | _ => none

def verifiedPayment (ldk : Library) (handler : OfferHandler) (invoice : Bolt12Invoice) :
    Option OffersContext → Option PaymentId
  | some (.outboundPayment claimed nonce _) =>
      ldk.verifyUsingPayerData invoice claimed nonce handler.expandedKey
  | _ => none

section Guard

variable {ι : Type} [DecidableEq ι] (ldk : Library) (handlers : ι → OfferHandler)
  (signer : Bolt12Invoice → Option ι) (answers : Bolt12Invoice → InvoiceRequest)

/-- A message with these contents has left the node. -/
def Sent (n : ι) (past : List (ι × LndkLabel)) (message : OffersMessage) : Prop :=
  ∃ sent ∈ released (stepsOf n past), sent.1 = message

instance (n : ι) (past : List (ι × LndkLabel)) (message : OffersMessage) :
    Decidable (Sent n past message) :=
  inferInstanceAs (Decidable (∃ sent ∈ released (stepsOf n past), sent.1 = message))

/-- An invoice signed by a node of the network was sent by it before, and an
invoice that a node verifies answers a request that the node has sent before. -/
def authentic : NetGuard ι Sig Request := fun past (n, label) =>
  ∀ delivery ∈ delivers label,
    (∀ m ∈ signer delivery.1, Sent m past (.invoice delivery.1)) ∧
    ∀ id ∈ verifiedPayment ldk (handlers n) delivery.1 delivery.2,
      Sent n past (.invoiceRequest (answers delivery.1))

instance (past : List (ι × LndkLabel)) (step : ι × LndkLabel) :
    Decidable (authentic ldk handlers signer answers past step) :=
  inferInstanceAs (Decidable (∀ delivery ∈ delivers step.2,
    (∀ m ∈ signer delivery.1, Sent m past (.invoice delivery.1)) ∧
    ∀ id ∈ verifiedPayment ldk (handlers step.1) delivery.1 delivery.2,
      Sent step.1 past (.invoiceRequest (answers delivery.1))))

end Guard

section Draws

variable {ldk : Library} {handler : OfferHandler} {labels : List LndkLabel} {pool : LndkPool}

end Draws

/-! ## Agreement -/

section Agreement

variable {ldk : Library} {answers : Bolt12Invoice → InvoiceRequest}

/-- A message that has left a node was queued by one of its tasks. -/
theorem queued_of_released {handler : OfferHandler} {guard : LndkGuard}
    {labels : List LndkLabel} {pool : LndkPool}
    (run : Run (lndk ldk handler) .new guard labels pool) {message : PendingMessage}
    (sent : message ∈ released labels) :
    ∃ (i : Nat) (task : LndkTask), pool.tasks[i]? = some task ∧
      .access (.pushMessage message) () ∈ task.log := by
  have queued : message ∈ appended labels := by
    rw [← run_queue run]
    exact List.mem_append_left _ sent
  obtain ⟨label, happened, appends⟩ := List.mem_flatMap.mp queued
  unfold appendedBy at appends
  split at appends
  · rw [List.mem_singleton] at appends
    subst appends
    obtain ⟨task, found, logged⟩ := run.act_logged happened
    exact ⟨_, task, found, logged⟩
  · cases appends

theorem Sent.queued {ι : Type} [DecidableEq ι] {handlers : ι → OfferHandler} {own : LndkGuard}
    {joint : NetGuard ι Sig Request} {past future : List (ι × LndkLabel)} {pools : ι → LndkPool}
    (run : NetRun (fun n => lndk ldk (handlers n)) .new own joint (past ++ future) pools)
    {n : ι} {message : OffersMessage} (sent : Sent n past message) :
    ∃ (i : Nat) (task : LndkTask) (instructions : MessageSendInstructions),
      (pools n).tasks[i]? = some task ∧
      .access (.pushMessage (message, instructions)) () ∈ task.log := by
  obtain ⟨⟨contents, instructions⟩, left, rfl⟩ := sent
  have all : (contents, instructions) ∈ released (stepsOf n (past ++ future)) := by
    rw [stepsOf_append, released, List.flatMap_append]
    exact List.mem_append_left _ left
  obtain ⟨i, task, found, queued⟩ := queued_of_released (run.node n) all
  exact ⟨i, task, instructions, found, queued⟩

theorem toInt64_toInt_le (word : UInt64) : word.toInt64.toInt ≤ word.toNat := by
  have value : word.toInt64.toInt = word.toBitVec.toInt := rfl
  have same : word.toBitVec.toNat = word.toNat := rfl
  rw [value, BitVec.toInt_eq_toNat_cond, same]
  split <;> omega

/-- LND is told to ask for no more than the amount that was validated. -/
theorem BuiltFor.enough {key : ExpandedKey} {id : PaymentId} {amount : UInt64}
    {request : InvoiceRequest} (rules : Bolt12Rules ldk answers)
    (built : BuiltFor ldk key id amount request) :
    (lndInvoice request).valueMsat.toInt ≤ amount.toNat := by
  obtain ⟨offer, nonce, network, asked, note, valid, made⟩ := built
  obtain ⟨same, _⟩ := rules.requested _ _ _ _ _ _ _ _ made
  unfold lndInvoice
  dsimp only
  rw [same]
  split
  · rename_i perItem set
    rw [set] at valid
    have least : perItem ≤ amount := by
      rcases (validateAmount_ok_iff _ _ _).mp valid with ⟨none, _⟩ | ⟨least, fixed, _, rest⟩
      · cases none
      · cases fixed
        rcases rest with ⟨_, rfl⟩ | ⟨_, above⟩
        · exact UInt64.le_refl _
        · exact above
    have bound := toInt64_toInt_le perItem
    have : perItem.toNat ≤ amount.toNat := UInt64.le_iff_toNat_le.mp least
    omega
  · simp

/-- An invoice request in the queue was put there by a call that fetches. -/
theorem fetches_of_queued {handler : OfferHandler} {request : Request} {log : List (Event Sig)}
    {rest : Prog Sig Outcome} (run : Reaches (start ldk handler request) log rest)
    {asked : InvoiceRequest} {instructions : MessageSendInstructions}
    (queued : .access (.pushMessage (.invoiceRequest asked, instructions)) () ∈ log) :
    request.fetches = true := by
  by_contra fetches
  by_cases verifies : VerifiedRequest ldk handler request
  · obtain ⟨invoiceRequest, nonce, responder, verified, rfl, accepted⟩ := verifies
    simp only [start, handleMessage, handleInvoiceRequest, accepted] at run
    split at run
    · obtain ⟨_, impossible, _⟩ := respond_answered run queued
      cases impossible
    · cases run.of_ret
      cases queued
  · have none := start_unqueued ldk handler (by simpa using fetches) verifies
    exact (within_reaches none run _ queued).elim

end Agreement

end LndkFormal.System
