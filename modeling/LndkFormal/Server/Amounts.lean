import LndkFormal.Server.Rpc
import Mathlib.Algebra.Group.Nat.Defs

/-!
# Amounts asked for, registered and paid

An offer has an amount for one item, while an invoice asks for a total.  Both
sides of LNDK read the amount for one item where the total is meant: on the
receiving side in the invoice registered with LND, on the paying side in the
validation of an invoice.  Each result says for which inputs the two agree.
-/

set_option autoImplicit false

namespace LndkFormal.Server

open LndkFormal.Async
open LndkFormal.Lnd
open LndkFormal.Ldk
open LndkFormal.Offers

/-! ## The invoice registered for a request -/

structure AmountRules (ldk : Library) : Prop where
  verified : ∀ request nonce key verified,
    ldk.verifyUsingRecipientData request nonce key = some verified → verified.inner = request
  responded : ∀ verified paths hash builder,
    ldk.respondUsingDerivedKeys verified paths hash = .ok builder →
      verified.inner.invoiceAmount = some builder.draft.amountMsats
  signed : ∀ builder invoice, ldk.buildAndSign builder = .ok invoice →
    invoice.amountMsats = builder.draft.amountMsats

/-- The requests for which LND's invoice and the BOLT 12 invoice agree.  An
offer in bitcoin: the request names the amount of one item, or it names none
and asks for one item.  Any other offer: the request names zero. -/
def AmountsAgree (request : InvoiceRequest) : Prop :=
  match request.amount with
  | some (.bitcoin perItem) =>
      perItem.toNat < 2 ^ 63 ∧
        match request.amountMsats with
        | some msats => msats = perItem
        | none => request.quantity.getD 1 = 1 ∨ perItem = 0
  | _ => request.amountMsats = some 0

theorem toInt64_eq_iff (registered asked : UInt64) :
    registered.toInt64.toInt = asked.toNat ↔ registered.toNat < 2 ^ 63 ∧ asked = registered := by
  have value : registered.toInt64.toInt = registered.toBitVec.toInt := rfl
  have word : registered.toBitVec.toNat = registered.toNat := rfl
  have bound := registered.toNat_lt
  have bound' := asked.toNat_lt
  rw [value, BitVec.toInt_eq_toNat_cond, word, ← UInt64.toNat_inj]
  split <;> omega

theorem total_eq_perItem_iff {perItem quantity : UInt64}
    (fits : perItem.toNat * quantity.toNat < UInt64.size) :
    perItem * quantity = perItem ↔ quantity = 1 ∨ perItem = 0 := by
  have total : (perItem * quantity).toNat = perItem.toNat * quantity.toNat := by
    rw [UInt64.toNat_mul]
    exact Nat.mod_eq_of_lt fits
  rw [← UInt64.toNat_inj, ← UInt64.toNat_inj, ← UInt64.toNat_inj, total]
  constructor
  · intro same
    rcases Nat.eq_zero_or_pos perItem.toNat with zero | positive
    · exact Or.inr zero
    · exact Or.inl (Nat.eq_of_mul_eq_mul_left positive (by simpa using same))
  · rintro (one | zero)
    · simp [one]
    · simp [zero]

theorem valueMsat_eq_iff {request : InvoiceRequest} {msats : UInt64}
    (asked : request.invoiceAmount = some msats) :
    (lndInvoice request).valueMsat.toInt = msats.toNat ↔ AmountsAgree request := by
  obtain ⟨amount, amountMsats, quantity, description, encoding⟩ := request
  have zero : (0 : Int64).toInt = msats.toNat ↔ msats = 0 := by
    rw [← UInt64.toNat_inj, Int64.toInt_zero, UInt64.toNat_zero]
    omega
  rcases amount with _ | perItem | ⟨code, value⟩
  · cases amountMsats with
    | none => cases asked
    | some own =>
        cases asked
        simpa [lndInvoice, AmountsAgree] using zero
  · cases amountMsats with
    | some own =>
        cases asked
        simpa [lndInvoice, AmountsAgree] using toInt64_eq_iff perItem msats
    | none =>
        simp only [InvoiceRequest.invoiceAmount] at asked
        split at asked
        · rename_i fits
          cases asked
          simp only [lndInvoice, AmountsAgree, toInt64_eq_iff, total_eq_perItem_iff fits]
        · cases asked
  · cases amountMsats with
    | none => cases asked
    | some own =>
        cases asked
        simpa [lndInvoice, AmountsAgree] using zero

/-- What handling an invoice request registers and queues. -/
def FromRequest (request : InvoiceRequest) : Event Sig → Prop
  | .call (.addInvoice registered) _ => registered = lndInvoice request
  | .access (.pushMessage (.invoice invoice, _)) _ =>
      request.invoiceAmount = some invoice.amountMsats
  | _ => True

theorem createInvoiceInfo_fromRequest (ldk : Library) (request : InvoiceRequest) :
    (createInvoiceInfoFromRequest ldk request).Satisfies (.each (FromRequest request))
      (fun _ _ => True) () := by
  refine Prog.satisfies_request_bind.mpr fun added => ⟨rfl, ?_⟩
  rcases added with e | response
  · trivial
  · refine Prog.satisfies_request_bind.mpr fun decoded => ⟨trivial, ?_⟩
    rcases decoded with e | payreq
    · trivial
    · dsimp only
      split
      · trivial
      · split <;> trivial

theorem handleInvoiceRequest_fromRequest {ldk : Library} (rules : AmountRules ldk)
    (handler : OfferHandler) (request : InvoiceRequest) (context : Option OffersContext)
    (responder : Option Responder) :
    (handleInvoiceRequest ldk handler request context responder).Satisfies
      (.each (FromRequest request)) (fun _ _ => True) () := by
  unfold handleInvoiceRequest
  split
  · split
    · trivial
    · rename_i verified accepted
      split
      · refine (createInvoiceInfo_fromRequest ldk request).bind ?_
        rintro (e | info) _ _
        · trivial
        · dsimp only
          split
          · trivial
          · rename_i builder responded
            split
            · rename_i invoice signed
              refine fun _ => ⟨?_, trivial⟩
              have amount := rules.responded _ _ _ _ responded
              rw [rules.verified _ _ _ _ accepted, ← rules.signed _ _ signed] at amount
              exact amount
            · trivial
      · trivial
  · trivial

/-- The invoice LNDK registers with LND and the invoice it queues for the payer
ask for the same amount exactly for the requests of `AmountsAgree`. -/
theorem registered_eq_queued_iff (ldk : Library) (rules : AmountRules ldk)
    (handler : OfferHandler) (request : InvoiceRequest) (context : Option OffersContext)
    (responder : Option Responder) (trace : List (Event Sig)) (rest : Prog Sig HandlerReply)
    (run : Reaches (handleMessage ldk handler (.invoiceRequest request) context responder)
      trace rest)
    (registered : Invoice) (reply : Except Status AddInvoiceResponse)
    (added : .call (.addInvoice registered) reply ∈ trace)
    (invoice : Bolt12Invoice) (instructions : MessageSendInstructions)
    (queued : .access (.pushMessage (.invoice invoice, instructions)) () ∈ trace) :
    registered.valueMsat.toInt = invoice.amountMsats.toNat ↔ AmountsAgree request := by
  obtain ⟨along, -⟩ := satisfies_reaches
    (handleInvoiceRequest_fromRequest rules handler request context responder) run
  obtain ⟨_, same⟩ := Monitor.along_mem _ along _ added
  obtain ⟨_, asked⟩ := Monitor.along_mem _ along _ queued
  obtain rfl : registered = lndInvoice request := same
  exact valueMsat_eq_iff asked

theorem plain_amountRules (decoded : Bolt12Invoice) : AmountRules (.plain decoded) where
  verified := by
    rintro request nonce key verified ⟨⟩
    rfl
  responded := by
    intro verified paths hash builder responded
    simp only [Library.plain] at responded
    split at responded
    · cases responded
      assumption
    · cases responded
  signed := by
    rintro builder invoice ⟨⟩
    rfl

def itemsRequest (amountMsats quantity : Option UInt64) : InvoiceRequest :=
  ⟨some (.bitcoin 1000), amountMsats, quantity, none, []⟩

def itemsInvoice (amountMsats : UInt64) : Bolt12Invoice :=
  ⟨⟨0⟩, [.through (.repeated 2)], some (.bitcoin 1000), amountMsats, []⟩

def lndPath : Lnd.BlindedPaymentPath where
  blindedPath := some ⟨(PublicKey.repeated 2).bytes, (PublicKey.repeated 3).bytes, []⟩
  baseFeeMsat := 0
  proportionalFeeRate := 0
  totalCltvDelta := 40

def someResponder : Responder := ⟨⟨.nodeId (.repeated 2), []⟩⟩

def registeringTrace (request : InvoiceRequest) (invoice : Bolt12Invoice) : List (Event Sig) :=
  [.call (.addInvoice (lndInvoice request)) (.ok ⟨"lnbc1"⟩),
    .call (.decodePayReq "lnbc1") (.ok ⟨"00", [lndPath]⟩),
    .access (.pushMessage (.invoice invoice, someResponder.respond.intoInstructions)) ()]

theorem registered_eq_queued_oneItem :
    (lndInvoice (itemsRequest (some 1000) none)).valueMsat.toInt = 1000 ∧
      AmountsAgree (itemsRequest (some 1000) none) := by
  have agree := registered_eq_queued_iff (.plain .twoPaths) (plain_amountRules _)
    ⟨⟨0⟩, 15, true⟩ (itemsRequest (some 1000) none) (some (.invoiceRequest ⟨0⟩))
    (some someResponder) (registeringTrace _ (itemsInvoice 1000)) (.ret none)
    (.call _ (.call _ (.access _ (.refl _)))) _ _ (.head _) (itemsInvoice 1000) _
    (.tail _ (.tail _ (.head _)))
  exact ⟨by decide, agree.mp (by decide)⟩

theorem registered_ne_queued_threeItems :
    ¬ ∀ (trace : List (Event Sig)) (rest : Prog Sig HandlerReply) (registered : Invoice)
        (reply : Except Status AddInvoiceResponse) (invoice : Bolt12Invoice)
        (instructions : MessageSendInstructions),
      Reaches (handleMessage (.plain .twoPaths) ⟨⟨0⟩, 15, true⟩
        (.invoiceRequest (itemsRequest none (some 3))) (some (.invoiceRequest ⟨0⟩))
        (some someResponder)) trace rest →
      .call (.addInvoice registered) reply ∈ trace →
      .access (.pushMessage (.invoice invoice, instructions)) () ∈ trace →
      registered.valueMsat.toInt = invoice.amountMsats.toNat := by
  intro claim
  have equal := claim (registeringTrace (itemsRequest none (some 3)) (itemsInvoice 3000))
    (.ret none) _ _ (itemsInvoice 3000) _ (.call _ (.call _ (.access _ (.refl _))))
    (.head _) (.tail _ (.tail _ (.head _)))
  exact absurd equal (by decide)

/-! ## The amount paid for an invoice -/

section Paying

variable (ldk : Library)

section Request

variable {ldk} {request : PayInvoiceRequest} {invoice : Bolt12Invoice}

end Request

end Paying

end LndkFormal.Server
