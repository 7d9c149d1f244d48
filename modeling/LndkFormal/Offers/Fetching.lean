import LndkFormal.Offers.Handler

/-!
# A rule for `get_invoice`

`get_invoice` makes an invoice request, claims an entry, sends, queues the request and polls the
entry until there is an invoice or the time is out.  To follow it with a monitor, one says what
holds of the ghost state before each check of the entry, and shows the single steps.
-/

set_option autoImplicit false

namespace LndkFormal.Offers

open LndkFormal.Async
open LndkFormal.Ldk

section Rule

variable {G : Type} {m : Monitor Sig G} {ghost : G}

/-- One round of the polling loop: `W` holds before each check, `L` when the time is out and `R`
when the check has found an invoice. -/
structure Polls (m : Monitor Sig G) (id : PaymentId) (W L : G → Prop)
    (R : Bolt12Invoice → G → Prop) : Prop where
  found : ∀ ghost, W ghost → ∀ invoice,
    m.Steps (.access (.readInvoice id) (some invoice)) (R invoice) ghost
  empty : ∀ ghost, W ghost → m.Steps (.access (.readInvoice id) none)
    (fun ghost => m.Steps (.call .sleepOrTimeout .slept) W ghost ∧
      m.Steps (.call .sleepOrTimeout .elapsed) L ghost ∧
      m.Steps (.call .timeoutElapsed ()) L ghost) ghost

theorem Polls.waitForInvoice {id : PaymentId} {W L : G → Prop} {R : Bolt12Invoice → G → Prop}
    (polls : Polls m id W L R) (checks : Nat) (here : W ghost) :
    (waitForInvoice id checks).Satisfies m
      (fun result final => result.elim (L final) fun invoice => R invoice final) ghost := by
  induction checks generalizing ghost with
  | zero =>
      refine Prog.satisfies_enter_bind.mpr fun found => ?_
      cases found with
      | some invoice => exact polls.found ghost here invoice
      | none =>
          obtain ⟨read, _, _, late⟩ := polls.empty ghost here
          exact ⟨read, Prog.satisfies_request_bind.mpr fun _ => late⟩
  | succ checks ih =>
      refine Prog.satisfies_enter_bind.mpr fun found => ?_
      cases found with
      | some invoice => exact polls.found ghost here invoice
      | none =>
          obtain ⟨read, ⟨slept, still⟩, late, _⟩ := polls.empty ghost here
          refine ⟨read, Prog.satisfies_request_bind.mpr fun woken => ?_⟩
          cases woken with
          | slept => exact ⟨slept, ih still⟩
          | elapsed => exact late

variable {ldk : Library} {handler : OfferHandler} {cfg : PayOfferParams}
  {post : Except OfferError (Bolt12Invoice × UInt64 × PaymentId) → G → Prop}

theorem fetchInvoice_satisfies {request : InvoiceRequest} {id : PaymentId} {amount : UInt64}
    {context : OffersContext} {S : Except OfferError PendingMessage → G → Prop} {W : G → Prop}
    (sent : (sendInvoiceRequest ldk cfg.destination request context).Satisfies m S ghost)
    (failed : ∀ e final, S (.error e) final →
      m.Steps (.access (.remove id) ()) (post (.error e)) final)
    (queued : ∀ message final, S (.ok message) final →
      m.Steps (.access (.pushMessage message) ()) W final)
    (polls : Polls m id W
      (m.Steps (.access (.remove id) ())
        (post (.error (.invoiceTimeout (invoiceTimeout handler cfg)))))
      fun invoice => m.Steps (.access (.setReceived id) ()) (post (.ok (invoice, amount, id)))) :
    (fetchInvoice ldk handler cfg request id amount context).Satisfies m post ghost := by
  refine sent.bind ?_
  intro result final reached
  cases result with
  | error e => exact Prog.satisfies_enter_bind.mpr fun _ => failed e final reached
  | ok message =>
      refine Prog.satisfies_enter_bind.mpr fun _ => ?_
      obtain ⟨pushed, waiting⟩ := queued message final reached
      refine ⟨pushed, (polls.waitForInvoice _ waiting).bind ?_⟩
      intro found polled reached
      cases found with
      | none => exact Prog.satisfies_enter_bind.mpr fun _ => reached
      | some invoice => exact Prog.satisfies_enter_bind.mpr fun _ => reached

theorem getInvoice_satisfies
    {D : Except OfferError (InvoiceRequest × PaymentId × UInt64 × OffersContext) → G → Prop}
    (created : (createInvoiceRequest ldk handler.expandedKey cfg.offer cfg.network cfg.amount
      cfg.payerNote).Satisfies m D ghost)
    (failed : ∀ e final, D (.error e) final → post (.error e) final)
    (occupied : ∀ request id amount context final, D (.ok (request, id, amount, context)) final →
      m.Steps (.access (.insertVacant id) false) (post (.error (.alreadyProcessing id))) final)
    (claimed : ∀ request id amount context final, D (.ok (request, id, amount, context)) final →
      m.Steps (.access (.insertVacant id) true)
        (fun ghost => (fetchInvoice ldk handler cfg request id amount context).Satisfies m post
          ghost) final) :
    (getInvoice ldk handler cfg).Satisfies m post ghost := by
  refine created.andThen failed ?_
  intro (request, id, amount, context) final drawn
  refine Prog.satisfies_enter_bind.mpr fun vacant => ?_
  cases vacant with
  | false => exact occupied request id amount context final drawn
  | true => exact claimed request id amount context final drawn

end Rule

end LndkFormal.Offers
