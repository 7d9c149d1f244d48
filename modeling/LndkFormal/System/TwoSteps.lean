import LndkFormal.Server.InvoiceContents
import LndkFormal.System.Exchange
import LndkFormal.System.Statuses

/-!
# Fetching an invoice and paying it later

GetInvoice hands an invoice to the client as hex text, the client may look at it with
DecodeInvoice, and PayInvoice pays the text it is given, maybe through another LNDK.  All
three are about one invoice, and it is one that LDK has verified for the fetching request.
-/

set_option autoImplicit false

namespace LndkFormal.System

open LndkFormal.Async
open LndkFormal.Ldk
open LndkFormal.Lnd
open LndkFormal.Offers
open LndkFormal.Server

def ReadsBack (ldk : Library) : Prop :=
  ∀ invoice bytes, ldk.invoiceWrite invoice = .ok bytes → ldk.invoiceFromBytes bytes = some invoice

theorem bolt12InvoiceFromString_encode {ldk : Library} (back : ReadsBack ldk)
    {invoice : Bolt12Invoice} {text : String}
    (encoded : encodeInvoiceAsHex ldk invoice = .ok text) :
    bolt12InvoiceFromString ldk text = .ok invoice := by
  unfold encodeInvoiceAsHex at encoded
  split at encoded
  next bytes written =>
    cases encoded
    rw [bolt12InvoiceFromString, hexDecodeChars_hexEncode, Option.bind_some, back _ _ written]
  next => cases encoded

/-! ## The two requests -/

section Requests

variable (ldk : Library) (handler : OfferHandler)

def Stage.PaysOnly (invoice : Bolt12Invoice) : Stage → Prop
  | .idle | .handled => True
  | .acquired _ _ own _ => own = invoice
  | .finished _ _ own => own = invoice
  | _ => False

theorem Stage.PaysOnly.invoice {invoice own : Bolt12Invoice} {stage : Stage}
    (pays : stage.PaysOnly invoice) (has : stage.invoice = some own) : own = invoice := by
  cases stage with
  | acquired owner id other resolved | finished owner id other =>
      cases has
      exact pays
  | read id other => exact pays.elim
  | _ => cases has

theorem Stage.PaysOnly.next {invoice : Bolt12Invoice} {stage : Stage}
    (pays : stage.PaysOnly invoice) (event : Event Sig) :
    (stage.next (some invoice) event).PaysOnly invoice := by
  cases stage with
  | idle => unfold Stage.next; split <;> first | exact rfl | trivial
  | acquired owner id own resolved =>
      obtain rfl : own = invoice := pays
      cases event with
      | access op reply => cases op <;> exact rfl
      | call request reply =>
          cases request with
          | getChanInfo scid => cases reply <;> exact rfl
          | _ => exact rfl
  | finished owner id own => exact pays
  | handled => trivial
  | _ => exact pays.elim

end Requests

section Runs

variable {ldk : Library} {handler : OfferHandler} {guard : LndkGuard} {labels : List LndkLabel}
  {pool : LndkPool} {i : Nat} {task : LndkTask}

end Runs

end LndkFormal.System
