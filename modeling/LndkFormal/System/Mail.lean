import LndkFormal.Offers.Footprints
import LndkFormal.System.Logs

/-!
# The invoice request of a call

`get_invoice` claims its entry, queues its invoice request, and then either
takes the invoice over or gives up when its time is out.  `Mail` follows that
order through the log of one call.
-/

set_option autoImplicit false

namespace LndkFormal.System

open LndkFormal.Async
open LndkFormal.Lnd
open LndkFormal.Ldk
open LndkFormal.Offers
open LndkFormal.Server

inductive Mark where
  /-- The entry was vacant and is claimed. -/
  | claim (id : PaymentId)
  /-- A message is appended to the queue. -/
  | push
  | drop (id : PaymentId)
  /-- The timeout has run out. -/
  | elapse
  /-- `get_invoice` has its invoice and returns. -/
  | receive (id : PaymentId)
  | other
  deriving DecidableEq

def mark : Event Sig → Mark
  | .access (.insertVacant id) true => .claim id
  | .access (.pushMessage _) _ => .push
  | .access (.remove id) _ => .drop id
  | .access (.setReceived id) _ => .receive id
  | .call .sleepOrTimeout .elapsed => .elapse
  | .call .timeoutElapsed _ => .elapse
  | _ => .other

inductive Mail where
  /-- The call has no entry yet. -/
  | unclaimed
  /-- The entry is in the map, and nothing is queued. -/
  | claimed (id : PaymentId)
  /-- The invoice request is queued. -/
  | queued (id : PaymentId)
  /-- The time is out. -/
  | late
  /-- `get_invoice` is over. -/
  | settled
  deriving DecidableEq

def Mail.next : Mail → Mark → Mail
  | .unclaimed, .claim id => .claimed id
  | .claimed id, .push => .queued id
  | .claimed _, .drop _ => .settled
  | .queued _, .elapse => .late
  | .queued _, .receive _ => .settled
  | mail, _ => mail

def Mail.Takes : Mail → Mark → Prop
  | .unclaimed, .claim _ => True
  | _, .claim _ => False
  | .claimed _, .push => True
  | _, .push => False
  | .unclaimed, .drop _ => False
  | .queued _, .drop _ => False
  | .queued id, .receive received => received = id
  | _, _ => True

def Mail.Fits : Mail → List Mark → Prop
  | .unclaimed, past => past.count .push = 0 ∧ (∀ id, .claim id ∉ past) ∧ ∀ id, .drop id ∉ past
  | .claimed id, past => past.count .push = 0 ∧ (∀ other, .claim other ∈ past ↔ other = id) ∧
      ∀ other, .drop other ∉ past
  | .queued id, past => past.count .push = 1 ∧ (∀ other, .claim other ∈ past ↔ other = id) ∧
      ∀ other, .drop other ∉ past
  | .late, past => past.count .push = 1 ∧ .elapse ∈ past
  | .settled, past => past.count .push ≤ 1 ∧
      (.push ∈ past → .elapse ∈ past ∨ ∀ id, .claim id ∈ past → .receive id ∈ past)

theorem Mail.Fits.next {mail : Mail} {past : List Mark} {mark : Mark} (fits : mail.Fits past)
    (takes : mail.Takes mark) : (mail.next mark).Fits (past ++ [mark]) := by
  cases mail with
  | unclaimed =>
      obtain ⟨unsent, unclaimed, kept⟩ := fits
      cases mark with
      | push | drop => exact takes.elim
      | claim | elapse | receive | other => simp_all [Mail.next, Mail.Fits]
  | claimed id =>
      obtain ⟨unsent, claimed, kept⟩ := fits
      cases mark with
      | claim => exact takes.elim
      | drop =>
          have none : .push ∉ past := List.count_eq_zero.mp unsent
          simp_all [Mail.next, Mail.Fits]
      | push | elapse | receive | other => simp_all [Mail.next, Mail.Fits]
  | queued id =>
      obtain ⟨sent, claimed, kept⟩ := fits
      cases mark with
      | claim | push | drop => exact takes.elim
      | receive received =>
          obtain rfl : received = id := takes
          simp_all [Mail.next, Mail.Fits]
      | elapse | other => simp_all [Mail.next, Mail.Fits]
  | late =>
      obtain ⟨sent, elapsed⟩ := fits
      cases mark with
      | claim | push => exact takes.elim
      | drop | elapse | receive | other => simp_all [Mail.next, Mail.Fits]
  | settled =>
      obtain ⟨once, ended⟩ := fits
      cases mark with
      | claim | push => exact takes.elim
      | drop | elapse | receive | other =>
          refine ⟨by simpa using once, fun pushed => ?_⟩
          rcases ended (by simpa using pushed) with elapsed | received
          · exact Or.inl (List.mem_append_left _ elapsed)
          · exact Or.inr fun id claimed =>
              List.mem_append_left _ (received id (by simpa using claimed))

/-- Until its time is out or it has its invoice, a call keeps the entry it has
queued an invoice request for. -/
theorem Mail.Fits.kept {mail : Mail} {past : List Mark} (fits : mail.Fits past)
    (pushed : .push ∈ past) (inTime : .elapse ∉ past) {id : PaymentId} (claimed : .claim id ∈ past)
    (unreceived : .receive id ∉ past) (other : PaymentId) : .drop other ∉ past := by
  cases mail with
  | unclaimed => exact fits.2.2 other
  | claimed _ => exact fits.2.2 other
  | queued _ => exact fits.2.2 other
  | late => exact absurd fits.2 inTime
  | settled =>
      rcases fits.2 pushed with elapsed | received
      · exact absurd elapsed inTime
      · exact absurd (received id claimed) unreceived

theorem Mail.next_other (mail : Mail) : mail.next .other = mail := by
  cases mail <;> rfl

section Programs

variable (ldk : Library) (handler : OfferHandler)

/-- A call of `get_invoice` that returns an invoice is over for its queue. -/
def Handed {α ε : Type} (result : Except ε α) (final : Mail) : Prop :=
  ∀ value, result = .ok value → final = .settled

end Programs

end LndkFormal.System
