import LndkFormal.Offers.Handler

/-!
# What `pay_invoice` knows about the money

A payment that LND has accepted stays open until LND's stream for its hash
reports how it ended.  The `dispatch` monitor follows one run of `pay_invoice`:
whether an accepted payment is still open, whether some stream ended without
a report, and the success that was reported.
-/

set_option autoImplicit false

namespace LndkFormal.Offers

open LndkFormal.Async
open LndkFormal.Lnd
open LndkFormal.Ldk

/-- The first update that says how the payment ended; nothing after it is read. -/
def finalUpdate (stream : PaymentStream) : Option Payment :=
  stream.updates.find? fun payment => payment.status = .succeeded ∨ payment.status = .failed

def Reports (hash : PaymentHash) (payment : Payment) : Event Sig → Prop
  | .call (.trackPaymentV2 tracked _) (.ok stream) =>
      tracked = hash ∧ finalUpdate stream = some payment
  | _ => False

def ReportsFailed (hash : PaymentHash) (event : Event Sig) : Prop :=
  ∃ payment, Reports hash payment event ∧ payment.status = .failed

/-- A tracking request is answered by a stream that says how the payment ended. -/
def settles : Event Sig → Bool
  | .call (.trackPaymentV2 _ _) (.ok stream) => (finalUpdate stream).isSome
  | .call (.trackPaymentV2 _ _) (.error _) => false
  | _ => true

theorem finalUpdate_status {stream : PaymentStream} {payment : Payment}
    (final : finalUpdate stream = some payment) :
    payment.status = .succeeded ∨ payment.status = .failed := by
  simpa using List.find?_some final

theorem settle_eq (stream : PaymentStream) :
    (∃ payment, finalUpdate stream = some payment ∧ payment.status = .succeeded ∧
      settle stream.updates stream.ending = .ok payment) ∨
    (∃ payment, finalUpdate stream = some payment ∧ payment.status = .failed ∧
      settle stream.updates stream.ending = .error .paymentFailure) ∨
    (finalUpdate stream = none ∧
      ∃ e, settle stream.updates stream.ending = .error e) := by
  obtain ⟨updates, ending⟩ := stream
  induction updates with
  | nil => exact Or.inr (Or.inr ⟨rfl, by cases ending <;> exact ⟨_, rfl⟩⟩)
  | cons payment rest ih =>
      simp only [finalUpdate, settle, List.find?_cons] at ih ⊢
      cases status : payment.status with
      | succeeded => exact Or.inl ⟨payment, by simp, status, rfl⟩
      | failed => exact Or.inr (Or.inl ⟨payment, by simp, status, rfl⟩)
      | unknown => simpa using ih
      | inFlight => simpa using ih
      | initiated => simpa using ih

/-! ## The dispatch monitor -/

structure Dispatch where
  /-- A payment was accepted and no stream has reported its failure since. -/
  outstanding : Bool
  /-- A stream could not be opened, broke or ended without a report. -/
  unsettled : Bool
  paid : Option Payment
  deriving DecidableEq

def Dispatch.start : Dispatch := ⟨false, false, none⟩

def Dispatch.next (hash : PaymentHash) (ghost : Dispatch) : Event Sig → Dispatch
  | .call (.sendToRouteV2 _ _) (.ok _) => { ghost with outstanding := true }
  | .call (.trackPaymentV2 tracked _) (.ok stream) =>
      match finalUpdate stream with
      | none => { ghost with unsettled := true }
      | some payment =>
          if tracked = hash then
            if payment.status = .succeeded then { ghost with paid := some payment }
            else { ghost with outstanding := false }
          else ghost
  | .call (.trackPaymentV2 _ _) (.error _) => { ghost with unsettled := true }
  | _ => ghost

/-- Nothing accepted is open, as far as every stream so far has settled. -/
def Dispatch.Clear (ghost : Dispatch) : Prop := ghost.outstanding = false ∨ ghost.unsettled = true

def dispatch (hash : PaymentHash) : Monitor Sig Dispatch where
  demand ghost
    | .call (.sendToRouteV2 sent _) _ => sent = hash ∧ ghost.Clear
    | _ => True
  next := Dispatch.next hash
  panicOk _ := True

section Programs

variable (ldk : Library) {hash : PaymentHash}

theorem channelLookup_dispatch (ghost : Dispatch) {α : Type} {Q : α → Prop} {p : Prog Sig α}
    (only : p.Only ChannelLookup Q) :
    p.Satisfies (dispatch hash) (fun _ final => final = ghost) ghost := by
  refine (only.satisfies rfl ?_).mono fun _ _ kept => kept.1.symm
  rintro _ event rfl lookup
  cases event with
  | access op reply => exact lookup.elim
  | call request reply => cases request <;> first | exact lookup.elim | exact ⟨trivial, rfl⟩

theorem sendPayment_dispatch (params : SendPaymentParams) {ghost : Dispatch}
    (clear : ghost.Clear) :
    (sendPayment ldk params).Satisfies (dispatch params.paymentHash)
      (fun result final => match result with
        | .error _ => final = ghost
        | .ok _ => final = { ghost with outstanding := true }) ghost := by
  have routes : (queryRoutes ldk params.path params.cltvExpiryDelta params.feeBaseMsat
      params.feePpm params.msats params.feeLimit).Satisfies (dispatch params.paymentHash)
      (fun _ final => final = ghost) ghost := by
    refine (channelLookup_dispatch ghost (pathIntroductionNode_only ldk params.path)).andThen ?_ ?_
    · exact fun _ _ same => same
    · rintro introductionNode _ rfl
      exact fun reply => ⟨trivial, rfl⟩
  refine routes.bind ?_
  rintro (e | resp) _ rfl
  · exact rfl
  · dsimp only
    split
    · trivial
    · refine Prog.satisfies_request_bind.mpr fun attempt => ⟨⟨rfl, clear⟩, ?_⟩
      cases attempt <;> rfl

/-- What holds when a tracking function or `pay_invoice` returns. -/
def DispatchPost (result : Except OfferError Payment) (final : Dispatch) : Prop :=
  match result with
  | .ok payment => final.paid = some payment ∧ payment.status = .succeeded
  | .error _ => final.Clear

theorem InvoicePayer.trackPayment_dispatch (ghost : Dispatch) :
    (InvoicePayer.trackPayment hash).Satisfies (dispatch hash) DispatchPost ghost := by
  refine Prog.satisfies_request_bind.mpr fun reply => ⟨trivial, ?_⟩
  rcases reply with e | stream
  · exact Or.inr rfl
  · show DispatchPost (settle stream.updates stream.ending) (Dispatch.next hash ghost _)
    rcases settle_eq stream with ⟨payment, final, status, settled⟩ |
      ⟨payment, final, status, settled⟩ | ⟨final, e, settled⟩
    · simp [settled, DispatchPost, Dispatch.next, final, status]
    · simp [settled, DispatchPost, Dispatch.next, final, status, Dispatch.Clear]
    · simp [settled, DispatchPost, Dispatch.next, final, Dispatch.Clear]

theorem trackPayment_dispatch (ghost : Dispatch) :
    (trackPayment hash).Satisfies (dispatch hash) DispatchPost ghost := by
  refine (InvoicePayer.trackPayment_dispatch ghost).bind ?_
  rintro (e | payment) final settled
  · exact settled
  · exact settled

theorem payPaths_dispatch (amount : UInt64) (invoice : Bolt12Invoice) (paymentId : PaymentId)
    (feeLimit : Option FeeLimit) (paths : List Ldk.BlindedPaymentPath)
    (lastError : Option OfferError) {ghost : Dispatch} (clear : ghost.Clear) :
    (payPaths ldk amount invoice paymentId feeLimit paths lastError).Satisfies
      (dispatch invoice.paymentHash) DispatchPost ghost := by
  induction paths generalizing ghost lastError with
  | nil => exact fun _ => ⟨trivial, clear⟩
  | cons path rest ih =>
      refine (channelLookup_dispatch ghost (introNodeId_only ldk path)).andThen ?_ ?_
      · rintro e _ rfl
        exact clear
      · rintro _ _ rfl
        refine (sendPayment_dispatch ldk
          (sendPaymentParams amount invoice paymentId feeLimit path) clear).bind ?_
        rintro (e | _) _ rfl
        · exact ih (some e) clear
        · refine fun _ => ⟨trivial, ?_⟩
          refine (trackPayment_dispatch _).bind ?_
          rintro (e | payment) final settled
          · exact ih (some e) settled
          · exact fun _ => ⟨trivial, settled⟩

theorem payInvoice_dispatch (amount : UInt64) (invoice : Bolt12Invoice) (paymentId : PaymentId)
    (feeLimit : Option FeeLimit) :
    (payInvoice ldk amount invoice paymentId feeLimit).Satisfies
      (dispatch invoice.paymentHash) DispatchPost Dispatch.start :=
  payPaths_dispatch ldk amount invoice paymentId feeLimit invoice.paymentPaths none (Or.inl rfl)

end Programs

/-- One event that settles leaves an open payment open unless it reports a failure. -/
theorem Dispatch.next_outstanding (hash : PaymentHash) (ghost : Dispatch) {event : Event Sig}
    (settled : settles event) :
    (ghost.next hash event).unsettled = ghost.unsettled ∧
      (ghost.outstanding = true → ¬ ReportsFailed hash event →
        (ghost.next hash event).outstanding = true) := by
  cases event with
  | access op reply => exact ⟨rfl, fun isOpen _ => isOpen⟩
  | call request reply =>
      cases request with
      | sendToRouteV2 sent route =>
          cases reply with
          | error e => exact ⟨rfl, fun isOpen _ => isOpen⟩
          | ok attempt => exact ⟨rfl, fun _ _ => rfl⟩
      | trackPaymentV2 tracked quiet =>
          rcases reply with e | stream
          · cases settled
          · obtain ⟨payment, final⟩ := Option.isSome_iff_exists.mp settled
            simp only [Dispatch.next, final]
            by_cases same : tracked = hash
            · rcases finalUpdate_status final with succeeded | failed
              · simpa [same, succeeded] using fun isOpen _ => isOpen
              · refine ⟨by simp [same, failed], fun _ silent => ?_⟩
                exact absurd ⟨payment, ⟨same, final⟩, failed⟩ silent
            · simpa [same] using fun isOpen _ => isOpen
      | _ => exact ⟨rfl, fun isOpen _ => isOpen⟩

theorem dispatch_after (hash : PaymentHash) (ghost : Dispatch) {events : List (Event Sig)}
    (settled : ∀ event ∈ events, settles event) :
    ((dispatch hash).after ghost events).unsettled = ghost.unsettled ∧
      (ghost.outstanding = true → (∀ event ∈ events, ¬ ReportsFailed hash event) →
        ((dispatch hash).after ghost events).outstanding = true) := by
  induction events generalizing ghost with
  | nil => exact ⟨rfl, fun isOpen _ => isOpen⟩
  | cons event rest ih =>
      obtain ⟨sameNow, openNow⟩ :=
        Dispatch.next_outstanding hash ghost (settled event (by simp))
      obtain ⟨sameLater, openLater⟩ :=
        ih (ghost.next hash event) fun later member => settled later (by simp [member])
      refine ⟨sameLater.trans sameNow, fun isOpen silent => ?_⟩
      exact openLater (openNow isOpen (silent event (by simp)))
        fun later member => silent later (by simp [member])

theorem reported_of_clear {hash : PaymentHash} {sent : PaymentHash} {route : Route}
    {attempt : HtlcAttempt} {ghost : Dispatch} {events : List (Event Sig)}
    (before : ghost.unsettled = false) (settled : ∀ event ∈ events, settles event)
    (clear : ((dispatch hash).after ghost
      (.call (.sendToRouteV2 sent route) (.ok attempt) :: events)).Clear) :
    ∃ event ∈ events, ReportsFailed hash event := by
  by_contra silent
  push Not at silent
  obtain ⟨same, isOpen⟩ := dispatch_after hash { ghost with outstanding := true } settled
  have stillOpen := isOpen rfl silent
  rcases clear with closed | unsettled
  · exact absurd (stillOpen.symm.trans closed) (by decide)
  · exact absurd (unsettled.symm.trans (same.trans before)) (by decide)

theorem reports_of_paid {hash : PaymentHash} {events : List (Event Sig)} {ghost : Dispatch}
    {payment : Payment} (paid : ((dispatch hash).after ghost events).paid = some payment) :
    ghost.paid = some payment ∨ ∃ event ∈ events, Reports hash payment event := by
  induction events generalizing ghost with
  | nil => exact Or.inl paid
  | cons event rest ih =>
      rcases ih paid with now | ⟨later, member, reports⟩
      · cases event with
        | access op reply => exact Or.inl now
        | call request reply =>
            cases request with
            | sendToRouteV2 sent route => cases reply <;> exact Or.inl now
            | trackPaymentV2 tracked quiet =>
                rcases reply with e | stream
                · exact Or.inl now
                · simp only [dispatch, Dispatch.next] at now
                  split at now
                  · exact Or.inl now
                  · rename_i final found
                    split at now
                    · rename_i same
                      split at now
                      · cases now
                        exact Or.inr ⟨_, List.mem_cons_self, same, found⟩
                      · exact Or.inl now
                    · exact Or.inl now
            | _ => exact Or.inl now
      · exact Or.inr ⟨later, by simp [member], reports⟩

/-- Between an accepted payment and the next one sent, LND has reported that the
first one failed. -/
def NoSecondDispatch (trace : List (Event Sig)) : Prop :=
  ∀ (pre between post : List (Event Sig)) (hash : PaymentHash) (route : Route)
    (attempt : HtlcAttempt) (again : PaymentHash) (route' : Route)
    (reply : Except Status HtlcAttempt),
    trace = pre ++ .call (.sendToRouteV2 hash route) (.ok attempt) ::
      (between ++ .call (.sendToRouteV2 again route') reply :: post) →
    ∃ event ∈ between, ReportsFailed hash event

/-- While every tracking stream says how its payment ended, `pay_invoice` sends
nothing after a payment that may still settle. -/
theorem payInvoice_noSecondDispatch (ldk : Library) (amount : UInt64) (invoice : Bolt12Invoice)
    (paymentId : PaymentId) (feeLimit : Option FeeLimit) (trace : List (Event Sig))
    (rest : Prog Sig (Except OfferError Payment))
    (run : Reaches (payInvoice ldk amount invoice paymentId feeLimit) trace rest)
    (settled : ∀ event ∈ trace, settles event) : NoSecondDispatch trace := by
  intro pre between post hash route attempt again route' reply split
  obtain ⟨demanded, -⟩ :=
    satisfies_reaches (payInvoice_dispatch ldk amount invoice paymentId feeLimit) run
  rw [split, Monitor.along_append] at demanded
  obtain ⟨-, first, demanded⟩ := demanded
  obtain ⟨-, second, -⟩ := (Monitor.along_append _ _ _ _ _).mp demanded
  subst split
  obtain rfl : hash = invoice.paymentHash := first.1
  have settledBefore := (dispatch_after invoice.paymentHash Dispatch.start
    fun event member => settled event (List.mem_append_left _ member)).1
  refine reported_of_clear settledBefore ?_ second.2
  intro event member
  exact settled event (by simp [member])

def Call.acceptedThen (stream : PaymentStream) : (request : Call) → request.Reply
  | .queryRoutes _ => .ok ⟨[⟨[]⟩]⟩
  | .sendToRouteV2 _ _ => .ok ⟨1⟩
  | .trackPaymentV2 _ _ => .ok stream
  | request => request.refused

def brokenInFlight : PaymentStream :=
  ⟨[⟨"", .inFlight⟩], .broken (Status.unknown "transport error")⟩

def failThenSucceed : List ((request : Call) → request.Reply) :=
  List.replicate 4 (Call.acceptedThen ⟨[⟨"", .failed⟩], .closed⟩) ++
    List.replicate 5 (Call.acceptedThen ⟨[⟨"00", .succeeded⟩], .closed⟩)

theorem payInvoice_noSecondDispatch_failThenSucceed :
    NoSecondDispatch ((payInvoice (.plain .twoPaths) 1000 .twoPaths ⟨1⟩ none).play
      (fun op => (op.run .new).1) failThenSucceed).1 := by
  refine payInvoice_noSecondDispatch _ _ _ _ _ _ _ (Prog.play_reaches _ _ _) ?_
  decide

theorem payInvoice_dispatches_again :
    ¬ ∀ (trace : List (Event Sig)) (rest : Prog Sig (Except OfferError Payment)),
      Reaches (payInvoice (.plain .twoPaths) 1000 .twoPaths ⟨1⟩ none) trace rest →
        NoSecondDispatch trace := by
  intro claim
  have run := Prog.play_reaches (fun op : Access => (op.run .new).1)
    (List.replicate 9 (Call.acceptedThen brokenInFlight))
    (payInvoice (.plain .twoPaths) 1000 .twoPaths ⟨1⟩ none)
  obtain ⟨event, member, payment, reports, failed⟩ :=
    claim _ _ run [_] [_, _, _] [_, _, _] _ _ _ _ _ _ rfl
  simp only [List.mem_cons, List.not_mem_nil, or_false] at member
  rcases member with rfl | rfl | rfl
  · exact reports
  · cases reports.2
  · exact reports

/-- What a caller may conclude from the result of `pay_invoice`. -/
def TellsTheTruth (hash : PaymentHash) (trace : List (Event Sig))
    (result : Except OfferError Payment) : Prop :=
  match result with
  | .ok payment => payment.status = .succeeded ∧ ∃ event ∈ trace, Reports hash payment event
  | .error _ => ∀ (pre post : List (Event Sig)) (sent : PaymentHash) (route : Route)
      (attempt : HtlcAttempt),
      trace = pre ++ .call (.sendToRouteV2 sent route) (.ok attempt) :: post →
      ∃ event ∈ post, ReportsFailed sent event

/-- Success means that LND reported it, however the tracking streams end. -/
theorem payInvoice_ok_reported (ldk : Library) (amount : UInt64) (invoice : Bolt12Invoice)
    (paymentId : PaymentId) (feeLimit : Option FeeLimit) {trace : List (Event Sig)}
    {payment : Payment}
    (run : Reaches (payInvoice ldk amount invoice paymentId feeLimit) trace (.ret (.ok payment))) :
    TellsTheTruth invoice.paymentHash trace (.ok payment) := by
  obtain ⟨-, final⟩ :=
    satisfies_reaches (payInvoice_dispatch ldk amount invoice paymentId feeLimit) run
  refine ⟨final.2, ?_⟩
  rcases reports_of_paid final.1 with early | reported
  · cases early
  · exact reported

/-- While every tracking stream says how its payment ended, an error means that
nothing sent can still settle. -/
theorem payInvoice_tellsTheTruth (ldk : Library) (amount : UInt64) (invoice : Bolt12Invoice)
    (paymentId : PaymentId) (feeLimit : Option FeeLimit) (trace : List (Event Sig))
    (result : Except OfferError Payment)
    (run : Reaches (payInvoice ldk amount invoice paymentId feeLimit) trace (.ret result))
    (settled : ∀ event ∈ trace, settles event) :
    TellsTheTruth invoice.paymentHash trace result := by
  cases result with
  | ok payment => exact payInvoice_ok_reported ldk amount invoice paymentId feeLimit run
  | error e =>
      obtain ⟨demanded, final⟩ :=
        satisfies_reaches (payInvoice_dispatch ldk amount invoice paymentId feeLimit) run
      intro pre post sent route attempt split
      subst split
      obtain ⟨-, first, -⟩ := (Monitor.along_append _ _ _ _ _).mp demanded
      obtain rfl : sent = invoice.paymentHash := first.1
      have clear : Dispatch.Clear _ := final
      rw [Monitor.after_append] at clear
      have settledBefore := (dispatch_after invoice.paymentHash Dispatch.start
        fun event member => settled event (List.mem_append_left _ member)).1
      refine reported_of_clear settledBefore ?_ clear
      intro event member
      exact settled event (by simp [member])

theorem payInvoice_tellsTheTruth_failedTwice :
    TellsTheTruth ⟨7⟩ ((payInvoice (.plain .twoPaths) 1000 .twoPaths ⟨1⟩ none).play
      (fun op => (op.run .new).1)
      (List.replicate 9 (Call.acceptedThen ⟨[⟨"", .failed⟩], .closed⟩))).1
      (.error .paymentFailure) := by
  refine payInvoice_tellsTheTruth _ _ .twoPaths ⟨1⟩ none _ _ (Prog.play_reaches _ _ _) ?_
  decide

theorem payInvoice_fails_in_flight :
    ¬ ∀ (trace : List (Event Sig)) (result : Except OfferError Payment),
      Reaches (payInvoice (.plain .twoPaths) 1000 .twoPaths ⟨1⟩ none) trace (.ret result) →
        TellsTheTruth Bolt12Invoice.twoPaths.paymentHash trace result := by
  intro claim
  have run := Prog.play_reaches (fun op : Access => (op.run .new).1)
    (List.replicate 9 (Call.acceptedThen brokenInFlight))
    (payInvoice (.plain .twoPaths) 1000 .twoPaths ⟨1⟩ none)
  obtain ⟨event, member, payment, reports, failed⟩ :=
    claim _ (.error .paymentFailure) run [_] [_, _, _, _, _, _, _] _ _ _ rfl
  simp only [List.mem_cons, List.not_mem_nil, or_false] at member
  rcases member with rfl | rfl | rfl | rfl | rfl | rfl | rfl
  · exact reports
  · cases reports.2
  · exact reports
  · exact reports
  · exact reports
  · cases reports.2
  · exact reports

end LndkFormal.Offers
