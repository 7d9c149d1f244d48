import LndkFormal.Offers.Handler

/-!
# The attempts of `pay_invoice`

`pay_invoice` tries each payment path of an invoice until one works.  A path
whose attempt fails makes way for the next one, except where the loop is left:
at a refused lookup of the channel that names the path's introduction node, and
at an answer without routes.
-/

set_option autoImplicit false

namespace LndkFormal.Offers

open LndkFormal.Async
open LndkFormal.Lnd
open LndkFormal.Ldk

section Attempts

variable (ldk : Library) (amount : UInt64) (invoice : Bolt12Invoice) (paymentId : PaymentId)
variable (feeLimit : Option FeeLimit)

/-! ## One attempt -/

/-- The part of the loop's body whose errors are handled by `continue`. -/
def sendAndTrack (path : Ldk.BlindedPaymentPath) : Prog Sig (Except OfferError Payment) := do
  match ← sendPayment ldk (sendPaymentParams amount invoice paymentId feeLimit path) with
  | .error e => return .error e
  | .ok () =>
      let _ ← lock (.setDispatched paymentId)
      trackPayment invoice.paymentHash

/-- The body of the path loop.  An outer error leaves `pay_invoice`, an inner
one goes on with the next path. -/
def payPath (path : Ldk.BlindedPaymentPath) :
    Prog Sig (Except OfferError (Except OfferError Payment)) :=
  (introNodeId ldk path).andThen fun _ =>
    sendAndTrack ldk amount invoice paymentId feeLimit path >>= fun outcome => .ret (.ok outcome)

theorem payPaths_cons (path : Ldk.BlindedPaymentPath) (rest : List Ldk.BlindedPaymentPath)
    (lastError : Option OfferError) :
    payPaths ldk amount invoice paymentId feeLimit (path :: rest) lastError =
      (payPath ldk amount invoice paymentId feeLimit path).andThen fun
        | .error e => payPaths ldk amount invoice paymentId feeLimit rest (some e)
        | .ok payment => lock (.remove paymentId) >>= fun _ => .ret (.ok payment) := by
  simp only [payPaths, payPath, sendAndTrack, Prog.andThen, Prog.bind_assoc]
  congr 1
  funext resolved
  cases resolved with
  | error e => rfl
  | ok node =>
      simp only [Prog.bind_assoc]
      congr 1
      funext sent
      cases sent with
      | error e => rfl
      | ok _ =>
          simp only [Prog.bind_assoc]
          rfl

def namedNode (direction : Direction) : Except Status ChannelEdge → Option PublicKey
  | .error _ => none
  | .ok channelInfo => ldk.publicKeyFromSlice (endpoint channelInfo direction).toUTF8.toList

def routesRequest (path : Ldk.BlindedPaymentPath) (node : PublicKey) : QueryRoutesRequest :=
  queryRoutesRequest node path path.payinfo.cltvExpiryDelta path.payinfo.feeBaseMsat
    path.payinfo.feeProportionalMillionths amount feeLimit

/-- LND is asked for routes to the introduction node of the path.  If a channel names this node,
LND is first asked about the channel, for the log and then for the query; there is no query if
LND refuses the first of these lookups or the second does not give a node. -/
inductive Asked (path : Ldk.BlindedPaymentPath) : List (Event Sig) → Prop where
  | routes {node : PublicKey} (reply : Except Status QueryRoutesResponse)
      (rest : List (Event Sig)) (named : path.introductionNode = .nodeId node) :
      Asked path (.call (.queryRoutes (routesRequest amount feeLimit path node)) reply :: rest)
  | refused {direction : Direction} {scid : UInt64} (status : Status)
      (named : path.introductionNode = .directedShortChannelId direction scid) :
      Asked path [.call (.getChanInfo scid) (.error status)]
  | unnamed {direction : Direction} {scid : UInt64} (logged : ChannelEdge)
      {looked : Except Status ChannelEdge}
      (named : path.introductionNode = .directedShortChannelId direction scid)
      (none : namedNode ldk direction looked = none) :
      Asked path [.call (.getChanInfo scid) (.ok logged), .call (.getChanInfo scid) looked]
  | found {direction : Direction} {scid : UInt64} {node : PublicKey} (logged : ChannelEdge)
      {looked : Except Status ChannelEdge} (reply : Except Status QueryRoutesResponse)
      (rest : List (Event Sig))
      (named : path.introductionNode = .directedShortChannelId direction scid)
      (some : namedNode ldk direction looked = some node) :
      Asked path (.call (.getChanInfo scid) (.ok logged) :: .call (.getChanInfo scid) looked ::
        .call (.queryRoutes (routesRequest amount feeLimit path node)) reply :: rest)

/-- These are the events of one attempt at a path, from its first request to
its outcome. -/
structure Attempt (path : Ldk.BlindedPaymentPath) (events : List (Event Sig)) : Prop where
  asked : Asked ldk amount feeLimit path events
  ended : ∃ outcome,
    Reaches (payPath ldk amount invoice paymentId feeLimit path) events (.ret outcome)

section Outcome

variable {ldk amount invoice paymentId feeLimit}
variable {path : Ldk.BlindedPaymentPath} {events : List (Event Sig)}
variable {direction : Direction} {scid : UInt64}

theorem getNodeIdFromScid_told {told : Except OfferError String}
    (run : Reaches (getNodeIdFromScid scid direction) events (.ret told)) :
    ∃ reply, events = [.call (.getChanInfo scid) reply] ∧
      told.toOption = reply.toOption.map (endpoint · direction) := by
  obtain ⟨(reply : Except Status ChannelEdge), rest, rfl, ended⟩ := reaches_request_bind run
  refine ⟨reply, ?_⟩
  cases reply with
  | error status =>
      cases ended
      exact ⟨rfl, rfl⟩
  | ok channelInfo =>
      cases direction <;> cases ended <;> exact ⟨rfl, rfl⟩

theorem getNodeId_found {found : Except OfferError PublicKey}
    (run : Reaches (getNodeId ldk scid direction) events (.ret found)) :
    ∃ reply, events = [.call (.getChanInfo scid) reply] ∧
      found.toOption = namedNode ldk direction reply := by
  obtain ⟨first, second, told, rfl, asked, parsed⟩ := reaches_bind_ret run
  obtain ⟨reply, rfl, same⟩ := getNodeIdFromScid_told asked
  refine ⟨reply, ?_⟩
  cases told with
  | error e =>
      cases parsed
      cases reply with
      | error status => exact ⟨rfl, rfl⟩
      | ok channelInfo => cases same
  | ok text =>
      cases reply with
      | error status => cases same
      | ok channelInfo =>
          cases same
          dsimp only at parsed
          split at parsed
          all_goals
            rename_i read
            cases parsed
            exact ⟨rfl, read.symm⟩

theorem pathIntroductionNode_found {found : Except Status PublicKey}
    (named : path.introductionNode = .directedShortChannelId direction scid)
    (run : Reaches (pathIntroductionNode ldk path) events (.ret found)) :
    ∃ reply, events = [.call (.getChanInfo scid) reply] ∧
      found.toOption = namedNode ldk direction reply := by
  simp only [pathIntroductionNode, named] at run
  obtain ⟨first, second, node, rfl, looked, ended⟩ := reaches_bind_ret run
  obtain ⟨reply, rfl, same⟩ := getNodeId_found looked
  refine ⟨reply, ?_⟩
  rw [← same]
  cases node <;> cases ended <;> exact ⟨rfl, rfl⟩

theorem queryRoutes_asked {cltvExpiryDelta : UInt16} {feeBaseMsat feePpm : UInt32}
    {msats : UInt64} {result : Except Status QueryRoutesResponse}
    (named : path.introductionNode = .directedShortChannelId direction scid)
    (run : Reaches (queryRoutes ldk path cltvExpiryDelta feeBaseMsat feePpm msats feeLimit) events
      (.ret result)) :
    ∃ looked,
      (namedNode ldk direction looked = none ∧ events = [.call (.getChanInfo scid) looked] ∧
        ∃ e, result = .error e) ∨
      ∃ node reply, namedNode ldk direction looked = some node ∧
        events = [.call (.getChanInfo scid) looked, .call (.queryRoutes (queryRoutesRequest node
          path cltvExpiryDelta feeBaseMsat feePpm msats feeLimit)) reply] := by
  obtain ⟨first, second, node, rfl, looked, asked⟩ := reaches_bind_ret run
  obtain ⟨reply, rfl, same⟩ := pathIntroductionNode_found named looked
  refine ⟨reply, ?_⟩
  cases node with
  | error e =>
      cases asked
      exact .inl ⟨same.symm, rfl, e, rfl⟩
  | ok node =>
      cases asked with
      | call answer ended =>
          cases ended
          exact .inr ⟨node, result, same.symm, rfl⟩

theorem attempt_of_ended {outcome : Except OfferError (Except OfferError Payment)}
    (ended : Reaches (payPath ldk amount invoice paymentId feeLimit path) events (.ret outcome)) :
    Attempt ldk amount invoice paymentId feeLimit path events := by
  refine ⟨?_, outcome, ended⟩
  obtain ⟨first, second, logged, rfl, looked, went⟩ := reaches_bind_ret ended
  cases named : path.introductionNode with
  | nodeId node =>
      rw [introNodeId, named] at looked
      cases looked
      obtain ⟨sent, _, _, rfl, sending, _⟩ := reaches_bind_ret went
      obtain ⟨paid, _, _, rfl, paying, _⟩ := reaches_bind_ret sending
      obtain ⟨queried, _, _, rfl, querying, _⟩ := reaches_bind_ret paying
      simp only [queryRoutes, pathIntroductionNode, sendPaymentParams, named] at querying
      cases querying with
      | call reply rest => exact .routes reply _ named
  | directedShortChannelId direction scid =>
      rw [introNodeId, named] at looked
      obtain ⟨reply, rfl, same⟩ := getNodeIdFromScid_told looked
      cases reply with
      | error status =>
          cases logged with
          | error e =>
              cases went
              exact .refused status named
          | ok text => cases same
      | ok channelInfo =>
          cases logged with
          | error e => cases same
          | ok text =>
              obtain ⟨sent, finished, _, rfl, sending, last⟩ := reaches_bind_ret went
              obtain ⟨paid, tracked, sentOk, rfl, paying, tracking⟩ := reaches_bind_ret sending
              obtain ⟨queried, sentOn, answer, rfl, querying, chosen⟩ := reaches_bind_ret paying
              obtain ⟨second, ⟨none, rfl, e, rfl⟩ | ⟨node, reply, some, rfl⟩⟩ :=
                queryRoutes_asked named querying
              · cases chosen
                cases tracking
                cases last
                exact .unnamed channelInfo named none
              · exact .found channelInfo reply _ named some

theorem Attempt.ne_nil (attempt : Attempt ldk amount invoice paymentId feeLimit path events) :
    events ≠ [] := by
  rintro rfl
  cases attempt.asked

theorem introNodeId_refused {e : OfferError}
    (refused : Reaches (introNodeId ldk path) events (.ret (.error e))) :
    ∃ scid status, events = [.call (.getChanInfo scid) (.error status)] := by
  unfold introNodeId at refused
  split at refused
  · cases refused
  · obtain ⟨reply, rfl, same⟩ := getNodeIdFromScid_told refused
    cases reply with
    | error status => exact ⟨_, status, rfl⟩
    | ok channelInfo => cases same

/-- The loop is left only by a refused lookup of `pay_invoice`'s own. -/
theorem payPath_left {e : OfferError}
    (left : Reaches (payPath ldk amount invoice paymentId feeLimit path) events
      (.ret (.error e))) :
    ∃ scid status, events = [.call (.getChanInfo scid) (.error status)] := by
  obtain ⟨first, second, resolved, rfl, looked, went⟩ := reaches_bind_ret left
  cases resolved with
  | error refused =>
      cases went
      rw [List.append_nil]
      exact introNodeId_refused looked
  | ok node =>
      obtain ⟨_, _, outcome, _, _, finished⟩ := reaches_bind_ret went
      cases finished

end Outcome

def routeless : Event Sig → Bool
  | .call (.queryRoutes _) (.ok response) => response.routes.isEmpty
  | _ => false

/-- Remembers whether LND has answered a query for routes with none; only then may the program
panic. -/
def aborting : Monitor Sig Bool where
  demand _ _ := True
  next ghost event := ghost || routeless event
  panicOk ghost := ghost = true

theorem aborting_after (ghost : Bool) (trace : List (Event Sig)) :
    aborting.after ghost trace = (ghost || trace.any routeless) := by
  induction trace generalizing ghost with
  | nil => simp
  | cons event rest ih =>
      rw [Monitor.after_cons, ih, List.any_cons, ← Bool.or_assoc]
      rfl

theorem channelLookup_aborting {α : Type} {Q : α → Prop} {p : Prog Sig α}
    (only : p.Only ChannelLookup Q) :
    p.Satisfies aborting (fun _ final => final = false) false := by
  refine (only.satisfies (I := fun ghost => ghost = false) rfl ?_).mono fun _ _ kept => kept.1
  rintro _ event rfl lookup
  cases event with
  | access op reply => exact lookup.elim
  | call request reply => cases request <;> first | exact lookup.elim | exact ⟨trivial, rfl⟩

theorem queryRoutes_aborting (path : Ldk.BlindedPaymentPath) (cltvExpiryDelta : UInt16)
    (feeBaseMsat feePpm : UInt32) (msats : UInt64) (feeLimit : Option FeeLimit) :
    (queryRoutes ldk path cltvExpiryDelta feeBaseMsat feePpm msats feeLimit).Satisfies aborting
      (fun result final => final = result.toOption.any (·.routes.isEmpty)) false := by
  refine (channelLookup_aborting (pathIntroductionNode_only ldk path)).andThen ?_ ?_
  · exact fun _ _ same => same
  · rintro introductionNode _ rfl
    refine fun reply => ⟨trivial, ?_⟩
    cases reply <;> rfl

theorem sendPayment_aborting (params : SendPaymentParams) :
    (sendPayment ldk params).Satisfies aborting (fun _ final => final = false) false := by
  refine (queryRoutes_aborting ldk _ _ _ _ _ _).bind ?_
  rintro (e | response) _ rfl
  · exact rfl
  · obtain ⟨_ | ⟨route, others⟩⟩ := response
    · exact rfl
    · refine Prog.satisfies_request_bind.mpr fun attempt => ⟨trivial, ?_⟩
      cases attempt <;> rfl

theorem trackPayment_aborting (hash : PaymentHash) :
    (trackPayment hash).Satisfies aborting (fun _ final => final = false) false := by
  have tracked : (InvoicePayer.trackPayment hash).Satisfies aborting
      (fun _ final => final = false) false := by
    refine Prog.satisfies_request_bind.mpr fun reply => ⟨trivial, ?_⟩
    cases reply <;> rfl
  refine tracked.bind ?_
  rintro (e | payment) _ rfl <;> rfl

theorem payPaths_aborting (paths : List Ldk.BlindedPaymentPath) (lastError : Option OfferError) :
    (payPaths ldk amount invoice paymentId feeLimit paths lastError).Satisfies aborting
      (fun _ final => final = false) false := by
  induction paths generalizing lastError with
  | nil => exact fun _ => ⟨trivial, rfl⟩
  | cons path rest ih =>
      refine (channelLookup_aborting (introNodeId_only ldk path)).andThen (fun _ _ same => same) ?_
      rintro _ _ rfl
      refine (sendPayment_aborting ldk _).bind ?_
      rintro (e | _) _ rfl
      · exact ih (some e)
      · refine fun _ => ⟨trivial, ?_⟩
        refine (trackPayment_aborting invoice.paymentHash).bind ?_
        rintro (e | payment) _ rfl
        · exact ih (some e)
        · exact fun _ => ⟨trivial, rfl⟩

/-- `pay_invoice` aborts exactly at an answer without routes. -/
theorem payInvoice_panics_iff {trace : List (Event Sig)}
    {final : Prog Sig (Except OfferError Payment)}
    (run : Reaches (payInvoice ldk amount invoice paymentId feeLimit) trace final)
    (halted : ¬ final.Running) :
    (∃ message, final = .panic message) ↔ ∃ event ∈ trace, routeless event = true := by
  obtain ⟨-, kept⟩ := satisfies_reaches
    (payPaths_aborting ldk amount invoice paymentId feeLimit invoice.paymentPaths none) run
  rw [aborting_after, Bool.false_or] at kept
  cases final with
  | ret result =>
      have none : trace.any routeless = false := kept
      simpa using none
  | panic message =>
      have some : trace.any routeless = true := kept
      simpa using some
  | access op next => exact absurd trivial halted
  | call request next => exact absurd trivial halted

/-! ## Attempts in order -/

/-- The run begins with one attempt at each of the paths, in their order. -/
def AttemptsEach (paths : List Ldk.BlindedPaymentPath) (trace : List (Event Sig)) : Prop :=
  ∃ attempts rest, List.Forall₂ (Attempt ldk amount invoice paymentId feeLimit) paths attempts ∧
    trace = attempts.flatten ++ rest

/-- After the attempts at some paths, LND refuses the first lookup for a path
that is followed by others. -/
def LookupRefused (paths : List Ldk.BlindedPaymentPath) (trace : List (Event Sig)) : Prop :=
  ∃ before path after attempts scid status,
    paths = before ++ path :: after ∧ after ≠ [] ∧
    List.Forall₂ (Attempt ldk amount invoice paymentId feeLimit) before attempts ∧
    trace = attempts.flatten ++ [.call (.getChanInfo scid) (.error status)]

/-- How the loop can have come to its result. -/
def ReturnedFrom (paths : List Ldk.BlindedPaymentPath) (trace : List (Event Sig)) :
    Except OfferError Payment → Prop
  | .ok _ => ∃ pre reply, trace = pre ++ [.access (.remove paymentId) reply]
  | .error _ => AttemptsEach ldk amount invoice paymentId feeLimit paths trace ∨
      LookupRefused ldk amount invoice paymentId feeLimit paths trace

section Order

variable {ldk amount invoice paymentId feeLimit}
variable {path : Ldk.BlindedPaymentPath} {paths : List Ldk.BlindedPaymentPath}
variable {first trace : List (Event Sig)}

theorem AttemptsEach.cons (attempt : Attempt ldk amount invoice paymentId feeLimit path first)
    (each : AttemptsEach ldk amount invoice paymentId feeLimit paths trace) :
    AttemptsEach ldk amount invoice paymentId feeLimit (path :: paths) (first ++ trace) := by
  obtain ⟨attempts, rest, made, rfl⟩ := each
  exact ⟨first :: attempts, rest, .cons attempt made, by simp⟩

theorem LookupRefused.cons (attempt : Attempt ldk amount invoice paymentId feeLimit path first)
    (refused : LookupRefused ldk amount invoice paymentId feeLimit paths trace) :
    LookupRefused ldk amount invoice paymentId feeLimit (path :: paths) (first ++ trace) := by
  obtain ⟨before, failed, after, attempts, scid, status, rfl, others, made, rfl⟩ := refused
  exact ⟨path :: before, failed, after, first :: attempts, scid, status, rfl, others,
    .cons attempt made, by simp⟩

theorem payPaths_returned {lastError : Option OfferError} {result : Except OfferError Payment}
    (run : Reaches (payPaths ldk amount invoice paymentId feeLimit paths lastError) trace
      (.ret result)) :
    ReturnedFrom ldk amount invoice paymentId feeLimit paths trace result := by
  induction paths generalizing lastError trace with
  | nil =>
      cases run with
      | access reply rest =>
          cases rest
          exact Or.inl ⟨[], _, .nil, rfl⟩
  | cons path paths ih =>
      rw [payPaths_cons] at run
      obtain ⟨first, second, outcome, rfl, ended, went⟩ := reaches_bind_ret run
      have attempt := attempt_of_ended ended
      rcases outcome with e | e | payment
      · cases went
        rw [List.append_nil]
        obtain ⟨scid, status, rfl⟩ := payPath_left ended
        cases paths with
        | nil => exact Or.inl ⟨[_], [], .cons attempt .nil, rfl⟩
        | cons next others =>
            exact Or.inr ⟨[], path, next :: others, [], scid, status, rfl, nofun, .nil, rfl⟩
      · have later := ih went
        cases result with
        | ok payment =>
            obtain ⟨pre, reply, rfl⟩ := later
            exact ⟨first ++ pre, reply, (List.append_assoc _ _ _).symm⟩
        | error e => exact later.imp (AttemptsEach.cons attempt) (LookupRefused.cons attempt)
      · cases went with
        | access reply rest =>
            cases rest
            exact ⟨first, reply, rfl⟩

theorem attempts_unique {after : List Ldk.BlindedPaymentPath}
    {attempts attempts' : List (List (Event Sig))} {rest rest' : List (Event Sig)}
    (made : List.Forall₂ (Attempt ldk amount invoice paymentId feeLimit) paths attempts)
    (made' : List.Forall₂ (Attempt ldk amount invoice paymentId feeLimit) (paths ++ after)
      attempts')
    (same : attempts.flatten ++ rest = attempts'.flatten ++ rest') :
    ∃ later, List.Forall₂ (Attempt ldk amount invoice paymentId feeLimit) after later ∧
      rest = later.flatten ++ rest' := by
  induction made generalizing attempts' with
  | nil => exact ⟨attempts', made', same⟩
  | cons attempt _ ih =>
      cases made' with
      | cons attempt' made' =>
          obtain ⟨_, ended⟩ := attempt.ended
          obtain ⟨_, ended'⟩ := attempt'.ended
          simp only [List.flatten_cons, List.append_assoc] at same
          obtain ⟨rfl, tails⟩ := ended.append_unique ended' same
          exact ih made' tails

theorem LookupRefused.not_attemptsEach
    (refused : LookupRefused ldk amount invoice paymentId feeLimit paths trace) :
    ¬ AttemptsEach ldk amount invoice paymentId feeLimit paths trace := by
  obtain ⟨before, path, after, attempts, scid, status, rfl, others, made, rfl⟩ := refused
  rintro ⟨attempts', rest, made', same⟩
  obtain ⟨later, made, one⟩ := attempts_unique made made' same
  -- The attempt at `path` and the one after it need an event each.
  cases made with
  | cons attempt made =>
      cases made with
      | nil => exact others rfl
      | cons attempt' _ =>
          have first := List.length_pos_of_ne_nil attempt.ne_nil
          have second := List.length_pos_of_ne_nil attempt'.ne_nil
          have total := congrArg List.length one
          simp only [List.flatten_cons, List.length_append, List.length_cons,
            List.length_nil] at total
          omega

end Order

/-- `pay_invoice` does not abort, and fails only after an attempt at each path. -/
structure TriesEachPath (trace : List (Event Sig))
    (final : Prog Sig (Except OfferError Payment)) : Prop where
  returns : ∀ message, final ≠ .panic message
  tried : ∀ e, final = .ret (.error e) →
    AttemptsEach ldk amount invoice paymentId feeLimit invoice.paymentPaths trace

end Attempts

/-- `pay_invoice` tries each path exactly in the runs in which LND neither answers a query for
routes with none nor refuses the first lookup for a path before the last. -/
theorem payInvoice_triesEachPath_iff (ldk : Library) (amount : UInt64) (invoice : Bolt12Invoice)
    (paymentId : PaymentId) (feeLimit : Option FeeLimit) (trace : List (Event Sig))
    (final : Prog Sig (Except OfferError Payment))
    (run : Reaches (payInvoice ldk amount invoice paymentId feeLimit) trace final)
    (halted : ¬ final.Running) :
    TriesEachPath ldk amount invoice paymentId feeLimit trace final ↔
      (∀ event ∈ trace, routeless event = false) ∧
        ¬ LookupRefused ldk amount invoice paymentId feeLimit invoice.paymentPaths trace := by
  have panics := payInvoice_panics_iff ldk amount invoice paymentId feeLimit run halted
  constructor
  · rintro ⟨returns, tried⟩
    refine ⟨?_, ?_⟩
    · intro event member
      by_contra answered
      obtain ⟨message, panicked⟩ := panics.mpr ⟨event, member, by simpa using answered⟩
      exact returns message panicked
    · intro refused
      cases final with
      | ret result =>
          cases result with
          | error e => exact refused.not_attemptsEach (tried e rfl)
          | ok payment =>
              obtain ⟨pre, reply, ending⟩ := payPaths_returned run
              obtain ⟨_, _, _, attempts, scid, status, _, _, _, lookup⟩ := refused
              rw [lookup] at ending
              have last := (List.append_inj' ending rfl).2
              cases last
      | panic message => exact returns message rfl
      | access op next => exact halted trivial
      | call request next => exact halted trivial
  · rintro ⟨answered, unrefused⟩
    refine ⟨?_, ?_⟩
    · intro message panicked
      obtain ⟨event, member, empty⟩ := panics.mp ⟨message, panicked⟩
      rw [answered event member] at empty
      cases empty
    · rintro e rfl
      exact (payPaths_returned run).resolve_right unrefused

def refusedRun (invoice : Bolt12Invoice) :
    List (Event Sig) × Prog Sig (Except OfferError Payment) :=
  (payInvoice (.plain .twoPaths) 1000 invoice ⟨1⟩ none).play (fun op => (op.run .new).1)
    (List.replicate 3 Call.refused)

theorem payInvoice_triesEachPath_noRoutes :
    TriesEachPath (.plain .twoPaths) 1000 .twoPaths ⟨1⟩ none (refusedRun .twoPaths).1
      (refusedRun .twoPaths).2 := by
  refine (payInvoice_triesEachPath_iff _ _ _ _ _ _ _ (Prog.play_reaches _ _ _) id).mpr ⟨?_, ?_⟩
  · decide
  · rintro ⟨_, _, _, attempts, scid, status, _, _, _, lookup⟩
    have split : (refusedRun .twoPaths).1 = [_, _] ++ [_] := rfl
    have last := (List.append_inj' (split.symm.trans lookup) rfl).2
    cases last

def channelFirst : Bolt12Invoice :=
  { Bolt12Invoice.twoPaths with
    paymentPaths := [{ BlindedPaymentPath.through (.repeated 2) with
      introductionNode := .directedShortChannelId .nodeOne 5 }, .through (.repeated 3)] }

/-- LND does not know the channel of the first path: the second is never tried. -/
theorem payInvoice_skips_path :
    ¬ ∀ (trace : List (Event Sig)) (final : Prog Sig (Except OfferError Payment)),
      Reaches (payInvoice (.plain .twoPaths) 1000 channelFirst ⟨1⟩ none) trace final →
      ¬ final.Running →
      TriesEachPath (.plain .twoPaths) 1000 channelFirst ⟨1⟩ none trace final := by
  intro claim
  have tries := claim (refusedRun channelFirst).1 (refusedRun channelFirst).2
    (Prog.play_reaches _ _ _) id
  have refused : LookupRefused (.plain .twoPaths) 1000 channelFirst ⟨1⟩ none
      channelFirst.paymentPaths (refusedRun channelFirst).1 :=
    ⟨[], _, [_], [], 5, _, rfl, nofun, .nil, rfl⟩
  exact refused.not_attemptsEach (tries.tried _ rfl)

end LndkFormal.Offers
