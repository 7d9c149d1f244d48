import LndkFormal.Offers.OfferTerms
import LndkFormal.Offers.ReplyPaths
import LndkFormal.Server.Rpc

/-!
# CreateOffer

The server's CreateOffer reads the request, connects to LND and hands over to
`create_offer`.  Where the surroundings are well formed it ends with an error or
with an offer that has the terms of the request, unless the expiry lies beyond
the last time of the system clock.
-/

set_option autoImplicit false

namespace LndkFormal.Server

open LndkFormal.Async
open LndkFormal.Lnd
open LndkFormal.Ldk
open LndkFormal.Offers

structure CreateOfferRequest where
  metadata : Metadata
  amount : Option UInt64
  description : Option String
  issuer : Option String
  quantity : Option UInt64
  expiry : Option UInt64

structure CreateOfferResponse where
  offer : String
  deriving DecidableEq

structure ConnectLnd where
  macaroon : String

abbrev CreateOfferSig : Signature := CreationSig.extend ConnectLnd fun _ => Except String Unit

def parseQuantity : Option UInt64 → Option Quantity
  | none => none
  | some n =>
      if zero : n = 0 then some .unbounded
      else if n = 1 then some .one
      else some (.bounded n zero)

def CreateOfferRequest.args (request : CreateOfferRequest) (network : Network) :
    CreateOfferArgs where
  amountMsats := request.amount
  chain := network
  description := request.description
  issuer := request.issuer
  quantity := parseQuantity request.quantity
  expiry := request.expiry.map .fromSecs

section Program

variable (ldk : Library) (offerToString : Offer → String) (handler : OfferHandler)

def createOfferRpc (request : CreateOfferRequest) :
    Prog CreateOfferSig (Except Status CreateOfferResponse) :=
  (Prog.ret (checkAuthMetadata request.metadata)).andThen fun macaroon => do
    match ← @Prog.request CreateOfferSig (.inr ⟨macaroon⟩) with
    | .error e => return .error (LndError.connectError e).toStatus
    | .ok () =>
        match ← @Prog.request CreateOfferSig (.inl .getInfo) with
        | .error e => return .error (LndError.serviceUnavailable e.message).toStatus
        | .ok info =>
            match getNetwork info with
            | .error e => return .error e.toStatus
            | .ok network =>
                ((createOffer ldk (request.args network) handler.expandedKey).lift.mapError
                  OfferError.toStatus).andThen fun offer => .ret (.ok ⟨offerToString offer⟩)

end Program

section Requirements

variable (ldk : Library) (fields : Offer → OfferFields) (now : SystemTime)

/-- The offer has the terms of the request. -/
structure Faithful (request : CreateOfferRequest) (offer : Offer) : Prop where
  unlimited : request.expiry = none → (fields offer).absoluteExpiry = none
  expiry : ∀ seconds, request.expiry = some seconds → ∃ sinceEpoch,
    (fields offer).absoluteExpiry = some sinceEpoch ∧ EndsAfter now seconds sinceEpoch
  unbounded : request.quantity = some 0 → (fields offer).supportedQuantity = .unbounded
  one : request.quantity = none ∨ request.quantity = some 1 →
    (fields offer).supportedQuantity = .one
  bounded : ∀ n positive, request.quantity = some n → n ≠ 1 →
    (fields offer).supportedQuantity = .bounded n positive
  free : request.amount = none ∨ request.amount = some 0 → offer.amount = none
  amount : ∀ msats, request.amount = some msats → msats ≠ 0 → offer.amount = some (.bitcoin msats)

/-- CreateOffer has not aborted, and if it has returned an offer, it is the one that LDK has
built, and has the terms of the request. -/
def Sound (offerToString : Offer → String) (request : CreateOfferRequest)
    (trace : List (Event CreateOfferSig)) :
    Prog CreateOfferSig (Except Status CreateOfferResponse) → Prop
  | .panic _ => False
  | .ret (.ok response) =>
      ∃ builder offer, .call (.inl (.buildOffer builder)) (.ok offer) ∈ trace ∧
        response.offer = offerToString offer ∧ Faithful fields now request offer
  | _ => True

/-- The reply is well formed; whether LND can be connected to is open. -/
def WellFormedEvent : Event CreateOfferSig → Prop
  | .call (.inl request) reply => WellFormedReply ldk fields now request reply
  | _ => True

def AsksClock (trace : List (Event CreateOfferSig)) : Prop :=
  ∃ expiry reply, .call (.inl (.expiryFromNow expiry)) reply ∈ trace

def serverContract (expiry : Option Duration) : Contract CreateOfferSig where
  asks
    | .call (.inl request) _ => MayAsk expiry request
    | _ => True
  regular
    | .call (.inl request) reply => WellFormedReply ldk fields now request reply ∧
        ¬ Overflows request reply
    | _ => True
  fatal
    | .call (.inl request) reply => Overflows request reply
    | _ => False

theorem creationContract_extends (expiry : Option Duration) :
    (creationContract ldk fields now expiry).Extends (serverContract ldk fields now expiry) where
  asks
    | .call _ _ => id
    | .access op _ => op.elim
  regular
    | .call _ _ => id
    | .access op _ => op.elim
  fatal
    | .call _ _ => id
    | .access op _ => op.elim

end Requirements

/-! ## The program -/

section Correctness

variable {ldk : Library} {fields : Offer → OfferFields} {now : SystemTime}
  {offerToString : Offer → String} {handler : OfferHandler} {request : CreateOfferRequest}

theorem parseQuantity_bounded {n : UInt64} (positive : n ≠ 0) (several : n ≠ 1) :
    parseQuantity (some n) = some (.bounded n positive) := by
  simp only [parseQuantity, dif_neg positive, if_neg several]

theorem faithful_of_hasTerms {network : Network} {offer : Offer}
    (terms : HasTerms fields now (request.args network) offer) :
    Faithful fields now request offer where
  unlimited := by
    intro absent
    apply terms.unlimited
    simp [CreateOfferRequest.args, absent]
  expiry := by
    intro seconds given
    have asked : (request.args network).expiry = some (.fromSecs seconds) := by
      simp [CreateOfferRequest.args, given]
    obtain ⟨sinceEpoch, stored, reached⟩ := terms.expiry _ asked
    exact ⟨sinceEpoch, stored, expiryTime_reached reached⟩
  unbounded := by
    intro zero
    rw [terms.quantity]
    simp [CreateOfferRequest.args, zero, parseQuantity]
  one := by
    intro single
    rw [terms.quantity]
    rcases single with absent | one
    · simp [CreateOfferRequest.args, absent, parseQuantity]
    · simp [CreateOfferRequest.args, one, parseQuantity]
  bounded := by
    intro n positive given several
    rw [terms.quantity]
    simp [CreateOfferRequest.args, given, parseQuantity_bounded positive several]
  free := by
    intro free
    rw [terms.amount]
    rcases free with absent | zero
    · simp [CreateOfferRequest.args, absent]
    · simp [CreateOfferRequest.args, zero]
  amount := by
    intro msats given positive
    rw [terms.amount]
    simp [CreateOfferRequest.args, given, positive]

theorem createOfferRpc_returned {trace : List (Event CreateOfferSig)}
    {response : CreateOfferResponse}
    (run : Reaches (createOfferRpc ldk offerToString handler request) trace
      (.ret (.ok response))) :
    ∃ network own offer, response.offer = offerToString offer ∧
      Reaches (createOffer ldk (request.args network) handler.expandedKey) own
        (.ret (.ok offer)) ∧
      ∀ event ∈ own, event.lift ∈ trace := by
  unfold createOfferRpc at run
  obtain ⟨first, second, macaroon, _, connecting, rfl⟩ := reaches_andThen_ok run
  obtain ⟨(connected : Except String Unit), later, rfl, informing⟩ :=
    reaches_request_bind connecting
  cases connected with
  | error e => cases informing
  | ok _ =>
    obtain ⟨(informed : Except Status GetInfoResponse), later, rfl, going⟩ :=
      reaches_request_bind informing
    cases informed with
    | error e => cases going
    | ok info =>
      dsimp only at going
      split at going
      next => cases going
      next network known =>
        obtain ⟨made, last, offer, created, ended, rfl⟩ := reaches_andThen_ok going
        cases ended
        rcases reaches_lift_bind created with ⟨own, left, _, _, unfinished, stopped⟩ |
          ⟨own, result, rest, rfl, went, mapped⟩
        · cases left with
          | ret value => cases unfinished
          | _ => cases stopped
        · cases result with
          | error e => cases mapped
          | ok built =>
            cases mapped
            refine ⟨network, own, offer, rfl, went, fun event here => ?_⟩
            exact List.mem_append_right _ (.tail _ (.tail _ (List.mem_append_left _
              (List.mem_append_left _ (List.mem_map_of_mem here)))))

theorem createOfferRpc_meets :
    (createOfferRpc ldk offerToString handler request).Meets
      (serverContract ldk fields now (request.expiry.map .fromSecs)) fun _ => True := by
  unfold createOfferRpc
  cases checkAuthMetadata request.metadata with
  | error status => trivial
  | ok macaroon =>
    apply Prog.meets_request_bind.mpr
    intro (connected : Except String Unit)
    refine ⟨trivial, fun _ => ?_, fun bad => bad.elim⟩
    cases connected with
    | error e => trivial
    | ok _ =>
      apply Prog.meets_request_bind.mpr
      intro (informed : Except Status GetInfoResponse)
      refine ⟨trivial, fun _ => ?_, fun bad => bad.elim⟩
      cases informed with
      | error e => trivial
      | ok info =>
        dsimp only
        cases getNetwork info with
        | error e => trivial
        | ok network =>
          have created : (createOffer ldk (request.args network) handler.expandedKey).Meets
              (creationContract ldk fields now (request.args network).expiry) _ :=
            createOffer_meets (request.args network) handler.expandedKey
          exact (created.lift (creationContract_extends ldk fields now _)).mapErrorThen
            (fun _ => trivial) fun _ _ => trivial

theorem not_sound_of_panicked {trace : List (Event CreateOfferSig)}
    {rest : Prog CreateOfferSig (Except Status CreateOfferResponse)} (panicked : rest.Panicked) :
    ¬ Sound fields now offerToString request trace rest := by
  obtain ⟨message, rfl⟩ := panicked
  exact id

theorem WellFormedEvent.regular_or_fatal {event : Event CreateOfferSig}
    (wellFormed : WellFormedEvent ldk fields now event) (expiry : Option Duration) :
    (serverContract ldk fields now expiry).regular event ∨
      (serverContract ldk fields now expiry).fatal event := by
  cases event with
  | access op reply => exact .inl trivial
  | call req reply =>
    cases req with
    | inr connection => exact .inl trivial
    | inl asked =>
      by_cases overflow : Overflows asked reply
      · exact .inr overflow
      · exact .inl ⟨wellFormed, overflow⟩

theorem createOfferRpc_built {trace : List (Event CreateOfferSig)}
    {response : CreateOfferResponse}
    (run : Reaches (createOfferRpc ldk offerToString handler request) trace (.ret (.ok response)))
    (replies : ∀ event ∈ trace, WellFormedEvent ldk fields now event) :
    Sound fields now offerToString request trace (.ret (.ok response)) := by
  obtain ⟨network, own, offer, shown, went, lifted⟩ := createOfferRpc_returned run
  obtain ⟨_, _, before, made, after, _, builder, rfl, _, built, _⟩ := createOffer_paths went
  have here := List.mem_append_right before (List.mem_append_right made built)
  refine ⟨builder, offer, lifted _ here, shown, ?_⟩
  have created : (createOffer ldk (request.args network) handler.expandedKey).Meets
      (creationContract ldk fields now (request.args network).expiry) _ :=
    createOffer_meets (request.args network) handler.expandedKey
  have outcome := meets_reaches created went fun event listed => by
    have answered := (replies _ (lifted event listed)).regular_or_fatal
      (request.args network).expiry
    cases event with
    | access op reply => exact op.elim
    | call asked reply => exact answered
  rcases outcome.ended with ⟨_, terms⟩ | ⟨_, message, impossible⟩
  · exact faithful_of_hasTerms (terms offer rfl)
  · cases impossible

theorem sound_of_meets {trace : List (Event CreateOfferSig)}
    {rest : Prog CreateOfferSig (Except Status CreateOfferResponse)}
    (run : Reaches (createOfferRpc ldk offerToString handler request) trace rest)
    (replies : ∀ event ∈ trace, WellFormedEvent ldk fields now event)
    (meets : rest.Meets (serverContract ldk fields now (request.expiry.map .fromSecs))
      fun _ => True) :
    Sound fields now offerToString request trace rest := by
  cases rest with
  | ret reply =>
    cases reply with
    | error status => trivial
    | ok response => exact createOfferRpc_built run replies
  | panic message => exact meets
  | access op next => trivial
  | call req next => trivial

theorem fatal_asksClock {expiry : Option Duration} {event : Event CreateOfferSig}
    (fatal : (serverContract ldk fields now expiry).fatal event) :
    ∃ asked reply, event = .call (.inl (.expiryFromNow asked)) reply ∧
      Overflows (.expiryFromNow asked) reply := by
  cases event with
  | access op reply => exact fatal.elim
  | call req reply =>
    cases req with
    | inr connection => exact fatal.elim
    | inl request =>
      cases request with
      | expiryFromNow asked => exact ⟨asked, reply, rfl, fatal⟩
      | _ => exact fatal.elim

/-- Where the clock is asked, it overflows exactly if it cannot show the requested time. -/
theorem overflows_iff {expiry : Duration} {reply : CreationCall.Reply (.expiryFromNow expiry)}
    (asked : MayAsk (request.expiry.map .fromSecs) (.expiryFromNow expiry))
    (wellFormed : WellFormedReply ldk fields now (.expiryFromNow expiry) reply) :
    Overflows (.expiryFromNow expiry) reply ↔
      ¬ ∀ seconds, request.expiry = some seconds → Reachable now seconds := by
  obtain ⟨seconds, given, rfl⟩ := Option.map_eq_some_iff.mp asked
  have answered : Overflows (.expiryFromNow (.fromSecs seconds)) reply ↔
      expiryTime now (.fromSecs seconds) = .overflow := by
    rw [← (wellFormed : reply = expiryTime now (.fromSecs seconds))]
    cases (reply : ExpiryTime) with
    | overflow => exact iff_of_true trivial rfl
    | beforeEpoch => exact iff_of_false id (by simp)
    | reached sinceEpoch => exact iff_of_false id (by simp)
  rw [answered, expiryTime_overflow_iff, not_iff_not]
  constructor
  · intro fits other same
    rw [given] at same
    cases same
    exact fits
  · intro each
    exact each seconds given

/-- CreateOffer does not abort, and returns an error or an offer with the terms of the request,
exactly if the clock, where it is asked, can show the time the offer expires at. -/
theorem createOfferRpc_sound_iff (ldk : Library) (offerToString : Offer → String)
    (fields : Offer → OfferFields) (handler : OfferHandler) (request : CreateOfferRequest)
    (now : SystemTime) (trace : List (Event CreateOfferSig))
    (rest : Prog CreateOfferSig (Except Status CreateOfferResponse))
    (run : Reaches (createOfferRpc ldk offerToString handler request) trace rest)
    (replies : ∀ event ∈ trace, WellFormedEvent ldk fields now event) :
    Sound fields now offerToString request trace rest ↔
      (AsksClock trace → ∀ seconds, request.expiry = some seconds → Reachable now seconds) := by
  have outcome := meets_reaches createOfferRpc_meets run fun event listed =>
    (replies event listed).regular_or_fatal (request.expiry.map .fromSecs)
  -- a well-formed reply is regular, or it is the clock's overflow, on which the sum panics
  rcases outcome.ended with ⟨regular, meets⟩ | ⟨⟨event, listed, fatal⟩, panicked⟩
  · refine iff_of_true (sound_of_meets run replies meets) ?_
    rintro ⟨expiry, reply, listed⟩
    have clear : ¬ Overflows (.expiryFromNow expiry) reply := (regular _ listed).2
    have answered : WellFormedReply ldk fields now (.expiryFromNow expiry) reply :=
      replies _ listed
    rw [overflows_iff (outcome.asks _ listed) answered] at clear
    exact not_not.mp clear
  · refine iff_of_false (not_sound_of_panicked panicked) ?_
    obtain ⟨expiry, reply, rfl, overflow⟩ := fatal_asksClock fatal
    have answered : WellFormedReply ldk fields now (.expiryFromNow expiry) reply :=
      replies _ listed
    intro reachable
    exact (overflows_iff (outcome.asks _ listed) answered).mp overflow
      (reachable ⟨expiry, reply, listed⟩)

end Correctness

def sampleRequest (expiry : UInt64) : CreateOfferRequest :=
  ⟨.macaroon "", some 1000, none, none, some 5, some expiry⟩

def sampleTime : SystemTime := ⟨1700000000, 5, by decide, by decide⟩

def sampleTerms : OfferFields := ⟨some ⟨1700003600, 5⟩, .bounded 5 (by decide)⟩

def sampleReplies : (request : CreateOfferSig.Call) → CreateOfferSig.CallReply request
  | .inr _ => .ok ()
  | .inl .getInfo => .ok ⟨"", [⟨"bitcoin", "regtest"⟩]⟩
  | .inl .randomNonce => ⟨0⟩
  | .inl .listActivePublicChannels => .ok []
  | .inl (.getNodeInfo _ _) => .error (.unknown "")
  | .inl (.iterate nodes) => ⟨nodes, .refl nodes⟩
  | .inl (.oneHopPath recipient _) => some (.through recipient)
  | .inl (.messagePath nodes recipient _) => some (.through (nodes.headD recipient))
  | .inl (.expiryFromNow expiry) => expiryTime sampleTime expiry
  | .inl (.buildOffer builder) =>
      if builder.amountMsats = some 1000 ∧
          builder.absoluteExpiry = sampleTerms.absoluteExpiry ∧
          builder.supportedQuantity = some sampleTerms.supportedQuantity then
        .ok { Offer.atIssuer with amount := some (.bitcoin 1000) }
      else .error ⟨"unexpected"⟩

def sampleRun (expiry : UInt64) :
    List (Event CreateOfferSig) × Prog CreateOfferSig (Except Status CreateOfferResponse) :=
  (createOfferRpc (.plain .twoPaths) (fun _ => "lno1") ⟨⟨0⟩, 15, true⟩
    (sampleRequest expiry)).play (fun op => op.elim) (List.replicate 8 sampleReplies)

theorem sampleReplies_wellFormed (request : CreateOfferSig.Call) :
    WellFormedEvent (.plain .twoPaths) (fun _ => sampleTerms) sampleTime
      (.call request (sampleReplies request)) := by
  cases request with
  | inr connection => trivial
  | inl request =>
    cases request with
    | listActivePublicChannels =>
      intro channel listed
      exact absurd listed List.not_mem_nil
    | expiryFromNow expiry => exact rfl
    | buildOffer builder =>
      by_cases stored : builder.amountMsats = some 1000 ∧
          builder.absoluteExpiry = sampleTerms.absoluteExpiry ∧
          builder.supportedQuantity = some sampleTerms.supportedQuantity
      · have reply : sampleReplies (.inl (.buildOffer builder)) =
            .ok { Offer.atIssuer with amount := some (.bitcoin 1000) } := if_pos stored
        obtain ⟨amount, expiry, quantity⟩ := stored
        rw [reply]
        refine Stores.mk ?_ expiry.symm ?_
        · rw [amount]
          rfl
        · rw [quantity]
          rfl
      · have reply : sampleReplies (.inl (.buildOffer builder)) = .error ⟨"unexpected"⟩ :=
          if_neg stored
        rw [reply]
        trivial
    | _ => trivial

theorem sampleRun_wellFormed (expiry : UInt64) :
    ∀ event ∈ (sampleRun expiry).1,
      WellFormedEvent (.plain .twoPaths) (fun _ => sampleTerms) sampleTime event :=
  Prog.play_forall (fun op : Empty => op.elim) sampleReplies_wellFormed 8 _

theorem sampleRun_reaches (expiry : UInt64) :
    Reaches (createOfferRpc (.plain .twoPaths) (fun _ => "lno1") ⟨⟨0⟩, 15, true⟩
      (sampleRequest expiry)) (sampleRun expiry).1 (sampleRun expiry).2 :=
  Prog.play_reaches _ _ _

theorem createOfferRpc_sound_hour :
    (sampleRun 3600).2 = .ret (.ok ⟨"lno1"⟩) ∧
      Sound (fun _ => sampleTerms) sampleTime (fun _ => "lno1") (sampleRequest 3600)
        (sampleRun 3600).1 (sampleRun 3600).2 := by
  refine ⟨by with_unfolding_all rfl, ?_⟩
  refine (createOfferRpc_sound_iff _ _ _ _ _ _ _ _ (sampleRun_reaches 3600)
    (sampleRun_wellFormed 3600)).mpr ?_
  intro _ seconds given
  cases given
  unfold Reachable
  decide

/-- An expiry of `2 ^ 64 - 1` seconds aborts the request. -/
theorem createOfferRpc_aborts :
    ∃ trace message,
      Reaches (createOfferRpc (.plain .twoPaths) (fun _ => "lno1") ⟨⟨0⟩, 15, true⟩
        (sampleRequest 18446744073709551615)) trace (.panic message) ∧
      ∀ event ∈ trace,
        WellFormedEvent (.plain .twoPaths) (fun _ => sampleTerms) sampleTime event := by
  have run := sampleRun_reaches 18446744073709551615
  have ended : (sampleRun 18446744073709551615).2 =
      .panic "overflow when adding duration to instant" := by
    with_unfolding_all rfl
  rw [ended] at run
  exact ⟨_, _, run, sampleRun_wellFormed 18446744073709551615⟩

end LndkFormal.Server
