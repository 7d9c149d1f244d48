import LndkFormal.Async.Contract
import LndkFormal.Offers.OfferCreation
import Mathlib.Algebra.Group.Int.Defs

/-!
# The terms of an offer

What `create_offer` puts into an offer where LND's answers are well formed, the
clock shows the time and LDK's builder stores what it is given.  The only reply
that stops it is a sum of time and expiry too large for the clock.
-/

set_option autoImplicit false

namespace LndkFormal.Ldk

structure OfferFields where
  absoluteExpiry : Option Duration
  supportedQuantity : Quantity
  deriving DecidableEq

def Duration.fromSecs (secs : UInt64) : Duration := ⟨secs, 0⟩

structure SystemTime where
  secs : Int
  nanos : Nat
  secsFit : -2 ^ 63 ≤ secs ∧ secs < 2 ^ 63
  nanosFit : nanos < 1000000000

namespace SystemTime

/-- The sum, if its seconds fit a signed 64-bit number. -/
def checkedAdd (time : SystemTime) (duration : Duration) : Option SystemTime :=
  let nanos := time.nanos + duration.nanos.toNat
  let secs := time.secs + duration.secs.toNat + (nanos / 1000000000 : Nat)
  if fits : secs < 2 ^ 63 then
    some
      { secs
        nanos := nanos % 1000000000
        secsFit := ⟨by have least := time.secsFit.1; omega, fits⟩
        nanosFit := Nat.mod_lt nanos (by decide) }
  else none

def sinceEpoch (time : SystemTime) : Option Duration :=
  if 0 ≤ time.secs then some ⟨UInt64.ofNat time.secs.toNat, UInt32.ofNat time.nanos⟩ else none

end SystemTime

end LndkFormal.Ldk

namespace LndkFormal.Offers

open LndkFormal.Async
open LndkFormal.Lnd
open LndkFormal.Ldk

def expiryTime (now : SystemTime) (expiry : Duration) : ExpiryTime :=
  match now.checkedAdd expiry with
  | none => .overflow
  | some time =>
      match time.sinceEpoch with
      | none => .beforeEpoch
      | some sinceEpoch => .reached sinceEpoch

def Reachable (now : SystemTime) (seconds : UInt64) : Prop := now.secs + seconds.toNat < 2 ^ 63

theorem secs_fromSecs (now : SystemTime) (seconds : UInt64) :
    now.secs + (Duration.fromSecs seconds).secs.toNat +
      ((now.nanos + (Duration.fromSecs seconds).nanos.toNat) / 1000000000 : Nat) =
      now.secs + seconds.toNat := by
  have small := now.nanosFit
  have whole : (Duration.fromSecs seconds).nanos.toNat = 0 := rfl
  have carry : (now.nanos + (Duration.fromSecs seconds).nanos.toNat) / 1000000000 = 0 := by omega
  rw [carry]
  exact Int.add_zero _

theorem checkedAdd_fromSecs {now : SystemTime} {seconds : UInt64}
    (fits : Reachable now seconds) :
    ∃ time, now.checkedAdd (.fromSecs seconds) = some time ∧
      time.secs = now.secs + seconds.toNat ∧ time.nanos = now.nanos := by
  have sum := secs_fromSecs now seconds
  refine ⟨_, dif_pos ?_, sum, Nat.mod_eq_of_lt now.nanosFit⟩
  rw [sum]
  exact fits

theorem checkedAdd_fromSecs_eq_none {now : SystemTime} {seconds : UInt64}
    (beyond : ¬ Reachable now seconds) : now.checkedAdd (.fromSecs seconds) = none := by
  apply dif_neg
  rw [secs_fromSecs]
  exact beyond

theorem expiryTime_overflow_iff (now : SystemTime) (seconds : UInt64) :
    expiryTime now (.fromSecs seconds) = .overflow ↔ ¬ Reachable now seconds := by
  constructor
  · intro overflow fits
    obtain ⟨time, added, -, -⟩ := checkedAdd_fromSecs fits
    simp only [expiryTime, added] at overflow
    cases since : time.sinceEpoch with
    | none => simp [since] at overflow
    | some duration => simp [since] at overflow
  · intro beyond
    simp only [expiryTime, checkedAdd_fromSecs_eq_none beyond]

def EndsAfter (now : SystemTime) (seconds : UInt64) (sinceEpoch : Duration) : Prop :=
  sinceEpoch.secs.toNat = now.secs + seconds.toNat ∧ sinceEpoch.nanos.toNat = now.nanos

theorem expiryTime_reached {now : SystemTime} {seconds : UInt64} {sinceEpoch : Duration}
    (reached : expiryTime now (.fromSecs seconds) = .reached sinceEpoch) :
    EndsAfter now seconds sinceEpoch := by
  by_cases fits : Reachable now seconds
  · obtain ⟨time, added, secs, nanos⟩ := checkedAdd_fromSecs fits
    have largest := time.secsFit.2
    have small := time.nanosFit
    by_cases past : 0 ≤ time.secs
    · have since : time.sinceEpoch = some ⟨UInt64.ofNat time.secs.toNat, UInt32.ofNat time.nanos⟩ :=
        if_pos past
      simp only [expiryTime, added, since, ExpiryTime.reached.injEq] at reached
      subst reached
      have wholeSecs : (UInt64.ofNat time.secs.toNat).toNat = time.secs.toNat := by
        apply UInt64.toNat_ofNat_of_lt
        change time.secs.toNat < 2 ^ 64
        omega
      have wholeNanos : (UInt32.ofNat time.nanos).toNat = time.nanos := by
        apply UInt32.toNat_ofNat_of_lt
        change time.nanos < 2 ^ 32
        omega
      constructor
      · rw [wholeSecs]
        omega
      · rw [wholeNanos]
        exact nanos
    · have since : time.sinceEpoch = none := if_neg past
      simp [expiryTime, added, since] at reached
  · simp [expiryTime, checkedAdd_fromSecs_eq_none fits] at reached

def Overflows : (request : CreationCall) → request.Reply → Prop
  | .expiryFromNow _, .overflow => True
  | _, _ => False

section Surroundings

variable (ldk : Library) (fields : Offer → OfferFields) (now : SystemTime)

/-- Assumed of LDK's builder: it stores what it is given and takes the amount 0 as no amount.
It is made for one item. -/
structure Stores (builder : OfferBuilder) (offer : Offer) : Prop where
  amount : offer.amount = (builder.amountMsats.filter (· ≠ 0)).map .bitcoin
  expiry : (fields offer).absoluteExpiry = builder.absoluteExpiry
  quantity : (fields offer).supportedQuantity = builder.supportedQuantity.getD .one

/-- LND lists channels with keys that parse, the clock shows `now`, and the builder stores what
it is given. -/
def WellFormedReply : (request : CreationCall) → request.Reply → Prop
  | .listActivePublicChannels, .ok channels =>
      ∀ channel ∈ channels, (ldk.publicKeyFromStr channel.remotePubkey).isSome = true
  | .expiryFromNow expiry, reply => reply = expiryTime now expiry
  | .buildOffer builder, .ok offer => Stores fields builder offer
  | _, _ => True

def MayAsk (expiry : Option Duration) : CreationCall → Prop
  | .expiryFromNow asked => expiry = some asked
  | _ => True

/-- `create_offer` and its surroundings: only an overflow of the clock stops it. -/
def creationContract (expiry : Option Duration) : Contract CreationSig where
  asks
    | .call request _ => MayAsk expiry request
    | .access op _ => op.elim
  regular
    | .call request reply => WellFormedReply ldk fields now request reply ∧
        ¬ Overflows request reply
    | .access op _ => op.elim
  fatal
    | .call request reply => Overflows request reply
    | .access op _ => op.elim

/-- The offer has the terms that were asked for. -/
structure HasTerms (args : CreateOfferArgs) (offer : Offer) : Prop where
  amount : offer.amount = (args.amountMsats.filter (· ≠ 0)).map .bitcoin
  quantity : (fields offer).supportedQuantity = args.quantity.getD .one
  unlimited : args.expiry = none → (fields offer).absoluteExpiry = none
  expiry : ∀ expiry, args.expiry = some expiry → ∃ sinceEpoch,
    (fields offer).absoluteExpiry = some sinceEpoch ∧ expiryTime now expiry = .reached sinceEpoch

end Surroundings

/-! ## The program -/

section Program

variable {ldk : Library} {fields : Offer → OfferFields} {now : SystemTime}
  {expiry : Option Duration}

theorem findIntroChannels_meets {channels : List Channel}
    (parse : ∀ channel ∈ channels, (ldk.publicKeyFromStr channel.remotePubkey).isSome = true)
    (introChannels : List PublicKey) :
    (findIntroChannels ldk channels introChannels).Meets
      (creationContract ldk fields now expiry) fun _ => True := by
  induction channels generalizing introChannels with
  | nil => trivial
  | cons channel rest ih =>
    obtain ⟨first, others⟩ := List.forall_mem_cons.mp parse
    obtain ⟨pubkey, parsed⟩ := Option.isSome_iff_exists.mp first
    unfold findIntroChannels
    split
    · trivial
    apply Prog.meets_request_bind.mpr
    intro (reply : Except Status NodeInfo)
    refine ⟨trivial, fun _ => ?_, fun bad => bad.elim⟩
    cases reply with
    | error e => exact ih others introChannels
    | ok info =>
      dsimp only
      split
      · exact ih others introChannels
      split
      · exact ih others introChannels
      split
      · -- the source unwraps the parsed key here
        simp only [parsed]
        exact ih others (insertNode introChannels pubkey)
      · exact ih others introChannels

theorem buildPaths_meets (nodeId : PublicKey) (context : OffersContext) (nodes : List PublicKey) :
    (buildPaths nodeId context nodes).Meets (creationContract ldk fields now expiry)
      fun _ => True := by
  induction nodes with
  | nil => trivial
  | cons node rest ih =>
    intro (reply : Option BlindedMessagePath)
    refine ⟨trivial, fun _ => ?_, fun bad => bad.elim⟩
    cases reply with
    | none => trivial
    | some path => exact ih.andThen (fun _ => trivial) fun _ _ => trivial

theorem createReplyPath_meets (nodeId : PublicKey) (context : OffersContext) :
    (createReplyPathForOfferCreation ldk nodeId context).Meets
      (creationContract ldk fields now expiry) fun _ => True := by
  intro (reply : Except Status (List Channel))
  refine ⟨trivial, fun regular => ?_, fun bad => bad.elim⟩
  cases reply with
  | error e => trivial
  | ok channels =>
    refine (findIntroChannels_meets regular.1 []).bind ?_
    intro introChannels _
    split
    · intro (reply : Option BlindedMessagePath)
      refine ⟨trivial, fun _ => ?_, fun bad => bad.elim⟩
      cases reply with
      | none => trivial
      | some path => trivial
    · intro order
      exact ⟨trivial, fun _ => buildPaths_meets nodeId context order.1, fun bad => bad.elim⟩

theorem absoluteExpiry_meets (expiry : Option Duration) :
    (absoluteExpiry expiry).Meets (creationContract ldk fields now expiry) fun result =>
      ∀ absolute, result = .ok absolute → (expiry = none → absolute = none) ∧
        ∀ asked, expiry = some asked → ∃ sinceEpoch, absolute = some sinceEpoch ∧
          expiryTime now asked = .reached sinceEpoch := by
  cases expiry with
  | none =>
    intro absolute returned
    cases returned
    exact ⟨fun _ => rfl, fun asked present => by cases present⟩
  | some expiry =>
    intro (reply : ExpiryTime)
    cases reply with
    | overflow => exact ⟨rfl, fun regular => absurd trivial regular.2, fun _ => ⟨_, rfl⟩⟩
    | beforeEpoch =>
      refine ⟨rfl, fun _ => ?_, fun bad => bad.elim⟩
      intro absolute returned
      cases returned
    | reached sinceEpoch =>
      refine ⟨rfl, fun regular => ?_, fun bad => bad.elim⟩
      intro absolute returned
      cases returned
      constructor
      · intro absent
        cases absent
      intro asked present
      cases present
      exact ⟨sinceEpoch, rfl, regular.1.symm⟩

theorem fillSlot_amountMsats (paths : List BlindedMessagePath) (slot : Nat)
    (builder : OfferBuilder) :
    (fillSlot paths slot builder).amountMsats = builder.amountMsats := by
  unfold fillSlot
  split
  · rfl
  · rfl

theorem fillSlots_amountMsats (paths : List BlindedMessagePath) (builder : OfferBuilder) :
    (fillSlots paths builder).amountMsats = builder.amountMsats := by
  simp only [fillSlots, fillSlot_amountMsats]

theorem hasTerms_of_error (args : CreateOfferArgs) (e : OfferError) :
    ∀ offer, Except.error e = .ok offer → HasTerms fields now args offer := by
  intro offer returned
  cases returned

/-- Where only the clock can stop it, `create_offer` ends with an error or with an offer that
has the terms it was asked for. -/
theorem createOffer_meets (args : CreateOfferArgs) (expandedKey : ExpandedKey) :
    (createOffer ldk args expandedKey).Meets (creationContract ldk fields now args.expiry)
      fun result => ∀ offer, result = .ok offer → HasTerms fields now args offer := by
  apply Prog.meets_request_bind.mpr
  intro (reply : Except Status GetInfoResponse)
  refine ⟨trivial, fun _ => ?_, fun bad => bad.elim⟩
  cases reply with
  | error e => exact hasTerms_of_error args _
  | ok info =>
    dsimp only
    split
    · exact hasTerms_of_error args _
    apply Prog.meets_request_bind.mpr
    intro nonce
    refine ⟨trivial, fun _ => ?_, fun bad => bad.elim⟩
    refine (createReplyPath_meets _ _).andThen (hasTerms_of_error args) ?_
    intro paths _
    refine (absoluteExpiry_meets args.expiry).andThen (hasTerms_of_error args) ?_
    intro absolute timed
    obtain ⟨unlimited, limited⟩ := timed absolute rfl
    apply Prog.meets_request_bind.mpr
    intro (reply : Except Bolt12SemanticError Offer)
    refine ⟨trivial, fun regular => ?_, fun bad => bad.elim⟩
    cases reply with
    | error e => exact hasTerms_of_error args _
    | ok built =>
      intro offer returned
      cases returned
      have stored : Stores fields _ built := regular.1
      have amount := stored.amount
      rw [fillSlots_amountMsats] at amount
      refine ⟨amount, stored.quantity, fun absent => stored.expiry.trans (unlimited absent), ?_⟩
      intro asked present
      obtain ⟨sinceEpoch, same, reached⟩ := limited asked present
      exact ⟨sinceEpoch, stored.expiry.trans same, reached⟩

end Program

end LndkFormal.Offers
