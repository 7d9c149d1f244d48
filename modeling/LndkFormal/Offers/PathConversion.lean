import LndkFormal.Offers.LndRequests
import Mathlib.Data.List.Forall2

/-!
# Payment paths from LND

`parse_blinded_paths` turns the payment paths of an LND invoice into LDK's.
Two fields are narrower on LDK's side, the base fee and the CLTV delta, and are
cut to fit; everything else is carried over.
-/

set_option autoImplicit false

namespace LndkFormal.Offers

open LndkFormal.Ldk

/-- A traversal yields related results exactly if each element does. -/
theorem mapM_related_iff {ε α β : Type} (f : α → Except ε β) (R : α → β → Prop) (xs : List α) :
    (∃ ys, xs.mapM f = .ok ys ∧ List.Forall₂ R xs ys) ↔ ∀ x ∈ xs, ∃ y, f x = .ok y ∧ R x y := by
  induction xs with
  | nil => simp [pure, Except.pure]
  | cons x xs ih =>
    rw [List.forall_mem_cons, ← ih, List.mapM_cons]
    cases f x with
    | error e => simp [bind, Except.bind]
    | ok y =>
      cases xs.mapM f with
      | error e => simp [bind, Except.bind]
      | ok ys => simp [bind, Except.bind, pure, Except.pure]

section Conversion

variable (ldk : Library)

def HopParses (hop : Lnd.BlindedHop) : Prop :=
  (ldk.publicKeyFromSlice hop.blindedNode).isSome = true

/-- A payment path that names a blinded path, all of whose keys parse. -/
def PathParses (path : Lnd.BlindedPaymentPath) : Prop :=
  ∃ lndPath, path.blindedPath = some lndPath ∧
    (ldk.publicKeyFromSlice lndPath.introductionNode).isSome = true ∧
    (ldk.publicKeyFromSlice lndPath.blindingPoint).isSome = true ∧
    ∀ hop ∈ lndPath.blindedHops, HopParses ldk hop

def SameHop (hop : Lnd.BlindedHop) (parsed : Ldk.BlindedHop) : Prop :=
  ldk.publicKeyFromSlice hop.blindedNode = some parsed.blindedNodeId ∧
    parsed.encryptedPayload = hop.encryptedData

def SameRoute (path : Lnd.BlindedPaymentPath) (parsed : Ldk.BlindedPaymentPath) : Prop :=
  ∃ lndPath node, path.blindedPath = some lndPath ∧
    ldk.publicKeyFromSlice lndPath.introductionNode = some node ∧
    parsed.introductionNode = .nodeId node ∧
    ldk.publicKeyFromSlice lndPath.blindingPoint = some parsed.blindingPoint ∧
    List.Forall₂ (SameHop ldk) lndPath.blindedHops parsed.blindedHops

structure SameTerms (path : Lnd.BlindedPaymentPath) (payinfo : BlindedPayInfo) : Prop where
  baseFee : payinfo.feeBaseMsat.toNat = path.baseFeeMsat.toNat
  feeRate : payinfo.feeProportionalMillionths.toNat = path.proportionalFeeRate.toNat
  cltvDelta : payinfo.cltvExpiryDelta.toNat = path.totalCltvDelta.toNat
  htlcMinimum : payinfo.htlcMinimumMsat.toNat = path.htlcMinMsat.toNat
  htlcMaximum : payinfo.htlcMaximumMsat.toNat = path.htlcMaxMsat.toNat

def Survives (path : Lnd.BlindedPaymentPath) (parsed : Ldk.BlindedPaymentPath) : Prop :=
  SameRoute ldk path parsed ∧ SameTerms path parsed.payinfo

/-- The fields that are narrowed fit their types at LDK. -/
def Fits (path : Lnd.BlindedPaymentPath) : Prop :=
  path.baseFeeMsat.toNat < UInt32.size ∧ path.totalCltvDelta.toNat < UInt16.size

instance (path : Lnd.BlindedPaymentPath) : Decidable (Fits path) :=
  inferInstanceAs (Decidable (_ ∧ _))

/-- What the casts `as u32` and `as u16` and the three plain copies make of
LND's terms. -/
structure Narrowed (path : Lnd.BlindedPaymentPath) (payinfo : BlindedPayInfo) : Prop where
  baseFee : payinfo.feeBaseMsat.toNat = path.baseFeeMsat.toNat % UInt32.size
  feeRate : payinfo.feeProportionalMillionths = path.proportionalFeeRate
  cltvDelta : payinfo.cltvExpiryDelta.toNat = path.totalCltvDelta.toNat % UInt16.size
  htlcMinimum : payinfo.htlcMinimumMsat = path.htlcMinMsat
  htlcMaximum : payinfo.htlcMaximumMsat = path.htlcMaxMsat

theorem Narrowed.sameTerms_iff {path : Lnd.BlindedPaymentPath} {payinfo : BlindedPayInfo}
    (narrowed : Narrowed path payinfo) : SameTerms path payinfo ↔ Fits path := by
  have feePositive : 0 < UInt32.size := by decide
  have deltaPositive : 0 < UInt16.size := by decide
  constructor
  · intro same
    have fee := narrowed.baseFee.symm.trans same.baseFee
    have delta := narrowed.cltvDelta.symm.trans same.cltvDelta
    constructor
    · rw [← fee]
      exact Nat.mod_lt _ feePositive
    · rw [← delta]
      exact Nat.mod_lt _ deltaPositive
  · intro ⟨fee, delta⟩
    exact
      { baseFee := narrowed.baseFee.trans (Nat.mod_eq_of_lt fee)
        feeRate := congrArg UInt32.toNat narrowed.feeRate
        cltvDelta := narrowed.cltvDelta.trans (Nat.mod_eq_of_lt delta)
        htlcMinimum := congrArg UInt64.toNat narrowed.htlcMinimum
        htlcMaximum := congrArg UInt64.toNat narrowed.htlcMaximum }

variable {ldk}

theorem parseBlindedHops_same {hops : List Lnd.BlindedHop}
    (parse : ∀ hop ∈ hops, HopParses ldk hop) :
    ∃ parsed, parseBlindedHops ldk hops = .ok parsed ∧
      List.Forall₂ (SameHop ldk) hops parsed := by
  apply (mapM_related_iff _ _ hops).mpr
  intro hop listed
  obtain ⟨key, spelled⟩ := Option.isSome_iff_exists.mp (parse hop listed)
  refine ⟨⟨key, hop.encryptedData⟩, ?_, spelled, rfl⟩
  simp only [spelled]

theorem parseBlindedPath_narrowed {path : Lnd.BlindedPaymentPath} (parse : PathParses ldk path) :
    ∃ parsed, parseBlindedPath ldk path = .ok parsed ∧ SameRoute ldk path parsed ∧
      Narrowed path parsed.payinfo := by
  obtain ⟨lndPath, present, introduced, blinded, hopsParse⟩ := parse
  obtain ⟨node, nodeRead⟩ := Option.isSome_iff_exists.mp introduced
  obtain ⟨point, pointRead⟩ := Option.isSome_iff_exists.mp blinded
  obtain ⟨hops, hopsRead, sameHops⟩ := parseBlindedHops_same hopsParse
  have read : ∃ payinfo, parseBlindedPath ldk path =
      .ok ⟨.nodeId node, point, hops, payinfo⟩ ∧ Narrowed path payinfo := by
    simp only [parseBlindedPath, present, nodeRead, pointRead, hopsRead]
    refine ⟨_, rfl, ?_⟩
    exact
      { baseFee := UInt64.toNat_toUInt32 _
        feeRate := rfl
        cltvDelta := UInt32.toNat_toUInt16 _
        htlcMinimum := rfl
        htlcMaximum := rfl }
  obtain ⟨payinfo, read, narrowed⟩ := read
  have route : SameRoute ldk path ⟨.nodeId node, point, hops, payinfo⟩ :=
    ⟨lndPath, node, present, nodeRead, rfl, pointRead, sameHops⟩
  exact ⟨_, read, route, narrowed⟩

theorem parseBlindedPath_survives_iff {path : Lnd.BlindedPaymentPath}
    (parse : PathParses ldk path) :
    (∃ parsed, parseBlindedPath ldk path = .ok parsed ∧ Survives ldk path parsed) ↔ Fits path := by
  obtain ⟨parsed, read, route, narrowed⟩ := parseBlindedPath_narrowed parse
  constructor
  · intro ⟨other, again, _, terms⟩
    cases read.symm.trans again
    exact narrowed.sameTerms_iff.mp terms
  · intro fits
    exact ⟨parsed, read, route, narrowed.sameTerms_iff.mpr fits⟩

/-- LND's paths survive the conversion exactly if the base fee and the CLTV
delta of each fit LDK's narrower fields. -/
theorem parseBlindedPaths_survive_iff (ldk : Library) (paths : List Lnd.BlindedPaymentPath)
    (parse : ∀ path ∈ paths, PathParses ldk path) :
    (∃ parsed, parseBlindedPaths ldk paths = .ok parsed ∧
      List.Forall₂ (Survives ldk) paths parsed) ↔ ∀ path ∈ paths, Fits path := by
  unfold parseBlindedPaths
  rw [mapM_related_iff]
  exact forall₂_congr fun path listed => parseBlindedPath_survives_iff (parse path listed)

def hopPath (baseFeeMsat : UInt64) (totalCltvDelta : UInt32) : Lnd.BlindedPaymentPath where
  blindedPath := some
    { introductionNode := (PublicKey.repeated 2).bytes
      blindingPoint := (PublicKey.repeated 3).bytes
      blindedHops := [⟨(PublicKey.repeated 2).bytes, [1, 2]⟩] }
  baseFeeMsat
  proportionalFeeRate := 100
  totalCltvDelta
  htlcMaxMsat := 1000000

theorem hopPath_parses (baseFeeMsat : UInt64) (totalCltvDelta : UInt32) :
    PathParses (.plain .twoPaths) (hopPath baseFeeMsat totalCltvDelta) := by
  refine ⟨_, rfl, rfl, rfl, ?_⟩
  intro hop listed
  rw [List.mem_singleton.mp listed]
  rfl

theorem parseBlindedPaths_survive_small :
    ∃ parsed, parseBlindedPaths (.plain .twoPaths) [hopPath 1000 40] = .ok parsed ∧
      List.Forall₂ (Survives (.plain .twoPaths)) [hopPath 1000 40] parsed := by
  refine (parseBlindedPaths_survive_iff _ _ ?_).mpr ?_
  · exact List.forall_mem_singleton.mpr (hopPath_parses 1000 40)
  · exact List.forall_mem_singleton.mpr (by decide)

/-- A base fee of `2 ^ 32` msat becomes a fee of nothing. -/
theorem parseBlindedPaths_truncated :
    ¬ ∀ paths : List Lnd.BlindedPaymentPath, (∀ path ∈ paths, PathParses (.plain .twoPaths) path) →
      ∃ parsed, parseBlindedPaths (.plain .twoPaths) paths = .ok parsed ∧
        List.Forall₂ (Survives (.plain .twoPaths)) paths parsed := by
  intro claim
  have parses := hopPath_parses 4294967296 40
  have survived := claim [hopPath 4294967296 40] (List.forall_mem_singleton.mpr parses)
  have each := (mapM_related_iff _ _ _).mp survived
  have fits := (parseBlindedPath_survives_iff parses).mp (each _ List.mem_cons_self)
  exact absurd fits (by decide)

end Conversion

end LndkFormal.Offers
