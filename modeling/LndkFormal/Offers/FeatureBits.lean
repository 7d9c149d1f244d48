import LndkFormal.Bits.LittleEndian
import LndkFormal.Offers.PathConversion

/-!
# Feature bits from LND

LND names the feature bits of a payment path by number.
`feature_bits_to_le_bytes` collects them in a word of 128 bits and splits it into
bytes.  `EncodesBits` says which bytes stand for a list of numbers; they are
unique, so the order of the list and its repetitions leave no trace.
-/

set_option autoImplicit false

namespace LndkFormal.Offers

open LndkFormal.Ldk
open LndkFormal.Bits

def setFeatureBit (bits : BitVec 128) (bit : Int32) : BitVec 128 :=
  if 0 ≤ bit ∧ bit ≤ 127 then bits ||| (1#128 <<< bit.toNatClampNeg) else bits

theorem featureBitsToLeBytes_eq (featureBits : List Int32) :
    featureBitsToLeBytes featureBits = leBytes 16 (featureBits.foldl setFeatureBit 0) := rfl

theorem toNatClampNeg_eq_iff {bit : Int32} (positive : 0 ≤ bit) (k : Nat) :
    bit.toNatClampNeg = k ↔ bit.toInt = k := by
  have sign : (0 : Int) ≤ bit.toInt := Int32.le_iff_toInt_le.mp positive
  rw [← Int32.toNat_toInt]
  omega

theorem inRange_of_toInt_eq {bit : Int32} {k : Nat} (named : bit.toInt = k) (inside : k ≤ 127) :
    0 ≤ bit ∧ bit ≤ 127 := by
  have low : (0 : Int) ≤ bit.toInt := by omega
  have high : bit.toInt ≤ 127 := by omega
  exact ⟨Int32.le_iff_toInt_le.mpr low, Int32.le_iff_toInt_le.mpr high⟩

theorem getLsbD_setFeatureBit (bits : BitVec 128) (bit : Int32) {k : Nat} (inside : k < 128) :
    (setFeatureBit bits bit).getLsbD k = true ↔ bits.getLsbD k = true ∨ bit.toInt = k := by
  unfold setFeatureBit
  by_cases range : 0 ≤ bit ∧ bit ≤ 127
  · have shifted : (1#128 <<< bit.toNatClampNeg).getLsbD k = true ↔ bit.toNatClampNeg = k := by
      simp only [BitVec.getLsbD_shiftLeft, BitVec.getLsbD_one, inside, decide_true,
        Bool.true_and, Bool.and_eq_true, Bool.not_eq_true', decide_eq_false_iff_not,
        decide_eq_true_eq, Nat.zero_lt_succ]
      omega
    rw [if_pos range, BitVec.getLsbD_or, Bool.or_eq_true, shifted,
      toNatClampNeg_eq_iff range.1]
  · have foreign : ¬ bit.toInt = k := by
      intro named
      apply range
      exact inRange_of_toInt_eq named (by omega)
    rw [if_neg range]
    simp only [foreign, or_false]

theorem getLsbD_setFeatureBits (featureBits : List Int32) (bits : BitVec 128) {k : Nat}
    (inside : k < 128) :
    (featureBits.foldl setFeatureBit bits).getLsbD k = true ↔
      bits.getLsbD k = true ∨ ∃ bit ∈ featureBits, bit.toInt = k := by
  induction featureBits generalizing bits with
  | nil => simp
  | cons bit rest ih =>
    rw [List.foldl_cons, ih, getLsbD_setFeatureBit bits bit inside]
    simp only [List.exists_mem_cons_iff, or_assoc]

/-! ## The bytes -/

/-- Sixteen bytes that set bit `k` exactly if `k` is listed. -/
structure EncodesBits (featureBits : List Int32) (bytes : List UInt8) : Prop where
  length : bytes.length = 16
  sets : ∀ k : Nat, k ≤ 127 → (bitAt bytes k = true ↔ ∃ bit ∈ featureBits, bit.toInt = k)

/-- The same numbers from 0 to 127, in any order and any number of times. -/
def SameBits (featureBits others : List Int32) : Prop :=
  ∀ bit : Int32, 0 ≤ bit → bit ≤ 127 → (bit ∈ featureBits ↔ bit ∈ others)

theorem SameBits.listed_iff {featureBits others : List Int32}
    (same : SameBits featureBits others) {k : Nat} (inside : k ≤ 127) :
    (∃ bit ∈ featureBits, bit.toInt = k) ↔ ∃ bit ∈ others, bit.toInt = k := by
  apply exists_congr
  intro bit
  apply and_congr_left
  intro named
  have range := inRange_of_toInt_eq named inside
  exact same bit range.1 range.2

theorem EncodesBits.unique {featureBits others : List Int32} {bytes otherBytes : List UInt8}
    (encoded : EncodesBits featureBits bytes) (other : EncodesBits others otherBytes)
    (same : SameBits featureBits others) : bytes = otherBytes := by
  apply eq_of_bitAt (encoded.length.trans other.length.symm)
  intro k inside
  have small : k ≤ 127 := by
    rw [encoded.length] at inside
    omega
  apply Bool.eq_iff_iff.mpr
  rw [encoded.sets k small, other.sets k small]
  exact same.listed_iff small

theorem EncodesBits.append {featureBits more : List Int32} {bytes moreBytes : List UInt8}
    (encoded : EncodesBits featureBits bytes) (other : EncodesBits more moreBytes) :
    EncodesBits (featureBits ++ more) (List.zipWith (· ||| ·) bytes moreBytes) where
  length := by simp [encoded.length, other.length]
  sets := by
    intro k small
    have inside : k < 8 * bytes.length := by
      rw [encoded.length]
      omega
    have alike : bytes.length = moreBytes.length := encoded.length.trans other.length.symm
    rw [bitAt_zipWith_or alike inside, Bool.or_eq_true, encoded.sets k small, other.sets k small]
    simp only [List.mem_append, or_and_right, exists_or]

theorem featureBitsToLeBytes_encodesBits (featureBits : List Int32) :
    EncodesBits featureBits (featureBitsToLeBytes featureBits) where
  length := length_leBytes 16 _
  sets := by
    intro k small
    have inside : k < 128 := by omega
    rw [featureBitsToLeBytes_eq, bitAt_leBytes _ inside, getLsbD_setFeatureBits _ _ inside]
    simp

/-- The bytes set exactly the listed bits, numbers outside 0 to 127 apart; only
the set of listed bits matters; and a concatenation sets the bits of both parts. -/
theorem featureBitsToLeBytes_sets (featureBits : List Int32) :
    EncodesBits featureBits (featureBitsToLeBytes featureBits) ∧
      (∀ others, SameBits featureBits others →
        featureBitsToLeBytes others = featureBitsToLeBytes featureBits) ∧
      ∀ more, featureBitsToLeBytes (featureBits ++ more) =
        List.zipWith (· ||| ·) (featureBitsToLeBytes featureBits) (featureBitsToLeBytes more) := by
  have encoded := featureBitsToLeBytes_encodesBits featureBits
  refine ⟨encoded, ?_, ?_⟩
  · intro others same
    exact (encoded.unique (featureBitsToLeBytes_encodesBits others) same).symm
  · intro more
    have both := encoded.append (featureBitsToLeBytes_encodesBits more)
    apply (featureBitsToLeBytes_encodesBits (featureBits ++ more)).unique both
    exact fun _ _ _ => Iff.rfl

theorem featureBitsToLeBytes_sets_mixed :
    featureBitsToLeBytes [17, -1, 8, 200, 17] = featureBitsToLeBytes [8, 17] := by
  apply (featureBitsToLeBytes_sets [8, 17]).2.1
  intro bit low high
  have notNegative : bit ≠ -1 := by
    rintro rfl
    exact absurd low (by decide)
  have notLarge : bit ≠ 200 := by
    rintro rfl
    exact absurd high (by decide)
  simp only [List.mem_cons, List.not_mem_nil, notNegative, notLarge]
  tauto

example : featureBitsToLeBytes [8, 17] = [0, 1, 2] ++ List.replicate 13 0 := by decide

theorem parseBlindedPath_features {ldk : Library} {path : Lnd.BlindedPaymentPath}
    {parsed : Ldk.BlindedPaymentPath} (read : parseBlindedPath ldk path = .ok parsed) :
    parsed.payinfo.features = featureBitsToLeBytes path.features := by
  unfold parseBlindedPath at read
  split at read
  · cases read
  split at read
  · cases read
  split at read
  · cases read
  simp only [bind, Except.bind] at read
  split at read
  · cases read
  cases read
  rfl

theorem parseBlindedPaths_features {ldk : Library} {paths : List Lnd.BlindedPaymentPath}
    (parse : ∀ path ∈ paths, PathParses ldk path) :
    ∃ parsed, parseBlindedPaths ldk paths = .ok parsed ∧
      List.Forall₂ (fun path parsed => EncodesBits path.features parsed.payinfo.features)
        paths parsed := by
  apply (mapM_related_iff _ _ paths).mpr
  intro path listed
  obtain ⟨parsed, read, -, -⟩ := parseBlindedPath_narrowed (parse path listed)
  refine ⟨parsed, read, ?_⟩
  rw [parseBlindedPath_features read]
  exact featureBitsToLeBytes_encodesBits path.features

end LndkFormal.Offers
