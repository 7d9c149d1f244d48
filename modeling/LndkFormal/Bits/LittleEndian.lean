import Mathlib.Data.List.Basic

/-!
# Bits of little-endian bytes

A list of bytes read as a set of bit numbers: bit `k` is bit `k % 8` of byte
`k / 8`.  Lists of one length are equal if they set the same bits, so an encoding
of a set of bits is determined by its length and the set.
-/

set_option autoImplicit false

namespace LndkFormal.Bits

/-- Bit `k % 8` of byte `k / 8`; behind the last byte nothing is set. -/
def bitAt (bytes : List UInt8) (k : Nat) : Bool :=
  (bytes.getD (k / 8) 0).toBitVec.getLsbD (k % 8)

@[simp] theorem bitAt_replicate_zero (count k : Nat) :
    bitAt (List.replicate count 0) k = false := by
  have zero : (List.replicate count (0 : UInt8)).getD (k / 8) 0 = 0 := by
    rw [List.getD_eq_getElem?_getD, List.getElem?_replicate]
    split
    · rfl
    · rfl
  unfold bitAt
  rw [zero]
  simp

def leBytes {w : Nat} (count : Nat) (word : BitVec w) : List UInt8 :=
  (List.range count).map fun i => UInt8.ofNat (word >>> (8 * i)).toNat

@[simp] theorem length_leBytes {w : Nat} (count : Nat) (word : BitVec w) :
    (leBytes count word).length = count := by
  simp [leBytes]

theorem bitAt_of_lt {bytes : List UInt8} {i j : Nat} (listed : i < bytes.length) (small : j < 8) :
    bitAt bytes (8 * i + j) = bytes[i].toBitVec.getLsbD j := by
  have byte : (8 * i + j) / 8 = i := by omega
  have bit : (8 * i + j) % 8 = j := by omega
  have read : bytes.getD i 0 = bytes[i] := by simp [listed]
  unfold bitAt
  rw [byte, bit, read]

theorem bitAt_leBytes {w count k : Nat} (word : BitVec w) (inside : k < 8 * count) :
    bitAt (leBytes count word) k = word.getLsbD k := by
  have listed : k / 8 < (leBytes count word).length := by
    rw [length_leBytes]
    omega
  have small : k % 8 < 8 := Nat.mod_lt k (by omega)
  have split : 8 * (k / 8) + k % 8 = k := Nat.div_add_mod k 8
  calc bitAt (leBytes count word) k
      = bitAt (leBytes count word) (8 * (k / 8) + k % 8) := by rw [split]
    _ = (leBytes count word)[k / 8].toBitVec.getLsbD (k % 8) := bitAt_of_lt listed small
    _ = (word >>> (8 * (k / 8))).getLsbD (k % 8) := by
        simp only [leBytes, List.getElem_map, List.getElem_range, UInt8.toBitVec_ofNat',
          BitVec.getLsbD_ofNat, small, decide_true, Bool.true_and, BitVec.testBit_toNat]
    _ = word.getLsbD k := by rw [BitVec.getLsbD_ushiftRight, split]

/-- Lists of one length that set the same bits are equal. -/
theorem eq_of_bitAt {first second : List UInt8} (length : first.length = second.length)
    (same : ∀ k, k < 8 * first.length → bitAt first k = bitAt second k) : first = second := by
  apply List.ext_getElem length
  intro i inFirst inSecond
  apply UInt8.toBitVec_inj.mp
  apply BitVec.eq_of_getLsbD_eq
  intro j small
  rw [← bitAt_of_lt inFirst small, ← bitAt_of_lt inSecond small]
  exact same _ (by omega)

theorem bitAt_zipWith_or {first second : List UInt8} (length : first.length = second.length)
    {k : Nat} (inside : k < 8 * first.length) :
    bitAt (List.zipWith (· ||| ·) first second) k = (bitAt first k || bitAt second k) := by
  have inFirst : k / 8 < first.length := by omega
  have inSecond : k / 8 < second.length := by omega
  have inBoth : k / 8 < (List.zipWith (· ||| ·) first second).length := by
    rw [List.length_zipWith]
    omega
  have small : k % 8 < 8 := Nat.mod_lt k (by omega)
  have split : 8 * (k / 8) + k % 8 = k := Nat.div_add_mod k 8
  rw [← split, bitAt_of_lt inBoth small, bitAt_of_lt inFirst small, bitAt_of_lt inSecond small,
    List.getElem_zipWith, UInt8.toBitVec_or, BitVec.getLsbD_or]

end LndkFormal.Bits
