import Mathlib.Data.Int.ModEq
import VesselTraffic.Proofs.BitLists
import VesselTraffic.Proofs.Checked.Views

/-!
# Numbers in two's complement

In `k + 1` bits two's complement writes the numbers from `-2 ^ k` to just below `2 ^ k`, each as its
remainder by `2 ^ (k + 1)`. What is read is the only one of them with the remainder that the bits
spell, so each of them is read where it was written. That is so at every position, also where
the bits behind the end of a view count as zeros.
-/
namespace VesselTraffic

namespace Binary

/-- A number in two's complement, the most significant bit first. -/
def twosComplement (width : Nat) (n : Int) : List Bool := bits width (n % 2 ^ width).toNat

/-- There are no two numbers with one remainder among those that `k + 1` bits can write. -/
theorem eq_of_modEq {k : Nat} {m n : Int} (hm : -2 ^ k ≤ m ∧ m < 2 ^ k) (hn : -2 ^ k ≤ n ∧ n < 2 ^ k)
    (h : m ≡ n [ZMOD 2 ^ (k + 1)]) : m = n := by
  have hpow : (2 : Int) ^ (k + 1) = 2 * 2 ^ k := Int.pow_succ' 2 k
  have hsmall : |n - m| < 2 ^ (k + 1) := by
    rw [abs_lt]
    omega
  have hzero := Int.eq_zero_of_abs_lt_dvd h.dvd hsmall
  omega

end Binary

namespace BitView

variable {v : BitView} {start : Nat}

/-- Bits that stand at a place are known from the number that is read there. -/
theorem holds_bits_iff {width n : Nat} (hn : n < 2 ^ width) :
    v.Holds start (Binary.bits width n) ↔ v.unsigned start (start + width) = n := by
  refine ⟨unsigned_of_holds hn, ?_⟩
  rintro rfl
  have hbits := v.bits_unsigned start (start + width)
  rw [Nat.add_sub_cancel_left] at hbits
  rw [Holds, Binary.length_bits, hbits]

theorem signed_range (v : BitView) (start k : Nat) :
    -2 ^ k ≤ v.signed start (start + (k + 1)) ∧ v.signed start (start + (k + 1)) < 2 ^ k := by
  have hbounds := v.signed_bounds start k
  rw [Nat.add_assoc, Nat.add_comm 1 k] at hbounds
  exact_mod_cast hbounds

/-- The first bit takes off what all bits together can write once more. -/
theorem signed_modEq (v : BitView) (start width : Nat) :
    v.signed start (start + width) ≡ v.unsigned start (start + width) [ZMOD 2 ^ width] := by
  have hpow : ((Nat.pow 2 (start + width - start) : Nat) : Int) = 2 ^ width := by
    rw [Nat.add_sub_cancel_left]
    exact_mod_cast rfl
  simp only [signed]
  split_ifs
  · rw [hpow]
    exact Int.sub_modulus_modEq_iff.mpr rfl
  · rfl

theorem signed_eq_iff {k : Nat} {n : Int} :
    v.signed start (start + (k + 1)) = n ↔ (-2 ^ k ≤ n ∧ n < 2 ^ k) ∧
      n ≡ v.unsigned start (start + (k + 1)) [ZMOD 2 ^ (k + 1)] := by
  constructor
  · rintro rfl
    exact ⟨v.signed_range start k, v.signed_modEq start (k + 1)⟩
  · rintro ⟨hn, hmod⟩
    exact Binary.eq_of_modEq (v.signed_range start k) hn
      ((v.signed_modEq start (k + 1)).trans hmod.symm)

/-- What is read in two's complement is what was written so. -/
theorem signed_eq_iff_holds {k : Nat} {n : Int} :
    v.signed start (start + (k + 1)) = n ↔
      (-2 ^ k ≤ n ∧ n < 2 ^ k) ∧ v.Holds start (Binary.twosComplement (k + 1) n) := by
  have hpos : (0 : Int) < 2 ^ (k + 1) := Int.pow_pos (by decide)
  have hnonneg := Int.emod_nonneg n hpos.ne'
  have hlt := Int.emod_lt_of_pos n hpos
  have hroom : (n % 2 ^ (k + 1)).toNat < 2 ^ (k + 1) := by
    rw [Int.toNat_lt hnonneg]
    exact_mod_cast hlt
  have hunsigned : (v.unsigned start (start + (k + 1)) : Int) < 2 ^ (k + 1) := by
    exact_mod_cast v.unsigned_lt_of_le (Nat.le_refl _)
  rw [signed_eq_iff, Binary.twosComplement, holds_bits_iff hroom, Int.ModEq,
    Int.emod_eq_of_lt (by omega) hunsigned]
  refine and_congr_right fun _ => ?_
  omega

/-- Two's complement is exact. Of the numbers that `k + 1` bits can write, the one that is read is the
only one with the remainder of the bits as they count without a sign; it is the one that stands there,
and every one of them is read where it was written over anything. As long as there are at most 64 bits,
neither they nor the number exceed a word. -/
theorem signed_exact (v : BitView) (start k : Nat) :
    (∀ n : Int, v.signed start (start + (k + 1)) = n ↔ (-2 ^ k ≤ n ∧ n < 2 ^ k) ∧
      n ≡ v.unsigned start (start + (k + 1)) [ZMOD 2 ^ (k + 1)]) ∧
    (∀ n : Int, v.signed start (start + (k + 1)) = n ↔ (-2 ^ k ≤ n ∧ n < 2 ^ k) ∧
      v.Holds start (Binary.twosComplement (k + 1) n)) ∧
    (∀ n : Int, (v.overwrite start (Binary.twosComplement (k + 1) n)).signed start
      (start + (k + 1)) = n ↔ -2 ^ k ≤ n ∧ n < 2 ^ k) ∧
    (k < 64 →
      Checked.signed v start (start + (k + 1)) = .ok (v.signed start (start + (k + 1))) ∧
      (Int64.ofInt (v.signed start (start + (k + 1)))).toInt
        = v.signed start (start + (k + 1))) := by
  refine ⟨fun n => signed_eq_iff, fun n => signed_eq_iff_holds, fun n => ?_, fun hk => ⟨?_, ?_⟩⟩
  · rw [signed_eq_iff_holds, and_iff_left (holds_overwrite v start _)]
  · exact Checked.signed_eq_ok v (by omega)
  · have hbounds := v.signed_bounds_of_le (k := 63) (by omega : start + (k + 1) ≤ start + 1 + 63)
    exact Int64.toInt_ofInt_of_le hbounds.1 hbounds.2

/-- A word of 64 bits of which the view holds only the first three, and these say that it is the least
one. -/
theorem signed_least_word :
    let v := tabulate 5 fun i => i == 2
    (63 < 64 ∧ v.unsigned 2 66 = 2 ^ 63 ∧ v.signed 2 66 = -2 ^ 63) ∧
      Checked.signed v 2 66 = .ok (-2 ^ 63) ∧ (Int64.ofInt (-2 ^ 63)).toInt = -2 ^ 63 := by
  intro v
  have hsigned : v.signed 2 66 = -2 ^ 63 := by decide +kernel
  obtain ⟨-, -, -, hword⟩ := signed_exact v 2 63
  rw [hsigned] at hword
  exact ⟨⟨by decide, by decide +kernel, hsigned⟩, hword (by decide)⟩

end BitView

end VesselTraffic
