import Mathlib.Algebra.Group.Int.Defs
import Mathlib.Algebra.Group.Nat.Defs
import Mathlib.Tactic.Common

/-!
Java's `int`. It wraps; an operation whose result fits is exact.
-/

namespace Java
variable {a b : Int32}

theorem toInt_add_of_fits (low : -2 ^ 31 ≤ a.toInt + b.toInt) (high : a.toInt + b.toInt < 2 ^ 31) :
    (a + b).toInt = a.toInt + b.toInt := by
  rw [Int32.toInt_add]
  exact Int.bmod_eq_of_le (by omega) (by omega)

theorem toInt_sub_of_fits (low : -2 ^ 31 ≤ a.toInt - b.toInt) (high : a.toInt - b.toInt < 2 ^ 31) :
    (a - b).toInt = a.toInt - b.toInt := by
  rw [Int32.toInt_sub]
  exact Int.bmod_eq_of_le (by omega) (by omega)

def Math.min (a b : Int32) : Int32 := if a ≤ b then a else b

theorem Math.toInt_min : (Math.min a b).toInt = Min.min a.toInt b.toInt := by
  unfold Math.min
  split
  · rename_i le
    rw [Int32.le_iff_toInt_le] at le
    omega
  · rename_i lt
    rw [Int32.le_iff_toInt_le] at lt
    omega

/-! The bits of a number that is not negative. -/

section
variable {x : Int32} {n : Nat}

theorem bits_of_toInt (same : x.toInt = n) : x.toBitVec.toNat = n := by
  have same : x.toBitVec.toInt = n := same
  have bound := x.toBitVec.isLt
  rw [BitVec.toInt_eq_toNat_cond] at same
  split at same <;> omega

theorem toInt_of_bits (same : x.toBitVec.toNat = n) (small : n < 2 ^ 31) : x.toInt = n := by
  rw [← Int32.toInt_toBitVec, BitVec.toInt_eq_toNat_of_lt (by omega), same]

theorem toInt_and_ffff (same : x.toInt = n) :
    (x &&& (0xffff : Int32)).toInt = (n % 2 ^ 16 : Nat) := by
  refine toInt_of_bits ?_ (by omega)
  rw [Int32.toBitVec_and, BitVec.toNat_and, bits_of_toInt same]
  exact Nat.and_two_pow_sub_one_eq_mod n 16

theorem toInt_shiftRight_16 (same : x.toInt = n) :
    (x >>> (16 : Int32)).toInt = (n / 2 ^ 16 : Nat) := by
  rw [← Int32.toInt_toBitVec, Int32.toBitVec_shiftRight]
  change (x.toBitVec.sshiftRight 16).toInt = _
  rw [BitVec.toInt_sshiftRight, Int32.toInt_toBitVec, same, Int.shiftRight_eq_div_pow]
  rfl

theorem and_not_ffff_eq_zero (same : x.toInt = n) : x &&& ~~~0xffff = 0 ↔ n < 2 ^ 16 := by
  have bits := bits_of_toInt same
  have mask : ∀ i : Fin 32, (~~~(0xffff : Int32)).toBitVec.getLsbD i = decide (16 ≤ i.val) := by
    decide
  rw [← Int32.toBitVec_inj, Int32.toBitVec_and]
  constructor
  · intro zero
    refine Nat.lt_pow_two_of_testBit n fun i above => ?_
    rw [← bits]
    by_cases inside : i < 32
    · have bit := congrArg (fun b : BitVec 32 => b.getLsbD i) zero
      simp only [BitVec.getLsbD_and, mask ⟨i, inside⟩] at bit
      have off : x.toBitVec.getLsbD i = false := by simpa [above] using bit
      exact off
    · exact Nat.testBit_lt_two_pow (Nat.lt_of_lt_of_le x.toBitVec.isLt
        (Nat.pow_le_pow_right (by decide) (by omega)))
  · intro small
    apply BitVec.eq_of_getLsbD_eq
    intro i inside
    rw [BitVec.getLsbD_and, mask ⟨i, inside⟩]
    by_cases above : 16 ≤ i
    · have off : x.toBitVec.getLsbD i = false := by
        rw [BitVec.getLsbD, bits]
        exact Nat.testBit_lt_two_pow (Nat.lt_of_lt_of_le small
          (Nat.pow_le_pow_right (by decide) above))
      simp [off]
    · simp [above]

/-- The low half of the complement. -/
theorem toNat_complement (same : x.toInt = n) (small : n < 2 ^ 16) :
    (~~~x).toUInt32.toNat % 2 ^ 16 = 2 ^ 16 - 1 - n := by
  have not : (~~~x).toUInt32.toNat = 2 ^ 32 - 1 - n := by
    change (~~~x.toBitVec).toNat = _
    rw [BitVec.toNat_not, bits_of_toInt same]
  omega

end
end Java
