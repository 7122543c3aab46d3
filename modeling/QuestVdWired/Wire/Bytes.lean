import Mathlib.Algebra.Group.Nat.Defs
import Mathlib.Data.List.Induction
import Mathlib.Tactic.Common

/-!
Byte strings, big-endian numbers, and the fields of a fixed layout.
-/

namespace Wire

/-- The value of a big-endian byte string. -/
def bigEndian (bytes : List UInt8) : Nat :=
  bytes.foldl (fun value byte => value * 256 + byte.toNat) 0

/-- The low `width` bytes of a number, most significant first. -/
def toBigEndian : Nat → Nat → List UInt8
  | 0, _ => []
  | width + 1, n => toBigEndian width (n / 256) ++ [UInt8.ofNat (n % 256)]

attribute [local grind =] toBigEndian

@[simp] theorem toBigEndian_length (width n : Nat) : (toBigEndian width n).length = width := by
  induction width generalizing n with
  | zero => rfl
  | succ width ih => simp [toBigEndian, ih]

theorem bigEndian_concat (bytes : List UInt8) (byte : UInt8) :
    bigEndian (bytes ++ [byte]) = bigEndian bytes * 256 + byte.toNat := by
  simp [bigEndian]

theorem bigEndian_toBigEndian (width n : Nat) :
    bigEndian (toBigEndian width n) = n % 256 ^ width := by
  induction width generalizing n with
  | zero => simp [toBigEndian, bigEndian, Nat.mod_one]
  | succ width ih =>
      have low : (UInt8.ofNat (n % 256)).toNat = n % 256 := by
        simp [UInt8.toNat_ofNat']
      rw [toBigEndian, bigEndian_concat, ih, low, Nat.pow_succ', Nat.mod_mul]
      omega

theorem bigEndian_toBigEndian_of_lt {width n : Nat} (small : n < 256 ^ width) :
    bigEndian (toBigEndian width n) = n := by
  rw [bigEndian_toBigEndian, Nat.mod_eq_of_lt small]

theorem toBigEndian_bigEndian (bytes : List UInt8) :
    toBigEndian bytes.length (bigEndian bytes) = bytes := by
  induction bytes using List.reverseRecOn with
  | nil => rfl
  | append_singleton bytes byte ih =>
      have small := byte.toNat_lt
      have high : (bigEndian bytes * 256 + byte.toNat) / 256 = bigEndian bytes := by omega
      have low : (bigEndian bytes * 256 + byte.toNat) % 256 = byte.toNat := by omega
      rw [List.length_append, List.length_singleton, toBigEndian, bigEndian_concat, high, low, ih,
        UInt8.ofNat_toNat]

theorem bigEndian_lt (bytes : List UInt8) : bigEndian bytes < 256 ^ bytes.length := by
  have same := bigEndian_toBigEndian bytes.length (bigEndian bytes)
  rw [toBigEndian_bigEndian] at same
  rw [same]
  exact Nat.mod_lt _ (Nat.pow_pos (by decide))

/-- A field of known width holds a number exactly when it is its encoding. -/
theorem bigEndian_eq_iff {bytes : List UInt8} {width n : Nat} (wide : bytes.length = width)
    (small : n < 256 ^ width) : bigEndian bytes = n ↔ bytes = toBigEndian width n := by
  constructor
  · rintro rfl
    rw [← wide, toBigEndian_bigEndian]
  · rintro rfl
    exact bigEndian_toBigEndian_of_lt small

/-- A field of a fixed layout, found behind the fields before it. -/
theorem take_drop_append (before field after : List UInt8) {offset width : Nat}
    (start : before.length = offset) (wide : field.length = width) :
    ((before ++ (field ++ after)).drop offset).take width = field := by
  subst start wide
  simp

/-- A byte string is its first bytes, a field and what follows the field. -/
theorem drop_eq_append (input : List UInt8) (offset width : Nat) :
    input.drop offset = (input.drop offset).take width ++ input.drop (offset + width) := by
  rw [← List.drop_drop, List.take_append_drop]

/-- The fields of a table of equal widths are found at the multiples of the width. -/
theorem take_drop_flatten {fields : List (List UInt8)} {width : Nat}
    (wide : ∀ field ∈ fields, field.length = width) :
    ∀ {index : Nat} (bound : index < fields.length),
      (fields.flatten.drop (index * width)).take width = fields[index] := by
  induction fields with
  | nil =>
      intro index bound
      cases bound
  | cons field fields ih =>
      intro index bound
      have own : field.length = width := wide field (List.mem_cons_self ..)
      cases index with
      | zero => simp [List.take_left' own]
      | succ index =>
          have further : field.length ≤ (index + 1) * width := by
            rw [own, Nat.succ_mul]
            exact Nat.le_add_left _ _
          have offset : (index + 1) * width - field.length = index * width := by
            rw [own, Nat.succ_mul, Nat.add_sub_cancel]
          rw [List.flatten_cons, List.drop_append, List.drop_eq_nil_of_le further, offset,
            List.nil_append]
          exact ih (fun other mem => wide other (List.mem_cons_of_mem _ mem))
            (Nat.lt_of_succ_lt_succ bound)

/-- `copy_from_slice` into a zeroed array of the slice's length. -/
def copyFrom (width : Nat) (bytes : List UInt8) : Vector UInt8 width :=
  Vector.ofFn fun i => bytes.getD i 0

@[simp] theorem copyFrom_toList {width : Nat} (bytes : Vector UInt8 width) :
    copyFrom width bytes.toList = bytes := by
  ext i bound
  simp [copyFrom]

theorem toList_copyFrom {bytes : List UInt8} {width : Nat} (wide : bytes.length = width) :
    (copyFrom width bytes).toList = bytes := by
  apply List.ext_getElem
  · simp [wide]
  · intro i _ bound
    simp [copyFrom, bound]

end Wire
