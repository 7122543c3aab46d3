import Mathlib.Data.List.Basic
import Mathlib.Tactic.Common

/-!
Texts measured in the bytes of their UTF-8 encoding, and where they may be cut.
-/

namespace Wire.Utf8

/-- `str::len` -/
def len : List Char → Nat
  | [] => 0
  | c :: rest => c.utf8Size + len rest

/-- `str::as_bytes` -/
def encode (text : List Char) : List UInt8 :=
  text.flatMap String.utf8EncodeChar

/-- `str::is_char_boundary` -/
def isCharBoundary : List Char → Nat → Bool
  | [], n => n = 0
  | c :: rest, n => n = 0 || (c.utf8Size ≤ n && isCharBoundary rest (n - c.utf8Size))

/-- `String::truncate` at a boundary. -/
def truncate : List Char → Nat → List Char
  | [], _ => []
  | c :: rest, n => if c.utf8Size ≤ n then c :: truncate rest (n - c.utf8Size) else []

/-- The highest boundary that is not above, found by going back. -/
def boundaryBelow (text : List Char) : Nat → Nat
  | 0 => 0
  | n + 1 => if isCharBoundary text (n + 1) then n + 1 else boundaryBelow text n

attribute [local grind =] len isCharBoundary truncate boundaryBelow

variable {text text' : List Char} {n : Nat}

theorem len_append : len (text ++ text') = len text + len text' := by
  induction text with
  | nil => simp [len]
  | cons c rest ih => rw [List.cons_append, len, ih, len, Nat.add_assoc]

theorem encode_length : (encode text).length = len text := by
  induction text with
  | nil => rfl
  | cons c rest ih =>
      rw [encode, List.flatMap_cons, List.length_append, String.length_utf8EncodeChar, len, ← ih]
      rfl

theorem isCharBoundary_zero : isCharBoundary text 0 = true := by
  cases text <;> simp [isCharBoundary]

theorem truncate_isPrefix : truncate text n <+: text := by
  induction text generalizing n with
  | nil => exact List.nil_prefix
  | cons c rest ih =>
      rw [truncate]
      split
      · exact List.cons_prefix_cons.mpr ⟨rfl, ih⟩
      · exact List.nil_prefix

theorem len_truncate (boundary : isCharBoundary text n = true) : len (truncate text n) = n := by
  induction text generalizing n with
  | nil =>
      rw [isCharBoundary, decide_eq_true_eq] at boundary
      rw [boundary]
      rfl
  | cons c rest ih =>
      have some_ := c.utf8Size_pos
      simp only [isCharBoundary, Bool.or_eq_true, Bool.and_eq_true, decide_eq_true_eq] at boundary
      rw [truncate]
      rcases boundary with rfl | ⟨fits, later⟩
      · rw [if_neg (by omega)]
        rfl
      · rw [if_pos fits, len, ih later]
        omega

theorem boundaryBelow_isCharBoundary : isCharBoundary text (boundaryBelow text n) = true := by
  induction n with
  | zero => exact isCharBoundary_zero
  | succ n ih =>
      rw [boundaryBelow]
      split
      · assumption
      · exact ih

theorem boundaryBelow_le : boundaryBelow text n ≤ n := by
  induction n with
  | zero => exact Nat.le_refl _
  | succ n ih =>
      rw [boundaryBelow]
      split
      · exact Nat.le_refl _
      · exact Nat.le_succ_of_le ih

theorem isCharBoundary_append : isCharBoundary (text ++ text') (len text) = true := by
  induction text with
  | nil => exact isCharBoundary_zero
  | cons c rest ih =>
      rw [List.cons_append, len, isCharBoundary, Nat.add_sub_cancel_left, ih]
      simp

theorem le_boundaryBelow {m : Nat} (boundary : isCharBoundary text m = true) (le : m ≤ n) :
    m ≤ boundaryBelow text n := by
  induction n with
  | zero => exact le
  | succ n ih =>
      rw [boundaryBelow]
      split
      · exact le
      · rename_i inside
        refine ih (Nat.le_of_lt_succ (Nat.lt_of_le_of_ne le ?_))
        rintro rfl
        exact inside boundary

/-- What is kept is a part from the start, and no longer part fits. -/
theorem truncate_boundaryBelow (text : List Char) (n : Nat) :
    truncate text (boundaryBelow text n) <+: text ∧
      len (truncate text (boundaryBelow text n)) ≤ n ∧
      ∀ part, part <+: text → len part ≤ n →
        len part ≤ len (truncate text (boundaryBelow text n)) := by
  rw [len_truncate boundaryBelow_isCharBoundary]
  refine ⟨truncate_isPrefix, boundaryBelow_le, ?_⟩
  rintro part ⟨rest, rfl⟩ fits
  exact le_boundaryBelow isCharBoundary_append fits

end Wire.Utf8
