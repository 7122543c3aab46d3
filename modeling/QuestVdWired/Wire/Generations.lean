import Mathlib.Data.List.Infix
import Mathlib.Tactic.Common

/-!
Numbered generations, the newest of them number zero, read from the oldest to the newest.
-/

namespace Wire
variable {β : Type*}

/-- The first `n` generations from the oldest down. -/
def readDown (g : Nat → List β) : Nat → List β
  | 0 => []
  | n + 1 => g n ++ readDown g n

attribute [local grind =] readDown

variable {g g' : Nat → List β} {m n index : Nat} {more : List β}

theorem readDown_congr (same : ∀ i < n, g' i = g i) : readDown g' n = readDown g n := by
  induction n with
  | zero => rfl
  | succ n ih =>
      rw [readDown, readDown, same n (by omega), ih fun i small => same i (by omega)]

theorem readDown_suffix (le : m ≤ n) : readDown g m <:+ readDown g n := by
  induction le with
  | refl => exact List.suffix_refl _
  | step _ ih => exact ih.trans (List.suffix_append ..)

/-- A generation goes up to a number that is free. -/
theorem readDown_move (free : g (index + 1) = []) (up : g' (index + 1) = g index)
    (left : g' index = []) (same : ∀ i, i ≠ index → i ≠ index + 1 → g' i = g i)
    (small : index + 1 < n) : readDown g' n = readDown g n := by
  induction n with
  | zero => omega
  | succ n ih =>
      by_cases last : index + 1 = n
      · subst last
        have below : readDown g' index = readDown g index :=
          readDown_congr fun i less => same i (by omega) (by omega)
        simp only [readDown]
        rw [free, up, left, below, List.nil_append, List.nil_append]
      · rw [readDown, readDown, ih (by omega), same n (by omega) (by omega)]

/-- What is added to the newest is added at the end. -/
theorem readDown_append (newest : g' 0 = g 0 ++ more) (same : ∀ i, i ≠ 0 → g' i = g i)
    (some' : 0 < n) : readDown g' n = readDown g n ++ more := by
  induction n with
  | zero => omega
  | succ n ih =>
      cases n with
      | zero =>
          rw [readDown, readDown, readDown, readDown, newest, List.append_nil, List.append_nil]
      | succ n =>
          have below := ih (Nat.succ_pos n)
          have here := same (n + 1) (Nat.succ_ne_zero n)
          calc
            readDown g' (n + 2) = g' (n + 1) ++ readDown g' (n + 1) := rfl
            _ = g (n + 1) ++ (readDown g (n + 1) ++ more) := by rw [here, below]
            _ = readDown g (n + 2) ++ more := (List.append_assoc ..).symm

/-- What the oldest had is gone from the front. -/
theorem readDown_drop (gone : g' n = []) (same : ∀ i, i ≠ n → g' i = g i) :
    g n ++ readDown g' (n + 1) = readDown g (n + 1) := by
  rw [readDown, readDown, gone, List.nil_append, readDown_congr fun i less => same i (by omega)]

/-- One generation is replaced by another. -/
theorem readDown_length (small : index < n) (same : ∀ i, i ≠ index → g' i = g i) :
    (readDown g' n).length + (g index).length = (readDown g n).length + (g' index).length := by
  induction n with
  | zero => omega
  | succ n ih =>
      rw [readDown, readDown, List.length_append, List.length_append]
      by_cases last : index = n
      · subst last
        rw [readDown_congr fun i less => same i (by omega)]
        omega
      · have below := ih (by omega)
        rw [same n (Ne.symm last)]
        omega

theorem mem_readDown {b : β} : b ∈ readDown g n ↔ ∃ i < n, b ∈ g i := by
  induction n with
  | zero => simp [readDown]
  | succ n ih =>
      rw [readDown, List.mem_append, ih]
      constructor
      · rintro (last | ⟨i, small, member⟩)
        · exact ⟨n, by omega, last⟩
        · exact ⟨i, by omega, member⟩
      · rintro ⟨i, small, member⟩
        by_cases last : i = n
        · exact .inl (last ▸ member)
        · exact .inr ⟨i, by omega, member⟩

/-- Generations that are in order, each behind the older ones. -/
theorem readDown_pairwise {R : β → β → Prop} (within : ∀ i, (g i).Pairwise R)
    (across : ∀ i j, i < j → ∀ a ∈ g j, ∀ b ∈ g i, R a b) : (readDown g n).Pairwise R := by
  induction n with
  | zero => exact .nil
  | succ n ih =>
      refine List.pairwise_append.mpr ⟨within n, ih, fun a old b new => ?_⟩
      obtain ⟨i, small, member⟩ := mem_readDown.mp new
      exact across i n small a old b member

end Wire
