import Mathlib.Algebra.BigOperators.Group.Finset.Piecewise
import Mathlib.Algebra.Order.BigOperators.Group.Finset
import Mathlib.Tactic.Common

/-!
Tokens and the places they can be in. `count p` is how often a token is found in
place `p`. A step that touches finitely many places and keeps the number of
tokens over them keeps a token single, and keeps it absent.
-/

namespace Transition
universe u
variable {P : Type u} [DecidableEq P]

/-- The token is once in `p` and nowhere else. -/
def Single (count : P → Nat) (p : P) : Prop := ∀ q, count q = if q = p then 1 else 0

variable {count count' : P → Nat} {touched : Finset P}

theorem absent_of_moved (frame : ∀ q ∉ touched, count' q = count q)
    (kept : ∑ q ∈ touched, count' q = ∑ q ∈ touched, count q)
    (absent : ∀ q, count q = 0) (q : P) : count' q = 0 := by
  by_cases member : q ∈ touched
  · have none : ∑ q ∈ touched, count' q = 0 := by
      rw [kept]
      exact Finset.sum_eq_zero fun q _ => absent q
    exact Finset.sum_eq_zero_iff.mp none q member
  · rw [frame q member, absent q]

theorem Single.exists_of_sum {touched : Finset P}
    (one : ∑ q ∈ touched, count q = 1) (off : ∀ q ∉ touched, count q = 0) :
    ∃ p ∈ touched, Single count p := by
  have present : ∑ q ∈ touched, count q ≠ 0 := by omega
  obtain ⟨p, member, found⟩ := Finset.exists_ne_zero_of_sum_ne_zero present
  have split := Finset.add_sum_erase touched count member
  have rest : ∑ q ∈ touched.erase p, count q = 0 := by omega
  refine ⟨p, member, fun q => ?_⟩
  by_cases same : q = p
  · subst same
    simp
    omega
  · rw [if_neg same]
    by_cases inside : q ∈ touched
    · exact Finset.sum_eq_zero_iff.mp rest q (Finset.mem_erase.mpr ⟨same, inside⟩)
    · exact off q inside

theorem Single.moved {p : P} (single : Single count p)
    (frame : ∀ q ∉ touched, count' q = count q)
    (kept : ∑ q ∈ touched, count' q = ∑ q ∈ touched, count q) :
    ∃ p', Single count' p' ∧ (p' = p ∨ p ∈ touched ∧ p' ∈ touched) := by
  by_cases member : p ∈ touched
  · -- The token was within reach of the step.
    have one : ∑ q ∈ touched, count' q = 1 := by
      rw [kept, Finset.sum_congr rfl fun q _ => single q]
      simp [member]
    have off : ∀ q ∉ touched, count' q = 0 := by
      intro q outside
      rw [frame q outside, single q, if_neg]
      rintro rfl
      exact outside member
    obtain ⟨p', inside, single'⟩ := Single.exists_of_sum one off
    exact ⟨p', single', Or.inr ⟨member, inside⟩⟩
  · refine ⟨p, fun q => ?_, Or.inl rfl⟩
    by_cases inside : q ∈ touched
    · have none : ∑ q ∈ touched, count' q = 0 := by
        rw [kept, Finset.sum_congr rfl fun q _ => single q]
        simp [member]
      rw [Finset.sum_eq_zero_iff.mp none q inside, if_neg]
      rintro rfl
      exact member inside
    · rw [frame q inside, single q]

end Transition
