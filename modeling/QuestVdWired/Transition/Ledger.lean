import Mathlib.Algebra.Group.Nat.Defs
import Mathlib.Data.List.Basic
import Mathlib.Tactic.Common

/-!
Ledgers: a counter kept equal to the weight of a list of entries. Replacing one entry
moves the total by the difference of the weights, so a step lemma about one entry is a
lemma about the counter.
-/

namespace Transition
universe u
variable {α : Type u}

def total (weight : α → Nat) : List α → Nat
  | [] => 0
  | a :: entries => weight a + total weight entries

attribute [local grind =] total

@[simp] theorem total_nil (weight : α → Nat) : total weight [] = 0 := rfl

@[simp] theorem total_cons (weight : α → Nat) (a : α) (entries : List α) :
    total weight (a :: entries) = weight a + total weight entries := rfl

@[simp] theorem total_append (weight : α → Nat) (l r : List α) :
    total weight (l ++ r) = total weight l + total weight r := by
  induction l with
  | nil => simp
  | cons a l ih =>
      simp only [List.cons_append, total_cons, ih]
      omega

theorem total_add (weight weight' : α → Nat) (entries : List α) :
    total (fun a => weight a + weight' a) entries =
      total weight entries + total weight' entries := by
  induction entries with
  | nil => rfl
  | cons a entries ih =>
      simp only [total_cons, ih]
      omega

/-- Replacing an entry moves the total by the difference. -/
theorem total_set (weight : α → Nat) {entries : List α} {index : Nat} {a : α}
    (here : entries[index]? = some a) (b : α) :
    total weight (entries.set index b) + weight a = total weight entries + weight b := by
  induction entries generalizing index with
  | nil => cases here
  | cons first entries ih =>
      cases index with
      | zero =>
          cases here
          simp only [List.set_cons_zero, total_cons]
          omega
      | succ index =>
          have rest := ih here
          simp only [List.set_cons_succ, total_cons]
          omega

theorem total_eraseIdx (weight : α → Nat) {entries : List α} {index : Nat} {a : α}
    (here : entries[index]? = some a) :
    total weight (entries.eraseIdx index) + weight a = total weight entries := by
  induction entries generalizing index with
  | nil => cases here
  | cons first entries ih =>
      cases index with
      | zero =>
          cases here
          simp only [List.eraseIdx_cons_zero, total_cons]
          omega
      | succ index =>
          have rest := ih here
          simp only [List.eraseIdx_cons_succ, total_cons]
          omega

theorem weight_le_total (weight : α → Nat) {entries : List α} {index : Nat} {a : α}
    (here : entries[index]? = some a) : weight a ≤ total weight entries := by
  have split := total_eraseIdx weight here
  omega

theorem total_mono {weight weight' : α → Nat} {entries : List α}
    (le : ∀ a ∈ entries, weight a ≤ weight' a) : total weight entries ≤ total weight' entries := by
  induction entries with
  | nil => exact Nat.le_refl _
  | cons a entries ih =>
      rw [List.forall_mem_cons] at le
      exact Nat.add_le_add le.1 (ih le.2)

theorem total_eq_countP (p : α → Bool) (entries : List α) :
    total (fun a => if p a then 1 else 0) entries = entries.countP p := by
  induction entries with
  | nil => rfl
  | cons a entries ih => rw [total_cons, ih, List.countP_cons, Nat.add_comm]

theorem total_eq_zero {weight : α → Nat} {entries : List α}
    (none : ∀ a ∈ entries, weight a = 0) : total weight entries = 0 := by
  induction entries with
  | nil => rfl
  | cons a entries ih =>
      rw [total_cons, none a (List.mem_cons_self ..),
        ih fun b mem => none b (List.mem_cons_of_mem a mem)]

end Transition
