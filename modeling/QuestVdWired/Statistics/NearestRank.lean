import Mathlib.Algebra.GroupWithZero.Nat
import Mathlib.Data.List.Basic
import Mathlib.Order.Lattice
import Mathlib.Tactic.Common

/-!
The order statistics of a list of samples, and what the numbers of samples under ascending
bounds say of them.
-/

namespace Statistics
theorem countP_le_succ {β : Type*} {l : List β} {f : β → Nat} {i : Nat} :
    l.countP (f · ≤ i + 1) = l.countP (f · ≤ i) + l.countP (f · = i + 1) := by
  induction l with
  | nil => rfl
  | cons a l ih =>
      simp only [List.countP_cons, ih, decide_eq_true_eq]
      split <;> split <;> split <;> omega

variable {α : Type*} [LinearOrder α]

/-- The `k`-th smallest of some samples, counted from one. -/
def smallest (samples : List α) (k : Nat) : Option α :=
  (samples.mergeSort (· ≤ ·))[k - 1]?

/-- The first of the bounds that a value does not exceed; behind all of them if there is none. -/
def bucket (bounds : List α) (v : α) : Nat :=
  bounds.findIdx (v ≤ ·)

variable {samples bounds : List α} {v b : α} {k i : Nat}

section Order

theorem countP_zero_of_lt {a : α} {l : List α} (sorted : (a :: l).Pairwise (· ≤ ·))
    (above : ¬ a ≤ b) : (a :: l).countP (· ≤ b) = 0 := by
  rw [List.countP_eq_zero]
  intro c mem
  have least : a ≤ c := by
    rcases List.mem_cons.mp mem with rfl | later
    · exact le_refl _
    · exact List.rel_of_pairwise_cons sorted later
  simpa using lt_of_lt_of_le (not_le.mp above) least

/-- In order, the entries up to a bound come first. -/
theorem le_iff_lt_countP {l : List α} (sorted : l.Pairwise (· ≤ ·)) (there : l[i]? = some v) :
    v ≤ b ↔ i < l.countP (· ≤ b) := by
  induction l generalizing i with
  | nil => simp at there
  | cons a l ih =>
      by_cases below : a ≤ b
      · rw [List.countP_cons_of_pos (by simpa using below)]
        cases i with
        | zero =>
            rw [List.getElem?_cons_zero, Option.some.injEq] at there
            simp [← there, below]
        | succ i =>
            rw [List.getElem?_cons_succ] at there
            rw [ih sorted.of_cons there, Nat.succ_lt_succ_iff]
      · rw [countP_zero_of_lt sorted below]
        have least : a ≤ v := by
          rcases List.mem_cons.mp (List.mem_of_getElem? there) with rfl | later
          · exact le_refl _
          · exact List.rel_of_pairwise_cons sorted later
        simpa using lt_of_lt_of_le (not_le.mp below) least

theorem mergeSort_sorted (l : List α) : (l.mergeSort (· ≤ ·)).Pairwise (· ≤ ·) := by
  have sorted : (l.mergeSort (· ≤ ·)).Pairwise fun a b => decide (a ≤ b) = true :=
    List.pairwise_mergeSort (fun a b c => by simpa using le_trans)
      (fun a b => by simpa using le_total a b) l
  simpa using sorted

theorem smallest_le_iff (positive : 0 < k) (found : smallest samples k = some v) :
    v ≤ b ↔ k ≤ samples.countP (· ≤ b) := by
  rw [le_iff_lt_countP (mergeSort_sorted samples) found,
    (List.mergeSort_perm samples _).countP_eq]
  omega

theorem smallest_mem (found : smallest samples k = some v) : v ∈ samples :=
  (List.mergeSort_perm samples _).mem_iff.mp (List.mem_of_getElem? found)

theorem exists_smallest (positive : 0 < k) (enough : k ≤ samples.length) :
    ∃ v, smallest samples k = some v := by
  have inside : k - 1 < (samples.mergeSort (· ≤ ·)).length := by
    rw [List.length_mergeSort]
    omega
  exact ⟨_, List.getElem?_eq_getElem inside⟩

end Order

section Buckets

theorem bucket_le_length : bucket bounds v ≤ bounds.length :=
  List.findIdx_le_length

theorem bucket_cons {a : α} :
    bucket (a :: bounds) v = if v ≤ a then 0 else bucket bounds v + 1 := by
  rw [bucket, List.findIdx_cons]
  by_cases below : v ≤ a
  · simp [below]
  · simp [below, bucket]

theorem bucket_le_iff (ascending : bounds.Pairwise (· < ·)) (there : bounds[i]? = some b) :
    bucket bounds v ≤ i ↔ v ≤ b := by
  induction bounds generalizing i with
  | nil => simp at there
  | cons a bounds ih =>
      rw [bucket_cons]
      cases i with
      | zero =>
          rw [List.getElem?_cons_zero, Option.some.injEq] at there
          subst there
          split <;> simp [*]
      | succ i =>
          rw [List.getElem?_cons_succ] at there
          have later : a < b := List.rel_of_pairwise_cons ascending (List.mem_of_getElem? there)
          split
          · rename_i below
            simp [le_trans below (le_of_lt later)]
          · rw [Nat.succ_le_succ_iff, ih ascending.of_cons there]

/-- In its bucket a value meets the least of the bounds that it does not exceed. -/
theorem bucket_least (ascending : bounds.Pairwise (· < ·))
    (there : bounds[bucket bounds v]? = some b) :
    b ∈ bounds ∧ v ≤ b ∧ ∀ c ∈ bounds, v ≤ c → b ≤ c := by
  have own := (bucket_le_iff ascending there).mp (Nat.le_refl _)
  refine ⟨List.mem_of_getElem? there, own, ?_⟩
  intro c mem le
  obtain ⟨j, at_⟩ := List.mem_iff_getElem?.mp mem
  have before := (bucket_le_iff ascending at_).mpr le
  obtain ⟨inside, rfl⟩ := List.getElem?_eq_some_iff.mp there
  obtain ⟨inside', rfl⟩ := List.getElem?_eq_some_iff.mp at_
  rcases Nat.lt_or_eq_of_le before with earlier | same
  · exact le_of_lt (List.pairwise_iff_getElem.mp ascending _ _ inside inside' earlier)
  · simp [same]

theorem bucket_lt_iff : bucket bounds v < bounds.length ↔ ∃ b ∈ bounds, v ≤ b := by
  rw [bucket, List.findIdx_lt_length]
  simp

/-- How many samples fell into each bucket. -/
def Counts (bounds samples : List α) (counts : List Nat) : Prop :=
  counts.length = bounds.length + 1 ∧
    ∀ j c, counts[j]? = some c → c = samples.countP (bucket bounds · = j)

theorem sum_take_counts {counts : List Nat} (exact_ : Counts bounds samples counts)
    (inside : i ≤ bounds.length) :
    (counts.take (i + 1)).sum = samples.countP (bucket bounds · ≤ i) := by
  obtain ⟨long, each⟩ := exact_
  have own : ∀ j (h : j < counts.length), counts[j] = samples.countP (bucket bounds · = j) :=
    fun j h => each j _ (List.getElem?_eq_getElem h)
  induction i with
  | zero =>
      have first : 0 < counts.length := by omega
      rw [List.take_succ_eq_append_getElem first, own 0 first]
      simp
  | succ i ih =>
      have next : i + 1 < counts.length := by omega
      rw [List.take_succ_eq_append_getElem next, List.sum_append, ih (by omega), own _ next,
        List.sum_singleton, countP_le_succ]

theorem sum_counts {counts : List Nat} (exact_ : Counts bounds samples counts) :
    counts.sum = samples.length := by
  have all := sum_take_counts exact_ (Nat.le_refl bounds.length)
  rw [List.take_of_length_le (Nat.le_of_eq exact_.1)] at all
  rw [all, List.countP_eq_length]
  exact fun u _ => decide_eq_true bucket_le_length

/-- The counts reach a rank in the bucket of the sample that has this rank. -/
theorem rank_le_sum_iff {counts : List Nat} (ascending : bounds.Pairwise (· < ·))
    (exact_ : Counts bounds samples counts) (positive : 0 < k)
    (found : smallest samples k = some v) (inside : i ≤ bounds.length) :
    k ≤ (counts.take (i + 1)).sum ↔ bucket bounds v ≤ i := by
  rcases Nat.lt_or_ge i bounds.length with bounded | beyond
  · have there := List.getElem?_eq_getElem bounded
    have same : samples.countP (bucket bounds · ≤ i) = samples.countP (· ≤ bounds[i]) :=
      List.countP_congr fun u _ => by simpa using bucket_le_iff ascending there
    rw [sum_take_counts exact_ inside, same, bucket_le_iff ascending there,
      smallest_le_iff positive found]
  · have last : i = bounds.length := Nat.le_antisymm inside beyond
    have rank : k - 1 < (samples.mergeSort (· ≤ ·)).length := (List.getElem?_eq_some_iff.mp found).1
    rw [List.length_mergeSort] at rank
    rw [last, List.take_of_length_le (Nat.le_of_eq exact_.1), sum_counts exact_]
    exact ⟨fun _ => bucket_le_length, fun _ => by omega⟩

end Buckets

end Statistics
