import QuestVdWired.Wire.Bytes

/-!
The Internet checksum: the sum in one's complement of 16-bit words, where a carry comes back in at
the low end. Modulo `2 ^ 16 - 1` it is the plain sum, and it is 0 only if every word is.
-/

namespace Wire

/-- The words of a byte string, high byte first; an odd last byte is followed by a zero. -/
def words16 : List UInt8 → List Nat
  | [] => []
  | [high] => [high.toNat * 256]
  | high :: low :: bytes => (high.toNat * 256 + low.toNat) :: words16 bytes

/-- The plain sum. -/
def plainSum : List Nat → Nat
  | [] => 0
  | word :: rest => word + plainSum rest

def onesAdd (a b : Nat) : Nat := if a + b < 2 ^ 16 then a + b else a + b + 1 - 2 ^ 16

def onesSum (list : List Nat) : Nat := list.foldl onesAdd 0

attribute [local grind =] words16 plainSum

theorem words16_append {front back : List UInt8} (even : front.length % 2 = 0) :
    words16 (front ++ back) = words16 front ++ words16 back := by
  fun_induction words16 front with
  | case1 => rfl
  | case2 high => cases even
  | case3 high low bytes ih =>
      rw [List.cons_append, List.cons_append, words16, ih, List.cons_append]
      simp only [List.length_cons] at even
      omega

theorem word_lt {bytes : List UInt8} {word : Nat} (member : word ∈ words16 bytes) :
    word < 2 ^ 16 := by
  fun_induction words16 bytes with
  | case1 => cases member
  | case2 high =>
      have := high.toNat_lt
      rw [List.mem_singleton] at member
      omega
  | case3 high low bytes ih =>
      have := high.toNat_lt
      have := low.toNat_lt
      rcases List.mem_cons.mp member with rfl | member
      · omega
      · exact ih member

theorem length_words16 (bytes : List UInt8) : (words16 bytes).length = (bytes.length + 1) / 2 := by
  fun_induction words16 bytes with
  | case1 => rfl
  | case2 high => simp
  | case3 high low bytes ih =>
      simp only [List.length_cons, ih]
      omega

@[simp] theorem plainSum_append (front back : List Nat) :
    plainSum (front ++ back) = plainSum front + plainSum back := by
  induction front with
  | nil => simp [plainSum]
  | cons word front ih =>
      rw [List.cons_append, plainSum, plainSum, ih]
      omega

theorem plainSum_le {list : List Nat} (small : ∀ word ∈ list, word < 2 ^ 16) :
    plainSum list ≤ list.length * (2 ^ 16 - 1) := by
  induction list with
  | nil => exact Nat.zero_le _
  | cons word list ih =>
      have first := small word (.head _)
      have rest := ih fun other member => small other (.tail _ member)
      rw [plainSum, List.length_cons]
      omega

/-- A 16-bit number that stands for a sum. -/
structure Stands (s sum : Nat) : Prop where
  small : s < 2 ^ 16
  modulo : s % (2 ^ 16 - 1) = sum % (2 ^ 16 - 1)
  zero : s = 0 ↔ sum = 0

theorem Stands.add {s sum word : Nat} (h : Stands s sum) (small : word < 2 ^ 16) :
    Stands (onesAdd s word) (sum + word) := by
  obtain ⟨bound, modulo, zero⟩ := h
  unfold onesAdd
  split
  · exact ⟨by omega, by omega, by omega⟩
  · exact ⟨by omega, by omega, by omega⟩

theorem stands_onesSum {list : List Nat} (small : ∀ word ∈ list, word < 2 ^ 16) :
    Stands (onesSum list) (plainSum list) := by
  have run (list : List Nat) (small : ∀ word ∈ list, word < 2 ^ 16) (s sum : Nat)
      (h : Stands s sum) : Stands (list.foldl onesAdd s) (sum + plainSum list) := by
    induction list generalizing s sum with
    | nil => exact h
    | cons word list ih =>
        rw [List.foldl_cons, plainSum, ← Nat.add_assoc]
        exact ih (fun other member => small other (.tail _ member)) _ _
          (h.add (small word (.head _)))
  have sum := run list small 0 0 ⟨by decide, rfl, Iff.rfl⟩
  rwa [Nat.zero_add] at sum

/-- A sum with the complement of what stands for it. -/
theorem Stands.complement {s sum : Nat} (h : Stands s sum) {list : List Nat}
    (small : ∀ word ∈ list, word < 2 ^ 16) (whole : plainSum list = sum + (2 ^ 16 - 1 - s)) :
    onesSum list = 2 ^ 16 - 1 := by
  obtain ⟨bound, modulo, zero⟩ := h
  obtain ⟨bound', modulo', zero'⟩ := stands_onesSum small
  omega

end Wire
