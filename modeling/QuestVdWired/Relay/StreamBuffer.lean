import Mathlib.Data.List.Basic
import Mathlib.Tactic.Common

/-!
The circular buffer of `StreamBuffer.java`, as a queue of bytes. One cell stays free, so that
an empty buffer differs from a full one. The array is a function of the index.
-/

namespace QuestVdWired.Relay

/-- `length` is `data.length`, one more than the capacity. -/
structure StreamBuffer where
  data : Nat → UInt8
  length : Nat
  head : Nat
  tail : Nat
  head_lt : head < length
  tail_lt : tail < length

namespace StreamBuffer

def create (capacity : Nat) : StreamBuffer :=
  ⟨fun _ => 0, capacity + 1, 0, 0, Nat.zero_lt_succ capacity, Nat.zero_lt_succ capacity⟩

section
variable (b : StreamBuffer)

def isEmpty : Bool := b.head = b.tail

def size : Nat := if b.head < b.tail then b.head + b.length - b.tail else b.head - b.tail

def capacity : Nat := b.length - 1

def remaining : Nat := b.capacity - b.size

theorem length_pos : 0 < b.length := Nat.lt_of_le_of_lt (Nat.zero_le _) b.head_lt

/-- How many bytes `writeTo` offers to its channel: never past the end of the array. -/
def chunk : Nat := if b.tail < b.head then b.head - b.tail else
  if b.head < b.tail then b.length - b.tail else 0

/-- `head` and `tail` go back to 0 when they meet. -/
def optimize : StreamBuffer :=
  if b.isEmpty then
    { b with head := 0, tail := 0, head_lt := b.length_pos, tail_lt := b.length_pos }
  else b

end

/-- `writeTo`, where the channel takes `w` of the bytes offered. -/
def writeTo (b : StreamBuffer) (w : Nat) : StreamBuffer :=
  if b.tail < b.head ∨ b.head < b.tail then
    optimize { b with tail := (b.tail + w) % b.length, tail_lt := Nat.mod_lt _ b.length_pos }
  else b

/-- `buffer.get(data, start, bytes.length)`. -/
def store (data : Nat → UInt8) (start : Nat) (bytes : List UInt8) : Nat → UInt8 :=
  fun i => if start ≤ i then bytes.getD (i - start) (data i) else data i

def readFrom (b : StreamBuffer) (buffer : List UInt8) : StreamBuffer :=
  let requested := min buffer.length b.remaining
  { b with
    data :=
      if requested ≤ b.length - b.head then store b.data b.head (buffer.take requested)
      else
        store (store b.data b.head (buffer.take (b.length - b.head))) 0
          ((buffer.drop (b.length - b.head)).take (b.head + requested - b.length))
    head := (b.head + requested) % b.length
    head_lt := Nat.mod_lt _ b.length_pos }

/-! The queue. -/

/-- The cell `offset` places after `start`. -/
def cell (length start offset : Nat) : Nat :=
  if start + offset < length then start + offset else start + offset - length

def contents (b : StreamBuffer) : List UInt8 :=
  (List.range b.size).map fun i => b.data (cell b.length b.tail i)

theorem mod_eq_cell {length start offset : Nat} (inside : start < length)
    (short : offset ≤ length) : (start + offset) % length = cell length start offset := by
  unfold cell
  split
  · rename_i below
    exact Nat.mod_eq_of_lt below
  · rename_i above
    rw [Nat.mod_eq_sub_mod (Nat.not_lt.mp above)]
    exact Nat.mod_eq_of_lt (by omega)

@[simp] theorem contents_length (b : StreamBuffer) : b.contents.length = b.size := by
  simp [contents]

theorem size_le_capacity (b : StreamBuffer) : b.size ≤ b.capacity := by
  have head := b.head_lt
  have tail := b.tail_lt
  unfold size capacity
  split <;> omega

theorem isEmpty_iff (b : StreamBuffer) : b.isEmpty = true ↔ b.contents = [] := by
  have head := b.head_lt
  have tail := b.tail_lt
  rw [← List.length_eq_zero_iff, contents_length]
  simp only [isEmpty, size, decide_eq_true_eq]
  split <;> omega

theorem contents_optimize (b : StreamBuffer) : b.optimize.contents = b.contents := by
  unfold optimize
  split
  · rename_i empty
    rw [(isEmpty_iff b).mp empty]
    rfl
  · rfl

theorem chunk_le_size (b : StreamBuffer) : b.chunk ≤ b.size := by
  have head := b.head_lt
  have tail := b.tail_lt
  unfold chunk size
  split <;> split <;> omega

theorem contents_writeTo (b : StreamBuffer) {w : Nat} (offered : w ≤ b.chunk) :
    (b.writeTo w).contents = b.contents.drop w := by
  have head := b.head_lt
  have tail := b.tail_lt
  unfold chunk at offered
  unfold writeTo
  split
  · have short : w ≤ b.length := by
      split at offered
      · omega
      · split at offered <;> omega
    have moved := mod_eq_cell tail short
    rw [contents_optimize]
    apply List.ext_getElem
    · simp only [contents_length, List.length_drop, size, moved, cell]
      split at offered <;> grind
    · intro i inside _
      simp only [contents, List.getElem_map, List.getElem_range, List.getElem_drop, moved]
      simp only [contents_length, size, moved, cell] at inside
      congr 1
      unfold cell
      grind
  · rename_i still
    rw [if_neg (fun less => still (.inl less)), if_neg (fun less => still (.inr less))] at offered
    rw [Nat.le_zero.mp offered, List.drop_zero]

section
variable {data : Nat → UInt8} {start i : Nat} {bytes : List UInt8}

theorem store_of_lt (before : i < start) : store data start bytes i = data i := by
  rw [store, if_neg (Nat.not_le.mpr before)]

theorem store_of_ge (after : start + bytes.length ≤ i) : store data start bytes i = data i := by
  rw [store, if_pos (by omega), List.getD_eq_getElem?_getD, List.getElem?_eq_none (by omega)]
  rfl

theorem store_inside (inside : i < bytes.length) :
    store data start bytes (start + i) = bytes[i] := by
  rw [store, if_pos (Nat.le_add_right _ _), Nat.add_sub_cancel_left, List.getD_eq_getElem?_getD,
    List.getElem?_eq_getElem inside]
  rfl

end

/-- The cells from `head` on hold what was read. -/
theorem readFrom_new (b : StreamBuffer) (buffer : List UInt8) {i : Nat} (inside : i < buffer.length)
    (room : i < b.remaining) :
    (b.readFrom buffer).data (cell b.length b.head i) = buffer[i] := by
  have head := b.head_lt
  have tail := b.tail_lt
  have requested : i < min buffer.length b.remaining := by omega
  have bound : min buffer.length b.remaining + b.size < b.length := by
    unfold remaining capacity
    have used := b.size_le_capacity
    unfold capacity at used
    omega
  simp only [readFrom]
  split
  · rename_i straight
    have here : cell b.length b.head i = b.head + i := if_pos (by omega)
    rw [here, store_inside (by simp; omega), List.getElem_take]
  · rename_i wraps
    by_cases first : b.head + i < b.length
    · have here : cell b.length b.head i = b.head + i := if_pos first
      rw [here, store_of_ge, store_inside (by simp; omega), List.getElem_take]
      simp only [List.length_take, List.length_drop]
      unfold size at bound
      split at bound <;> omega
    · have here : cell b.length b.head i = 0 + (b.head + i - b.length) := by
        rw [Nat.zero_add]
        exact if_neg first
      rw [here, store_inside (by simp; omega), List.getElem_take, List.getElem_drop]
      congr 1
      omega

/-- The cells from `tail` up to `head` hold what they held. -/
theorem readFrom_old (b : StreamBuffer) (buffer : List UInt8) {i : Nat} (inside : i < b.size) :
    (b.readFrom buffer).data (cell b.length b.tail i) = b.data (cell b.length b.tail i) := by
  have head := b.head_lt
  have tail := b.tail_lt
  have bound : min buffer.length b.remaining + b.size < b.length := by
    unfold remaining capacity
    have used := b.size_le_capacity
    unfold capacity at used
    omega
  unfold size at inside bound
  have apart : cell b.length b.tail i < b.head ∨
      b.head + min buffer.length b.remaining ≤ cell b.length b.tail i := by
    unfold cell
    by_cases less : b.head < b.tail
    · rw [if_pos less] at inside bound
      split <;> omega
    · rw [if_neg less] at inside
      split <;> omega
  simp only [readFrom]
  split
  · rcases apart with before | after
    · exact store_of_lt before
    · exact store_of_ge (by simp; omega)
  · rename_i wraps
    have ordered : ¬ b.head < b.tail := by
      intro less
      rw [if_pos less] at bound
      omega
    have here : cell b.length b.tail i = b.tail + i :=
      if_pos (by rw [if_neg ordered] at inside; omega)
    rw [if_neg ordered] at inside bound
    rw [here, store_of_ge, store_of_lt (by omega)]
    simp only [List.length_take, List.length_drop]
    omega

theorem size_readFrom (b : StreamBuffer) (buffer : List UInt8) :
    (b.readFrom buffer).size = b.size + min buffer.length b.remaining := by
  have head := b.head_lt
  have tail := b.tail_lt
  have used := b.size_le_capacity
  have moved := @mod_eq_cell _ _ (min buffer.length b.remaining) head (by
    unfold remaining capacity
    omega)
  simp only [readFrom, size, moved]
  simp only [remaining, capacity, size] at used ⊢
  generalize buffer.length = n
  unfold cell
  grind

theorem contents_readFrom (b : StreamBuffer) (buffer : List UInt8) :
    (b.readFrom buffer).contents = b.contents ++ buffer.take b.remaining := by
  have head := b.head_lt
  have tail := b.tail_lt
  apply List.ext_getElem
  · simp only [contents_length, size_readFrom, List.length_append, List.length_take]
    omega
  · intro i inside _
    rw [contents_length, size_readFrom] at inside
    by_cases old : i < b.size
    · rw [List.getElem_append_left (by simpa using old)]
      simp only [contents, List.getElem_map, List.getElem_range]
      exact readFrom_old b buffer old
    · rw [List.getElem_append_right (by simpa using old), List.getElem_take]
      simp only [contents, List.getElem_map, List.getElem_range, List.length_map,
        List.length_range]
      rw [← readFrom_new b buffer (i := i - b.size) (by omega) (by omega)]
      have same : cell b.length b.tail i = cell b.length b.head (i - b.size) := by
        have used := b.size_le_capacity
        simp only [remaining, capacity] at inside used
        unfold cell
        simp only [size] at old inside used ⊢
        grind
      exact congrArg (b.readFrom buffer).data same

end StreamBuffer
end QuestVdWired.Relay
