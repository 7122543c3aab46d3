import QuestVdWired.Wire.Codec
import Mathlib.Data.List.GetD

/-!
Java's byte arrays and the heap buffers of `java.nio`, with the exceptions their accesses throw.
A view is not told apart from a copy: nothing here is written through one.
-/

namespace Java
open Wire

inductive Throwable
  | arrayIndexOutOfBounds
  | indexOutOfBounds
  | illegalArgument
  | bufferOverflow
  | bufferUnderflow
  | assertionError
  | ioException
  | classCast
  | arithmetic
  | negativeArraySize
  | nullPointer
  deriving DecidableEq, Repr

abbrev Result := Except Throwable

/-- `array[index]`. -/
def load (array : List UInt8) (index : Nat) : Result UInt8 :=
  match array[index]? with
  | some byte => .ok byte
  | none => .error .arrayIndexOutOfBounds

/-- The bytes of the array from `start` on are overwritten. -/
def overwrite (array : List UInt8) (start : Nat) (bytes : List UInt8) : List UInt8 :=
  array.take start ++ bytes ++ array.drop (start + bytes.length)

/-- `array[index] = byte`. -/
def store (array : List UInt8) (index : Nat) (byte : UInt8) : Result (List UInt8) :=
  if index < array.length then .ok (overwrite array index [byte])
  else .error .arrayIndexOutOfBounds

/-- A bulk copy into the array. -/
def copyInto (array : List UInt8) (start : Nat) (bytes : List UInt8) : Result (List UInt8) :=
  if start + bytes.length ≤ array.length then .ok (overwrite array start bytes)
  else .error .indexOutOfBounds

/-- The array holds the bytes from `start` on. -/
def At (array : List UInt8) (start : Nat) (bytes : List UInt8) : Prop :=
  (array.drop start).take bytes.length = bytes

section
variable {array bytes more : List UInt8} {start index : Nat}

theorem overwrite_length (fits : start + bytes.length ≤ array.length) :
    (overwrite array start bytes).length = array.length := by
  simp only [overwrite, List.length_append, List.length_take, List.length_drop]
  omega

theorem At.le (h : At array start bytes) : start + bytes.length ≤ array.length ∨ bytes = [] := by
  have length := congrArg List.length h
  simp only [List.length_take, List.length_drop] at length
  rcases bytes with _ | ⟨byte, bytes⟩
  · exact .inr rfl
  · left
    simp only [List.length_cons] at length ⊢
    omega

theorem at_nil : At array start [] := rfl

/-- Two stretches, one behind the other. -/
theorem at_append :
    At array start (bytes ++ more) ↔
      At array start bytes ∧ At array (start + bytes.length) more := by
  unfold At
  rw [List.length_append, List.take_add, List.drop_drop]
  constructor
  · intro both
    by_cases short : bytes.length ≤ (array.drop start).length
    · exact List.append_inj both (by rw [List.length_take]; omega)
    · have length := congrArg List.length both
      simp only [List.length_append, List.length_take, List.length_drop] at length short
      omega
  · rintro ⟨first, second⟩
    rw [first, second]

theorem at_tail {byte : UInt8} (stored : At array start (byte :: more)) :
    At array (start + 1) more := by
  rw [← List.singleton_append, at_append] at stored
  exact stored.2

theorem at_overwrite (fits : start + bytes.length ≤ array.length) :
    At (overwrite array start bytes) start bytes := by
  have before : (array.take start).length = start := by
    rw [List.length_take]
    omega
  rw [At, overwrite, List.append_assoc, List.drop_append_of_le_length (by omega),
    List.drop_eq_nil_of_le (by omega), List.nil_append, List.take_left]

/-- What stands before the bytes overwritten. -/
theorem At.overwrite_after (h : At array start bytes) (behind : start + bytes.length ≤ index)
    (fits : index ≤ array.length) : At (overwrite array index more) start bytes := by
  rw [At, overwrite, List.append_assoc, List.drop_append_of_le_length
      (by rw [List.length_take]; omega),
    List.take_append_of_le_length (by rw [List.length_drop, List.length_take]; omega),
    List.drop_take, List.take_take, Nat.min_eq_left (by omega)]
  exact h

/-- What stands behind them. -/
theorem At.overwrite_before (h : At array start bytes) (ahead : index + more.length ≤ start)
    (fits : index + more.length ≤ array.length) :
    At (overwrite array index more) start bytes := by
  have length : (array.take index ++ more).length = index + more.length := by
    rw [List.length_append, List.length_take]
    omega
  have skip : index + more.length + (start - (index + more.length)) = start := by omega
  rw [At, overwrite, List.drop_append, List.drop_eq_nil_of_le (by omega), List.nil_append, length,
    List.drop_drop, skip]
  exact h

/-- Two copies, one behind the other. -/
theorem overwrite_overwrite (fits : start + bytes.length ≤ array.length) :
    overwrite (overwrite array start bytes) (start + bytes.length) more =
      overwrite array start (bytes ++ more) := by
  have length : (array.take start ++ bytes).length = start + bytes.length := by
    rw [List.length_append, List.length_take]
    omega
  have first : (overwrite array start bytes).take (start + bytes.length) =
      array.take start ++ bytes := by
    rw [overwrite, ← length, List.take_left]
  have rest : (overwrite array start bytes).drop (start + bytes.length + more.length) =
      array.drop (start + bytes.length + more.length) := by
    rw [overwrite, List.drop_append, List.drop_eq_nil_of_le (by omega), List.nil_append, length,
      List.drop_drop]
    congr 1
    omega
  rw [overwrite, first, rest, overwrite, List.length_append, ← List.append_assoc, Nat.add_assoc]

theorem load_at {byte : UInt8} (h : At array index (byte :: more)) :
    load array index = .ok byte := by
  have here : array[index]? = some byte := by
    rw [← List.head?_drop]
    unfold At at h
    cases rest : array.drop index with
    | nil => simp [rest] at h
    | cons first rest' =>
        rw [rest] at h
        simp only [List.length_cons, List.take_succ_cons, List.cons.injEq] at h
        rw [h.1]
        rfl
  simp [load, here]

end
/-- A heap buffer: its accesses stay below the limit, and the limit within the bytes. -/
structure ByteBuffer where
  bytes : List UInt8
  position : Nat
  limit : Nat
  position_le : position ≤ limit
  limit_le : limit ≤ bytes.length

namespace ByteBuffer

def wrap (bytes : List UInt8) : ByteBuffer := ⟨bytes, 0, bytes.length, Nat.zero_le _, Nat.le_refl _⟩

def allocate (capacity : Nat) : ByteBuffer := wrap (List.replicate capacity 0)

section
variable (b : ByteBuffer)

def capacity : Nat := b.bytes.length

def remaining : Nat := b.limit - b.position

/-- What stands between the position and the limit. -/
def window : List UInt8 := (b.bytes.take b.limit).drop b.position

/-- What stands before the position. -/
def written : List UInt8 := b.bytes.take b.position

/-- `limit(newLimit)`. -/
def setLimit (newLimit : Nat) : Result ByteBuffer :=
  if fits : newLimit ≤ b.capacity then
    .ok ⟨b.bytes, min b.position newLimit, newLimit, Nat.min_le_right _ _, fits⟩
  else .error .illegalArgument

/-- `position(newPosition)`. -/
def setPosition (newPosition : Nat) : Result ByteBuffer :=
  if fits : newPosition ≤ b.limit then .ok ⟨b.bytes, newPosition, b.limit, fits, b.limit_le⟩
  else .error .illegalArgument

def flip : ByteBuffer :=
  ⟨b.bytes, 0, b.position, Nat.zero_le _, Nat.le_trans b.position_le b.limit_le⟩

def clear : ByteBuffer := wrap b.bytes

def rewind : ByteBuffer := ⟨b.bytes, 0, b.limit, Nat.zero_le _, b.limit_le⟩

def slice : ByteBuffer := wrap b.window

theorem window_length : b.window.length = b.remaining := by
  have bound := b.limit_le
  simp only [window, remaining, List.length_drop, List.length_take]
  omega

theorem remaining_le : b.remaining ≤ b.bytes.length := by
  have bound := b.limit_le
  unfold remaining
  omega

/-- The window goes to the front, and the position behind it. -/
def compact : ByteBuffer where
  bytes := overwrite b.bytes 0 b.window
  position := b.remaining
  limit := b.capacity
  position_le := b.remaining_le
  limit_le := by
    rw [overwrite_length (by rw [window_length, Nat.zero_add]; exact b.remaining_le)]
    exact Nat.le_refl _

/-- A bulk put at the position. -/
def put (source : List UInt8) : Result ByteBuffer :=
  if fits : source.length ≤ b.remaining then
    .ok
      { bytes := overwrite b.bytes b.position source
        position := b.position + source.length
        limit := b.limit
        position_le := by
          have bound := b.position_le
          unfold remaining at fits
          omega
        limit_le := by
          have bound := b.position_le
          have bound' := b.limit_le
          unfold remaining at fits
          rw [overwrite_length (by omega)]
          exact bound' }
  else .error .bufferOverflow

/-- `get(dst, 0, length)` into an array that is long enough. -/
def getArray (length : Int) : Result (List UInt8 × ByteBuffer) :=
  if length < 0 then .error .indexOutOfBounds
  else if fits : length.toNat ≤ b.remaining then
    .ok (b.window.take length.toNat,
      { b with
        position := b.position + length.toNat
        position_le := by
          have bound := b.position_le
          unfold remaining at fits
          omega })
  else .error .bufferUnderflow

/-- `get(index)`. -/
def get (index : Nat) : Result UInt8 :=
  match (b.bytes.take b.limit)[index]? with
  | some byte => .ok byte
  | none => .error .indexOutOfBounds

/-- `getShort(index)`, unsigned. -/
def getShort (index : Nat) : Result Nat :=
  if index + 2 ≤ b.limit then .ok (bigEndian ((b.bytes.drop index).take 2))
  else .error .indexOutOfBounds

/-- `getInt(index)`, unsigned. -/
def getInt (index : Nat) : Result Nat :=
  if index + 4 ≤ b.limit then .ok (bigEndian ((b.bytes.drop index).take 4))
  else .error .indexOutOfBounds

end

variable {b b' : ByteBuffer} {source : List UInt8}

@[simp] theorem capacity_wrap (bytes : List UInt8) : (wrap bytes).capacity = bytes.length := rfl

@[simp] theorem limit_wrap (bytes : List UInt8) : (wrap bytes).limit = bytes.length := rfl

@[simp] theorem window_wrap (bytes : List UInt8) : (wrap bytes).window = bytes := by
  simp [window, wrap]

@[simp] theorem window_flip : b.flip.window = b.written := by
  simp [window, flip, written]

@[simp] theorem capacity_flip : b.flip.capacity = b.capacity := rfl

@[simp] theorem written_compact : b.compact.written = b.window := by
  simp only [written, compact, overwrite, List.take_zero, List.nil_append]
  rw [← window_length, List.take_left]

@[simp] theorem capacity_compact : b.compact.capacity = b.capacity := by
  have room : 0 + b.window.length ≤ b.bytes.length := by
    rw [window_length, Nat.zero_add]
    exact b.remaining_le
  rw [compact, capacity, overwrite_length room]
  rfl

@[simp] theorem capacity_rewind : b.rewind.capacity = b.capacity := rfl

/-- What was read is to be read again. -/
theorem window_rewind : b.rewind.window = b.written ++ b.window := by
  have bound := b.position_le
  have front : b.written = (b.bytes.take b.limit).take b.position := by
    rw [written, List.take_take, Nat.min_eq_left bound]
  rw [front, window, window, List.take_append_drop]
  rfl

theorem written_length : b.written.length = b.position := by
  have bound := b.position_le
  have bound' := b.limit_le
  rw [written, List.length_take]
  omega

theorem get_eq_ok {index : Nat} {byte : UInt8} :
    b.get index = .ok byte ↔ index < b.limit ∧ byte = b.bytes.getD index 0 := by
  have bound := b.limit_le
  unfold get
  by_cases inside : index < b.limit
  · have found : (b.bytes.take b.limit)[index]? = some (b.bytes.getD index 0) := by
      rw [List.getElem?_take_of_lt inside, List.getElem?_eq_getElem (by omega),
        List.getD_eq_getElem _ _ (by omega)]
    simp [found, inside, eq_comm]
  · have missing : (b.bytes.take b.limit)[index]? = none := by
      rw [List.getElem?_eq_none_iff, List.length_take]
      omega
    simp only [missing, inside, false_and, reduceCtorEq]

theorem getShort_eq_ok {index value : Nat} :
    b.getShort index = .ok value ↔
      index + 2 ≤ b.limit ∧ value = bigEndian ((b.bytes.drop index).take 2) := by
  unfold getShort
  by_cases inside : index + 2 ≤ b.limit <;> simp [inside, eq_comm]

theorem getInt_eq_ok {index value : Nat} :
    b.getInt index = .ok value ↔
      index + 4 ≤ b.limit ∧ value = bigEndian ((b.bytes.drop index).take 4) := by
  unfold getInt
  by_cases inside : index + 4 ≤ b.limit <;> simp [inside, eq_comm]

/-- The bytes and the two marks are all there is of a buffer. -/
theorem eq_of_marks (bytes : b.bytes = b'.bytes) (position : b.position = b'.position)
    (limit : b.limit = b'.limit) : b = b' := by
  obtain ⟨_, _, _, _, _⟩ := b
  obtain ⟨_, _, _, _, _⟩ := b'
  simp only at bytes position limit
  subst bytes position limit
  rfl

theorem setLimit_eq_ok {newLimit : Nat} :
    b.setLimit newLimit = .ok b' ↔
      newLimit ≤ b.capacity ∧ b'.bytes = b.bytes ∧ b'.limit = newLimit ∧
        b'.position = min b.position newLimit := by
  unfold setLimit
  by_cases fits : newLimit ≤ b.capacity
  · rw [dif_pos fits]
    constructor
    · intro same
      cases same
      exact ⟨fits, rfl, rfl, rfl⟩
    · rintro ⟨_, bytes, limit, position⟩
      exact congrArg Except.ok (eq_of_marks bytes.symm position.symm limit.symm)
  · simp [fits]

theorem setPosition_eq_ok {newPosition : Nat} :
    b.setPosition newPosition = .ok b' ↔
      newPosition ≤ b.limit ∧ b'.bytes = b.bytes ∧ b'.limit = b.limit ∧
        b'.position = newPosition := by
  unfold setPosition
  by_cases fits : newPosition ≤ b.limit
  · rw [dif_pos fits]
    constructor
    · intro same
      cases same
      exact ⟨fits, rfl, rfl, rfl⟩
    · rintro ⟨_, bytes, limit, position⟩
      exact congrArg Except.ok (eq_of_marks bytes.symm position.symm limit.symm)
  · simp [fits]

/-- What is got goes from the window to what stands before the position. -/
theorem getArray_eq {length : Nat} (fits : length ≤ b.remaining) :
    ∃ b', b.getArray length = .ok (b.window.take length, b') ∧
      b'.written = b.written ++ b.window.take length ∧ b'.window = b.window.drop length ∧
      b'.capacity = b.capacity := by
  have bound := b.position_le
  rw [getArray, if_neg (by omega), dif_pos (by simpa using fits)]
  unfold remaining at fits
  refine ⟨_, rfl, ?_, ?_, rfl⟩
  · simp only [written, window, Int.toNat_natCast]
    rw [List.take_add, List.drop_take, List.take_take, Nat.min_eq_left fits]
  · simp only [window, Int.toNat_natCast, List.drop_drop]

/-- A put that fits goes behind what was written. -/
theorem put_eq (fits : source.length ≤ b.remaining) :
    ∃ b', b.put source = .ok b' ∧ b'.written = b.written ++ source ∧ b'.limit = b.limit ∧
      b'.capacity = b.capacity := by
  have bound := b.position_le
  have bound' := b.limit_le
  rw [put, dif_pos fits]
  unfold remaining at fits
  refine ⟨_, rfl, ?_, rfl, overwrite_length (by omega)⟩
  have length : (b.bytes.take b.position ++ source).length = b.position + source.length := by
    rw [List.length_append, List.length_take]
    omega
  simp only [written, overwrite]
  rw [← length, List.take_left]

end ByteBuffer
end Java
