import QuestVdWired.Java.Arithmetic
import QuestVdWired.Java.ByteBuffer
import QuestVdWired.Relay.StreamBuffer
import QuestVdWired.Transition.System

/-!
`StreamBuffer.java` down to its array and its `int`s, as a refinement of `StreamBuffer`: an
access outside of the array throws, and sums wrap. As long as no sum of the head and a number of
bytes does, the buffer is a bounded queue.
-/

namespace QuestVdWired.Relay
open Java Transition

structure StreamArray where
  data : List UInt8
  head : Int32
  tail : Int32

namespace StreamArray

def create (capacity : Int32) : Result StreamArray :=
  if capacity + 1 < 0 then .error .negativeArraySize
  else .ok ⟨List.replicate (capacity + 1).toNatClampNeg 0, 0, 0⟩

section
variable (b : StreamArray)

/-- `data.length`. -/
def dataLength : Int32 := .ofNat b.data.length

/-- `value % data.length`. -/
def wrap (value : Int32) : Result Int32 :=
  if b.dataLength = 0 then .error .arithmetic else .ok (value % b.dataLength)

def isEmpty : Bool := b.head = b.tail

def isFull : Result Bool := do
  let next ← b.wrap (b.head + 1)
  return next = b.tail

def size : Int32 := if b.head < b.tail then b.head + b.dataLength - b.tail else b.head - b.tail

def capacity : Int32 := b.dataLength - 1

def remaining : Int32 := b.capacity - b.size

def optimize : StreamArray := if b.isEmpty then { b with head := 0, tail := 0 } else b

/-- `wrapper.limit(limit).position(position)`: what the wrapper had before does not matter. -/
def wrapper (limit position : Int32) : Result ByteBuffer :=
  if limit < 0 then .error .illegalArgument
  else do
    let buffer ← (ByteBuffer.wrap b.data).setLimit limit.toNatClampNeg
    if position < 0 then .error .illegalArgument else buffer.setPosition position.toNatClampNeg

/-- `writeTo`, where the channel takes no more than `accepts` bytes; what it took comes first. -/
def writeTo (accepts : Nat) : Result (List UInt8 × StreamArray) :=
  if b.tail < b.head then do
    let wrapper ← b.wrapper b.head b.tail
    let w := min accepts wrapper.remaining
    return (wrapper.window.take w, optimize { b with tail := .ofNat (wrapper.position + w) })
  else if b.head < b.tail then do
    let wrapper ← b.wrapper b.dataLength b.tail
    let w := min accepts wrapper.remaining
    let tail ← b.wrap (.ofNat (wrapper.position + w))
    return (wrapper.window.take w, optimize { b with tail })
  else .ok ([], b)

end

/-- `buffer.get(data, offset, length)`, with what is left in the buffer. -/
def get (buffer data : List UInt8) (offset length : Int32) : Result (List UInt8 × List UInt8) :=
  if offset < 0 ∨ length < 0 ∨ data.length < offset.toNatClampNeg + length.toNatClampNeg then
    .error .indexOutOfBounds
  else if buffer.length < length.toNatClampNeg then .error .bufferUnderflow
  else
    .ok (overwrite data offset.toNatClampNeg (buffer.take length.toNatClampNeg),
      buffer.drop length.toNatClampNeg)

/-- The one or two copies of `readFrom`. -/
def copy (b : StreamArray) (buffer : List UInt8) (requested : Int32) :
    Result (List UInt8 × List UInt8) :=
  if requested ≤ b.dataLength - b.head then get buffer b.data b.head requested
  else do
    let (data, buffer) ← get buffer b.data b.head (b.dataLength - b.head)
    get buffer data 0 (b.head + requested - b.dataLength)

/-- `readFrom`, with what is left in the buffer. -/
def readFrom (b : StreamArray) (buffer : List UInt8) : Result (List UInt8 × StreamArray) := do
  let requested := Math.min (.ofNat buffer.length) b.remaining
  let (data, buffer) ← b.copy buffer requested
  let head ← b.wrap (b.head + requested)
  return (buffer, { b with data, head })

/-- The cells from the tail up to the head. -/
def contents (b : StreamArray) : List UInt8 :=
  if b.head < b.tail then b.data.drop b.tail.toNatClampNeg ++ b.data.take b.head.toNatClampNeg
  else (b.data.take b.head.toNatClampNeg).drop b.tail.toNatClampNeg

end StreamArray

/-- The bytes in a buffer: their number is an `int`. -/
abbrev Source := { bytes : List UInt8 // bytes.length < 2 ^ 31 }

inductive StreamAction
  | readFrom (buffer : Source)
  | writeTo (accepts : Nat)

/-- The buffer with the bytes it accepted and those the channel took. -/
structure Stream where
  buffer : StreamArray
  accepted : List UInt8
  written : List UInt8

/-- A call, `none` if it throws. -/
def Stream.step (s : Stream) : StreamAction → Option Stream
  | .readFrom source =>
      match s.buffer.readFrom source with
      | .ok (left, buffer) =>
          some ⟨buffer, s.accepted ++ source.1.take (source.1.length - left.length), s.written⟩
      | .error _ => none
  | .writeTo accepts =>
      match s.buffer.writeTo accepts with
      | .ok (taken, buffer) => some ⟨buffer, s.accepted, s.written ++ taken⟩
      | .error _ => none

def streamSystem (buffer : StreamArray) : System Stream StreamAction where
  init := ⟨buffer, [], []⟩
  step action s := s.step action

/-- The bounded queue. -/
structure Stream.Fifo (capacity : Int32) (s : Stream) : Prop where
  head : 0 ≤ s.buffer.head ∧ s.buffer.head < s.buffer.dataLength
  tail : 0 ≤ s.buffer.tail ∧ s.buffer.tail < s.buffer.dataLength
  order : s.written ++ s.buffer.contents = s.accepted
  size : s.buffer.size.toInt = s.buffer.contents.length
  remaining : s.buffer.remaining.toInt = capacity.toInt - s.buffer.contents.length
  isEmpty : s.buffer.isEmpty = true ↔ s.buffer.contents = []
  isFull : ∃ full, s.buffer.isFull = .ok full ∧
    (full = true ↔ s.buffer.contents.length = capacity.toInt)
  reads : ∀ source : Source, ∃ left b, s.buffer.readFrom source = .ok (left, b) ∧
    left = source.1.drop (min source.1.length s.buffer.remaining.toNatClampNeg)
  writes : ∀ accepts, ∃ taken b, s.buffer.writeTo accepts = .ok (taken, b) ∧
    taken.length ≤ accepts

/-! The refinement. -/

structure StreamArray.Represents (a : StreamArray) (s : StreamBuffer) : Prop where
  length : a.data.length = s.length
  data : s.data = fun i => a.data.getD i 0
  head : a.head.toInt = s.head
  tail : a.tail.toInt = s.tail
  small : s.length < 2 ^ 31

namespace StreamArray
variable {a b : StreamArray} {s : StreamBuffer}

theorem toNatClampNeg_of {x : Int32} {n : Nat} (same : x.toInt = n) : x.toNatClampNeg = n := by
  rw [Int32.toNatClampNeg, same, Int.toNat_natCast]

namespace Represents

theorem dataLength (r : a.Represents s) : a.dataLength.toInt = s.length := by
  have small := r.small
  rw [StreamArray.dataLength, r.length]
  exact Int32.toInt_ofNat_of_lt small

theorem head_lt (r : a.Represents s) : 0 ≤ a.head ∧ a.head < a.dataLength := by
  have inside := s.head_lt
  rw [Int32.le_iff_toInt_le, Int32.lt_iff_toInt_lt, r.head, r.dataLength]
  exact ⟨Int.natCast_nonneg _, by omega⟩

theorem tail_lt (r : a.Represents s) : 0 ≤ a.tail ∧ a.tail < a.dataLength := by
  have inside := s.tail_lt
  rw [Int32.le_iff_toInt_le, Int32.lt_iff_toInt_lt, r.tail, r.dataLength]
  exact ⟨Int.natCast_nonneg _, by omega⟩

theorem lt_iff (r : a.Represents s) : a.head < a.tail ↔ s.head < s.tail := by
  rw [Int32.lt_iff_toInt_lt, r.head, r.tail, Int.ofNat_lt]

theorem size (r : a.Represents s) : a.size.toInt = s.size := by
  have small := r.small
  have head := s.head_lt
  have tail := s.tail_lt
  unfold StreamArray.size StreamBuffer.size
  by_cases less : s.head < s.tail
  · rw [if_pos (r.lt_iff.mpr less), if_pos less, Int32.toInt_sub, Int32.toInt_add,
      Int.bmod_sub_bmod, r.head, r.tail, r.dataLength]
    exact (Int.bmod_eq_of_le (by omega) (by omega)).trans (by omega)
  · rw [if_neg (fun other => less (r.lt_iff.mp other)), if_neg less,
      toInt_sub_of_fits (by rw [r.head, r.tail]; omega) (by rw [r.head, r.tail]; omega), r.head,
      r.tail]
    omega

theorem remaining (r : a.Represents s) : a.remaining.toInt = s.remaining := by
  have small := r.small
  have pos := s.length_pos
  have used := s.size_le_capacity
  have capacity : a.capacity.toInt = s.capacity := by
    have one : (1 : Int32).toInt = 1 := rfl
    rw [StreamArray.capacity, toInt_sub_of_fits (by rw [r.dataLength, one]; omega)
      (by rw [r.dataLength, one]; omega), r.dataLength, one, StreamBuffer.capacity]
    omega
  unfold StreamBuffer.capacity at used
  rw [StreamArray.remaining,
    toInt_sub_of_fits (by rw [capacity, r.size, StreamBuffer.capacity]; omega)
    (by rw [capacity, r.size, StreamBuffer.capacity]; omega), capacity, r.size,
    StreamBuffer.remaining, StreamBuffer.capacity]
  omega

theorem isEmpty (r : a.Represents s) : a.isEmpty = s.isEmpty := by
  rw [StreamArray.isEmpty, StreamBuffer.isEmpty, decide_eq_decide, ← Int32.toInt_inj, r.head, r.tail,
    Int.ofNat_inj]

theorem wrap (r : a.Represents s) {value : Int32} {n : Nat} (same : value.toInt = n) :
    ∃ wrapped, a.wrap value = .ok wrapped ∧ wrapped.toInt = (n % s.length : Nat) := by
  have pos := s.length_pos
  have nonzero : a.dataLength ≠ 0 := by
    intro zero
    have length := r.dataLength
    rw [zero, Int32.toInt_zero] at length
    omega
  refine ⟨_, if_neg nonzero, ?_⟩
  rw [Int32.toInt_mod, same, r.dataLength]
  rfl

theorem contents (r : a.Represents s) : a.contents = s.contents := by
  have head := s.head_lt
  have tail := s.tail_lt
  have length := r.length
  have cell {i : Nat} (inside : i < a.data.length) : a.data[i] = s.data i := by
    rw [r.data]
    exact (List.getD_eq_getElem _ _ inside).symm
  rw [StreamArray.contents, toNatClampNeg_of r.head, toNatClampNeg_of r.tail]
  by_cases less : s.head < s.tail
  · rw [if_pos (r.lt_iff.mpr less)]
    have size : s.size = s.head + s.length - s.tail := if_pos less
    apply List.ext_getElem
    · rw [StreamBuffer.contents_length, size, List.length_append, List.length_drop,
        List.length_take]
      omega
    · intro i _ inside
      rw [StreamBuffer.contents_length, size] at inside
      simp only [StreamBuffer.contents, List.getElem_map, List.getElem_range, StreamBuffer.cell]
      by_cases first : s.tail + i < s.length
      · rw [if_pos first, List.getElem_append_left (by rw [List.length_drop]; omega),
          List.getElem_drop]
        exact cell (by omega)
      · rw [if_neg first, List.getElem_append_right (by rw [List.length_drop]; omega),
          List.getElem_take, ← cell (by omega)]
        congr 1
        rw [List.length_drop]
        omega
  · rw [if_neg (fun other => less (r.lt_iff.mp other))]
    have size : s.size = s.head - s.tail := if_neg less
    apply List.ext_getElem
    · rw [StreamBuffer.contents_length, size, List.length_drop, List.length_take]
      omega
    · intro i _ inside
      rw [StreamBuffer.contents_length, size] at inside
      have straight : s.tail + i < s.length := by omega
      simp only [StreamBuffer.contents, List.getElem_map, List.getElem_range, StreamBuffer.cell]
      rw [if_pos straight, List.getElem_drop, List.getElem_take]
      exact cell (by omega)

theorem isFull (r : a.Represents s) :
    ∃ full, a.isFull = .ok full ∧ (full = true ↔ s.size = s.capacity) := by
  have small := r.small
  have head := s.head_lt
  have tail := s.tail_lt
  have one : (1 : Int32).toInt = 1 := rfl
  have next : (a.head + 1).toInt = (s.head + 1 : Nat) := by
    rw [toInt_add_of_fits (by rw [r.head, one]; omega) (by rw [r.head, one]; omega), r.head, one]
    rfl
  obtain ⟨wrapped, asked, same⟩ := r.wrap next
  refine ⟨wrapped = a.tail, ?_, ?_⟩
  · rw [StreamArray.isFull, asked]
    rfl
  · rw [decide_eq_true_iff, ← Int32.toInt_inj, same, r.tail, Int.ofNat_inj,
      StreamBuffer.mod_eq_cell head (by omega)]
    unfold StreamBuffer.cell StreamBuffer.size StreamBuffer.capacity
    by_cases less : s.head < s.tail
    · rw [if_pos less]
      split <;> omega
    · rw [if_neg less]
      split <;> omega

theorem optimize (r : a.Represents s) : a.optimize.Represents s.optimize := by
  unfold StreamArray.optimize StreamBuffer.optimize
  rw [r.isEmpty]
  split
  · exact ⟨r.length, r.data, rfl, rfl, r.small⟩
  · exact r

theorem wrapper (r : a.Represents s) {limit : Int32} {n : Nat} (same : limit.toInt = n)
    (below : s.tail ≤ n) (fits : n ≤ s.length) :
    ∃ wrapper, a.wrapper limit a.tail = .ok wrapper ∧ wrapper.position = s.tail ∧
      wrapper.remaining = n - s.tail ∧ wrapper.window = (a.data.take n).drop s.tail := by
  have nonneg : ¬ limit < 0 := by
    rw [Int32.lt_iff_toInt_lt, same, Int32.toInt_zero]
    omega
  have length := r.length
  obtain ⟨buffer, limited⟩ : ∃ buffer, (ByteBuffer.wrap a.data).setLimit n = .ok buffer :=
    ⟨_, dif_pos (by rw [ByteBuffer.capacity_wrap]; omega)⟩
  obtain ⟨_, bytes, upTo, _⟩ := ByteBuffer.setLimit_eq_ok.mp limited
  obtain ⟨buffer', placed⟩ : ∃ buffer', buffer.setPosition s.tail = .ok buffer' :=
    ⟨_, dif_pos (by omega)⟩
  obtain ⟨_, bytes', upTo', position⟩ := ByteBuffer.setPosition_eq_ok.mp placed
  refine ⟨buffer', ?_, position, ?_, ?_⟩
  · rw [StreamArray.wrapper, if_neg nonneg, toNatClampNeg_of same, limited,
      toNatClampNeg_of r.tail]
    exact (if_neg (Int32.not_lt.mpr r.tail_lt.1)).trans placed
  · rw [ByteBuffer.remaining, upTo', upTo, position]
  · rw [ByteBuffer.window, bytes', bytes, upTo', upTo, position]
    rfl

theorem writeTo (r : a.Represents s) (accepts : Nat) :
    ∃ b, a.writeTo accepts = .ok (s.contents.take (min accepts s.chunk), b) ∧
      b.Represents (s.writeTo (min accepts s.chunk)) := by
  have small := r.small
  have head := s.head_lt
  have tail := s.tail_lt
  have length := r.length
  have behind : a.tail < a.head ↔ s.tail < s.head := by
    rw [Int32.lt_iff_toInt_lt, r.head, r.tail, Int.ofNat_lt]
  have held := r.contents
  rw [StreamArray.contents, toNatClampNeg_of r.head, toNatClampNeg_of r.tail] at held
  unfold StreamArray.writeTo StreamBuffer.writeTo
  by_cases straight : s.tail < s.head
  · obtain ⟨wrapper, asked, position, remaining, window⟩ :=
      r.wrapper r.head (Nat.le_of_lt straight) (Nat.le_of_lt head)
    have chunk : s.chunk = s.head - s.tail := if_pos straight
    rw [if_neg (fun other => by have := r.lt_iff.mp other; omega), ← window] at held
    have moved : (Int32.ofNat (s.tail + min accepts s.chunk)).toInt =
        ((s.tail + min accepts s.chunk) % s.length : Nat) := by
      rw [Int32.toInt_ofNat_of_lt (by omega), Nat.mod_eq_of_lt (by omega)]
    rw [if_pos (behind.mpr straight), if_pos (.inl straight), asked]
    refine ⟨_, ?_, @Represents.optimize { a with tail := .ofNat (s.tail + min accepts s.chunk) } _
      ⟨length, r.data, r.head, moved, small⟩⟩
    simp only [bind, Except.bind, pure, Except.pure, remaining, ← chunk, position, held]
  · rw [if_neg (fun other => straight (behind.mp other))]
    by_cases wraps : s.head < s.tail
    · obtain ⟨wrapper, asked, position, remaining, window⟩ :=
        r.wrapper r.dataLength (Nat.le_of_lt tail) (Nat.le_refl _)
      have chunk : s.chunk = s.length - s.tail := (if_neg straight).trans (if_pos wraps)
      have end' : (Int32.ofNat (s.tail + min accepts s.chunk)).toInt =
          (s.tail + min accepts s.chunk : Nat) := Int32.toInt_ofNat_of_lt (by omega)
      obtain ⟨wrapped, modulo, moved⟩ := r.wrap end'
      rw [if_pos (r.lt_iff.mpr wraps)] at held
      rw [← length, List.take_length] at window
      rw [if_pos (r.lt_iff.mpr wraps), if_pos (.inr wraps), asked]
      refine ⟨_, ?_, @Represents.optimize { a with tail := wrapped } _
        ⟨length, r.data, r.head, moved, small⟩⟩
      simp only [bind, Except.bind, pure, Except.pure, remaining, ← chunk, position, modulo, ← held,
        window]
      rw [List.take_append_of_le_length (by rw [List.length_drop]; omega)]
    · have chunk : s.chunk = 0 := (if_neg straight).trans (if_neg wraps)
      rw [if_neg (fun other => wraps (r.lt_iff.mp other)), if_neg (by omega), chunk, Nat.min_zero,
        List.take_zero]
      exact ⟨a, rfl, r⟩

end Represents

theorem get_eq {buffer data : List UInt8} {offset length : Int32} {start count : Nat}
    (from' : offset.toInt = start) (long : length.toInt = count)
    (fits : start + count ≤ data.length) (there : count ≤ buffer.length) :
    get buffer data offset length =
      .ok (overwrite data start (buffer.take count), buffer.drop count) := by
  have inside : ¬ (offset < 0 ∨ length < 0 ∨
      data.length < offset.toNatClampNeg + length.toNatClampNeg) := by
    rw [Int32.lt_iff_toInt_lt, Int32.lt_iff_toInt_lt, toNatClampNeg_of from', toNatClampNeg_of long,
      from', long, Int32.toInt_zero]
    omega
  rw [get, if_neg inside, toNatClampNeg_of long, toNatClampNeg_of from', if_neg (by omega)]

/-- An overwritten array, as a function of the index. -/
theorem getD_overwrite {data bytes : List UInt8} {start : Nat}
    (fits : start + bytes.length ≤ data.length) :
    (fun i => (overwrite data start bytes).getD i 0) =
      StreamBuffer.store (fun i => data.getD i 0) start bytes := by
  funext i
  have front : (data.take start).length = start := by
    rw [List.length_take]
    omega
  simp only [StreamBuffer.store, overwrite, List.append_assoc, List.getD_eq_getElem?_getD]
  by_cases before : i < start
  · rw [if_neg (by omega), List.getElem?_append_left (by omega), List.getElem?_take_of_lt before]
  · rw [if_pos (by omega), List.getElem?_append_right (by omega), front]
    by_cases inside : i - start < bytes.length
    · rw [List.getElem?_append_left inside, List.getElem?_eq_getElem inside]
      rfl
    · have here : start + bytes.length + (i - start - bytes.length) = i := by omega
      rw [List.getElem?_append_right (by omega), List.getElem?_drop, here,
        List.getElem?_eq_none (Nat.not_lt.mp inside)]
      rfl

/-- No sum with the head wraps. -/
def Fits (s : StreamBuffer) (source : List UInt8) : Prop :=
  s.head + min source.length s.remaining < 2 ^ 31

theorem Represents.readFrom (r : a.Represents s) (source : Source) (fits : Fits s source.1) :
    ∃ b, a.readFrom source =
        .ok (source.1.drop (min source.1.length s.remaining), b) ∧
      b.Represents (s.readFrom source.1) := by
  obtain ⟨source, short⟩ := source
  dsimp only at fits ⊢
  have small := r.small
  have head := s.head_lt
  have length := r.length
  have used := s.size_le_capacity
  have free : s.remaining < s.length := by
    have pos := s.length_pos
    unfold StreamBuffer.remaining StreamBuffer.capacity
    omega
  unfold Fits at fits
  have requested : (Math.min (.ofNat source.length) a.remaining).toInt =
      (min source.length s.remaining : Nat) := by
    rw [Math.toInt_min, Int32.toInt_ofNat_of_lt short, r.remaining]
    omega
  generalize count : min source.length s.remaining = n at fits requested ⊢
  have moved :
      (a.head + Math.min (.ofNat source.length) a.remaining).toInt = (s.head + n : Nat) := by
    rw [toInt_add_of_fits (by rw [r.head, requested]; omega) (by rw [r.head, requested]; omega),
      r.head, requested]
    rfl
  have room : (a.dataLength - a.head).toInt = (s.length - s.head : Nat) := by
    rw [toInt_sub_of_fits (by rw [r.head, r.dataLength]; omega)
      (by rw [r.head, r.dataLength]; omega), r.head, r.dataLength]
    omega
  obtain ⟨wrapped, modulo, same⟩ := r.wrap moved
  have straight : Math.min (.ofNat source.length) a.remaining ≤ a.dataLength - a.head ↔
      n ≤ s.length - s.head := by
    rw [Int32.le_iff_toInt_le, requested, room, Int.ofNat_le]
  simp only [StreamArray.readFrom, StreamArray.copy, modulo, bind, Except.bind, pure, Except.pure]
  by_cases first : n ≤ s.length - s.head
  · have taken : (source.take n).length = n := by
      rw [List.length_take]
      omega
    rw [if_pos (straight.mpr first), get_eq r.head requested (by omega) (by omega)]
    refine ⟨_, rfl, ?_, ?_, ?_, r.tail, small⟩
    · exact (overwrite_length (by omega)).trans length
    · simp only [StreamBuffer.readFrom, count, if_pos first, r.data]
      rw [getD_overwrite (by omega)]
    · simp only [StreamBuffer.readFrom, count]
      exact same
  · have beyond : (a.head + Math.min (.ofNat source.length) a.remaining - a.dataLength).toInt =
        (s.head + n - s.length : Nat) := by
      rw [toInt_sub_of_fits (by rw [moved, r.dataLength]; omega)
        (by rw [moved, r.dataLength]; omega), moved, r.dataLength]
      omega
    have taken : (source.take (s.length - s.head)).length = s.length - s.head := by
      rw [List.length_take]
      omega
    have taken' : ((source.drop (s.length - s.head)).take (s.head + n - s.length)).length =
        s.head + n - s.length := by
      rw [List.length_take, List.length_drop]
      omega
    have whole : (overwrite a.data s.head (source.take (s.length - s.head))).length = s.length :=
      (overwrite_length (by omega)).trans length
    have rest : s.length - s.head + (s.head + n - s.length) = n := by omega
    have zero : (0 : Int32).toInt = (0 : Nat) := rfl
    rw [if_neg (fun other => first (straight.mp other)), get_eq r.head room (by omega) (by omega)]
    simp only
    rw [get_eq zero beyond (by omega) (by rw [List.length_drop]; omega), List.drop_drop, rest]
    refine ⟨_, rfl, ?_, ?_, ?_, r.tail, small⟩
    · exact (overwrite_length (by omega)).trans whole
    · simp only [StreamBuffer.readFrom, count, if_neg first, r.data]
      rw [getD_overwrite (by omega), getD_overwrite (by omega)]
    · simp only [StreamBuffer.readFrom, count]
      exact same

theorem readFrom_head {source left : List UInt8} (read : a.readFrom source = .ok (left, b)) :
    b.head = (a.head + Math.min (.ofNat source.length) a.remaining) % a.dataLength := by
  unfold readFrom at read
  obtain ⟨⟨data, rest⟩, _, read⟩ := Wire.bind_eq_ok.mp read
  obtain ⟨head, wrapped, read⟩ := Wire.bind_eq_ok.mp read
  cases read
  unfold wrap at wrapped
  split at wrapped
  · cases wrapped
  · exact (Except.ok.inj wrapped).symm

end StreamArray

namespace Stream
variable {s s' : Stream} {q : StreamBuffer} {capacity : Int32}

/-- What the buffer of a run stands for. `reset`: an empty buffer is at the front again, so that
the head of any other is ahead of the tail when it comes to the end. -/
structure Queues (s : Stream) (q : StreamBuffer) : Prop where
  represents : s.buffer.Represents q
  order : s.written ++ q.contents = s.accepted
  reset : q.head = q.tail → q.head = 0

theorem Queues.fits (h : s.Queues q) (short : q.length ≤ 2 ^ 30 + 1) (source : List UInt8) :
    StreamArray.Fits q source := by
  have head := q.head_lt
  have tail := q.tail_lt
  have reset := h.reset
  unfold StreamArray.Fits StreamBuffer.remaining StreamBuffer.capacity StreamBuffer.size
  split <;> omega

theorem Queues.readFrom (h : s.Queues q) (source : Source)
    (fits : StreamArray.Fits q source.1) :
    ∃ s', s.step (.readFrom source) = some s' ∧ s'.Queues (q.readFrom source.1) := by
  obtain ⟨b, read, represents⟩ := h.represents.readFrom source fits
  have count : source.1.length - (source.1.drop (min source.1.length q.remaining)).length =
      min source.1.length q.remaining := by
    rw [List.length_drop]
    omega
  have same : source.1.take (min source.1.length q.remaining) = source.1.take q.remaining := by
    rw [Nat.min_comm, ← List.take_eq_take_min]
  refine ⟨_, by rw [step, read], represents, ?_, ?_⟩
  · simp only [StreamBuffer.contents_readFrom, count, same]
    rw [← List.append_assoc, h.order]
  · intro met
    have size := q.size_readFrom source.1
    have empty : (q.readFrom source.1).size = 0 := by
      unfold StreamBuffer.size
      rw [met]
      simp
    have before : q.size = 0 := by omega
    have nothing : min source.1.length q.remaining = 0 := by omega
    have origin : q.head = 0 := by
      refine h.reset ?_
      have head := q.head_lt
      have tail := q.tail_lt
      unfold StreamBuffer.size at before
      split at before <;> omega
    simp [StreamBuffer.readFrom, nothing, origin]

theorem Queues.writeTo (h : s.Queues q) (accepts : Nat) :
    ∃ s', s.step (.writeTo accepts) = some s' ∧ s'.Queues (q.writeTo (min accepts q.chunk)) := by
  obtain ⟨b, wrote, represents⟩ := h.represents.writeTo accepts
  refine ⟨_, by rw [step, wrote], represents, ?_, ?_⟩
  · rw [q.contents_writeTo (Nat.min_le_right _ _), List.append_assoc, List.take_append_drop, h.order]
  · intro met
    unfold StreamBuffer.writeTo StreamBuffer.optimize at met ⊢
    split
    · split
      · rfl
      · rename_i ahead full
        rw [if_pos ahead, if_neg full] at met
        exact absurd met (by simpa [StreamBuffer.isEmpty] using full)
    · rename_i still
      rw [if_neg still] at met
      exact h.reset met

theorem Queues.fifo (h : s.Queues q) (length : (q.length : Int) = capacity.toInt + 1)
    (fits : ∀ source, StreamArray.Fits q source) : s.Fifo capacity := by
  have r := h.represents
  have pos := q.length_pos
  have used := q.size_le_capacity
  have contents := r.contents
  have size : s.buffer.contents.length = q.size := by
    rw [contents, StreamBuffer.contents_length]
  unfold StreamBuffer.capacity at used
  constructor
  · exact r.head_lt
  · exact r.tail_lt
  · rw [contents]
    exact h.order
  · rw [size]
    exact r.size
  · rw [size, r.remaining, StreamBuffer.remaining, StreamBuffer.capacity]
    omega
  · rw [contents, r.isEmpty]
    exact q.isEmpty_iff
  · obtain ⟨full, asked, exact'⟩ := r.isFull
    refine ⟨full, asked, exact'.trans ?_⟩
    rw [size, StreamBuffer.capacity]
    omega
  · intro source
    obtain ⟨b, read, _⟩ := r.readFrom source (fits source.1)
    exact ⟨_, b, read, by rw [StreamArray.toNatClampNeg_of r.remaining]⟩
  · intro accepts
    obtain ⟨b, wrote, _⟩ := r.writeTo accepts
    refine ⟨_, b, wrote, ?_⟩
    rw [List.length_take]
    omega

end Stream

theorem queues_create {buffer : StreamArray} {capacity : Int32} (nonneg : 0 ≤ capacity)
    (created : StreamArray.create capacity = .ok buffer) :
    Stream.Queues ⟨buffer, [], []⟩ (.create capacity.toNatClampNeg) ∧
      (capacity.toNatClampNeg : Int) = capacity.toInt ∧ capacity.toInt + 1 < 2 ^ 31 := by
  have one : (1 : Int32).toInt = 1 := rfl
  have bound := capacity.toInt_lt
  rw [Int32.le_iff_toInt_le, Int32.toInt_zero] at nonneg
  have natural : (capacity.toNatClampNeg : Int) = capacity.toInt := by
    rw [Int32.toNatClampNeg, Int.toNat_of_nonneg nonneg]
  unfold StreamArray.create at created
  split at created
  · cases created
  · rename_i allocates
    rw [Int32.lt_iff_toInt_lt, Int32.toInt_add, one, Int32.toInt_zero] at allocates
    have below : capacity.toInt + 1 < 2 ^ 31 := by
      rw [Int.bmod_def] at allocates
      omega
    have next : (capacity + 1).toInt = (capacity.toNatClampNeg + 1 : Nat) := by
      rw [toInt_add_of_fits (by rw [one]; omega) (by rw [one]; omega), one, ← natural]
      rfl
    cases created
    rw [StreamArray.toNatClampNeg_of next]
    refine ⟨⟨⟨List.length_replicate, ?_, rfl, rfl, ?_⟩, rfl, fun _ => rfl⟩, natural, below⟩
    · funext i
      simp only [StreamBuffer.create, List.getD_eq_getElem?_getD, List.getElem?_replicate]
      split <;> rfl
    · simp only [StreamBuffer.create]
      omega

section
variable {buffer : StreamArray} {capacity : Int32}

theorem queues_of_reachable (nonneg : 0 ≤ capacity) (short : capacity.toInt ≤ 2 ^ 30)
    (created : StreamArray.create capacity = .ok buffer) {s : Stream}
    (reached : (streamSystem buffer).Reachable Free s) :
    ∃ q, s.Queues q ∧ (q.length : Int) = capacity.toInt + 1 ∧ q.length ≤ 2 ^ 30 + 1 := by
  obtain ⟨initial, natural, _⟩ := queues_create nonneg created
  refine reached.invariant (I := fun s => ∃ q : StreamBuffer, s.Queues q ∧
    (q.length : Int) = capacity.toInt + 1 ∧ q.length ≤ 2 ^ 30 + 1) ⟨_, initial, ?_, ?_⟩ ?_
  · simp only [StreamBuffer.create]
    omega
  · simp only [StreamBuffer.create]
    omega
  · rintro s action s' ⟨q, queues, length, bound⟩ - taken
    cases action with
    | readFrom source =>
        obtain ⟨s'', taken', after⟩ := queues.readFrom source (queues.fits bound source.1)
        cases taken.symm.trans taken'
        exact ⟨_, after, length, bound⟩
    | writeTo accepts =>
        obtain ⟨s'', taken', after⟩ := queues.writeTo accepts
        cases taken.symm.trans taken'
        have same : (q.writeTo (min accepts q.chunk)).length = q.length := by
          unfold StreamBuffer.writeTo StreamBuffer.optimize
          repeat' split
          all_goals rfl
        exact ⟨_, after, same ▸ length, same ▸ bound⟩

theorem writeTo_leaves {q : StreamBuffer} {w : Nat} (some' : q.tail + w < q.head) :
    (q.writeTo w).head = q.head ∧ (q.writeTo w).tail = q.tail + w ∧
      (q.writeTo w).length = q.length := by
  have head := q.head_lt
  have moved : (q.tail + w) % q.length = q.tail + w := Nat.mod_eq_of_lt (by omega)
  rw [StreamBuffer.writeTo, if_pos (.inl (by omega)), StreamBuffer.optimize,
    if_neg (by simp only [StreamBuffer.isEmpty, moved, decide_eq_true_iff]; omega)]
  exact ⟨rfl, moved, rfl⟩

/-- A sum of the head and a number of bytes comes to `2 ^ 31`, and the head is negative. -/
theorem overflows (long : 2 ^ 30 < capacity.toInt)
    (created : StreamArray.create capacity = .ok buffer) :
    ¬ ∀ s, (streamSystem buffer).Reachable Free s → s.Fifo capacity := by
  intro fifo
  have nonneg : 0 ≤ capacity := by
    rw [Int32.le_iff_toInt_le, Int32.toInt_zero]
    omega
  obtain ⟨initial, natural, below⟩ := queues_create nonneg created
  generalize capacity.toNatClampNeg = n at initial natural
  have room : (StreamBuffer.create n).remaining = n := by
    simp [StreamBuffer.remaining, StreamBuffer.capacity, StreamBuffer.size, StreamBuffer.create]
  have count (k : Nat) : (List.replicate k (0 : UInt8)).length = k := List.length_replicate
  -- the buffer is filled, and the channel leaves one byte of it
  obtain ⟨s₁, taken₁, queues₁⟩ := initial.readFrom ⟨List.replicate n 0, by rw [count]; omega⟩ (by
    rw [StreamArray.Fits, room, count]
    simp only [StreamBuffer.create]
    omega)
  have head₁ : ((StreamBuffer.create n).readFrom (List.replicate n 0)).head = n := by
    simp only [StreamBuffer.readFrom, room, count, Nat.min_self]
    simp only [StreamBuffer.create, Nat.zero_add]
    exact Nat.mod_eq_of_lt (Nat.lt_succ_self _)
  have tail₁ : ((StreamBuffer.create n).readFrom (List.replicate n 0)).tail = 0 := rfl
  have length₁ : ((StreamBuffer.create n).readFrom (List.replicate n 0)).length = n + 1 := rfl
  generalize (StreamBuffer.create n).readFrom (List.replicate n 0) = q₁ at *
  have chunk : min (n - 1) q₁.chunk = n - 1 := by
    rw [StreamBuffer.chunk, head₁, tail₁, if_pos (by omega)]
    omega
  obtain ⟨s₂, taken₂, queues₂⟩ := queues₁.writeTo (n - 1)
  rw [chunk] at queues₂
  obtain ⟨head₂, tail₂, length₂⟩ := @writeTo_leaves q₁ (n - 1) (by omega)
  generalize q₁.writeTo (n - 1) = q₂ at *
  have reached : (streamSystem buffer).Reachable Free s₂ :=
    ⟨[.readFrom _, .writeTo _], .cons trivial taken₁ (.cons trivial taken₂ .nil)⟩
  -- the bytes that come next take the head past the last `int`
  obtain ⟨left, b, read, _⟩ := (fifo s₂ reached).reads
    ⟨List.replicate (2 ^ 31 - n) 0, by rw [count]; omega⟩
  have again : (streamSystem buffer).Reachable Free
      ⟨b, s₂.accepted ++ (List.replicate (2 ^ 31 - n) 0).take
        ((List.replicate (2 ^ 31 - n) (0 : UInt8)).length - left.length), s₂.written⟩ :=
    reached.extend (.cons (a := .readFrom ⟨List.replicate (2 ^ 31 - n) 0, by rw [count]; omega⟩)
      trivial (by simp only [streamSystem, Stream.step, read]) .nil)
  have positive := (fifo _ again).head.1
  have r := queues₂.represents
  have remaining : s₂.buffer.remaining.toInt = n - 1 := by
    rw [r.remaining, StreamBuffer.remaining, StreamBuffer.capacity, StreamBuffer.size,
      if_neg (by omega)]
    omega
  have requested : (Math.min (.ofNat (2 ^ 31 - n)) s₂.buffer.remaining).toInt = 2 ^ 31 - n := by
    rw [Math.toInt_min, Int32.toInt_ofNat_of_lt (by omega), remaining]
    omega
  have wrapped : (s₂.buffer.head + Math.min (.ofNat (2 ^ 31 - n)) s₂.buffer.remaining).toInt =
      -2 ^ 31 := by
    rw [Int32.toInt_add, requested, r.head, head₂, head₁]
    have sum : (n : Int) + (2 ^ 31 - n) = 2 ^ 31 := by omega
    rw [sum]
    decide
  rw [StreamArray.readFrom_head read, count, Int32.le_iff_toInt_le, Int32.toInt_zero,
    Int32.toInt_mod, wrapped, r.dataLength, length₂, length₁, Int.neg_tmod] at positive
  have modulo : (2 ^ 31 : Int).tmod (n + 1 : Nat) = (2 ^ 31 % (n + 1) : Nat) := rfl
  rw [modulo, Nat.mod_eq_sub_mod (by omega), Nat.mod_eq_of_lt (by omega)] at positive
  omega

/-- The buffer is a bounded queue in every run iff no sum of its head and a number of bytes wraps
and its array has a cell to spare. -/
theorem fifo_iff (created : StreamArray.create capacity = .ok buffer) :
    (∀ s, (streamSystem buffer).Reachable Free s → s.Fifo capacity) ↔
      0 ≤ capacity ∧ capacity.toInt ≤ 2 ^ 30 := by
  constructor
  · intro fifo
    refine ⟨?_, Int.not_lt.mp fun long => overflows long created fifo⟩
    have cells := (fifo _ ⟨[], .nil⟩).head.2
    unfold StreamArray.create at created
    split at created
    · cases created
    · rename_i allocates
      cases created
      -- an array without a cell has no place for the head
      have one : (1 : Int32).toInt = 1 := rfl
      rw [Int32.le_iff_toInt_le, Int32.toInt_zero]
      by_contra negative
      rw [Int32.lt_iff_toInt_lt, toInt_add_of_fits (by have := capacity.le_toInt; rw [one]; omega)
        (by rw [one]; omega), one, Int32.toInt_zero] at allocates
      have none : capacity = -1 := Int32.toInt_inj.mp (by
        change capacity.toInt = -1
        omega)
      subst none
      exact absurd cells (by decide)
  · rintro ⟨nonneg, short⟩ s reached
    obtain ⟨q, queues, length, bound⟩ := queues_of_reachable nonneg short created reached
    exact queues.fifo length (queues.fits bound)

theorem fifo_iff_nine :
    ∃ buffer, StreamArray.create 9 = .ok buffer ∧
      ((∀ s, (streamSystem buffer).Reachable Free s → s.Fifo 9) ↔
        0 ≤ (9 : Int32) ∧ (9 : Int32).toInt ≤ 2 ^ 30) :=
  ⟨_, rfl, fifo_iff rfl⟩

theorem stream_overflows :
    ∃ buffer, StreamArray.create 1073741825 = .ok buffer ∧
      ¬ ∀ s, (streamSystem buffer).Reachable Free s → s.Fifo 1073741825 :=
  ⟨_, if_neg (by decide), overflows (by decide) (if_neg (by decide))⟩

end

end QuestVdWired.Relay
