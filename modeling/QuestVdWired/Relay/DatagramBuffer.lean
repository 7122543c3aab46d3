import QuestVdWired.Java.ByteBuffer
import QuestVdWired.Transition.System

/-!
The circular buffer of `DatagramBuffer.java`, as a queue of datagrams. A datagram is stored
behind its length on 16 bits; a block begins before the end of the circular part and may reach
past it. The channel takes whole datagrams. Java assertions are not checked, and `capacity` is
one for which the array can be allocated.
-/

namespace QuestVdWired.Relay
open Java Transition

def HEADER_LENGTH : Nat := 2
def MAX_DATAGRAM_LENGTH : Nat := 2 ^ 16
def MAX_BLOCK_LENGTH : Nat := HEADER_LENGTH + MAX_DATAGRAM_LENGTH

structure DatagramBuffer where
  data : List UInt8
  head : Nat
  tail : Nat
  circularBufferLength : Nat

namespace DatagramBuffer

def create (capacity : Nat) : DatagramBuffer :=
  ⟨List.replicate (capacity + MAX_BLOCK_LENGTH) 0, 0, 0, capacity + 1⟩

variable (b : DatagramBuffer)

def isEmpty : Bool := b.head = b.tail

def hasEnoughSpaceFor (datagramLength : Nat) : Bool :=
  if b.tail ≤ b.head then true
  else HEADER_LENGTH + datagramLength ≤ b.tail - b.head - 1

/-- A block boundary at or past the end of the circular part is its beginning. -/
def wrap (index : Nat) : Nat := if b.circularBufferLength ≤ index then 0 else index

def readLength : Result (Nat × DatagramBuffer) := do
  let high ← load b.data b.tail
  let low ← load b.data (b.tail + 1)
  return (high.toNat * 256 + low.toNat, { b with tail := b.tail + 2 })

/-- `wrapper.limit(tail + length).position(tail)`, and what the channel then finds. -/
def wrapped (length : Nat) : Result (List UInt8) :=
  if b.tail + length ≤ b.data.length then .ok ((b.data.drop b.tail).take length)
  else .error .illegalArgument

def writeTo : Result (List UInt8 × DatagramBuffer) := do
  let (length, b) ← b.readLength
  let datagram ← b.wrapped length
  return (datagram, { b with tail := b.wrap (b.tail + length) })

def writeLength (length : Nat) : Result DatagramBuffer := do
  let data ← store b.data b.head (UInt8.ofNat (length / 256 % 256))
  let data ← store data (b.head + 1) (UInt8.ofNat (length % 256))
  return { b with data := data, head := b.head + 2 }

def readFrom (buffer : List UInt8) : Result (Bool × DatagramBuffer) :=
  if MAX_DATAGRAM_LENGTH < buffer.length then .error .illegalArgument
  else if b.hasEnoughSpaceFor buffer.length then do
    let b ← b.writeLength buffer.length
    let data ← copyInto b.data b.head buffer
    return (true, { b with data := data, head := b.wrap (b.head + buffer.length) })
  else .ok (false, b)

end DatagramBuffer

/-- A buffer with what was accepted and written so far, and the exception that ended it. -/
structure DatagramQueue where
  buffer : DatagramBuffer
  accepted : List (List UInt8)
  written : List (List UInt8)
  thrown : Option Throwable

inductive DatagramAction
  | readFrom (datagram : List UInt8)
  | writeTo
  deriving DecidableEq

namespace DatagramQueue

/-- Datagrams of the lengths that `readFrom` admits; `writeTo` is called on a buffer that is not
empty. -/
def step : DatagramAction → DatagramQueue → Option DatagramQueue
  | .readFrom datagram, q =>
      if datagram.length ≤ MAX_DATAGRAM_LENGTH ∧ q.thrown = none then
        match q.buffer.readFrom datagram with
        | .ok (true, b) => some { q with buffer := b, accepted := q.accepted ++ [datagram] }
        | .ok (false, b) => some { q with buffer := b }
        | .error e => some { q with thrown := some e }
      else none
  | .writeTo, q =>
      if q.buffer.isEmpty = false ∧ q.thrown = none then
        match q.buffer.writeTo with
        | .ok (datagram, b) => some { q with buffer := b, written := q.written ++ [datagram] }
        | .error e => some { q with thrown := some e }
      else none

end DatagramQueue

def datagramSystem (capacity : Nat) : System DatagramQueue DatagramAction where
  init := ⟨.create capacity, [], [], none⟩
  step := DatagramQueue.step

/-! The blocks of the queue. -/

def encode (datagram : List UInt8) : List UInt8 :=
  UInt8.ofNat (datagram.length / 256 % 256) :: UInt8.ofNat (datagram.length % 256) :: datagram

def blocks (datagrams : List (List UInt8)) : List UInt8 := datagrams.flatMap encode

theorem encode_length (datagram : List UInt8) : (encode datagram).length = datagram.length + 2 :=
  rfl

@[simp] theorem blocks_nil : blocks [] = [] := rfl

@[simp] theorem blocks_cons (datagram : List UInt8) (datagrams : List (List UInt8)) :
    blocks (datagram :: datagrams) = encode datagram ++ blocks datagrams := rfl

theorem blocks_concat (datagrams : List (List UInt8)) (datagram : List UInt8) :
    blocks (datagrams ++ [datagram]) = blocks datagrams ++ encode datagram := by
  simp [blocks]

theorem blocks_eq_nil {datagrams : List (List UInt8)} (h : (blocks datagrams).length = 0) :
    datagrams = [] := by
  cases datagrams with
  | nil => rfl
  | cons datagram datagrams =>
      rw [blocks_cons, List.length_append, encode_length] at h
      omega

namespace DatagramBuffer

/-- The datagrams stored from `tail` to `head`, the last before the end of the circular part
reaching past it where `head` has begun anew. -/
inductive Holds (b : DatagramBuffer) : List (List UInt8) → Prop
  | straight {datagrams : List (List UInt8)} (stored : At b.data b.tail (blocks datagrams))
      (ends : b.head = b.tail + (blocks datagrams).length)
      (inside : b.head < b.circularBufferLength) : Holds b datagrams
  | wrapped {before after : List (List UInt8)} {last : List UInt8}
      (stored : At b.data b.tail (blocks (before ++ [last])))
      (starts : b.tail + (blocks before).length < b.circularBufferLength)
      (past : b.circularBufferLength ≤ b.tail + (blocks (before ++ [last])).length)
      (anew : At b.data 0 (blocks after)) (ends : b.head = (blocks after).length)
      (behind : b.head < b.tail) : Holds b (before ++ [last] ++ after)

/-- The array has room for one block behind the circular part. -/
def Sized (b : DatagramBuffer) : Prop :=
  b.data.length + 1 = b.circularBufferLength + MAX_BLOCK_LENGTH

variable {b b' : DatagramBuffer} {datagram : List UInt8} {datagrams : List (List UInt8)}

theorem isEmpty_iff (holds : b.Holds datagrams) : b.isEmpty = true ↔ datagrams = [] := by
  simp only [isEmpty, decide_eq_true_eq]
  cases holds with
  | straight stored ends inside =>
      rw [ends]
      constructor
      · intro same
        exact blocks_eq_nil (by omega)
      · rintro rfl
        simp
  | wrapped stored starts past anew ends behind =>
      constructor
      · intro same
        omega
      · simp

theorem inside (holds : b.Holds datagrams) :
    b.head < b.circularBufferLength ∧ b.tail < b.circularBufferLength := by
  cases holds with
  | straight _ _ inside => omega
  | wrapped _ starts _ _ _ behind => omega

/-- An accepted datagram, as one block written at `head`. -/
theorem readFrom_eq (sized : b.Sized) (inside : b.head < b.circularBufferLength)
    (admitted : datagram.length ≤ MAX_DATAGRAM_LENGTH)
    (space : b.hasEnoughSpaceFor datagram.length = true) :
    b.readFrom datagram = .ok (true,
      { b with
        data := overwrite b.data b.head (encode datagram)
        head := b.wrap (b.head + (encode datagram).length) }) := by
  have room : b.head + 2 + datagram.length ≤ b.data.length := by
    unfold Sized MAX_BLOCK_LENGTH HEADER_LENGTH at sized
    omega
  have first : store b.data b.head (UInt8.ofNat (datagram.length / 256 % 256)) =
      .ok (overwrite b.data b.head [UInt8.ofNat (datagram.length / 256 % 256)]) :=
    if_pos (by omega)
  have second : store (overwrite b.data b.head [UInt8.ofNat (datagram.length / 256 % 256)])
      (b.head + 1) (UInt8.ofNat (datagram.length % 256)) =
      .ok (overwrite b.data b.head [UInt8.ofNat (datagram.length / 256 % 256),
        UInt8.ofNat (datagram.length % 256)]) := by
    rw [store, overwrite_length (by simp; omega), if_pos (by omega)]
    exact congrArg _ (overwrite_overwrite (by simp; omega))
  have third : copyInto (overwrite b.data b.head [UInt8.ofNat (datagram.length / 256 % 256),
      UInt8.ofNat (datagram.length % 256)]) (b.head + 2) datagram =
      .ok (overwrite b.data b.head (encode datagram)) := by
    rw [copyInto, overwrite_length (by simp; omega), if_pos (by omega)]
    exact congrArg _ (overwrite_overwrite (by simp; omega))
  have boundary : b.head + 2 + datagram.length = b.head + (encode datagram).length := by
    rw [encode_length]
    omega
  rw [readFrom, if_neg (by omega), if_pos space]
  simp only [writeLength, first, second, third, boundary, wrap, bind, Except.bind, pure, Except.pure]

/-- The length stored in front of a datagram is read back. -/
theorem stored_length (short : datagram.length < 2 ^ 16) :
    (UInt8.ofNat (datagram.length / 256 % 256)).toNat * 256 +
      (UInt8.ofNat (datagram.length % 256)).toNat = datagram.length := by
  simp only [UInt8.toNat_ofNat']
  omega

theorem writeTo_eq (stored : At b.data b.tail (encode datagram))
    (short : datagram.length < 2 ^ 16) :
    b.writeTo = .ok (datagram,
      { b with tail := b.wrap (b.tail + (encode datagram).length) }) := by
  have low : At b.data (b.tail + 1) (UInt8.ofNat (datagram.length % 256) :: datagram) :=
    at_tail stored
  have rest : At b.data (b.tail + 2) datagram := at_tail low
  have room : b.tail + 2 + datagram.length ≤ b.data.length := by
    have fits := stored.le
    simp only [encode_length] at fits
    rcases fits with fits | ⟨⟨⟩⟩
    omega
  have boundary : b.tail + 2 + datagram.length = b.tail + (encode datagram).length := by
    rw [encode_length]
    omega
  have found : ({ b with tail := b.tail + 2 } : DatagramBuffer).wrapped datagram.length =
      .ok datagram := by
    rw [wrapped, if_pos room]
    exact congrArg _ rest
  simp only [writeTo, readLength, load_at stored, load_at low, stored_length short, found,
    boundary, wrap, bind, Except.bind, pure, Except.pure]

/-- An accepted datagram goes to the end of the queue, where the end of the circular part is not
reached while the queue begins there. -/
theorem Holds.push (holds : b.Holds datagrams) (sized : b.Sized)
    (admitted : datagram.length ≤ MAX_DATAGRAM_LENGTH)
    (space : b.hasEnoughSpaceFor datagram.length = true)
    (ahead : b.tail = 0 → b.head + (encode datagram).length < b.circularBufferLength) :
    ({ b with
      data := overwrite b.data b.head (encode datagram)
      head := b.wrap (b.head + (encode datagram).length) } : DatagramBuffer).Holds
      (datagrams ++ [datagram]) := by
  have room : b.head + (encode datagram).length ≤ b.data.length := by
    have bound := (inside holds).1
    unfold Sized MAX_BLOCK_LENGTH HEADER_LENGTH at sized
    rw [encode_length]
    omega
  cases holds with
  | straight stored ends inside =>
      have all : At (overwrite b.data b.head (encode datagram)) b.tail
          (blocks (datagrams ++ [datagram])) := by
        rw [blocks_concat, at_append, ← ends]
        exact ⟨stored.overwrite_after (by omega) (by omega), at_overwrite room⟩
      by_cases past : b.circularBufferLength ≤ b.head + (encode datagram).length
      · rw [wrap, if_pos past, ← List.append_nil (datagrams ++ [datagram])]
        refine .wrapped all (by dsimp only; omega) ?_ at_nil rfl ?_
        · rw [blocks_concat, List.length_append]
          dsimp only
          omega
        · dsimp only
          omega
      · rw [wrap, if_neg past]
        refine .straight all ?_ (by dsimp only; omega)
        rw [blocks_concat, List.length_append]
        dsimp only
        omega
  | @wrapped before after last stored starts past anew ends behind =>
      have short : b.head + (encode datagram).length < b.tail := by
        rw [hasEnoughSpaceFor, if_neg (by omega)] at space
        have room := of_decide_eq_true space
        unfold HEADER_LENGTH at room
        rw [encode_length]
        omega
      rw [wrap, if_neg (by omega), List.append_assoc]
      refine .wrapped (stored.overwrite_before (by omega) (by omega)) starts past ?_ ?_ short
      · rw [blocks_concat, at_append, ← ends, Nat.zero_add]
        exact ⟨anew.overwrite_after (by omega) (by omega), at_overwrite room⟩
      · rw [blocks_concat, List.length_append, ends]

/-- The first datagram leaves the queue. -/
theorem Holds.pop (holds : b.Holds (datagram :: datagrams)) :
    At b.data b.tail (encode datagram) ∧
      ({ b with tail := b.wrap (b.tail + (encode datagram).length) } : DatagramBuffer).Holds
        datagrams := by
  generalize queue : datagram :: datagrams = all at holds
  cases holds with
  | straight stored ends inside =>
      subst queue
      rw [blocks_cons, at_append] at stored
      rw [blocks_cons, List.length_append] at ends
      refine ⟨stored.1, ?_⟩
      rw [wrap, if_neg (by omega)]
      refine .straight stored.2 ?_ inside
      dsimp only
      omega
  | @wrapped before after last stored starts past anew ends behind =>
      cases before with
      | nil =>
          obtain ⟨rfl, rfl⟩ : datagram = last ∧ datagrams = after := by simpa using queue
          simp only [List.nil_append, blocks_cons, blocks_nil, List.append_nil] at stored past
          refine ⟨stored, ?_⟩
          rw [wrap, if_pos past]
          simp only [blocks_nil, List.length_nil] at starts
          exact .straight anew (by simpa using ends) (by dsimp only; omega)
      | cons first before =>
          obtain ⟨rfl, rfl⟩ : datagram = first ∧ datagrams = before ++ [last] ++ after := by
            simpa using queue
          rw [List.cons_append, blocks_cons, at_append] at stored
          rw [blocks_cons, List.length_append] at starts
          rw [List.cons_append, blocks_cons, List.length_append] at past
          refine ⟨stored.1, ?_⟩
          rw [wrap, if_neg (by omega)]
          refine .wrapped stored.2 (by dsimp only; omega) (by dsimp only; omega) anew ends ?_
          dsimp only
          omega

end DatagramBuffer

/-- No accepted datagram has the one length that 16 bits cannot hold, and none reaches the end of
the circular part while the queue begins at its start. -/
def Fits (q : DatagramQueue) : DatagramAction → Prop
  | .readFrom datagram =>
      q.buffer.hasEnoughSpaceFor datagram.length = true →
        datagram.length < 2 ^ 16 ∧ (q.buffer.tail = 0 →
          q.buffer.head + HEADER_LENGTH + datagram.length < q.buffer.circularBufferLength)
  | .writeTo => True

instance (q : DatagramQueue) (action : DatagramAction) : Decidable (Fits q action) :=
  match action with
  | .readFrom _ => inferInstanceAs (Decidable (_ → _ ∧ (_ → _)))
  | .writeTo => inferInstanceAs (Decidable True)

/-- The buffer holds what was accepted and not yet written. -/
structure Conserves (q : DatagramQueue) (pending : List (List UInt8)) : Prop where
  thrown : q.thrown = none
  sized : q.buffer.Sized
  accepted : q.accepted = q.written ++ pending
  short : ∀ datagram ∈ pending, datagram.length < 2 ^ 16
  holds : q.buffer.Holds pending

/-- The queue behind a datagram that was accepted. -/
def DatagramQueue.push (q : DatagramQueue) (datagram : List UInt8) : DatagramQueue :=
  { q with
    buffer :=
      { q.buffer with
        data := overwrite q.buffer.data q.buffer.head (encode datagram)
        head := q.buffer.wrap (q.buffer.head + (encode datagram).length) }
    accepted := q.accepted ++ [datagram] }

/-- The queue behind a datagram that was written. -/
def DatagramQueue.pop (q : DatagramQueue) (datagram : List UInt8) : DatagramQueue :=
  { q with
    buffer :=
      { q.buffer with tail := q.buffer.wrap (q.buffer.tail + (encode datagram).length) }
    written := q.written ++ [datagram] }

section
variable {q q' : DatagramQueue} {datagram : List UInt8} {pending : List (List UInt8)}

/-- A datagram for which there is space. -/
theorem step_readFrom (before : Conserves q pending)
    (admitted : datagram.length ≤ MAX_DATAGRAM_LENGTH)
    (space : q.buffer.hasEnoughSpaceFor datagram.length = true) :
    q.step (.readFrom datagram) = some (q.push datagram) := by
  have inside := (DatagramBuffer.inside before.holds).1
  rw [DatagramQueue.step, if_pos ⟨admitted, before.thrown⟩,
    DatagramBuffer.readFrom_eq before.sized inside admitted space]
  rfl

/-- A datagram that waits. -/
theorem step_writeTo (before : Conserves q (datagram :: pending)) :
    q.step .writeTo = some (q.pop datagram) := by
  have busy : q.buffer.isEmpty = false := by
    rw [← Bool.not_eq_true, DatagramBuffer.isEmpty_iff before.holds]
    exact List.cons_ne_nil datagram pending
  have short := before.short datagram List.mem_cons_self
  rw [DatagramQueue.step, if_pos ⟨busy, before.thrown⟩,
    DatagramBuffer.writeTo_eq before.holds.pop.1 short]
  rfl

theorem Conserves.push (before : Conserves q pending)
    (admitted : datagram.length ≤ MAX_DATAGRAM_LENGTH)
    (space : q.buffer.hasEnoughSpaceFor datagram.length = true)
    (fits : Fits q (.readFrom datagram)) :
    Conserves (q.push datagram) (pending ++ [datagram]) := by
  obtain ⟨short, ahead⟩ := fits space
  refine ⟨before.thrown, ?_, ?_, ?_, ?_⟩
  · have sized := before.sized
    have inside := (DatagramBuffer.inside before.holds).1
    unfold DatagramBuffer.Sized MAX_BLOCK_LENGTH HEADER_LENGTH MAX_DATAGRAM_LENGTH at sized ⊢
    rw [DatagramQueue.push, overwrite_length (by rw [encode_length]; omega)]
    exact sized
  · rw [DatagramQueue.push, ← List.append_assoc, ← before.accepted]
  · intro other member
    rcases List.mem_append.mp member with old | new
    · exact before.short other old
    · rwa [List.mem_singleton.mp new]
  · refine before.holds.push before.sized admitted space fun begins => ?_
    have below := ahead begins
    simp only [HEADER_LENGTH] at below
    rw [encode_length]
    omega

theorem Conserves.pop (before : Conserves q (datagram :: pending)) :
    Conserves (q.pop datagram) pending := by
  refine ⟨before.thrown, before.sized, ?_, ?_, before.holds.pop.2⟩
  · rw [DatagramQueue.pop, List.append_assoc]
    exact before.accepted
  · exact fun other member => before.short other (List.mem_cons_of_mem _ member)

theorem Conserves.readFrom (before : Conserves q pending)
    (fits : Fits q (.readFrom datagram)) (taken : q.step (.readFrom datagram) = some q') :
    ∃ pending', Conserves q' pending' := by
  by_cases admitted : datagram.length ≤ MAX_DATAGRAM_LENGTH ∧ q.thrown = none
  · by_cases space : q.buffer.hasEnoughSpaceFor datagram.length = true
    · rw [step_readFrom before admitted.1 space] at taken
      cases taken
      exact ⟨_, before.push admitted.1 space fits⟩
    · rw [DatagramQueue.step, if_pos admitted, DatagramBuffer.readFrom, if_neg (by omega),
        if_neg space] at taken
      cases taken
      exact ⟨pending, before⟩
  · rw [DatagramQueue.step, if_neg admitted] at taken
    cases taken

theorem Conserves.writeTo (before : Conserves q pending) (taken : q.step .writeTo = some q') :
    ∃ pending', Conserves q' pending' := by
  cases pending with
  | nil =>
      have empty := (DatagramBuffer.isEmpty_iff before.holds).mpr rfl
      simp [DatagramQueue.step, empty] at taken
  | cons datagram pending =>
      rw [step_writeTo before] at taken
      cases taken
      exact ⟨pending, before.pop⟩

theorem conserves_create (capacity : Nat) : Conserves (datagramSystem capacity).init [] := by
  refine ⟨rfl, ?_, rfl, by simp, ?_⟩
  · simp only [datagramSystem, DatagramBuffer.create, DatagramBuffer.Sized, List.length_replicate]
    omega
  · exact .straight at_nil rfl (Nat.zero_lt_succ capacity)

theorem conserves_of_reachable {capacity : Nat}
    (reached : (datagramSystem capacity).Reachable Fits q) : ∃ pending, Conserves q pending := by
  refine reached.invariant (I := fun q => ∃ pending, Conserves q pending)
    ⟨[], conserves_create capacity⟩ ?_
  rintro q action q' ⟨pending, before⟩ fits taken
  cases action with
  | readFrom datagram => exact before.readFrom fits taken
  | writeTo => exact before.writeTo taken

end

/-- What is written is what was accepted, in order, unmodified and once; the buffer is empty
exactly when all of it is written; no access is out of range; and what is refused changes
nothing. -/
theorem datagrams_fifo {capacity : Nat} {q : DatagramQueue}
    (reached : (datagramSystem capacity).Reachable Fits q) :
    q.written <+: q.accepted ∧ (q.buffer.isEmpty = true ↔ q.written = q.accepted) ∧
      q.thrown = none ∧
      ∀ datagram b, q.buffer.readFrom datagram = .ok (false, b) → b = q.buffer := by
  obtain ⟨pending, conserves⟩ := conserves_of_reachable reached
  refine ⟨⟨pending, conserves.accepted.symm⟩, ?_, conserves.thrown, fun datagram b refused => ?_⟩
  · rw [DatagramBuffer.isEmpty_iff conserves.holds, conserves.accepted]
    simp
  · unfold DatagramBuffer.readFrom at refused
    split at refused
    · cases refused
    · split at refused
      · simp only [bind, Except.bind] at refused
        split at refused
        · cases refused
        · split at refused <;> cases refused
      · cases refused
        rfl

namespace DatagramQueue

/-- A run comes to a queue with these indices, whatever is left in its array. -/
def Reaches (capacity head tail : Nat) (accepted written : List (List UInt8)) : Prop :=
  ∃ data pending, Conserves ⟨⟨data, head, tail, capacity + 1⟩, accepted, written, none⟩ pending ∧
    (datagramSystem capacity).Reachable Fits
      ⟨⟨data, head, tail, capacity + 1⟩, accepted, written, none⟩

variable {capacity head tail : Nat} {accepted written pending : List (List UInt8)}

theorem Reaches.create (capacity : Nat) : Reaches capacity 0 0 [] [] :=
  ⟨_, [], conserves_create capacity, [], .nil⟩

theorem Reaches.readFrom (reaches : Reaches capacity head tail accepted written)
    (datagram : List UInt8) (short : datagram.length < 2 ^ 16)
    (space : tail ≤ head ∨ HEADER_LENGTH + datagram.length ≤ tail - head - 1)
    (ahead : tail = 0 → head + HEADER_LENGTH + datagram.length < capacity + 1) :
    Reaches capacity
      (if capacity + 1 ≤ head + (datagram.length + 2) then 0 else head + (datagram.length + 2))
      tail (accepted ++ [datagram]) written := by
  obtain ⟨data, pending, conserves, reached⟩ := reaches
  have admitted : datagram.length ≤ MAX_DATAGRAM_LENGTH := Nat.le_of_lt short
  have room : DatagramBuffer.hasEnoughSpaceFor ⟨data, head, tail, capacity + 1⟩
      datagram.length = true := by
    rw [DatagramBuffer.hasEnoughSpaceFor]
    split
    · rfl
    · rename_i behind
      exact decide_eq_true (space.resolve_left behind)
  have fits : Fits ⟨⟨data, head, tail, capacity + 1⟩, accepted, written, none⟩
      (.readFrom datagram) := fun _ => ⟨short, ahead⟩
  exact ⟨_, _, conserves.push admitted room fits,
    reached.extend (.snoc .nil fits (step_readFrom conserves admitted room))⟩

theorem Reaches.writeTo (reaches : Reaches capacity head tail accepted written)
    (datagram : List UInt8) (next : accepted = written ++ datagram :: pending) :
    Reaches capacity head
      (if capacity + 1 ≤ tail + (datagram.length + 2) then 0 else tail + (datagram.length + 2))
      accepted (written ++ [datagram]) := by
  obtain ⟨data, waiting, conserves, reached⟩ := reaches
  obtain rfl : datagram :: pending = waiting :=
    List.append_cancel_left (next.symm.trans conserves.accepted)
  have fits : Fits ⟨⟨data, head, tail, capacity + 1⟩, accepted, written, none⟩ .writeTo := trivial
  exact ⟨_, _, conserves.pop,
    reached.extend (.snoc .nil fits (step_writeTo conserves))⟩

end DatagramQueue

/-- Four datagrams go through a buffer of sixteen bytes: the third reaches past its end, and the
fourth is stored at its start while the second waits. -/
theorem datagrams_fifo_once :
    ∃ q, (datagramSystem 16).Reachable Fits q ∧
      q.accepted = [[1, 2, 3], [4], [5, 6, 7, 8, 9, 10, 11], [12]] ∧ q.written = q.accepted ∧
      q.buffer.isEmpty = true := by
  have one := (DatagramQueue.Reaches.create 16).readFrom [1, 2, 3] (by decide) (by decide)
    (by decide)
  have two := one.readFrom [4] (by decide) (by decide) (by decide)
  have third := (two.writeTo [1, 2, 3] rfl).readFrom [5, 6, 7, 8, 9, 10, 11] (by decide)
    (by decide) (by decide)
  have fourth := third.readFrom [12] (by decide) (by decide) (by decide)
  obtain ⟨data, pending, -, reached⟩ :=
    ((fourth.writeTo [4] rfl).writeTo [5, 6, 7, 8, 9, 10, 11] rfl).writeTo [12] rfl
  exact ⟨_, reached, rfl, rfl, (datagrams_fifo reached).2.1.mpr rfl⟩

/-- The first datagram of a buffer. -/
theorem reachable_readFrom {capacity : Nat} {ok : DatagramQueue → DatagramAction → Prop}
    {datagram : List UInt8} (admitted : datagram.length ≤ MAX_DATAGRAM_LENGTH)
    (meets : ok (datagramSystem capacity).init (.readFrom datagram)) :
    ∃ data, (datagramSystem capacity).Reachable ok
      ⟨⟨data, if capacity + 1 ≤ datagram.length + 2 then 0 else datagram.length + 2, 0,
        capacity + 1⟩, [datagram], [], none⟩ := by
  have read := step_readFrom (conserves_create capacity) admitted rfl
  have reached := System.Reachable.extend ⟨[], .nil⟩ (.snoc .nil meets read)
  simp only [DatagramQueue.push, DatagramBuffer.wrap, datagramSystem, DatagramBuffer.create,
    Nat.zero_add, encode_length, List.nil_append] at reached
  exact ⟨_, reached⟩

/-- A buffer of four bytes takes the first of them, and is empty. -/
theorem datagram_lost :
    ∃ q, (datagramSystem 4).Reachable Free q ∧ q.accepted = [[1, 2, 3]] ∧ q.written = [] ∧
      q.buffer.isEmpty = true := by
  obtain ⟨data, reached⟩ := @reachable_readFrom 4 Free
    [1, 2, 3] (by decide) trivial
  exact ⟨_, reached, rfl, rfl, rfl⟩

end QuestVdWired.Relay
