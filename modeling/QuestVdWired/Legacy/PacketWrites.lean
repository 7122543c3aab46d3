import QuestVdWired.Legacy.PacketOutput
import QuestVdWired.Wire.Framing

/-!
`IPPacketOutputStream` under any calls of its two `write`s: what it makes of well-formed packets,
however they are cut, and what becomes of any other stream. The target takes every packet.
-/

namespace QuestVdWired.Legacy
open Java Wire

inductive Call
  | array (b : List UInt8)
  | byte (b : UInt8)

def Call.bytes : Call → List UInt8
  | .array b => b
  | .byte b => [b]

namespace IPPacketOutputStream

/-- A debug build asserts that the buffer has room. -/
def writeArray (debug : Bool) (turns : Nat) (b : List UInt8) (s : IPPacketOutputStream) :
    Option (Result IPPacketOutputStream) :=
  if b.length ≤ MAX_IP_PACKET_LENGTH ∧ debug ∧ s.buffer.remaining < b.length then
    some (.error .assertionError)
  else s.write turns b

def writeByte (turns : Nat) (b : UInt8) (s : IPPacketOutputStream) :
    Option (Result IPPacketOutputStream) :=
  if s.buffer.remaining = 0 then some (.error .ioException)
  else s.write turns [b]

def call (debug : Bool) (turns : Nat) (s : IPPacketOutputStream) :
    Call → Option (Result IPPacketOutputStream)
  | .array b => s.writeArray debug turns b
  | .byte b => s.writeByte turns b

/-- The calls up to the first exception. -/
def runCalls (debug : Bool) (turns : Nat) :
    List Call → IPPacketOutputStream → Option (Result IPPacketOutputStream)
  | [], s => some (.ok s)
  | call :: calls, s =>
      match s.call debug turns call with
      | none => none
      | some (.error e) => some (.error e)
      | some (.ok s') => runCalls debug turns calls s'

/-- An exception leaves the stream as it was. -/
def after (s : IPPacketOutputStream) : Result IPPacketOutputStream → IPPacketOutputStream
  | .ok s' => s'
  | .error _ => s

/-- The loop comes to a version other than 4. -/
inductive Clears : IPPacketOutputStream → Prop
  | now {s : IPPacketOutputStream} {version : Nat}
      (read : readPacketVersion s.buffer = .ok (some version)) (other : version ≠ 4) : Clears s
  | later {s s' : IPPacketOutputStream} (sunk : s.sinkPacket = .ok (true, s'))
      (after : Clears s') : Clears s

attribute [local grind =] runCalls

end IPPacketOutputStream

/-! What the stream is for. -/

structure Packet (packet : List UInt8) : Prop where
  version : packetVersion packet = 4
  header : 4 ≤ packet.length
  length : packetLength packet = packet.length

/-- From here on well-formed packets are written one by one as they are completed, whatever the
calls they come in, and the rest of the last is kept. -/
def IPPacketOutputStream.Delivers (debug : Bool) (s : IPPacketOutputStream) : Prop :=
  ∀ (packets : List (List UInt8)) (calls : List Call) (turns : Nat),
    (∀ packet ∈ packets, Packet packet) →
    (∀ call ∈ calls, call.bytes.length ≤ MAX_IP_PACKET_LENGTH) →
    calls.flatMap Call.bytes <+: packets.flatten → packets.length < turns →
    ∃ completed later tail s', packets = completed ++ later ∧
      calls.flatMap Call.bytes = completed.flatten ++ tail ∧
      (∀ next ∈ later.head?, tail.length < next.length) ∧
      s.runCalls debug turns calls = some (.ok s') ∧
      s'.target = s.target ++ completed ∧ s'.buffer.written = tail

/-- Every call comes to an end and none overflows the buffer, and one that clears it leaves it empty
and fit for packets. -/
def IPPacketOutputStream.Contained (debug : Bool) : List Call → IPPacketOutputStream → Prop
  | [], _ => True
  | call :: calls, s => ∃ turns result, s.call debug turns call = some result ∧
      result ≠ .error .bufferOverflow ∧
      (∀ buffer, s.buffer.put call.bytes = .ok buffer → Clears { s with buffer := buffer.flip } →
        (s.after result).buffer.written = [] ∧ (s.after result).Delivers debug) ∧
      Contained debug calls (s.after result)

attribute [local grind =] IPPacketOutputStream.Contained

/-! The packets of any stream of bytes, by the length fields in it. -/

/-- The packet at the front, once it is all there. -/
def frontPacket (stream : List UInt8) : Option Nat :=
  if 4 ≤ stream.length ∧ packetVersion stream = 4 ∧ 0 < packetLength stream ∧
      packetLength stream ≤ stream.length then
    some (packetLength stream)
  else none

/-- More bytes may complete a packet. -/
def Waits (rest : List UInt8) : Prop :=
  rest ≠ [] → packetVersion rest = 4 ∧ (4 ≤ rest.length → packetLength rest ≠ 0)

/-- From each packet to the next there is a version 4, and a length other than 0. -/
def Orderly (stream : List UInt8) : Prop :=
  ∃ packets rest, Splits frontPacket stream packets rest ∧ Waits rest

section
variable {stream part later rest packet : List UInt8} {packets frames : List (List UInt8)} {n : Nat}

theorem frontPacket_eq_some :
    frontPacket stream = some n ↔ (4 ≤ stream.length ∧ packetVersion stream = 4 ∧
      0 < packetLength stream ∧ packetLength stream ≤ stream.length) ∧ packetLength stream = n := by
  rw [frontPacket]
  split
  · rename_i found
    rw [Option.some.injEq]
    exact ⟨fun same => ⟨found, same⟩, And.right⟩
  · rename_i missing
    exact ⟨nofun, fun found => absurd found.1 missing⟩

theorem framing_frontPacket : Framing frontPacket where
  pos found := by
    obtain ⟨⟨_, _, pos, _⟩, rfl⟩ := frontPacket_eq_some.mp found
    exact pos
  le found := by
    obtain ⟨⟨_, _, _, le⟩, rfl⟩ := frontPacket_eq_some.mp found
    exact le
  more found later := by
    obtain ⟨⟨long, version, pos, le⟩, rfl⟩ := frontPacket_eq_some.mp found
    have more : ∀ stream : List UInt8, 4 ≤ stream.length → stream ≠ [] := by
      rintro stream long rfl
      simp at long
    rw [frontPacket_eq_some, packetVersion_append (more _ long), packetLength_append long,
      List.length_append]
    exact ⟨⟨by omega, version, pos, by omega⟩, rfl⟩

theorem Waits.of_append (waits : Waits (part ++ later)) : Waits part := by
  intro more
  obtain ⟨version, length⟩ := waits (by simp [more])
  rw [packetVersion_append more] at version
  refine ⟨version, fun long => ?_⟩
  have length := length (by rw [List.length_append]; omega)
  rwa [packetLength_append long] at length

/-- No packet is found any more behind what does not wait. -/
theorem frontPacket_of_not_waits (stuck : ¬ Waits part) (later : List UInt8) :
    frontPacket (part ++ later) = none := by
  rw [Option.eq_none_iff_forall_ne_some]
  intro n found
  obtain ⟨⟨_, version, pos, _⟩, _⟩ := frontPacket_eq_some.mp found
  exact stuck (Waits.of_append fun _ => ⟨version, fun _ => Nat.ne_of_gt pos⟩)

theorem waits_of_splits (splits : Splits frontPacket (part ++ later) frames rest)
    (waits : Waits rest) : frontPacket part = none → Waits part := by
  intro _
  by_contra stuck
  have whole := Splits.unique (.rest (frontPacket_of_not_waits stuck later)) splits
  rw [← whole.2] at waits
  exact stuck waits.of_append

/-- What waits for more is less than the longest packet. -/
theorem Waits.lt (waits : Waits rest) (incomplete : frontPacket rest = none) :
    rest.length < MAX_IP_PACKET_LENGTH := by
  have small : packetLength rest < MAX_IP_PACKET_LENGTH := by
    have two : ((rest.drop 2).take 2).length ≤ 2 := List.length_take_le _ _
    exact Nat.lt_of_lt_of_le (bigEndian_lt _) (Nat.pow_le_pow_right (by decide) two)
  by_contra long
  have four : 4 ≤ rest.length := Nat.le_trans (by decide) (Nat.le_of_not_lt long)
  have more : rest ≠ [] := by
    rintro rfl
    simp at four
  obtain ⟨version, length⟩ := waits more
  have found : frontPacket rest = some (packetLength rest) :=
    frontPacket_eq_some.mpr
      ⟨⟨four, version, Nat.pos_of_ne_zero (length four), by omega⟩, rfl⟩
  rw [incomplete] at found
  cases found

theorem Packet.front (h : Packet packet) : frontPacket packet = some packet.length := by
  have header := h.header
  refine frontPacket_eq_some.mpr ⟨⟨header, h.version, ?_, Nat.le_of_eq h.length⟩, h.length⟩
  rw [h.length]
  omega

/-- The front of a packet. -/
theorem Packet.waits (h : Packet packet) (front : part <+: packet)
    (shorter : part.length < packet.length) : frontPacket part = none ∧ Waits part := by
  obtain ⟨later, rfl⟩ := front
  constructor
  · rw [Option.eq_none_iff_forall_ne_some]
    intro n found
    obtain ⟨⟨long, _, _, le⟩, _⟩ := frontPacket_eq_some.mp found
    rw [← packetLength_append long later, h.length] at le
    omega
  · have whole : Waits (part ++ later) := by
      intro _
      refine ⟨h.version, fun _ => ?_⟩
      have header := h.header
      rw [h.length]
      omega
    exact whole.of_append

/-- A part of a stream of packets. -/
theorem splits_of_prefix (each : ∀ packet ∈ packets, Packet packet)
    (front : part <+: packets.flatten) :
    ∃ completed later tail, packets = completed ++ later ∧ part = completed.flatten ++ tail ∧
      (∀ next ∈ later.head?, tail.length < next.length) ∧
      Splits frontPacket part completed tail ∧ Waits tail := by
  induction packets generalizing part with
  | nil =>
      obtain rfl : part = [] := List.prefix_nil.mp front
      exact ⟨[], [], [], rfl, rfl, by simp, .rest rfl, fun more => absurd rfl more⟩
  | cons packet packets ih =>
      have own := each packet (List.mem_cons_self ..)
      rw [List.flatten_cons] at front
      by_cases within : part.length < packet.length
      · have inside : part <+: packet :=
          List.prefix_of_prefix_length_le front ⟨_, rfl⟩ (Nat.le_of_lt within)
        obtain ⟨incomplete, waits⟩ := own.waits inside within
        exact ⟨[], packet :: packets, part, rfl, rfl, by simpa using within, .rest incomplete,
          waits⟩
      · obtain ⟨part, rfl⟩ : packet <+: part :=
          List.prefix_of_prefix_length_le ⟨_, rfl⟩ front (by omega)
        rw [List.prefix_append_right_inj] at front
        obtain ⟨completed, later, tail, rfl, rfl, short, splits, waits⟩ :=
          ih (fun other member => each other (List.mem_cons_of_mem _ member)) front
        refine ⟨packet :: completed, later, tail, rfl,
          by rw [List.flatten_cons, List.append_assoc], short, ?_, waits⟩
        have step := Splits.frame (framing_frontPacket.more own.front (completed.flatten ++ tail))
          (by rw [List.drop_left]; exact splits)
        rwa [List.take_left] at step

end

namespace IPPacketOutputStream
variable {s s' : IPPacketOutputStream} {held rest : List UInt8} {frames : List (List UInt8)}
  {turns : Nat} {debug : Bool} {calls : List Call}

theorem sinkPacket_front {n : Nat} (found : frontPacket s.buffer.window = some n) :
    ∃ buffer, s.sinkPacket = .ok (true, ⟨buffer, s.target ++ [s.buffer.window.take n]⟩) ∧
      buffer.window = s.buffer.window.drop n ∧ buffer.capacity = s.buffer.capacity := by
  obtain ⟨⟨long, version, _, le⟩, rfl⟩ := frontPacket_eq_some.mp found
  have more : s.buffer.window ≠ [] := by
    intro empty
    rw [empty] at long
    cases long
  rcases sinkPacket_cases s with ⟨_, waits⟩ | ⟨_, _, other⟩ | ⟨buffer, sunk, _, _, behind⟩
  · have longer := (waits more).2 long
    omega
  · exact absurd version other
  · exact ⟨buffer, sunk, behind⟩

theorem sinkPacket_waits (incomplete : frontPacket s.buffer.window = none)
    (waits : Waits s.buffer.window) : s.sinkPacket = .ok (false, s) := by
  rcases sinkPacket_cases s with ⟨same, _⟩ | ⟨_, more, other⟩ | ⟨_, _, long, le, _⟩
  · exact same
  · exact absurd (waits more).1 other
  · have more : s.buffer.window ≠ [] := by
      intro empty
      rw [empty] at long
      cases long
    obtain ⟨version, length⟩ := waits more
    have found : frontPacket s.buffer.window = some (packetLength s.buffer.window) :=
      frontPacket_eq_some.mpr ⟨⟨long, version, Nat.pos_of_ne_zero (length long), le⟩, rfl⟩
    rw [incomplete] at found
    cases found

theorem sinkPacket_other (more : s.buffer.window ≠ [])
    (other : packetVersion s.buffer.window ≠ 4) :
    s.sinkPacket = .ok (false, { s with buffer := s.buffer.clear }) := by
  rw [sinkPacket, readPacketVersion_eq more]
  simp only [bind, Except.bind, ne_eq, other, not_false_eq_true, if_true]
  rfl

/-- A packet of no bytes is written, and the stream is where it was. -/
theorem sinkPacket_zero (version : packetVersion s.buffer.window = 4)
    (long : 4 ≤ s.buffer.window.length) (zero : packetLength s.buffer.window = 0) :
    ∃ buffer target, s.sinkPacket = .ok (true, ⟨buffer, target⟩) ∧
      buffer.window = s.buffer.window := by
  have more : s.buffer.window ≠ [] := by
    intro empty
    rw [empty] at long
    cases long
  rcases sinkPacket_cases s with ⟨_, waits⟩ | ⟨_, _, other⟩ | ⟨buffer, sunk, _, _, behind, _⟩
  · have longer := (waits more).2 long
    omega
  · exact absurd version other
  · rw [zero, List.drop_zero] at behind
    exact ⟨buffer, _, sunk, behind⟩

theorem Clears.cases (clears : Clears s) :
    (s.buffer.window ≠ [] ∧ packetVersion s.buffer.window ≠ 4) ∨
      ∃ s', s.sinkPacket = .ok (true, s') ∧ Clears s' := by
  cases clears with
  | now read other =>
      left
      have more : s.buffer.window ≠ [] := by
        intro empty
        have length := s.buffer.window_length
        rw [empty, List.length_nil] at length
        rw [readPacketVersion, if_pos length.symm] at read
        cases read
      rw [readPacketVersion_eq more] at read
      cases read
      exact ⟨more, other⟩
  | later sunk after => exact .inr ⟨_, sunk, after⟩

theorem clears_other (more : s.buffer.window ≠ [])
    (other : packetVersion s.buffer.window ≠ 4) : Clears s :=
  .now (readPacketVersion_eq more) other

/-- A stream with packets and a rest that waits is written up to the rest. -/
theorem sink_splits (splits : Splits frontPacket s.buffer.window frames rest) (waits : Waits rest) :
    ¬ Clears s ∧ ∀ turns, frames.length < turns → ∃ s', sink turns s = some (.ok s') ∧
      s'.target = s.target ++ frames ∧ s'.buffer.window = rest ∧
      s'.buffer.capacity = s.buffer.capacity := by
  generalize window : s.buffer.window = stream at splits
  induction splits generalizing s with
  | rest incomplete =>
      subst window
      have same := sinkPacket_waits incomplete waits
      constructor
      · intro clears
        rcases clears.cases with ⟨more, other⟩ | ⟨_, sunk, _⟩
        · exact other (waits more).1
        · rw [same] at sunk
          cases sunk
      · intro turns turn
        obtain ⟨turns, rfl⟩ := Nat.exists_eq_add_one_of_ne_zero (Nat.ne_zero_of_lt turn)
        rw [sink, same]
        exact ⟨s, rfl, (List.append_nil _).symm, rfl, rfl⟩
  | frame found _ ih =>
      subst window
      obtain ⟨buffer, sunk, behind, kept⟩ := sinkPacket_front found
      obtain ⟨calm, more⟩ := ih waits (s := ⟨buffer, _⟩) behind
      constructor
      · intro clears
        rcases clears.cases with ⟨_, other⟩ | ⟨_, sunk', later⟩
        · exact other (frontPacket_eq_some.mp found).1.2.1
        · rw [sunk] at sunk'
          cases sunk'
          exact calm later
      · intro turns turn
        obtain ⟨turns, rfl⟩ := Nat.exists_eq_add_one_of_ne_zero (Nat.ne_zero_of_lt turn)
        obtain ⟨s', ended, target, window, capacity⟩ := more turns (Nat.lt_of_succ_lt_succ turn)
        rw [sink, sunk]
        refine ⟨s', ended, ?_, window, capacity.trans kept⟩
        rw [target, List.append_assoc]
        rfl

theorem sink_zero (version : packetVersion s.buffer.window = 4)
    (long : 4 ≤ s.buffer.window.length) (zero : packetLength s.buffer.window = 0) :
    sink turns s = none := by
  induction turns generalizing s with
  | zero => rfl
  | succ turns ih =>
      obtain ⟨buffer, target, sunk, same⟩ := sinkPacket_zero version long zero
      rw [sink, sunk]
      rw [← same] at version long zero
      exact ih (s := ⟨buffer, target⟩) version long zero

/-- Any other stream clears the buffer, which is full then, or is not got to the end of. -/
theorem sink_stuck (splits : Splits frontPacket s.buffer.window frames rest) (stuck : ¬ Waits rest)
    {result : Result IPPacketOutputStream} (sunk : sink turns s = some result) :
    Clears s ∧ ∃ s', result = .ok s' ∧ s'.buffer.window.length = s.buffer.capacity ∧
      s'.buffer.capacity = s.buffer.capacity := by
  generalize window : s.buffer.window = stream at splits
  induction splits generalizing s turns with
  | rest incomplete =>
      subst window
      have more : s.buffer.window ≠ [] := fun empty => stuck fun more => absurd empty more
      by_cases version : packetVersion s.buffer.window = 4
      · by_cases zero : 4 ≤ s.buffer.window.length ∧ packetLength s.buffer.window = 0
        · rw [sink_zero version zero.1 zero.2] at sunk
          cases sunk
        · exact absurd (fun _ => ⟨version, fun long none => zero ⟨long, none⟩⟩) stuck
      · refine ⟨clears_other more version, ?_⟩
        cases turns with
        | zero => cases sunk
        | succ turns =>
            rw [sink, sinkPacket_other more version] at sunk
            cases sunk
            refine ⟨_, rfl, ?_, rfl⟩
            rw [ByteBuffer.clear, ByteBuffer.window_wrap]
            rfl
  | frame found _ ih =>
      subst window
      obtain ⟨buffer, taken, behind, kept⟩ := sinkPacket_front found
      cases turns with
      | zero => cases sunk
      | succ turns =>
          rw [sink, taken] at sunk
          obtain ⟨clears, s', rfl, full, capacity⟩ := ih stuck sunk behind
          exact ⟨.later taken clears, s', rfl, full.trans kept, capacity.trans kept⟩

/-- More turns change nothing once the loop has ended. -/
theorem sink_add {result : Result IPPacketOutputStream} (sunk : sink turns s = some result)
    (more : Nat) : sink (turns + more) s = some result := by
  induction turns generalizing s with
  | zero => cases sunk
  | succ turns ih =>
      rw [sink] at sunk
      rw [Nat.add_right_comm, sink]
      split at sunk
      · exact sunk
      · exact sunk
      · exact ih sunk

theorem call_add {call : Call} {result : Result IPPacketOutputStream}
    (called : s.call debug turns call = some result) (more : Nat) :
    s.call debug (turns + more) call = some result := by
  have wrote {b : List UInt8} (wrote : s.write turns b = some result) :
      s.write (turns + more) b = some result := by
    unfold IPPacketOutputStream.write at wrote ⊢
    split at wrote
    · rename_i long
      rw [if_pos long]
      exact wrote
    · rename_i short
      rw [if_neg short]
      split at wrote
      · exact wrote
      · obtain ⟨sunk, ended, rfl⟩ := Option.map_eq_some_iff.mp wrote
        simp only [sink_add ended more, Option.map_some]
  cases call with
  | array b =>
      rw [IPPacketOutputStream.call, writeArray] at called ⊢
      split at called
      · rename_i full
        rw [if_pos full]
        exact called
      · rename_i room
        rw [if_neg room]
        exact wrote called
  | byte b =>
      rw [IPPacketOutputStream.call, writeByte] at called ⊢
      split at called
      · rename_i full
        rw [if_pos full]
        exact called
      · rename_i room
        rw [if_neg room]
        exact wrote called

/-- What a call puts into the buffer when there is room for it. -/
theorem Holds.call (debug : Bool) (h : s.Holds held) {call : Call}
    (size : call.bytes.length ≤ MAX_IP_PACKET_LENGTH) (front : held.length < MAX_IP_PACKET_LENGTH) :
    ∃ buffer, s.buffer.put call.bytes = .ok buffer ∧ buffer.flip.window = held ++ call.bytes ∧
      buffer.flip.capacity = 2 * MAX_IP_PACKET_LENGTH ∧
      ∀ turns, s.call debug turns call =
        (sink turns { s with buffer := buffer.flip }).map fun sunk => do
          let s ← sunk
          return { s with buffer := s.buffer.compact } := by
  have room := h.remaining
  obtain ⟨buffer, put, written, _, capacity⟩ := @ByteBuffer.put_eq s.buffer call.bytes (by omega)
  refine ⟨buffer, put, ?_, capacity.trans h.capacity, fun turns => ?_⟩
  · rw [ByteBuffer.window_flip, written, h.written]
  · have written : s.write turns call.bytes =
        (sink turns { s with buffer := buffer.flip }).map fun sunk => do
          let s ← sunk
          return { s with buffer := s.buffer.compact } := by
      rw [IPPacketOutputStream.write, if_neg (by omega), put]
    cases call with
    | array b =>
        rw [Call.bytes] at size
        rw [IPPacketOutputStream.call, writeArray, if_neg (by omega)]
        exact written
    | byte b =>
        rw [IPPacketOutputStream.call, writeByte, if_neg (by omega)]
        exact written

/-- A call that leaves a rest which waits. -/
theorem Holds.call_waits (debug : Bool) (h : s.Holds held) {call : Call}
    (size : call.bytes.length ≤ MAX_IP_PACKET_LENGTH) (front : held.length < MAX_IP_PACKET_LENGTH)
    (splits : Splits frontPacket (held ++ call.bytes) frames rest) (waits : Waits rest) :
    (∀ buffer, s.buffer.put call.bytes = .ok buffer → ¬ Clears { s with buffer := buffer.flip }) ∧
      ∀ turns, frames.length < turns → ∃ s', s.call debug turns call = some (.ok s') ∧
        s'.target = s.target ++ frames ∧ s'.Holds rest := by
  obtain ⟨buffer, put, window, capacity, called⟩ := h.call debug size front
  rw [← window] at splits
  obtain ⟨calm, ends⟩ := sink_splits (s := { s with buffer := buffer.flip }) splits waits
  constructor
  · intro buffer' put'
    rw [put] at put'
    cases put'
    exact calm
  · intro turns turn
    obtain ⟨s', sunk, target, behind, kept⟩ := ends turns turn
    refine ⟨{ s' with buffer := s'.buffer.compact }, ?_, target, ?_⟩
    · rw [called, sunk]
      rfl
    · rw [← behind]
      exact .compact (kept.trans capacity)

/-- A call that leaves anything else, if it comes to an end. -/
theorem Holds.call_stuck (h : s.Holds held) {call : Call}
    (size : call.bytes.length ≤ MAX_IP_PACKET_LENGTH) (front : held.length < MAX_IP_PACKET_LENGTH)
    (splits : Splits frontPacket (held ++ call.bytes) frames rest) (stuck : ¬ Waits rest)
    {result : Result IPPacketOutputStream} (called : s.call debug turns call = some result) :
    (∃ buffer, s.buffer.put call.bytes = .ok buffer ∧ Clears { s with buffer := buffer.flip }) ∧
      (s.after result).buffer.written.length = 2 * MAX_IP_PACKET_LENGTH := by
  obtain ⟨buffer, put, window, capacity, eq⟩ := h.call debug size front
  rw [eq, Option.map_eq_some_iff] at called
  obtain ⟨sunk, ended, rfl⟩ := called
  rw [← window] at splits
  obtain ⟨clears, s', rfl, full, _⟩ :=
    sink_stuck (s := { s with buffer := buffer.flip }) splits stuck ended
  refine ⟨⟨buffer, put, clears⟩, ?_⟩
  change s'.buffer.compact.written.length = _
  rw [ByteBuffer.written_compact, full, capacity]

/-- The calls over a stream of packets. -/
theorem Holds.runCalls (debug : Bool) (h : s.Holds held) (idle : frontPacket held = none)
    (front : Waits held)
    (sizes : ∀ call ∈ calls, call.bytes.length ≤ MAX_IP_PACKET_LENGTH)
    (splits : Splits frontPacket (held ++ calls.flatMap Call.bytes) frames rest)
    (waits : Waits rest) (turn : frames.length < turns) :
    ∃ s', s.runCalls debug turns calls = some (.ok s') ∧ s'.target = s.target ++ frames ∧
      s'.Holds rest := by
  induction calls generalizing s held frames with
  | nil =>
      rw [List.flatMap_nil, List.append_nil] at splits
      obtain ⟨rfl, rfl⟩ := Splits.unique (.rest idle) splits
      exact ⟨s, rfl, (List.append_nil _).symm, h⟩
  | cons call calls ih =>
      rw [List.flatMap_cons, ← List.append_assoc] at splits
      obtain ⟨frames₁, rest₁, first⟩ := Splits.exists_of framing_frontPacket (held ++ call.bytes)
      obtain ⟨frames₂, rest₂, second⟩ :=
        Splits.exists_of framing_frontPacket (rest₁ ++ calls.flatMap Call.bytes)
      obtain ⟨rfl, rfl⟩ := splits.unique (first.append framing_frontPacket second)
      have waits₁ := waits_of_splits second waits first.incomplete
      rw [List.length_append] at turn
      obtain ⟨s₁, called, target₁, holds₁⟩ := (h.call_waits debug
        (sizes call (List.mem_cons_self ..)) (front.lt idle) first waits₁).2 turns (by omega)
      obtain ⟨s₂, ran, target₂, holds₂⟩ := ih holds₁ first.incomplete waits₁
        (fun other member => sizes other (List.mem_cons_of_mem _ member)) second (by omega)
      refine ⟨s₂, ?_, ?_, holds₂⟩
      · rw [IPPacketOutputStream.runCalls, called]
        exact ran
      · rw [target₂, target₁, List.append_assoc]

theorem Holds.contained_iff (h : s.Holds held) (idle : frontPacket held = none)
    (front : Waits held) (sizes : ∀ call ∈ calls, call.bytes.length ≤ MAX_IP_PACKET_LENGTH) :
    s.Contained debug calls ↔ Orderly (held ++ calls.flatMap Call.bytes) := by
  induction calls generalizing s held with
  | nil =>
      rw [List.flatMap_nil, List.append_nil]
      exact ⟨fun _ => ⟨[], held, .rest idle, front⟩, fun _ => trivial⟩
  | cons call calls ih =>
      have size := sizes call (List.mem_cons_self ..)
      have sizes' : ∀ call ∈ calls, call.bytes.length ≤ MAX_IP_PACKET_LENGTH :=
        fun other member => sizes other (List.mem_cons_of_mem _ member)
      obtain ⟨frames₁, rest₁, first⟩ := Splits.exists_of framing_frontPacket (held ++ call.bytes)
      obtain ⟨frames₂, rest₂, second⟩ :=
        Splits.exists_of framing_frontPacket (rest₁ ++ calls.flatMap Call.bytes)
      have whole := first.append framing_frontPacket second
      rw [List.append_assoc, ← List.flatMap_cons] at whole
      constructor
      · rintro ⟨turns, result, called, _, emptied, later⟩
        have waits₁ : Waits rest₁ := by
          by_contra stuck
          obtain ⟨⟨buffer, put, clears⟩, full⟩ :=
            h.call_stuck size (front.lt idle) first stuck called
          rw [(emptied buffer put clears).1] at full
          cases full
        obtain ⟨calm, ends⟩ := h.call_waits debug size (front.lt idle) first waits₁
        obtain ⟨s₁, called₁, _, holds₁⟩ := ends (turns + (frames₁.length + 1)) (by omega)
        rw [call_add called] at called₁
        cases called₁
        obtain ⟨frames, rest, splits, waits⟩ :=
          (ih holds₁ first.incomplete waits₁ sizes').mp later
        obtain ⟨rfl, rfl⟩ := second.unique splits
        exact ⟨_, _, whole, waits⟩
      · rintro ⟨frames, rest, splits, waits⟩
        obtain ⟨rfl, rfl⟩ := whole.unique splits
        have waits₁ := waits_of_splits second waits first.incomplete
        obtain ⟨calm, ends⟩ := h.call_waits debug size (front.lt idle) first waits₁
        obtain ⟨s₁, called, _, holds₁⟩ := ends _ (Nat.lt_succ_self _)
        refine ⟨_, _, called, by simp, fun buffer put clears => absurd clears (calm buffer put), ?_⟩
        exact (ih holds₁ first.incomplete waits₁ sizes').mpr ⟨_, _, second, waits⟩

end IPPacketOutputStream

/-- Packets are delivered one by one from the start, however they are cut into calls. -/
theorem packets_delivered (debug : Bool) : IPPacketOutputStream.create.Delivers debug := by
  intro packets calls turns each sizes part turn
  obtain ⟨completed, later, tail, rfl, same, short, splits, waits⟩ := splits_of_prefix each part
  rw [List.length_append] at turn
  have few : completed.length < turns := by omega
  obtain ⟨s', ran, target, holds⟩ := IPPacketOutputStream.holds_create.runCalls debug rfl
    (fun more => absurd rfl more) sizes splits waits few
  exact ⟨completed, later, tail, s', rfl, same, short, ran, target, holds.written⟩

/-- A packet whose first byte comes alone. -/
def cutPacket : List Call := [.byte 0x45, .array (emptyPacket.drop 1)]

theorem packets_delivered_cutPacket :
    ∃ s', IPPacketOutputStream.create.runCalls true 2 cutPacket = some (.ok s') ∧
      s'.target = [emptyPacket] ∧ s'.buffer.written = [] := by
  obtain ⟨completed, later, tail, s', whole, bytes, short, ran, target, written⟩ :=
    packets_delivered true [emptyPacket] cutPacket 2 (by simpa using ⟨rfl, by decide, rfl⟩)
      (by simp [cutPacket, Call.bytes, emptyPacket, MAX_IP_PACKET_LENGTH]) ⟨[], rfl⟩ (by decide)
  cases completed with
  | nil =>
      obtain rfl : [emptyPacket] = later := whole
      obtain rfl : emptyPacket = tail := bytes
      exact absurd (short emptyPacket rfl) (Nat.lt_irrefl _)
  | cons packet completed =>
      obtain ⟨rfl, rest⟩ := List.cons.inj whole
      obtain ⟨rfl, rfl⟩ := List.append_eq_nil_iff.mp rest.symm
      have cut : cutPacket.flatMap Call.bytes = [emptyPacket].flatten ++ [] := rfl
      obtain rfl : [] = tail := List.append_cancel_left (cut.symm.trans bytes)
      exact ⟨s', ran, target, written⟩

/-- Every call is contained exactly when the bytes are packets one behind the other, the front of
the next at the end, and none of no bytes. -/
theorem contained_iff_orderly (debug : Bool) (calls : List Call)
    (sizes : ∀ call ∈ calls, call.bytes.length ≤ MAX_IP_PACKET_LENGTH) :
    IPPacketOutputStream.create.Contained debug calls ↔ Orderly (calls.flatMap Call.bytes) :=
  IPPacketOutputStream.holds_create.contained_iff rfl (fun more => absurd rfl more) sizes

/-- The start of an IPv6 packet. -/
def versionSix : List Call := [.byte 0x60]

theorem contained_iff_orderly_versionSix :
    IPPacketOutputStream.create.Contained false versionSix ↔
      Orderly (versionSix.flatMap Call.bytes) :=
  contained_iff_orderly false versionSix (by simp [versionSix, Call.bytes, MAX_IP_PACKET_LENGTH])

/-- The buffer is full after it has been cleared. -/
theorem clearing_fills :
    ¬ ∀ (debug : Bool) (calls : List Call),
      (∀ call ∈ calls, call.bytes.length ≤ MAX_IP_PACKET_LENGTH) →
      IPPacketOutputStream.create.Contained debug calls := by
  intro contained
  have sizes : ∀ call ∈ versionSix, call.bytes.length ≤ MAX_IP_PACKET_LENGTH := by
    simp [versionSix, Call.bytes, MAX_IP_PACKET_LENGTH]
  obtain ⟨packets, rest, splits, waits⟩ := (IPPacketOutputStream.holds_create.contained_iff rfl
    (fun more => absurd rfl more) sizes).mp (contained false versionSix sizes)
  obtain ⟨rfl, rfl⟩ := splits.unique (.rest (by decide))
  exact absurd (waits (by decide)).1 (by decide)

end QuestVdWired.Legacy
