import QuestVdWired.Java.ByteBuffer

/-!
The packets of a tunnel on their way to the VPN: `IPPacketOutputStream` behind
`Forwarder.forwardTunnelToDevice`, whose reads come from one tunnel after another through
`PersistentRelayTunnel.receive`. The VPN takes every packet, and every tunnel that is lost is
replaced while there are tunnels to come.
-/

namespace QuestVdWired.Legacy
open Java Wire

def MAX_IP_PACKET_LENGTH : Nat := 2 ^ 16
def BUFSIZE : Nat := 0x10000

/-- `target` has what was written to the VPN, packet by packet. -/
structure IPPacketOutputStream where
  buffer : ByteBuffer
  target : List (List UInt8)

namespace IPPacketOutputStream

def create : IPPacketOutputStream := ⟨.allocate (2 * MAX_IP_PACKET_LENGTH), []⟩

/-- `none` for -1. -/
def readPacketVersion (buffer : ByteBuffer) : Result (Option Nat) :=
  if buffer.remaining = 0 then .ok none
  else return some ((← buffer.get buffer.position).toNat / 16)

/-- `none` for -1. -/
def readPacketLength (buffer : ByteBuffer) : Result (Option Nat) :=
  if buffer.limit < buffer.position + 4 then .ok none
  else return some (← buffer.getShort (buffer.position + 2))

def sinkPacket (s : IPPacketOutputStream) : Result (Bool × IPPacketOutputStream) := do
  match ← readPacketVersion s.buffer with
  | none => return (false, s)
  | some version =>
      if version ≠ 4 then return (false, { s with buffer := s.buffer.clear })
      else
        match ← readPacketLength s.buffer with
        | none => return (false, s)
        | some packetLength =>
            if s.buffer.remaining < packetLength then return (false, s)
            else
              let packet := (s.buffer.bytes.drop s.buffer.position).take packetLength
              let buffer ← s.buffer.setPosition (s.buffer.position + packetLength)
              return (true, ⟨buffer, s.target ++ [packet]⟩)

/-- The loop, `none` if it goes on after that many turns. -/
def sink : Nat → IPPacketOutputStream → Option (Result IPPacketOutputStream)
  | 0, _ => none
  | turns + 1, s =>
      match s.sinkPacket with
      | .error e => some (.error e)
      | .ok (false, s) => some (.ok s)
      | .ok (true, s) => sink turns s

def write (turns : Nat) (b : List UInt8) (s : IPPacketOutputStream) :
    Option (Result IPPacketOutputStream) :=
  if MAX_IP_PACKET_LENGTH < b.length then some (.error .ioException)
  else
    match s.buffer.put b with
    | .error e => some (.error e)
    | .ok buffer =>
        (sink turns { s with buffer := buffer.flip }).map fun sunk => do
          let s ← sunk
          return { s with buffer := s.buffer.compact }

attribute [local grind =] sink

end IPPacketOutputStream

/-- What is left to read from each tunnel. The end of one invalidates it and opens the next. -/
def PersistentRelayTunnel.receive :
    List (List (List UInt8)) → Option (List UInt8 × List (List (List UInt8)))
  | [] => none
  | [] :: tunnels => receive tunnels
  | (read :: reads) :: tunnels => some (read, reads :: tunnels)

attribute [local grind =] PersistentRelayTunnel.receive

theorem PersistentRelayTunnel.receive_eq_none {tunnels : List (List (List UInt8))}
    (ended : receive tunnels = none) : tunnels.flatten = [] := by
  induction tunnels with
  | nil => rfl
  | cons reads tunnels ih =>
      cases reads with
      | nil => exact ih ended
      | cons read reads => cases ended

theorem PersistentRelayTunnel.receive_eq_some {tunnels tunnels' : List (List (List UInt8))}
    {read : List UInt8} (received : receive tunnels = some (read, tunnels')) :
    tunnels.flatten = read :: tunnels'.flatten := by
  induction tunnels with
  | nil => cases received
  | cons reads tunnels ih =>
      cases reads with
      | nil => exact ih received
      | cons read reads =>
          cases received
          rfl

/-- The loop until nothing more is to come; `none` if a packet is sunk without end. -/
def Forwarder.forwardTunnelToDevice (turns : Nat) (tunnels : List (List (List UInt8)))
    (s : IPPacketOutputStream) : Option (Result IPPacketOutputStream) :=
  match _received : PersistentRelayTunnel.receive tunnels with
  | none => some (.ok s)
  | some (buffer, tunnels') =>
      if 0 < buffer.length then
        match s.write turns buffer with
        | none => none
        | some (.error e) => some (.error e)
        | some (.ok s') => forwardTunnelToDevice turns tunnels' s'
      else forwardTunnelToDevice turns tunnels' s
  termination_by tunnels.flatten.length
  decreasing_by
    all_goals
      rw [PersistentRelayTunnel.receive_eq_some _received]
      exact Nat.lt_succ_self _

/-- The reads of all tunnels are written one after the other. -/
def writeAll (turns : Nat) : List (List UInt8) → IPPacketOutputStream →
    Option (Result IPPacketOutputStream)
  | [], s => some (.ok s)
  | read :: reads, s =>
      if 0 < read.length then
        match s.write turns read with
        | none => none
        | some (.error e) => some (.error e)
        | some (.ok s') => writeAll turns reads s'
      else writeAll turns reads s

attribute [local grind =] Forwarder.forwardTunnelToDevice writeAll

theorem forwardTunnelToDevice_eq (turns : Nat) (tunnels : List (List (List UInt8)))
    (s : IPPacketOutputStream) :
    Forwarder.forwardTunnelToDevice turns tunnels s = writeAll turns tunnels.flatten s := by
  fun_induction Forwarder.forwardTunnelToDevice turns tunnels s with
  | case1 _ _ ended => rw [PersistentRelayTunnel.receive_eq_none ended, writeAll]
  | case2 _ _ _ _ received long running =>
      rw [PersistentRelayTunnel.receive_eq_some received, writeAll, if_pos long, running]
  | case3 _ _ _ _ received long _ thrown =>
      rw [PersistentRelayTunnel.receive_eq_some received, writeAll, if_pos long, thrown]
  | case4 _ _ _ _ received long _ written ih =>
      rw [PersistentRelayTunnel.receive_eq_some received, writeAll, if_pos long, written, ih]
  | case5 _ _ _ _ received short ih =>
      rw [PersistentRelayTunnel.receive_eq_some received, writeAll, if_neg short, ih]

/-! What the stream finds at the front of its buffer. -/

def packetVersion (packet : List UInt8) : Nat := (packet.getD 0 0).toNat / 16

def packetLength (packet : List UInt8) : Nat := bigEndian ((packet.drop 2).take 2)

namespace IPPacketOutputStream
variable {s s' : IPPacketOutputStream} {buffer : ByteBuffer} {turns : Nat}

theorem readPacketVersion_eq (more : buffer.window ≠ []) :
    readPacketVersion buffer = .ok (some (packetVersion buffer.window)) := by
  have length := buffer.window_length
  have limit := buffer.limit_le
  have some' := List.length_pos_iff.mpr more
  have there : buffer.position < buffer.limit := by
    unfold ByteBuffer.remaining at length
    omega
  have first : buffer.get buffer.position = .ok (buffer.window.getD 0 0) := by
    refine ByteBuffer.get_eq_ok.mpr ⟨there, ?_⟩
    rw [ByteBuffer.window, List.getD_eq_getElem?_getD, List.getElem?_drop, Nat.add_zero,
      List.getElem?_take_of_lt there, List.getD_eq_getElem?_getD]
  rw [readPacketVersion, if_neg (by omega), first]
  rfl

theorem readPacketLength_eq (long : 4 ≤ buffer.window.length) :
    readPacketLength buffer = .ok (some (packetLength buffer.window)) := by
  have length := buffer.window_length
  unfold ByteBuffer.remaining at length
  have total : buffer.getShort (buffer.position + 2) = .ok (packetLength buffer.window) := by
    refine ByteBuffer.getShort_eq_ok.mpr ⟨by omega, ?_⟩
    rw [packetLength, ByteBuffer.window, List.drop_drop, List.drop_take, List.take_take,
      Nat.min_eq_left (by omega)]
  rw [readPacketLength, if_neg (by omega), total]
  rfl

/-- There is nothing complete at the front, or another version, or a packet. -/
theorem sinkPacket_cases (s : IPPacketOutputStream) :
    (s.sinkPacket = .ok (false, s) ∧ (s.buffer.window ≠ [] → packetVersion s.buffer.window = 4 ∧
        (4 ≤ s.buffer.window.length → s.buffer.window.length < packetLength s.buffer.window))) ∨
      (s.sinkPacket = .ok (false, { s with buffer := s.buffer.clear }) ∧ s.buffer.window ≠ [] ∧
        packetVersion s.buffer.window ≠ 4) ∨
      ∃ buffer, s.sinkPacket = .ok (true,
          ⟨buffer, s.target ++ [s.buffer.window.take (packetLength s.buffer.window)]⟩) ∧
        4 ≤ s.buffer.window.length ∧ packetLength s.buffer.window ≤ s.buffer.window.length ∧
        buffer.window = s.buffer.window.drop (packetLength s.buffer.window) ∧
        buffer.capacity = s.buffer.capacity := by
  have length := s.buffer.window_length
  by_cases more : s.buffer.window = []
  · refine .inl ⟨?_, fun other => absurd more other⟩
    rw [more, List.length_nil] at length
    rw [sinkPacket, readPacketVersion, if_pos length.symm]
    rfl
  · by_cases version : packetVersion s.buffer.window = 4
    · by_cases long : 4 ≤ s.buffer.window.length
      · by_cases whole : packetLength s.buffer.window ≤ s.buffer.window.length
        · right
          right
          have fits : s.buffer.position + packetLength s.buffer.window ≤ s.buffer.limit := by
            have position := s.buffer.position_le
            unfold ByteBuffer.remaining at length
            omega
          refine ⟨⟨s.buffer.bytes, _, s.buffer.limit, fits, s.buffer.limit_le⟩, ?_, long, whole,
            List.drop_drop.symm, rfl⟩
          have moved : s.buffer.setPosition (s.buffer.position + packetLength s.buffer.window) =
              .ok ⟨s.buffer.bytes, _, s.buffer.limit, fits, s.buffer.limit_le⟩ :=
            ByteBuffer.setPosition_eq_ok.mpr ⟨fits, rfl, rfl, rfl⟩
          have packet (n : Nat) (within : n ≤ s.buffer.limit - s.buffer.position) :
              (s.buffer.bytes.drop s.buffer.position).take n = s.buffer.window.take n := by
            rw [ByteBuffer.window, List.drop_take, List.take_take, Nat.min_eq_left within]
          rw [sinkPacket, readPacketVersion_eq more]
          simp only [bind, Except.bind, version, ne_eq, not_true, if_false,
            readPacketLength_eq long]
          rw [if_neg (by omega), moved, packet _ (by omega)]
          rfl
        · refine .inl ⟨?_, fun _ => ⟨version, fun _ => by omega⟩⟩
          rw [sinkPacket, readPacketVersion_eq more]
          simp only [bind, Except.bind, version, ne_eq, not_true, if_false,
            readPacketLength_eq long]
          rw [if_pos (by omega)]
          rfl
      · refine .inl ⟨?_, fun _ => ⟨version, fun other => absurd other long⟩⟩
        have short : s.buffer.limit < s.buffer.position + 4 := by
          unfold ByteBuffer.remaining at length
          omega
        rw [sinkPacket, readPacketVersion_eq more]
        simp only [bind, Except.bind, version, ne_eq, not_true, if_false, readPacketLength,
          if_pos short]
        rfl
    · refine .inr (.inl ⟨?_, more, version⟩)
      rw [sinkPacket, readPacketVersion_eq more]
      simp only [bind, Except.bind, ne_eq, version, not_false_eq_true, if_true]
      rfl

/-- No byte is lost or written twice, unless the buffer was cleared: then all of it is kept. -/
theorem sink_conserves (sunk : sink turns s = some (.ok s')) :
    s'.buffer.capacity = s.buffer.capacity ∧
      (s'.target.flatten ++ s'.buffer.window = s.target.flatten ++ s.buffer.window ∨
        s'.buffer.window.length = s.buffer.capacity) := by
  induction turns generalizing s with
  | zero => cases sunk
  | succ turns ih =>
      rw [sink] at sunk
      rcases sinkPacket_cases s with ⟨same, _⟩ | ⟨cleared, _⟩ | ⟨buffer, taken, _, _, window, kept⟩
      · rw [same] at sunk
        cases sunk
        exact ⟨rfl, .inl rfl⟩
      · rw [cleared] at sunk
        cases sunk
        refine ⟨rfl, .inr ?_⟩
        rw [ByteBuffer.clear, ByteBuffer.window_wrap]
        rfl
      · rw [taken] at sunk
        obtain ⟨capacity, held⟩ := ih sunk
        refine ⟨capacity.trans kept, ?_⟩
        rw [kept, window, List.flatten_append, List.flatten_singleton, List.append_assoc,
          List.take_append_drop] at held
        exact held

end IPPacketOutputStream

/-! Packets, and what a lost tunnel may leave of one. -/

structure Complete (packet : List UInt8) : Prop where
  version : packetVersion packet = 4
  header : 20 ≤ packet.length
  length : packetLength packet = packet.length

/-- The front of a packet, which is not all there. -/
def Truncated (tail : List UInt8) : Prop :=
  ∃ packet, Complete packet ∧ tail <+: packet ∧ tail.length < packet.length

section
variable {packet tail part later rest : List UInt8} {packets frames : List (List UInt8)}

theorem packetVersion_append (more : part ≠ []) (later : List UInt8) :
    packetVersion (part ++ later) = packetVersion part := by
  cases part with
  | nil => exact absurd rfl more
  | cons byte part => rfl

theorem packetLength_append (long : 4 ≤ part.length) (later : List UInt8) :
    packetLength (part ++ later) = packetLength part := by
  unfold packetLength
  rw [List.drop_append_of_le_length (by omega),
    List.take_append_of_le_length (by rw [List.length_drop]; omega)]

theorem Complete.lt (h : Complete packet) : packet.length < MAX_IP_PACKET_LENGTH := by
  have small := bigEndian_lt ((packet.drop 2).take 2)
  have two : ((packet.drop 2).take 2).length ≤ 2 := List.length_take_le _ _
  rw [← h.length]
  exact Nat.lt_of_lt_of_le small (Nat.pow_le_pow_right (by decide) two)

theorem Truncated.lt (h : Truncated tail) : tail.length < MAX_IP_PACKET_LENGTH := by
  obtain ⟨packet, complete, _, shorter⟩ := h
  exact Nat.lt_trans shorter complete.lt

theorem Truncated.of_prefix (h : Truncated tail) (front : part <+: tail) : Truncated part := by
  obtain ⟨packet, complete, of, shorter⟩ := h
  exact ⟨packet, complete, front.trans of, Nat.lt_of_le_of_lt front.length_le shorter⟩

/-- What is left of a packet is not taken for one. -/
theorem Truncated.waits (h : Truncated tail) (more : tail ≠ []) :
    packetVersion tail = 4 ∧ (4 ≤ tail.length → tail.length < packetLength tail) := by
  obtain ⟨packet, complete, ⟨later, rfl⟩, shorter⟩ := h
  constructor
  · rw [← packetVersion_append more later, complete.version]
  · intro long
    rw [← packetLength_append long later, complete.length]
    exact shorter

theorem not_truncated_append (complete : Complete packet) : ¬ Truncated (packet ++ later) := by
  intro truncated
  have header := complete.header
  have longer : (packet ++ later).length = packet.length + later.length := List.length_append
  have waits := (truncated.waits (by
    intro empty
    have := congrArg List.length empty
    rw [List.length_nil] at this
    omega)).2 (by omega)
  rw [packetLength_append (by omega), complete.length] at waits
  omega

/-- A part of a stream of packets is some of them and the front of the next. -/
theorem cut (complete : ∀ packet ∈ packets, Complete packet) (truncated : Truncated tail)
    (stream : part ++ later = packets.flatten ++ tail) :
    ∃ frames packets' rest, packets = frames ++ packets' ∧ part = frames.flatten ++ rest ∧
      Truncated rest ∧ rest ++ later = packets'.flatten ++ tail := by
  induction packets generalizing part with
  | nil => exact ⟨[], [], part, rfl, rfl, truncated.of_prefix ⟨later, stream⟩, stream⟩
  | cons packet packets ih =>
      have own := complete packet (List.mem_cons_self ..)
      rw [List.flatten_cons, List.append_assoc] at stream
      by_cases within : part.length < packet.length
      · have front : part <+: packet :=
          List.prefix_of_prefix_length_le ⟨later, stream⟩ ⟨_, rfl⟩ (Nat.le_of_lt within)
        refine ⟨[], packet :: packets, part, rfl, rfl, ⟨packet, own, front, within⟩, ?_⟩
        rw [stream, List.flatten_cons, List.append_assoc]
      · obtain ⟨part, rfl⟩ : packet <+: part :=
          List.prefix_of_prefix_length_le ⟨_, stream.symm⟩ ⟨later, rfl⟩ (by omega)
        rw [List.append_assoc, List.append_cancel_left_eq] at stream
        obtain ⟨frames, packets', rest, rfl, rfl, front, behind⟩ :=
          ih (fun other member => complete other (List.mem_cons_of_mem _ member)) stream
        exact ⟨packet :: frames, packets', rest, rfl,
          by rw [List.flatten_cons, List.append_assoc], front, behind⟩

end

/-- Between two writes the buffer has `held` at its front. -/
structure IPPacketOutputStream.Holds (s : IPPacketOutputStream) (held : List UInt8) : Prop where
  written : s.buffer.written = held
  limit : s.buffer.limit = 2 * MAX_IP_PACKET_LENGTH
  capacity : s.buffer.capacity = 2 * MAX_IP_PACKET_LENGTH

namespace IPPacketOutputStream
variable {s s' : IPPacketOutputStream} {held read rest : List UInt8} {frames : List (List UInt8)}
  {turns : Nat}

theorem holds_create : Holds create [] := by
  refine ⟨rfl, ?_, ?_⟩ <;> exact List.length_replicate

theorem Holds.remaining (h : s.Holds held) :
    s.buffer.remaining = 2 * MAX_IP_PACKET_LENGTH - held.length := by
  rw [ByteBuffer.remaining, h.limit, ← h.written, ByteBuffer.written_length]

theorem Holds.compact (capacity : s.buffer.capacity = 2 * MAX_IP_PACKET_LENGTH) :
    Holds { s with buffer := s.buffer.compact } s.buffer.window :=
  ⟨ByteBuffer.written_compact, capacity, ByteBuffer.capacity_compact.trans capacity⟩

theorem sink_frames (window : s.buffer.window = frames.flatten ++ rest)
    (complete : ∀ frame ∈ frames, Complete frame) (truncated : Truncated rest)
    (turn : frames.length < turns) :
    ∃ s', sink turns s = some (.ok s') ∧ s'.target = s.target ++ frames ∧
      s'.buffer.window = rest ∧ s'.buffer.capacity = s.buffer.capacity := by
  induction frames generalizing s turns with
  | nil =>
      obtain ⟨turns, rfl⟩ := Nat.exists_eq_add_one_of_ne_zero (Nat.ne_zero_of_lt turn)
      rw [List.flatten_nil, List.nil_append] at window
      rw [sink]
      rcases sinkPacket_cases s with ⟨same, _⟩ | ⟨_, more, version⟩ | ⟨_, _, long, whole, _⟩
      · rw [same]
        exact ⟨s, rfl, (List.append_nil _).symm, window, rfl⟩
      · rw [window] at more version
        exact absurd (truncated.waits more).1 version
      · rw [window] at long whole
        have more : rest ≠ [] := by
          rintro rfl
          simp at long
        have waits := (truncated.waits more).2 long
        omega
  | cons frame frames ih =>
      obtain ⟨turns, rfl⟩ := Nat.exists_eq_add_one_of_ne_zero (Nat.ne_zero_of_lt turn)
      have own := complete frame (List.mem_cons_self ..)
      have header := own.header
      rw [List.flatten_cons, List.append_assoc] at window
      have more : frame ≠ [] := by
        rintro rfl
        simp at header
      have version : packetVersion s.buffer.window = 4 := by
        rw [window, packetVersion_append more, own.version]
      have length : packetLength s.buffer.window = frame.length := by
        rw [window, packetLength_append (by omega), own.length]
      have longer := congrArg List.length window
      rw [List.length_append] at longer
      rw [sink]
      rcases sinkPacket_cases s with ⟨_, waits⟩ | ⟨_, _, other⟩ | ⟨buffer, taken, _, _, behind, kept⟩
      · have waits := (waits (by simp [window, more])).2 (by omega)
        omega
      · exact absurd version other
      · rw [length, window, List.drop_left] at behind
        rw [length, window, List.take_left] at taken
        obtain ⟨s', sunk, target, held, capacity⟩ := ih (s := ⟨buffer, s.target ++ [frame]⟩) behind
          (fun other member => complete other (List.mem_cons_of_mem _ member))
          (Nat.lt_of_succ_lt_succ turn)
        rw [taken]
        refine ⟨s', sunk, ?_, held, capacity.trans kept⟩
        rw [target, List.append_assoc]
        rfl

/-- Complete packets go to the VPN as they are read. -/
theorem Holds.write (h : s.Holds held) (front : Truncated held)
    (size : read.length ≤ MAX_IP_PACKET_LENGTH) (stream : held ++ read = frames.flatten ++ rest)
    (complete : ∀ frame ∈ frames, Complete frame) (truncated : Truncated rest)
    (turn : frames.length < turns) :
    ∃ s', s.write turns read = some (.ok s') ∧ s'.target = s.target ++ frames ∧ s'.Holds rest := by
  have less := front.lt
  obtain ⟨buffer, put, written, _, capacity⟩ := @ByteBuffer.put_eq s.buffer read
    (by rw [h.remaining]; omega)
  rw [h.written, stream] at written
  obtain ⟨s', sunk, target, window, kept⟩ := sink_frames
    (s := { s with buffer := buffer.flip }) (by rw [ByteBuffer.window_flip, written]) complete
    truncated turn
  refine ⟨{ s' with buffer := s'.buffer.compact }, ?_, target, ?_⟩
  · rw [IPPacketOutputStream.write, if_neg (by omega), put]
    simp only [sunk, Option.map_some]
    rfl
  · rw [← window]
    exact .compact (kept.trans (capacity.trans h.capacity))

/-- Bytes are kept in order, unless the buffer was cleared and is full from then on. -/
theorem Holds.of_write (h : s.Holds held) (wrote : s.write turns read = some (.ok s')) :
    held.length + read.length ≤ 2 * MAX_IP_PACKET_LENGTH ∧ ∃ held', s'.Holds held' ∧
      (s'.target.flatten ++ held' = s.target.flatten ++ (held ++ read) ∨
        held'.length = 2 * MAX_IP_PACKET_LENGTH) := by
  unfold IPPacketOutputStream.write at wrote
  split at wrote
  · cases wrote
  by_cases fits : read.length ≤ s.buffer.remaining
  · obtain ⟨buffer, put, written, _, capacity⟩ := ByteBuffer.put_eq fits
    rw [put] at wrote
    simp only [Option.map_eq_some_iff] at wrote
    obtain ⟨sunk, ended, kept⟩ := wrote
    obtain ⟨s'', rfl, final⟩ := bind_eq_ok.mp kept
    cases final
    obtain ⟨capacity', held'⟩ := sink_conserves ended
    rw [ByteBuffer.window_flip, written, h.written] at held'
    have own : buffer.flip.capacity = 2 * MAX_IP_PACKET_LENGTH := capacity.trans h.capacity
    rw [own] at capacity' held'
    have bound := s.buffer.position_le
    have length := h.written ▸ s.buffer.written_length
    rw [h.remaining] at fits
    rw [h.limit] at bound
    exact ⟨by omega, _, .compact capacity', held'⟩
  · rw [ByteBuffer.put, dif_neg fits] at wrote
    cases wrote

end IPPacketOutputStream

section
variable {s s' : IPPacketOutputStream} {held tail : List UInt8}
  {reads more packets : List (List UInt8)} {turns : Nat}

theorem writeAll_append (first : writeAll turns reads s = some (.ok s')) :
    writeAll turns (reads ++ more) s = writeAll turns more s' := by
  induction reads generalizing s with
  | nil =>
      cases first
      rfl
  | cons read reads ih =>
      rw [List.cons_append, writeAll]
      rw [writeAll] at first
      split at first
      · rename_i long
        rw [if_pos long]
        split at first
        · cases first
        · cases first
        · exact ih first
      · rename_i short
        rw [if_neg short]
        exact ih first

/-- Nothing is written to a buffer that is full. -/
theorem writeAll_full (h : s.Holds held) (full : held.length = 2 * MAX_IP_PACKET_LENGTH)
    (wrote : writeAll turns reads s = some (.ok s')) : s' = s := by
  induction reads with
  | nil =>
      cases wrote
      rfl
  | cons read reads ih =>
      rw [writeAll] at wrote
      split at wrote
      · rename_i long
        split at wrote
        · cases wrote
        · cases wrote
        · rename_i written
          have room := (h.of_write written).1
          omega
      · exact ih wrote

theorem writeAll_conserves (h : s.Holds held) (wrote : writeAll turns reads s = some (.ok s')) :
    ∃ held', s'.Holds held' ∧
      (s'.target.flatten ++ held' = s.target.flatten ++ (held ++ reads.flatten) ∨
        held'.length = 2 * MAX_IP_PACKET_LENGTH) := by
  induction reads generalizing s held with
  | nil =>
      cases wrote
      exact ⟨held, h, .inl (by rw [List.flatten_nil, List.append_nil])⟩
  | cons read reads ih =>
      rw [writeAll] at wrote
      split at wrote
      · split at wrote
        · cases wrote
        · cases wrote
        · rename_i written
          obtain ⟨_, held', holds, kept | full⟩ := h.of_write written
          · obtain ⟨held'', holds', kept' | full⟩ := ih holds wrote
            · refine ⟨held'', holds', .inl ?_⟩
              rw [kept', ← List.append_assoc, kept, List.flatten_cons]
              simp only [List.append_assoc]
            · exact ⟨held'', holds', .inr full⟩
          · cases writeAll_full holds full wrote
            exact ⟨held', holds, .inr full⟩
      · rename_i short
        obtain rfl : read = [] := List.eq_nil_of_length_eq_zero (by omega)
        exact ih h wrote

theorem length_le_flatten (complete : ∀ packet ∈ packets, Complete packet) :
    packets.length ≤ packets.flatten.length := by
  induction packets with
  | nil => exact Nat.le_refl _
  | cons packet packets ih =>
      have header := (complete packet (List.mem_cons_self ..)).header
      have later := ih fun other member => complete other (List.mem_cons_of_mem _ member)
      rw [List.flatten_cons, List.length_append, List.length_cons]
      omega

/-- From the front of a packet on, a stream of packets is written as such. -/
theorem writeAll_packets (h : s.Holds held) (front : Truncated held)
    (sizes : ∀ read ∈ reads, read.length ≤ MAX_IP_PACKET_LENGTH)
    (complete : ∀ packet ∈ packets, Complete packet) (truncated : Truncated tail)
    (stream : held ++ reads.flatten = packets.flatten ++ tail)
    (turn : 2 * MAX_IP_PACKET_LENGTH < turns) :
    ∃ s', writeAll turns reads s = some (.ok s') ∧ s'.target = s.target ++ packets ∧
      s'.Holds tail := by
  induction reads generalizing s held packets with
  | nil =>
      rw [List.flatten_nil, List.append_nil] at stream
      cases packets with
      | nil =>
          obtain rfl : held = tail := stream
          exact ⟨s, rfl, (List.append_nil _).symm, h⟩
      | cons packet packets =>
          rw [stream, List.flatten_cons, List.append_assoc] at front
          exact absurd front (not_truncated_append (complete packet (List.mem_cons_self ..)))
  | cons read reads ih =>
      have size := sizes read (List.mem_cons_self ..)
      have sizes' : ∀ read ∈ reads, read.length ≤ MAX_IP_PACKET_LENGTH :=
        fun other member => sizes other (List.mem_cons_of_mem _ member)
      rw [writeAll]
      split
      · rw [List.flatten_cons, ← List.append_assoc] at stream
        obtain ⟨frames, packets', rest, rfl, part, waiting, behind⟩ := cut complete truncated stream
        have framed : ∀ frame ∈ frames, Complete frame :=
          fun frame member => complete frame (List.mem_append_left _ member)
        have few : frames.length < turns := by
          have count := length_le_flatten framed
          have less := front.lt
          have length := congrArg List.length part
          simp only [List.length_append] at length
          omega
        obtain ⟨s₁, wrote, target, holds⟩ := h.write front size part framed waiting few
        obtain ⟨s₂, wrote', target', holds'⟩ := ih holds waiting sizes'
          (fun packet member => complete packet (List.mem_append_right _ member)) behind
        rw [wrote]
        refine ⟨s₂, wrote', ?_, holds'⟩
        rw [target', target, List.append_assoc]
      · rename_i short
        obtain rfl : read = [] := List.eq_nil_of_length_eq_zero (by omega)
        exact ih h front sizes' complete stream

end

/-- What one tunnel delivers before it is lost, in the reads it comes in. -/
structure Session where
  packets : List (List UInt8)
  tail : List UInt8
  reads : List (List UInt8)
  complete : ∀ packet ∈ packets, Complete packet
  truncated : Truncated tail
  sizes : ∀ read ∈ reads, read.length ≤ BUFSIZE
  delivers : reads.flatten = packets.flatten ++ tail

/-- What the last tunnel that delivered anything left of a packet. -/
def lastTail (sessions : List Session) : List UInt8 :=
  sessions.foldl (fun held session => if session.reads.flatten = [] then held else session.tail) []

/-- The VPN gets the complete packets of all sessions, and what is held back for the next is only
of the last one. -/
def KeepsBoundaries (sessions : List Session) : Prop :=
  ∃ turns s, Forwarder.forwardTunnelToDevice turns (sessions.map Session.reads) .create =
      some (.ok s) ∧
    s.target = sessions.flatMap Session.packets ∧ s.buffer.written = lastTail sessions

/-- Nothing is delivered after a session that ended inside a packet. -/
def Clean (sessions : List Session) : Prop :=
  sessions.Pairwise fun session later => session.tail = [] ∨ later.reads.flatten = []

section
variable {sessions : List Session} {session : Session}

theorem lastTail_concat :
    lastTail (sessions ++ [session]) =
      if session.reads.flatten = [] then lastTail sessions else session.tail := by
  rw [lastTail, List.foldl_append]
  rfl

theorem lastTail_eq_nil (whole : ∀ session ∈ sessions, session.tail = []) :
    lastTail sessions = [] := by
  induction sessions using List.reverseRecOn with
  | nil => rfl
  | append_singleton sessions session ih =>
      rw [lastTail_concat]
      split
      · exact ih fun other member => whole other (List.mem_append_left _ member)
      · exact whole session (by simp)

theorem Session.eq_nil (silent : session.reads.flatten = []) :
    session.packets = [] ∧ session.tail = [] := by
  have delivers := session.delivers
  rw [silent] at delivers
  obtain ⟨packets, tail⟩ := List.append_eq_nil_iff.mp delivers.symm
  refine ⟨?_, tail⟩
  have count := length_le_flatten session.complete
  rw [packets, List.length_nil] at count
  exact List.eq_nil_of_length_eq_zero (Nat.le_zero.mp count)

/-- An IPv4 header and nothing behind it. -/
def emptyPacket : List UInt8 := 0x45 :: 0 :: 0 :: 20 :: List.replicate 16 0

theorem complete_emptyPacket : Complete emptyPacket := ⟨rfl, Nat.le_refl _, rfl⟩

theorem truncated_nil : Truncated [] :=
  ⟨emptyPacket, complete_emptyPacket, List.nil_prefix, by decide⟩

theorem truncated_lastTail (sessions : List Session) : Truncated (lastTail sessions) := by
  induction sessions using List.reverseRecOn with
  | nil => exact truncated_nil
  | append_singleton sessions session ih =>
      rw [lastTail_concat]
      split
      · exact ih
      · exact session.truncated

theorem clean_concat :
    Clean (sessions ++ [session]) ↔ Clean sessions ∧
      ∀ earlier ∈ sessions, earlier.tail = [] ∨ session.reads.flatten = [] := by
  simp [Clean, List.pairwise_append]

/-- The run over sessions none of which is cut short before another. -/
theorem Clean.forwards (clean : Clean sessions) {turns : Nat}
    (turn : 2 * MAX_IP_PACKET_LENGTH < turns) :
    ∃ s, writeAll turns (sessions.map Session.reads).flatten .create = some (.ok s) ∧
      s.target = sessions.flatMap Session.packets ∧ s.Holds (lastTail sessions) := by
  induction sessions using List.reverseRecOn with
  | nil => exact ⟨_, rfl, rfl, IPPacketOutputStream.holds_create⟩
  | append_singleton sessions session ih =>
      obtain ⟨before, behind⟩ := clean_concat.mp clean
      obtain ⟨s, wrote, target, holds⟩ := ih before
      have front := truncated_lastTail sessions
      rw [List.map_append, List.flatten_append, writeAll_append wrote, List.flatMap_append,
        lastTail_concat, ← target]
      simp only [List.map_cons, List.map_nil, List.flatten_singleton, List.flatMap_singleton]
      split
      · rename_i silent
        rw [(Session.eq_nil silent).1]
        exact writeAll_packets holds front session.sizes (fun _ member => by cases member) front
          (by rw [silent, List.append_nil]; rfl) turn
      · rename_i delivering
        have nothing : lastTail sessions = [] :=
          lastTail_eq_nil fun earlier member => (behind earlier member).resolve_right delivering
        rw [nothing] at holds front
        exact writeAll_packets holds front session.sizes session.complete session.truncated
          session.delivers turn

/-- Where no byte is missing but those of the last tail, no other tail had any. -/
theorem clean_of_tails
    (few : (sessions.flatMap Session.tail).length ≤ (lastTail sessions).length) :
    Clean sessions := by
  induction sessions using List.reverseRecOn with
  | nil => exact .nil
  | append_singleton sessions session ih =>
      rw [List.flatMap_append, List.flatMap_singleton, List.length_append, lastTail_concat] at few
      split at few
      · rename_i silent
        rw [(Session.eq_nil silent).2, List.length_nil, Nat.add_zero] at few
        exact clean_concat.mpr ⟨ih few, fun _ _ => .inr silent⟩
      · have none : sessions.flatMap Session.tail = [] :=
          List.eq_nil_of_length_eq_zero (by omega)
        have whole := List.flatMap_eq_nil_iff.mp none
        exact clean_concat.mpr ⟨ih (by omega), fun earlier member => .inl (whole earlier member)⟩

theorem length_delivered :
    (sessions.map Session.reads).flatten.flatten.length =
      (sessions.flatMap Session.packets).flatten.length +
        (sessions.flatMap Session.tail).length := by
  induction sessions with
  | nil => rfl
  | cons session sessions ih =>
      have own := congrArg List.length session.delivers
      rw [List.length_append] at own
      simp only [List.map_cons, List.flatten_cons, List.flatten_append, List.length_append,
        List.flatMap_cons]
      omega

/-- The lengths say what was left out: bytes go only to the VPN or stay in the buffer. -/
theorem clean_of_forwards {turns : Nat} {s : IPPacketOutputStream}
    (forwarded : Forwarder.forwardTunnelToDevice turns (sessions.map Session.reads) .create =
      some (.ok s)) (target : s.target = sessions.flatMap Session.packets)
    (held : s.buffer.written = lastTail sessions) : Clean sessions := by
  rw [forwardTunnelToDevice_eq] at forwarded
  obtain ⟨held', holds, kept⟩ := writeAll_conserves IPPacketOutputStream.holds_create forwarded
  obtain rfl : held' = lastTail sessions := holds.written.symm.trans held
  have less := (truncated_lastTail sessions).lt
  refine clean_of_tails (Nat.le_of_eq ?_)
  rcases kept with kept | full
  · have length := congrArg List.length kept
    have delivered := @length_delivered sessions
    simp only [target, IPPacketOutputStream.create, List.flatten_nil, List.nil_append,
      List.length_append] at length
    omega
  · omega

end

/-- The boundaries are kept exactly when nothing follows a session cut inside a packet. -/
theorem boundaries_kept_iff (sessions : List Session) :
    KeepsBoundaries sessions ↔ Clean sessions := by
  constructor
  · rintro ⟨turns, s, forwarded, target, held⟩
    exact clean_of_forwards forwarded target held
  · intro clean
    obtain ⟨s, wrote, target, holds⟩ := clean.forwards (Nat.lt_succ_self _)
    exact ⟨_, s, by rw [forwardTunnelToDevice_eq, wrote], target, holds.written⟩

/-- A tunnel lost after the first byte of a packet. -/
def Session.lost : Session where
  packets := []
  tail := [0x45]
  reads := [[0x45]]
  complete := by simp
  truncated := ⟨emptyPacket, complete_emptyPacket, ⟨_, rfl⟩, by decide⟩
  sizes := by simp [BUFSIZE]
  delivers := rfl

/-- A tunnel that delivers one packet. -/
def Session.next : Session where
  packets := [emptyPacket]
  tail := []
  reads := [emptyPacket]
  complete := by simpa using complete_emptyPacket
  truncated := truncated_nil
  sizes := by simp [BUFSIZE, emptyPacket]
  delivers := rfl

theorem packet_absorbed : ¬ KeepsBoundaries [.lost, .next] := by
  rintro ⟨turns, s, forwarded, target, held⟩
  have clean := clean_of_forwards forwarded target held
  rcases (List.pairwise_pair.mp clean) with tail | reads
  · cases tail
  · cases reads

end QuestVdWired.Legacy
