import QuestVdWired.Relay.IPv4Packet
import QuestVdWired.Transition.System
import QuestVdWired.Wire.Framing

/-!
What the relay makes of the bytes of a client: `IPv4PacketBuffer` cuts them into packets and
`Client.pushToNetwork` hands these to the router. Whether the router has a connection for a
packet is left open; a packet without one has its headers copied. An exception leaves the
selector loop.
-/

namespace QuestVdWired.Relay
open Java Transition Wire

/-- `IPv4Header.readLength`, with `none` for -1. -/
def readLength (buffer : ByteBuffer) : Result (Option Nat) :=
  if buffer.limit < 4 then .ok none else return some (← buffer.getShort 2)

namespace IPv4PacketBuffer

def create : ByteBuffer := .allocate MAX_PACKET_LENGTH

def getAvailablePacketLength (buffer : ByteBuffer) : Result Nat := do
  match ← readLength buffer with
  | none => return 0
  | some length => return if buffer.remaining < length then 0 else length

def asIPv4Packet (buffer : ByteBuffer) : Result (Option IPv4Packet × ByteBuffer) := do
  let buffer := buffer.flip
  let length ← getAvailablePacketLength buffer
  if length = 0 then return (none, buffer.compact)
  else
    let limit := buffer.limit
    let buffer ← (← buffer.setLimit length).setPosition 0
    let packetBuffer := buffer.slice
    let buffer ← (← buffer.setLimit limit).setPosition length
    return (some (← IPv4Packet.create packetBuffer), buffer)

def next (buffer : ByteBuffer) : ByteBuffer := buffer.compact

end IPv4PacketBuffer

/-- What the router does with a packet before a connection has it: a valid packet goes to its
connection, made from the packet's headers if it is not `known`. -/
def sendToRouter (known : Bool) (packet : IPv4Packet) : Result Unit :=
  match packet.transportHeader with
  | none => .ok ()
  | some header => if known then .ok () else do
      let _ ← responseHeader header
      return ()

/-- A client with the bytes received from it, the packets sent to the network and the exception
that ended the relay. -/
structure Client where
  clientToNetwork : ByteBuffer
  received : List UInt8
  sent : List IPv4Packet
  thrown : Option Throwable

/-- Whether the router has a connection for a packet, after those sent before it. -/
abbrev Known := List IPv4Packet → IPv4Packet → Bool

namespace Client
variable (known : Known)

/-- The loop, with a bound on its turns. -/
def pushToNetwork : Nat → Client → Option Client
  | 0, _ => none
  | turns + 1, c =>
      match IPv4PacketBuffer.asIPv4Packet c.clientToNetwork with
      | .error e => some { c with thrown := some e }
      | .ok (none, buffer) => some { c with clientToNetwork := buffer }
      | .ok (some packet, buffer) =>
          match sendToRouter (known c.sent packet) packet with
          | .error e => some { c with sent := c.sent ++ [packet], thrown := some e }
          | .ok () => pushToNetwork turns
              { c with clientToNetwork := IPv4PacketBuffer.next buffer, sent := c.sent ++ [packet] }

/-- `processReceive`, the channel giving as much as there is room for at most. -/
def processReceive (chunk : List UInt8) (c : Client) : Option Client :=
  if c.thrown = none ∧ chunk.length ≤ c.clientToNetwork.remaining then
    match c.clientToNetwork.put chunk with
    | .ok buffer => pushToNetwork known (buffer.position + 1)
        { c with clientToNetwork := buffer, received := c.received ++ chunk }
    | .error _ => none
  else none

end Client

def clientSystem (known : Known) : System Client (List UInt8) where
  init := ⟨IPv4PacketBuffer.create, [], [], none⟩
  step := Client.processReceive known

/-! What the loop does, by the packets in the bytes. -/

/-- How long the first packet of a stream is, once all of it is there. -/
def packetSize (stream : List UInt8) : Option Nat :=
  if 4 ≤ stream.length ∧ 0 < Field.totalLength stream ∧ Field.totalLength stream ≤ stream.length then
    some (Field.totalLength stream)
  else none

theorem packetSize_eq_some {stream : List UInt8} {n : Nat} :
    packetSize stream = some n ↔
      4 ≤ stream.length ∧ 0 < n ∧ n ≤ stream.length ∧ Field.totalLength stream = n := by
  unfold packetSize
  constructor
  · intro found
    split at found
    · rename_i there
      cases found
      exact ⟨there.1, there.2.1, there.2.2, rfl⟩
    · cases found
  · rintro ⟨long, begun, whole, rfl⟩
    exact if_pos ⟨long, begun, whole⟩

theorem Field.totalLength_append {stream : List UInt8} (long : 4 ≤ stream.length)
    (later : List UInt8) : Field.totalLength (stream ++ later) = Field.totalLength stream := by
  unfold Field.totalLength
  rw [List.drop_append_of_le_length (by omega),
    List.take_append_of_le_length (by rw [List.length_drop]; omega)]

theorem framing_packetSize : Framing packetSize where
  pos found := (packetSize_eq_some.mp found).2.1
  le found := (packetSize_eq_some.mp found).2.2.1
  more found later := by
    obtain ⟨long, begun, whole, total⟩ := packetSize_eq_some.mp found
    refine packetSize_eq_some.mpr ⟨?_, begun, ?_, (Field.totalLength_append long later).trans total⟩
    all_goals
      rw [List.length_append]
      omega

theorem Field.totalLength_lt (packet : List UInt8) :
    Field.totalLength packet < MAX_PACKET_LENGTH := by
  have small := bigEndian_lt ((packet.drop 2).take 2)
  have two : ((packet.drop 2).take 2).length ≤ 2 := List.length_take_le _ _
  exact Nat.lt_of_lt_of_le small (Nat.pow_le_pow_right (by decide) two)

namespace IPv4PacketBuffer
variable {buffer : ByteBuffer}

theorem getAvailablePacketLength_flip :
    getAvailablePacketLength buffer.flip = .ok ((packetSize buffer.written).getD 0) := by
  have position := buffer.position_le
  have limit := buffer.limit_le
  have long := buffer.written_length
  have own : buffer.flip.limit = buffer.position := rfl
  have there : buffer.flip.remaining = buffer.position := Nat.sub_zero _
  unfold getAvailablePacketLength readLength packetSize
  rw [own, there, long]
  by_cases short : buffer.position < 4
  · rw [if_pos short, if_neg (by omega)]
    rfl
  · have total : buffer.flip.getShort 2 = .ok (Field.totalLength buffer.written) := by
      refine ByteBuffer.getShort_eq_ok.mpr ⟨by omega, ?_⟩
      simp only [Field.totalLength, ByteBuffer.written, ByteBuffer.flip]
      rw [List.drop_take, List.take_take, Nat.min_eq_left (by omega)]
    rw [if_neg short, total]
    simp only [bind, Except.bind, pure, Except.pure]
    by_cases whole : buffer.position < Field.totalLength buffer.written
    · rw [if_pos whole, if_neg (by omega)]
      rfl
    · rw [if_neg whole]
      by_cases begun : 0 < Field.totalLength buffer.written
      · rw [if_pos (by omega)]
        rfl
      · rw [if_neg (by omega), Option.getD_none, Nat.eq_zero_of_not_pos begun]

/-- There is no packet yet. -/
theorem asIPv4Packet_none (missing : packetSize buffer.written = none) :
    ∃ buffer', asIPv4Packet buffer = .ok (none, buffer') ∧ buffer'.written = buffer.written ∧
      buffer'.limit = buffer.capacity ∧ buffer'.capacity = buffer.capacity := by
  refine ⟨buffer.flip.compact, ?_, by rw [ByteBuffer.written_compact, ByteBuffer.window_flip], rfl,
    ByteBuffer.capacity_compact⟩
  unfold asIPv4Packet
  dsimp only
  rw [getAvailablePacketLength_flip, missing]
  rfl

/-- The first packet is taken out of the buffer. -/
theorem asIPv4Packet_some {n : Nat} (found : packetSize buffer.written = some n) :
    ∃ buffer', asIPv4Packet buffer = (IPv4Packet.create (.wrap (buffer.written.take n))).map
        (fun packet => (some packet, buffer')) ∧
      (next buffer').written = buffer.written.drop n ∧ (next buffer').limit = buffer.capacity ∧
      (next buffer').capacity = buffer.capacity := by
  have position := buffer.position_le
  have limit := buffer.limit_le
  have whole := framing_packetSize.le found
  have begun := framing_packetSize.pos found
  rw [buffer.written_length] at whole
  refine ⟨⟨buffer.bytes, n, buffer.position, whole, by omega⟩, ?_, ?_, rfl, ?_⟩
  · have cut : buffer.flip.setLimit n =
        .ok ⟨buffer.bytes, 0, n, Nat.zero_le _, by omega⟩ :=
      ByteBuffer.setLimit_eq_ok.mpr
        ⟨Nat.le_trans whole (by unfold ByteBuffer.capacity; exact Nat.le_trans position limit), rfl,
          rfl, (Nat.zero_min _).symm⟩
    have restored : ByteBuffer.setLimit ⟨buffer.bytes, 0, n, Nat.zero_le _, by omega⟩
        buffer.position = .ok buffer.flip :=
      ByteBuffer.setLimit_eq_ok.mpr
        ⟨Nat.le_trans position limit, rfl, rfl, (Nat.zero_min _).symm⟩
    have behind : buffer.flip.setPosition n =
        .ok ⟨buffer.bytes, n, buffer.position, whole, by omega⟩ :=
      ByteBuffer.setPosition_eq_ok.mpr ⟨whole, rfl, rfl, rfl⟩
    have slice : ByteBuffer.slice ⟨buffer.bytes, 0, n, Nat.zero_le _, by omega⟩ =
        .wrap (buffer.written.take n) := by
      rw [ByteBuffer.slice, ByteBuffer.window, ByteBuffer.written, List.take_take,
        Nat.min_eq_left whole]
      rfl
    unfold asIPv4Packet
    dsimp only
    rw [getAvailablePacketLength_flip, found]
    simp only [bind, Except.bind, Option.getD_some, if_neg (Nat.ne_of_gt begun), cut]
    rw [ByteBuffer.setPosition_eq_ok.mpr ⟨Nat.zero_le _, rfl, rfl, rfl⟩]
    simp only [ByteBuffer.flip] at restored behind
    simp only [ByteBuffer.flip, restored, behind, slice]
    cases IPv4Packet.create (.wrap (buffer.written.take n)) <;> rfl
  · rw [next, ByteBuffer.written_compact]
    rfl
  · rw [next, ByteBuffer.capacity_compact]
    rfl

end IPv4PacketBuffer

/-- The packets sent of the frames of a stream, and the exception at one of them. -/
def handleAll (known : Known) (sent : List IPv4Packet) :
    List (List UInt8) → List IPv4Packet × Option Throwable
  | [] => (sent, none)
  | frame :: frames =>
      match IPv4Packet.create (.wrap frame) with
      | .error e => (sent, some e)
      | .ok packet =>
          match sendToRouter (known sent packet) packet with
          | .error e => (sent ++ [packet], some e)
          | .ok () => handleAll known (sent ++ [packet]) frames

/-- What was received is cut into frames, these were handled, and the rest is in the buffer. -/
structure Client.Reads (known : Known) (c : Client) (frames : List (List UInt8))
    (rest : List UInt8) : Prop where
  splits : Splits packetSize c.received frames rest
  handled : (c.sent, c.thrown) = handleAll known [] frames
  held : c.thrown = none → c.clientToNetwork.written = rest
  room : c.thrown = none →
    c.clientToNetwork.limit = MAX_PACKET_LENGTH ∧ c.clientToNetwork.capacity = MAX_PACKET_LENGTH

attribute [local grind =] handleAll

section
variable {known : Known} {frames more : List (List UInt8)} {sent packets : List IPv4Packet}

theorem handleAll_append (first : handleAll known sent frames = (packets, none)) :
    handleAll known sent (frames ++ more) = handleAll known packets more := by
  induction frames generalizing sent with
  | nil =>
      cases first
      rfl
  | cons frame frames ih =>
      simp only [handleAll, List.cons_append] at first ⊢
      split at first
      · cases first
      · split at first
        · cases first
        · exact ih first

theorem Client.pushToNetwork_eq {c : Client} {turns : Nat} {rest : List UInt8}
    (splits : Splits packetSize c.clientToNetwork.written frames rest)
    (turn : c.clientToNetwork.position < turns) (going : c.thrown = none) :
    ∃ c', pushToNetwork known turns c = some c' ∧ c'.received = c.received ∧
      (c'.sent, c'.thrown) = handleAll known c.sent frames ∧
      (c'.thrown = none → c'.clientToNetwork.written = rest ∧
        c'.clientToNetwork.limit = c.clientToNetwork.capacity ∧
        c'.clientToNetwork.capacity = c.clientToNetwork.capacity) := by
  -- the bytes in the buffer are split off frame by frame, one in every turn
  induction frames generalizing c turns with
  | nil =>
      obtain ⟨turns, rfl⟩ := Nat.exists_eq_add_one_of_ne_zero (Nat.ne_zero_of_lt turn)
      obtain ⟨buffer, asked, written, limit, capacity⟩ :=
        IPv4PacketBuffer.asIPv4Packet_none (by cases splits; assumption)
      have held := splits.flatten
      refine ⟨{ c with clientToNetwork := buffer }, ?_, rfl, ?_, ?_⟩
      · rw [pushToNetwork, asked]
      · rw [handleAll, going]
      · intro _
        exact ⟨written.trans held.symm, limit, capacity⟩
  | cons frame frames ih =>
      obtain ⟨turns, rfl⟩ := Nat.exists_eq_add_one_of_ne_zero (Nat.ne_zero_of_lt turn)
      obtain ⟨n, found, after, rfl⟩ : ∃ n, packetSize c.clientToNetwork.written = some n ∧
          Splits packetSize (c.clientToNetwork.written.drop n) frames rest ∧
          frame = c.clientToNetwork.written.take n := by
        cases splits with
        | frame found after => exact ⟨_, found, after, rfl⟩
      obtain ⟨buffer, asked, written, limit, capacity⟩ := IPv4PacketBuffer.asIPv4Packet_some found
      rw [pushToNetwork, asked, handleAll]
      cases IPv4Packet.create (.wrap (c.clientToNetwork.written.take n)) with
      | error e => exact ⟨_, rfl, rfl, rfl, fun ended => by cases ended⟩
      | ok packet =>
          simp only [Except.map]
          cases sendToRouter (known c.sent packet) packet with
          | error e => exact ⟨_, rfl, rfl, rfl, fun ended => by cases ended⟩
          | ok =>
              have turn' : (IPv4PacketBuffer.next buffer).position < turns := by
                have pos := framing_packetSize.pos found
                have whole := framing_packetSize.le found
                have shorter := congrArg List.length written
                rw [ByteBuffer.written_length, List.length_drop] at shorter
                rw [ByteBuffer.written_length] at shorter whole
                omega
              obtain ⟨c', pushed, received, handled, held⟩ := ih
                (c := { c with
                  clientToNetwork := IPv4PacketBuffer.next buffer, sent := c.sent ++ [packet] })
                (by rw [written]; exact after) turn' going
              refine ⟨c', pushed, received, handled, fun ended => ?_⟩
              obtain ⟨written', limit', capacity'⟩ := held ended
              exact ⟨written', limit'.trans capacity, capacity'.trans capacity⟩

namespace Client
variable {c : Client} {chunk : List UInt8}

/-- A read that fits is taken to its end. -/
theorem Reads.processReceive {rest : List UInt8} (h : c.Reads known frames rest)
    (going : c.thrown = none) (fits : chunk.length ≤ c.clientToNetwork.remaining) :
    ∃ c' frames' rest', processReceive known chunk c = some c' ∧
      c'.received = c.received ++ chunk ∧ c'.Reads known frames' rest' := by
  obtain ⟨buffer, put, written, limit, capacity⟩ := ByteBuffer.put_eq fits
  obtain ⟨limit₀, capacity₀⟩ := h.room going
  rw [h.held going] at written
  obtain ⟨later, rest', splits⟩ := Splits.exists_of framing_packetSize (rest ++ chunk)
  obtain ⟨c', pushed, received, handled, held⟩ := pushToNetwork_eq
    (c := { c with clientToNetwork := buffer, received := c.received ++ chunk })
    (by rw [written]; exact splits) (Nat.lt_succ_self _) going
  refine ⟨c', frames ++ later, rest', ?_, received, ?_, ?_, ?_, ?_⟩
  · rw [Client.processReceive, if_pos ⟨going, fits⟩, put]
    exact pushed
  · rw [received]
    exact h.splits.append framing_packetSize splits
  · have before := h.handled
    rw [going] at before
    rw [handled, handleAll_append before.symm]
  · exact fun ended => (held ended).1
  · intro ended
    obtain ⟨_, limit', capacity'⟩ := held ended
    exact ⟨limit'.trans (capacity.trans capacity₀), capacity'.trans (capacity.trans capacity₀)⟩

theorem processReceive_reads {c' : Client} {rest : List UInt8} (h : c.Reads known frames rest)
    (read : processReceive known chunk c = some c') :
    ∃ frames' rest', c'.Reads known frames' rest' := by
  have enabled : c.thrown = none ∧ chunk.length ≤ c.clientToNetwork.remaining := by
    by_contra other
    rw [processReceive, if_neg other] at read
    cases read
  obtain ⟨_, frames', rest', read', _, reads⟩ := h.processReceive enabled.1 enabled.2
  cases read.symm.trans read'
  exact ⟨frames', rest', reads⟩

theorem reads_of_reachable (reached : (clientSystem known).Reachable Free c) :
    ∃ frames rest, c.Reads known frames rest := by
  refine reached.invariant (I := fun c => ∃ frames rest, c.Reads known frames rest) ?_ ?_
  · refine ⟨[], [], .rest rfl, rfl, fun _ => rfl, fun _ => ?_⟩
    constructor <;> exact List.length_replicate
  · rintro _ chunk _ ⟨frames, rest, reads⟩ _ taken
    exact processReceive_reads reads taken

end Client

/-! Which frames are handled. -/

theorem totalLength_of_splits {stream rest frame : List UInt8}
    (splits : Splits packetSize stream frames rest) (member : frame ∈ frames)
    (long : 4 ≤ frame.length) : Field.totalLength frame = frame.length := by
  obtain ⟨later, found⟩ := splits.size_frame framing_packetSize member
  rw [← Field.totalLength_append long later]
  exact (packetSize_eq_some.mp found).2.2.2

theorem wellHeaded_iff_accepted {frame : List UInt8}
    (total : 4 ≤ frame.length → Field.totalLength frame = frame.length) :
    WellHeaded frame ↔ ∃ packet, IPv4Packet.create (.wrap frame) = .ok packet ∧
      sendToRouter false packet = .ok () := by
  by_cases long : 4 ≤ frame.length
  · rw [wellHeaded_iff (total long)]
    refine exists_congr fun packet => and_congr_right fun _ => ?_
    unfold sendToRouter
    cases packet.transportHeader with
    | none => simp
    | some header => simp [bind_eq_ok, pure, Except.pure]
  · constructor
    · intro h
      have least := h.least
      have header := h.header
      omega
    · rintro ⟨packet, created, _⟩
      obtain ⟨header, read, _⟩ := bind_eq_ok.mp created
      obtain ⟨least, fits, _⟩ := IPv4Header.create_eq_ok.mp read
      omega

theorem sendToRouter_of_unknown {packet : IPv4Packet}
    (sent : sendToRouter false packet = .ok ()) (known : Bool) :
    sendToRouter known packet = .ok () := by
  cases known with
  | false => exact sent
  | true =>
      unfold sendToRouter
      cases packet.transportHeader <;> rfl

/-- Packets with their headers are all sent, as they came. -/
theorem handleAll_of_wellHeaded
    (total : ∀ frame ∈ frames, 4 ≤ frame.length → Field.totalLength frame = frame.length)
    (headed : ∀ frame ∈ frames, WellHeaded frame) :
    ∃ packets, handleAll known sent frames = (sent ++ packets, none) ∧
      packets.map IPv4Packet.raw = frames := by
  induction frames generalizing sent with
  | nil => exact ⟨[], by rw [List.append_nil]; rfl, rfl⟩
  | cons frame frames ih =>
      have own := headed frame (List.mem_cons_self ..)
      have length := total frame (List.mem_cons_self ..)
      obtain ⟨packet, created, accepted⟩ := (wellHeaded_iff_accepted length).mp own
      have raw := ((IPv4Packet.create_eq_ok (length (by
        have least := own.least
        have header := own.header
        omega))).mp created).2.1
      obtain ⟨packets, handled, same⟩ := ih
        (fun other member => total other (List.mem_cons_of_mem _ member))
        (fun other member => headed other (List.mem_cons_of_mem _ member))
      refine ⟨packet :: packets, ?_, by rw [List.map_cons, raw, same]⟩
      rw [handleAll, created]
      simp only [sendToRouter_of_unknown accepted]
      rw [handled, List.append_assoc]
      rfl

/-- With no connection known, nothing thrown means that every packet has its headers. -/
theorem wellHeaded_of_handleAll
    (total : ∀ frame ∈ frames, 4 ≤ frame.length → Field.totalLength frame = frame.length)
    (handled : (handleAll (fun _ _ => false) sent frames).2 = none) :
    ∀ frame ∈ frames, WellHeaded frame := by
  induction frames generalizing sent with
  | nil => simp
  | cons frame frames ih =>
      rw [handleAll] at handled
      cases created : IPv4Packet.create (.wrap frame) with
      | error e => simp [created] at handled
      | ok packet =>
          simp only [created] at handled
          cases accepted : sendToRouter false packet with
          | error e => simp [accepted] at handled
          | ok =>
              simp only [accepted] at handled
              have later := ih (fun other member => total other (List.mem_cons_of_mem _ member))
                handled
              intro other member
              rcases List.mem_cons.mp member with rfl | member
              · exact (wellHeaded_iff_accepted (total _ (List.mem_cons_self ..))).mpr
                  ⟨packet, created, accepted⟩
              · exact later other member

end

/-- A packet as long as its total length says, with its headers. -/
structure WellFormed (packet : List UInt8) : Prop extends WellHeaded packet where
  total : Field.totalLength packet = packet.length

/-- However the stream is cut into reads and whichever connections there are: nothing is thrown,
so every access was inside the packet, every read is taken to its end and there is room for
another; and packets that are well formed are the packets sent. -/
structure Robust (stream : List UInt8) : Prop where
  safe : ∀ known c, (clientSystem known).Reachable Free c → c.received <+: stream →
    c.thrown = none ∧ 0 < c.clientToNetwork.remaining ∧
      ∀ chunk : List UInt8, chunk.length ≤ c.clientToNetwork.remaining →
        ∃ c', (clientSystem known).step chunk c = some c'
  sends : ∀ packets : List (List UInt8), (∀ packet ∈ packets, WellFormed packet) →
    packets.flatten = stream → ∀ known c, (clientSystem known).Reachable Free c →
      c.received = stream → c.sent.map IPv4Packet.raw = packets

/-- By their total lengths the bytes are packets that have their headers, and a rest that leaves
room in the buffer. -/
def Framed (stream : List UInt8) : Prop :=
  ∃ frames rest, Splits packetSize stream frames rest ∧ (∀ frame ∈ frames, WellHeaded frame) ∧
    rest.length < MAX_PACKET_LENGTH

/-- What is left of a part of the stream leaves room too. -/
theorem rest_lt {part later rest rest' : List UInt8} {frames frames' : List (List UInt8)}
    (splits : Splits packetSize part frames rest)
    (whole : Splits packetSize (part ++ later) frames' rest')
    (room : rest'.length < MAX_PACKET_LENGTH) : rest.length < MAX_PACKET_LENGTH := by
  have small := Field.totalLength_lt rest
  have incomplete := splits.incomplete
  by_cases long : 4 ≤ rest.length ∧ Field.totalLength rest = 0
  · -- no total length to wait for: the rest is never split off
    have none : packetSize (rest ++ later) = none := by
      have total := Field.totalLength_append long.1 later
      unfold packetSize
      rw [if_neg (by omega)]
    obtain ⟨_, rfl⟩ := (splits.append framing_packetSize (.rest none)).unique whole
    rw [List.length_append] at room
    omega
  · by_contra full
    have enough : MAX_PACKET_LENGTH = 65536 := rfl
    have found : packetSize rest = some (Field.totalLength rest) :=
      packetSize_eq_some.mpr ⟨by omega, by omega, by omega, rfl⟩
    rw [incomplete] at found
    cases found

theorem Framed.of_flatten {packets : List (List UInt8)}
    (formed : ∀ packet ∈ packets, WellFormed packet) :
    Splits packetSize packets.flatten packets [] := by
  have splits : Splits packetSize (packets.flatten ++ []) packets [] :=
    Splits.of_flatten framing_packetSize packets (fun packet member => by
    have least := (formed packet member).least
    have header := (formed packet member).header
    have total := (formed packet member).total
    exact packetSize_eq_some.mpr ⟨by omega, by omega, Nat.le_refl _, total⟩) rfl
  rwa [List.append_nil] at splits

theorem Framed.robust {stream : List UInt8} (h : Framed stream) : Robust stream := by
  obtain ⟨frames, rest, splits, headed, room⟩ := h
  constructor
  · rintro known c reached ⟨later, rfl⟩
    obtain ⟨frames', rest', reads⟩ := Client.reads_of_reachable reached
    obtain ⟨more, rest'', behind⟩ := Splits.exists_of framing_packetSize (rest' ++ later)
    obtain ⟨rfl, _⟩ := splits.unique (reads.splits.append framing_packetSize behind)
    obtain ⟨packets, handled, _⟩ := handleAll_of_wellHeaded
      (fun frame => totalLength_of_splits reads.splits)
      (fun frame member => headed frame (List.mem_append_left _ member))
    have going : c.thrown = none := by
      have own := reads.handled
      rw [handled] at own
      exact congrArg Prod.snd own
    refine ⟨going, ?_, ?_⟩
    · have less := rest_lt reads.splits splits room
      rw [← reads.held going, ByteBuffer.written_length] at less
      rw [ByteBuffer.remaining, (reads.room going).1]
      omega
    · intro chunk fits
      obtain ⟨c', _, _, taken, _⟩ := reads.processReceive going fits
      exact ⟨c', taken⟩
  · rintro packets formed rfl known c reached received
    obtain ⟨frames', rest', reads⟩ := Client.reads_of_reachable reached
    have own := reads.splits
    rw [received] at own
    obtain ⟨rfl, rfl⟩ := own.unique (Framed.of_flatten formed)
    obtain ⟨sent, handled, same⟩ := handleAll_of_wellHeaded
      (fun frame => totalLength_of_splits own)
      (fun frame member => (formed frame member).toWellHeaded)
    have sends := reads.handled
    rw [handled] at sends
    have sends : c.sent = sent := congrArg Prod.fst sends
    rw [sends, same]

/-- Fed byte by byte, a robust stream is taken to its end. -/
theorem Robust.reaches {stream : List UInt8} (h : Robust stream) (known : Known) :
    ∀ n ≤ stream.length, ∃ c, (clientSystem known).Reachable Free c ∧
      c.received = stream.take n := by
  intro n
  induction n with
  | zero => exact fun _ => ⟨_, ⟨[], .nil⟩, rfl⟩
  | succ n ih =>
      intro within
      obtain ⟨c, reached, received⟩ := ih (by omega)
      obtain ⟨going, room, takes⟩ := h.safe known c reached (received ▸ List.take_prefix _ _)
      obtain ⟨c', taken⟩ := takes [stream[n]] room
      obtain ⟨frames, rest, reads⟩ := Client.reads_of_reachable reached
      obtain ⟨c'', _, _, taken', received', _⟩ :=
        @Client.Reads.processReceive _ _ _ [stream[n]] _ reads going room
      cases taken.symm.trans taken'
      refine ⟨c', reached.extend (.snoc .nil trivial taken), ?_⟩
      rw [received', received, List.take_append_getElem]

theorem Robust.framed {stream : List UInt8} (h : Robust stream) : Framed stream := by
  obtain ⟨c, reached, received⟩ := h.reaches (fun _ _ => false) stream.length (Nat.le_refl _)
  rw [List.take_length] at received
  obtain ⟨frames, rest, reads⟩ := Client.reads_of_reachable reached
  obtain ⟨going, room, _⟩ := h.safe _ c reached (received ▸ List.prefix_refl _)
  refine ⟨frames, rest, received ▸ reads.splits, ?_, ?_⟩
  · refine @wellHeaded_of_handleAll _ [] (fun frame => totalLength_of_splits reads.splits) ?_
    rw [← reads.handled]
    exact going
  · rw [← reads.held going, ByteBuffer.written_length]
    rw [ByteBuffer.remaining, (reads.room going).1] at room
    omega

/-- The relay stands a stream exactly when its total lengths cut it into packets with their
headers and a rest that leaves room. -/
theorem input_robust_iff (stream : List UInt8) : Robust stream ↔ Framed stream :=
  ⟨Robust.framed, Framed.robust⟩

/-- Four bytes with a total length of four end the relay. -/
theorem short_packet_thrown : ¬ Robust [0x45, 0, 0, 4] := by
  intro robust
  obtain ⟨frames, rest, splits, headed, _⟩ := robust.framed
  have found : packetSize [0x45, 0, 0, 4] = some 4 := by decide
  obtain ⟨rfl, _⟩ := splits.unique (.frame found (.rest rfl))
  exact absurd (headed _ (List.mem_cons_self ..)).header (by decide)

end QuestVdWired.Relay
