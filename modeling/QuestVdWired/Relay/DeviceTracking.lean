import QuestVdWired.Java.ByteBuffer
import QuestVdWired.Wire.Framing
import Mathlib.Algebra.Group.Int.Defs

/-!
`AdbMonitor` of the relay on its channel to the ADB daemon, after the request was written: the
greeting, the packets of `track-devices`, and the devices reported from them. What
`new String(.., UTF_8)` makes of bytes is a parameter.
-/

namespace QuestVdWired.Relay
open Java Wire

/-- What comes in on a channel, in the pieces it comes in. -/
abbrev Channel := List (List UInt8)

/-- `read` into that much room, `none` for -1. -/
def Channel.read (room : Nat) (channel : Channel) : Option (List UInt8 × Channel) :=
  if room = 0 then some ([], channel)
  else
    match channel with
    | [] => none
    | chunk :: channel =>
        some (chunk.take room,
          if chunk.length ≤ room then channel else chunk.drop room :: channel)

structure AdbMonitor where
  connectedDevices : List (List Char)
  socketBuffer : ByteBuffer

namespace AdbMonitor

def BUFFER_SIZE : Nat := 1024
def LENGTH_FIELD_SIZE : Nat := 4
def OKAY_SIZE : Nat := 4

/-- `"OKAY"` -/
def okay : List UInt8 := [79, 75, 65, 89]

/-- `Character.digit` with radix 16, which knows no other digits among the bytes. -/
def digit (c : UInt8) : Int :=
  if 48 ≤ c.toNat ∧ c.toNat ≤ 57 then c.toNat - 48
  else if 65 ≤ c.toNat ∧ c.toNat ≤ 70 then c.toNat - 55
  else if 97 ≤ c.toNat ∧ c.toNat ≤ 102 then c.toNat - 87
  else -1

def parseLength (data : List UInt8) : Int :=
  (data.take LENGTH_FIELD_SIZE).foldl (fun result c => result * 16 + digit c) 0

def readPacket (decode : List UInt8 → List Char) (input : ByteBuffer) :
    Result (Option (List Char) × ByteBuffer) :=
  if input.remaining < LENGTH_FIELD_SIZE then .ok (none, input)
  else do
    let (field, input) ← input.getArray LENGTH_FIELD_SIZE
    let length := parseLength field
    if BUFFER_SIZE < length then .error .illegalArgument
    else if input.remaining < length then .ok (none, input.rewind)
    else do
      let (data, input) ← input.getArray length
      return (some (decode data), input)

def fillBufferFrom (channel : Channel) (socketBuffer : ByteBuffer) :
    Result (ByteBuffer × Channel) :=
  match channel.read socketBuffer.compact.remaining with
  | none => .error .ioException
  | some (bytes, channel) => do
      let socketBuffer ← socketBuffer.compact.put bytes
      return (socketBuffer.flip, channel)

/-- `none` if more than that many turns are made. -/
def nextPacket (decode : List UInt8 → List Char) :
    Nat → ByteBuffer → Channel → Option (Result (List Char × ByteBuffer × Channel))
  | 0, _, _ => none
  | turns + 1, socketBuffer, channel =>
      match readPacket decode socketBuffer with
      | .error e => some (.error e)
      | .ok (some packet, socketBuffer) => some (.ok (packet, socketBuffer, channel))
      | .ok (none, socketBuffer) =>
          match fillBufferFrom channel socketBuffer with
          | .error e => some (.error e)
          | .ok (socketBuffer, channel) => nextPacket decode turns socketBuffer channel

def consumeOkay : Nat → ByteBuffer → Channel → Option (Result (Bool × ByteBuffer × Channel))
  | 0, _, _ => none
  | turns + 1, socketBuffer, channel =>
      match channel.read socketBuffer.remaining with
      | none => some (.ok (false, socketBuffer, channel))
      | some (bytes, channel) =>
          match socketBuffer.put bytes with
          | .error e => some (.error e)
          | .ok socketBuffer =>
              if socketBuffer.position < OKAY_SIZE then consumeOkay turns socketBuffer channel
              else some do
                let (text, socketBuffer) ← socketBuffer.flip.getArray OKAY_SIZE
                return (text == okay, socketBuffer.compact.flip, channel)

/-- `line.split("\\s+")`: one separator takes all the blanks there are; an empty token is only the
first. -/
def splitTokens (line : List Char) : List (List Char) :=
  match line.splitOnP fun c => c ∈ [' ', '\t', '\n', '\x0B', '\x0C', '\r'] with
  | [] => []
  | [whole] => [whole]
  | first :: later =>
      ((first :: later.filter (· ≠ [])).reverse.dropWhile (· = [])).reverse

def parseConnectedDevices (packet : List Char) : List (List Char) :=
  (packet.splitOnP (· = '\n')).filterMap fun line =>
    match splitTokens line with
    | [serial, state] => if state = ['d', 'e', 'v', 'i', 'c', 'e'] then some serial else none
    | _ => none

/-- The devices that are reported, and the devices that are connected now. -/
def handlePacket (connectedDevices : List (List Char)) (packet : List Char) :
    List (List Char) × List (List Char) :=
  let currentConnectedDevices := parseConnectedDevices packet
  (currentConnectedDevices.filter fun serial => !connectedDevices.contains serial,
    currentConnectedDevices)

/-- A packet that was handled, and the devices reported for it. -/
structure Handled where
  packet : List Char
  newDevices : List (List Char)
  deriving DecidableEq, Repr

/-- The loop of `trackDevicesOnChannel`, which only an exception ends. -/
def handlePackets (decode : List UInt8 → List Char) :
    Nat → AdbMonitor → Channel → Option (List Handled × Throwable)
  | 0, _, _ => none
  | turns + 1, m, channel =>
      match nextPacket decode turns m.socketBuffer channel with
      | none => none
      | some (.error e) => some ([], e)
      | some (.ok (packet, socketBuffer, channel)) =>
          let (newDevices, connectedDevices) := handlePacket m.connectedDevices packet
          (handlePackets decode turns ⟨connectedDevices, socketBuffer⟩ channel).map
            fun (handled, e) => (⟨packet, newDevices⟩ :: handled, e)

/-- Without an exception where it returns. -/
def trackDevicesOnChannel (decode : List UInt8 → List Char) (turns : Nat) (m : AdbMonitor)
    (channel : Channel) : Option (List Handled × Option Throwable) :=
  match consumeOkay turns m.socketBuffer.clear channel with
  | none => none
  | some (.error e) => some ([], some e)
  | some (.ok (false, _)) => some ([], none)
  | some (.ok (true, socketBuffer, channel)) =>
      (handlePackets decode turns { m with socketBuffer := socketBuffer } channel).map
        fun (handled, e) => (handled, some e)

attribute [local grind =] nextPacket consumeOkay handlePackets

/-! What the daemon sends, and what should be made of it. -/

structure Packet (packet : List UInt8) : Prop where
  header : LENGTH_FIELD_SIZE ≤ packet.length
  digits : ∀ c ∈ packet.take LENGTH_FIELD_SIZE, 0 ≤ digit c
  length : parseLength packet = packet.length - LENGTH_FIELD_SIZE
  size : packet.length ≤ LENGTH_FIELD_SIZE + BUFFER_SIZE

def text (decode : List UInt8 → List Char) (packet : List UInt8) : List Char :=
  decode (packet.drop LENGTH_FIELD_SIZE)

/-- The packets that are all there when so many bytes of them are. -/
def arrived : List (List UInt8) → Nat → List (List UInt8)
  | [], _ => []
  | packet :: packets, bytes =>
      if packet.length ≤ bytes then packet :: arrived packets (bytes - packet.length) else []

/-- Each packet with the devices that are in it and were not in the one before. -/
def news (connectedDevices : List (List Char)) : List (List Char) → List Handled
  | [] => []
  | packet :: packets =>
      ⟨packet, (parseConnectedDevices packet).filter (· ∉ connectedDevices)⟩ ::
        news (parseConnectedDevices packet) packets

/-- Those packets are returned one by one, and their devices reported, until the channel ends. -/
def Tracks (decode : List UInt8 → List Char) (m : AdbMonitor) (channel : Channel)
    (packets : List (List UInt8)) : Prop :=
  ∃ turns ended, trackDevicesOnChannel decode turns m channel =
      some (news m.connectedDevices (packets.map (text decode)), ended) ∧
    (ended = none ∨ ended = some .ioException)

/-- The packet at the front, once it is all there. -/
def frontPacket (window : List UInt8) : Option Nat :=
  if LENGTH_FIELD_SIZE ≤ window.length ∧
      LENGTH_FIELD_SIZE + (parseLength window).toNat ≤ window.length then
    some (LENGTH_FIELD_SIZE + (parseLength window).toNat)
  else none

/-- No read that completes a packet, which `taken` tells of the last, brings the whole length field
of the next and not the packet. `window` is what is still held of the bytes read. -/
inductive Aligned : (taken : Bool) → (window : List UInt8) → Channel → Prop
  | packet {taken : Bool} {window : List UInt8} {channel : Channel} {n : Nat}
      (found : frontPacket window = some n) (later : Aligned true (window.drop n) channel) :
      Aligned taken window channel
  | fill {taken : Bool} {window bytes : List UInt8} {channel channel' : Channel}
      (incomplete : frontPacket window = none)
      (apart : taken = true → window.length < LENGTH_FIELD_SIZE)
      (read : channel.read (BUFFER_SIZE - window.length) = some (bytes, channel'))
      (later : Aligned false (window ++ bytes) channel') : Aligned taken window channel
  | ended {taken : Bool} {window : List UInt8} {channel : Channel}
      (incomplete : frontPacket window = none)
      (apart : taken = true → window.length < LENGTH_FIELD_SIZE)
      (read : channel.read (BUFFER_SIZE - window.length) = none) : Aligned taken window channel

/-- The reads up to the one that completes the greeting, and what is left behind them. -/
def greeting (window : List UInt8) : Channel → Option (List UInt8 × Channel)
  | [] => none
  | chunk :: channel =>
      let room := BUFFER_SIZE - window.length
      if chunk.length ≤ room then
        if (window ++ chunk).length < OKAY_SIZE then greeting (window ++ chunk) channel
        else some (window ++ chunk, channel)
      else some (window ++ chunk.take room, chunk.drop room :: channel)

/-- The reads after the greeting are aligned. -/
def ReadsApart (channel : Channel) : Prop :=
  ∀ window channel', greeting [] channel = some (window, channel') →
    Aligned false (window.drop OKAY_SIZE) channel'

attribute [local grind =] arrived news greeting

end AdbMonitor

section
variable {channel channel' : Channel} {bytes : List UInt8} {room : Nat}

theorem Channel.read_eq_some (read : channel.read room = some (bytes, channel')) :
    bytes ++ channel'.flatten = channel.flatten ∧ bytes.length ≤ room := by
  unfold Channel.read at read
  split at read
  · cases read
    exact ⟨rfl, Nat.zero_le _⟩
  · cases channel with
    | nil => cases read
    | cons chunk channel =>
        cases read
        refine ⟨?_, List.length_take_le _ _⟩
        rw [List.flatten_cons]
        split
        · rename_i whole
          rw [List.take_of_length_le whole]
        · rw [List.flatten_cons, ← List.append_assoc, List.take_append_drop]

theorem Channel.read_eq_none (read : channel.read room = none) : channel = [] ∧ 0 < room := by
  unfold Channel.read at read
  split at read
  · cases read
  · rename_i some'
    cases channel with
    | nil => exact ⟨rfl, Nat.pos_of_ne_zero some'⟩
    | cons chunk channel => cases read

end

namespace AdbMonitor
variable {window later behind rest bytes packet : List UInt8} {channel channel' : Channel}
  {packets before completed : List (List UInt8)} {n : Nat} {taken : Bool}

theorem frontPacket_eq_some :
    frontPacket window = some n ↔ (LENGTH_FIELD_SIZE ≤ window.length ∧
      LENGTH_FIELD_SIZE + (parseLength window).toNat ≤ window.length) ∧
      LENGTH_FIELD_SIZE + (parseLength window).toNat = n := by
  rw [frontPacket]
  split
  · rename_i found
    rw [Option.some.injEq]
    exact ⟨fun same => ⟨found, same⟩, And.right⟩
  · rename_i missing
    exact ⟨by simp, fun found => absurd found.1 missing⟩

theorem parseLength_append (long : LENGTH_FIELD_SIZE ≤ window.length) (later : List UInt8) :
    parseLength (window ++ later) = parseLength window := by
  rw [parseLength, List.take_append_of_le_length long, parseLength]

theorem parseLength_take (long : LENGTH_FIELD_SIZE ≤ n) :
    parseLength (window.take n) = parseLength window := by
  rw [parseLength, List.take_take, Nat.min_eq_left long, parseLength]

theorem framing_frontPacket : Framing frontPacket where
  pos found := by
    obtain ⟨_, rfl⟩ := frontPacket_eq_some.mp found
    exact Nat.lt_of_lt_of_le (by decide) (Nat.le_add_right _ _)
  le found := by
    obtain ⟨⟨_, le⟩, rfl⟩ := frontPacket_eq_some.mp found
    exact le
  more found later := by
    obtain ⟨⟨long, le⟩, rfl⟩ := frontPacket_eq_some.mp found
    rw [frontPacket_eq_some, parseLength_append long, List.length_append]
    exact ⟨⟨by omega, by omega⟩, rfl⟩

theorem frontPacket_take (found : frontPacket window = some n) :
    frontPacket (window.take n) = some n := by
  have whole := framing_frontPacket.le found
  obtain ⟨⟨long, le⟩, rfl⟩ := frontPacket_eq_some.mp found
  have own : LENGTH_FIELD_SIZE ≤ LENGTH_FIELD_SIZE + (parseLength window).toNat :=
    Nat.le_add_right _ _
  rw [frontPacket_eq_some, parseLength_take own, List.length_take, Nat.min_eq_left whole]
  exact ⟨⟨own, Nat.le_refl _⟩, rfl⟩

theorem splits_take (found : frontPacket window = some n) :
    Splits frontPacket (window.take n) [window.take n] [] := by
  have alone := Splits.frame (frontPacket_take found) (.rest (by
    rw [List.drop_eq_nil_of_le (List.length_take_le _ _)]
    decide))
  rwa [List.take_take, Nat.min_self, List.drop_eq_nil_of_le (List.length_take_le _ _)] at alone

theorem Packet.front (h : Packet packet) : frontPacket packet = some packet.length := by
  have header := h.header
  have length := h.length
  have size : LENGTH_FIELD_SIZE + (parseLength packet).toNat = packet.length := by omega
  exact frontPacket_eq_some.mpr ⟨⟨header, Nat.le_of_eq size⟩, size⟩

/-- What comes first of a stream of packets. -/
def Begins (stream : List UInt8) : Prop :=
  ∃ packets : List (List UInt8), (∀ packet ∈ packets, Packet packet) ∧ stream <+: packets.flatten

theorem Begins.of_append (h : Begins (window ++ later)) : Begins window := by
  obtain ⟨packets, each, front⟩ := h
  exact ⟨packets, each, (List.prefix_append window later).trans front⟩

/-- Its length field is that of a packet. -/
theorem Begins.header (h : Begins window) (long : LENGTH_FIELD_SIZE ≤ window.length) :
    ∃ length : Nat, parseLength window = length ∧ length ≤ BUFFER_SIZE := by
  obtain ⟨packets, each, later, whole⟩ := h
  cases packets with
  | nil =>
      obtain ⟨rfl, _⟩ := List.append_eq_nil_iff.mp whole
      cases long
  | cons packet packets =>
      have own := each packet (List.mem_cons_self ..)
      have header := own.header
      have size := own.size
      have length := own.length
      refine ⟨packet.length - LENGTH_FIELD_SIZE, ?_, by omega⟩
      rw [← parseLength_append long later, whole, List.flatten_cons, parseLength_append header,
        length]
      omega

theorem Begins.drop (h : Begins window) (found : frontPacket window = some n) :
    Begins (window.drop n) := by
  obtain ⟨packets, each, front⟩ := h
  cases packets with
  | nil =>
      obtain rfl : window = [] := List.prefix_nil.mp front
      cases found
  | cons packet packets =>
      have own := each packet (List.mem_cons_self ..)
      obtain ⟨later, whole⟩ := front
      have found' := framing_frontPacket.more found later
      rw [whole, List.flatten_cons, framing_frontPacket.more own.front] at found'
      cases found'
      refine ⟨packets, fun other member => each other (List.mem_cons_of_mem _ member), later, ?_⟩
      rw [← List.drop_append_of_le_length (framing_frontPacket.le found), whole, List.flatten_cons,
        List.drop_left]

/-- Behind whole packets. -/
theorem Begins.of_whole (splits : Splits frontPacket behind before []) :
    Begins (behind ++ later) → Begins later := by
  generalize none : ([] : List UInt8) = rest at splits
  induction splits with
  | rest =>
      subst none
      exact id
  | @frame stream rest frames n found _ ih =>
      intro begins
      have whole := framing_frontPacket.le found
      have step := begins.drop (framing_frontPacket.more found later)
      rw [List.drop_append_of_le_length whole] at step
      exact ih none step

/-- What a buffer has in it while it is read from. -/
structure Shows (b : ByteBuffer) (behind window : List UInt8) : Prop where
  written : b.written = behind
  window : b.window = window
  capacity : b.capacity = BUFFER_SIZE

/-- What an incomplete packet leaves in the buffer: where its length field is there, the packets in
front of it too. -/
def kept (behind window : List UInt8) : List UInt8 :=
  if window.length < LENGTH_FIELD_SIZE then window else behind ++ window

/-- The packets returned until the channel ends. -/
inductive Run : List UInt8 → List UInt8 → Channel → List (List UInt8) → Prop
  | packet {behind window : List UInt8} {channel : Channel} {packets : List (List UInt8)} {n : Nat}
      (found : frontPacket window = some n)
      (later : Run (behind ++ window.take n) (window.drop n) channel packets) :
      Run behind window channel (window.take n :: packets)
  | fill {behind window bytes : List UInt8} {channel channel' : Channel}
      {packets : List (List UInt8)} (incomplete : frontPacket window = none)
      (read : channel.read (BUFFER_SIZE - (kept behind window).length) = some (bytes, channel'))
      (later : Run [] (kept behind window ++ bytes) channel' packets) :
      Run behind window channel packets
  | ended {behind window : List UInt8} {channel : Channel} (incomplete : frontPacket window = none)
      (read : channel.read (BUFFER_SIZE - (kept behind window).length) = none) :
      Run behind window channel []

section
variable {b : ByteBuffer} {decode : List UInt8 → List Char} {turns : Nat}

theorem Shows.remaining (h : Shows b behind window) : b.remaining = window.length := by
  rw [← h.window, ByteBuffer.window_length]

theorem readPacket_spec (decode : List UInt8 → List Char) (h : Shows b behind window)
    (begins : Begins window) :
    (∃ n b', frontPacket window = some n ∧
      readPacket decode b = .ok (some (text decode (window.take n)), b') ∧
      Shows b' (behind ++ window.take n) (window.drop n)) ∨
    (∃ b', frontPacket window = none ∧ readPacket decode b = .ok (none, b') ∧
      b'.window = kept behind window ∧ b'.capacity = BUFFER_SIZE) := by
  have remaining := h.remaining
  by_cases long : LENGTH_FIELD_SIZE ≤ window.length
  · obtain ⟨length, parsed, admitted⟩ := begins.header long
    obtain ⟨b₁, field, written₁, window₁, capacity₁⟩ :=
      ByteBuffer.getArray_eq (show LENGTH_FIELD_SIZE ≤ b.remaining by omega)
    rw [h.window] at field written₁ window₁
    have left : b₁.remaining = window.length - LENGTH_FIELD_SIZE := by
      rw [← ByteBuffer.window_length, window₁, List.length_drop]
    have own : parseLength (window.take LENGTH_FIELD_SIZE) = length := by
      rw [parseLength_take (Nat.le_refl _), parsed]
    rw [readPacket, if_neg (by omega), field]
    simp only [bind, Except.bind, own, left]
    rw [if_neg (by omega)]
    by_cases whole : LENGTH_FIELD_SIZE + length ≤ window.length
    · left
      obtain ⟨b₂, data, written₂, window₂, capacity₂⟩ :=
        ByteBuffer.getArray_eq (show length ≤ b₁.remaining by omega)
      rw [window₁] at data written₂ window₂
      rw [if_neg (by omega), data]
      have found : frontPacket window = some (LENGTH_FIELD_SIZE + length) := by
        rw [frontPacket_eq_some, parsed]
        exact ⟨⟨long, whole⟩, rfl⟩
      refine ⟨_, b₂, found, ?_, ?_, ?_, ?_⟩
      · rw [text, List.drop_take, Nat.add_sub_cancel_left]
        rfl
      · rw [written₂, written₁, h.written, List.append_assoc, ← List.take_add]
      · rw [window₂, List.drop_drop]
      · rw [capacity₂, capacity₁, h.capacity]
    · right
      rw [if_pos (by omega)]
      refine ⟨b₁.rewind, ?_, rfl, ?_, ?_⟩
      · rw [frontPacket, parsed, if_neg (fun found => whole found.2)]
      · rw [ByteBuffer.window_rewind, written₁, window₁, h.written, kept, if_neg (by omega),
          List.append_assoc, List.take_append_drop]
      · rw [ByteBuffer.capacity_rewind, capacity₁, h.capacity]
  · right
    refine ⟨b, ?_, ?_, ?_, h.capacity⟩
    · rw [frontPacket, if_neg (fun found => long found.1)]
    · rw [readPacket, if_pos (by omega)]
    · rw [kept, if_pos (by omega), h.window]

/-- More bytes come in behind what the buffer keeps. -/
theorem fillBufferFrom_eq (channel : Channel) {held : List UInt8} (window : b.window = held)
    (capacity : b.capacity = BUFFER_SIZE) :
    (channel.read (BUFFER_SIZE - held.length) = none ∧
      fillBufferFrom channel b = .error .ioException) ∨
    ∃ bytes channel' b', channel.read (BUFFER_SIZE - held.length) = some (bytes, channel') ∧
      fillBufferFrom channel b = .ok (b', channel') ∧ Shows b' [] (held ++ bytes) := by
  have room : b.compact.remaining = BUFFER_SIZE - held.length := by
    rw [← window, ByteBuffer.window_length, ← capacity]
    rfl
  rw [fillBufferFrom, room]
  cases read : channel.read (BUFFER_SIZE - held.length) with
  | none => exact .inl ⟨rfl, rfl⟩
  | some more =>
      obtain ⟨bytes, channel'⟩ := more
      right
      have few := (Channel.read_eq_some read).2
      obtain ⟨b', put, written, _, capacity'⟩ :=
        ByteBuffer.put_eq (show bytes.length ≤ b.compact.remaining by omega)
      rw [ByteBuffer.written_compact, window] at written
      refine ⟨bytes, channel', b'.flip, rfl, ?_, rfl, ?_, ?_⟩
      · simp only [put, bind, Except.bind]
        rfl
      · rw [ByteBuffer.window_flip, written]
      · rw [ByteBuffer.capacity_flip, capacity', ByteBuffer.capacity_compact, capacity]

/-- Whole packets stand in front of what is to be read. -/
structure Placed (behind window : List UInt8) (channel : Channel) : Prop where
  whole : ∃ before, Splits frontPacket behind before []
  begins : Begins (behind ++ (window ++ channel.flatten))

theorem Placed.start (begins : Begins (window ++ channel.flatten)) : Placed [] window channel :=
  ⟨⟨[], .rest (by decide)⟩, begins⟩

theorem Placed.coming (h : Placed behind window channel) : Begins (window ++ channel.flatten) := by
  obtain ⟨before, splits⟩ := h.whole
  exact Begins.of_whole splits h.begins

theorem Placed.advance (h : Placed behind window channel) (found : frontPacket window = some n) :
    Placed (behind ++ window.take n) (window.drop n) channel := by
  obtain ⟨before, splits⟩ := h.whole
  refine ⟨⟨_, splits.append framing_frontPacket (splits_take found)⟩, ?_⟩
  have begins := h.begins
  rwa [List.append_assoc, ← List.append_assoc (window.take n), List.take_append_drop]

theorem Placed.fill (h : Placed behind window channel)
    (read : channel.read (BUFFER_SIZE - (kept behind window).length) = some (bytes, channel')) :
    Placed [] (kept behind window ++ bytes) channel' := by
  refine .start ?_
  rw [List.append_assoc, (Channel.read_eq_some read).1, kept]
  split
  · exact h.coming
  · rw [List.append_assoc]
    exact h.begins

theorem nextPacket_add {result : Result (List Char × ByteBuffer × Channel)}
    (next : nextPacket decode turns b channel = some result) (more : Nat) :
    nextPacket decode (turns + more) b channel = some result := by
  induction turns generalizing b channel with
  | zero => cases next
  | succ turns ih =>
      rw [nextPacket] at next
      rw [Nat.add_right_comm, nextPacket]
      split at next
      · exact next
      · exact next
      · split at next
        · exact next
        · exact ih next

theorem handlePackets_add {m : AdbMonitor} {result : List Handled × Throwable}
    (handled : handlePackets decode turns m channel = some result) (more : Nat) :
    handlePackets decode (turns + more) m channel = some result := by
  induction turns generalizing m channel result with
  | zero => cases handled
  | succ turns ih =>
      rw [handlePackets] at handled
      rw [Nat.add_right_comm, handlePackets]
      split at handled
      · cases handled
      · rename_i next
        rw [nextPacket_add next]
        exact handled
      · rename_i next
        rw [nextPacket_add next]
        obtain ⟨later, ended, rfl⟩ := Option.map_eq_some_iff.mp handled
        simp only [handlePacket, ih ended, Option.map_some]

/-- A read in front of what is handled. -/
theorem handlePackets_filled {connected : List (List Char)} {b₁ b' : ByteBuffer}
    {result : List Handled × Throwable} (read : readPacket decode b = .ok (none, b₁))
    (filled : fillBufferFrom channel b₁ = .ok (b', channel'))
    (handled : handlePackets decode turns ⟨connected, b'⟩ channel' = some result) :
    handlePackets decode (turns + 1) ⟨connected, b⟩ channel = some result := by
  cases turns with
  | zero => cases handled
  | succ turns =>
      rw [handlePackets] at handled ⊢
      rw [nextPacket, read]
      simp only [filled]
      cases next : nextPacket decode turns b' channel' with
      | none =>
          simp only [next] at handled
          cases handled
      | some taken =>
          simp only [next] at handled
          obtain e | ⟨packet, socketBuffer, channel⟩ := taken
          · exact handled
          · obtain ⟨later, ended, same⟩ := Option.map_eq_some_iff.mp handled
            simp only [handlePackets_add ended 1, Option.map_some]
            exact congrArg some same

/-- A packet is returned after some reads, or the channel ends. -/
theorem nextPacket_run {result : Result (List Char × ByteBuffer × Channel)}
    (h : Shows b behind window) (placed : Placed behind window channel)
    (next : nextPacket decode turns b channel = some result) :
    (∃ packet behind' window' b' channel', result = .ok (text decode packet, b', channel') ∧
      Shows b' behind' window' ∧ Placed behind' window' channel' ∧
      ∀ packets, Run behind' window' channel' packets →
        Run behind window channel (packet :: packets)) ∨
    (result = .error .ioException ∧ Run behind window channel []) := by
  induction turns generalizing b behind window channel with
  | zero => cases next
  | succ turns ih =>
      rw [nextPacket] at next
      rcases readPacket_spec decode h placed.coming.of_append with
        ⟨n, b', found, read, shows⟩ | ⟨b₁, incomplete, read, held, capacity⟩
      · rw [read] at next
        cases next
        exact .inl ⟨_, _, _, b', channel, rfl, shows, placed.advance found,
          fun _ later => .packet found later⟩
      · rw [read] at next
        rcases fillBufferFrom_eq channel held capacity with
          ⟨none, filled⟩ | ⟨bytes, channel', b', some', filled, shows⟩
        · simp only [filled] at next
          cases next
          exact .inr ⟨rfl, .ended incomplete none⟩
        · simp only [filled] at next
          rcases ih shows (placed.fill some') next with
            ⟨packet, behind', window', b'', channel'', rfl, shows', placed', later⟩ | ⟨rfl, ended⟩
          · exact .inl ⟨packet, behind', window', b'', channel'', rfl, shows', placed',
              fun packets run => .fill incomplete some' (later packets run)⟩
          · exact .inr ⟨rfl, .fill incomplete some' ended⟩

theorem handlePackets_run {connected : List (List Char)} {result : List Handled × Throwable}
    (h : Shows b behind window) (placed : Placed behind window channel)
    (handled : handlePackets decode turns ⟨connected, b⟩ channel = some result) :
    ∃ packets, Run behind window channel packets ∧
      result = (news connected (packets.map (text decode)), .ioException) := by
  induction turns generalizing connected b behind window channel result with
  | zero => cases handled
  | succ turns ih =>
      rw [handlePackets] at handled
      cases next : nextPacket decode turns b channel with
      | none =>
          simp only [next] at handled
          cases handled
      | some taken =>
          simp only [next] at handled
          rcases nextPacket_run h placed next with
            ⟨packet, behind', window', b', channel', rfl, shows, placed', later⟩ | ⟨rfl, ended⟩
          · obtain ⟨rest, ended, rfl⟩ := Option.map_eq_some_iff.mp handled
            obtain ⟨packets, run, rfl⟩ := ih shows placed' ended
            refine ⟨packet :: packets, later packets run, ?_⟩
            simp [news, handlePacket]
          · cases handled
            exact ⟨[], ended, rfl⟩

theorem Run.handles (decode : List UInt8 → List Char)
    (run : Run behind window channel packets) (h : Shows b behind window)
    (placed : Placed behind window channel) (connected : List (List Char)) :
    ∃ turns, handlePackets decode turns ⟨connected, b⟩ channel =
      some (news connected (packets.map (text decode)), .ioException) := by
  induction run generalizing b connected with
  | packet found _ ih =>
      rcases readPacket_spec decode h placed.coming.of_append with
        ⟨n, b', found', read, shows⟩ | ⟨b₁, incomplete, _⟩
      · cases found.symm.trans found'
        obtain ⟨turns, handled⟩ := ih shows (placed.advance found) (parseConnectedDevices _)
        refine ⟨turns + 2, ?_⟩
        rw [handlePackets, nextPacket]
        simp only [read, handlePacket]
        rw [handlePackets_add handled 1]
        simp [news]
      · rw [found] at incomplete
        cases incomplete
  | @fill _ _ _ channel _ _ incomplete read _ ih =>
      rcases readPacket_spec decode h placed.coming.of_append with
        ⟨n, b', found, _⟩ | ⟨b₁, _, reread, held, capacity⟩
      · rw [found] at incomplete
        cases incomplete
      · rcases fillBufferFrom_eq channel held capacity with
          ⟨none, _⟩ | ⟨bytes, channel', b', some', filled, shows⟩
        · rw [read] at none
          cases none
        · cases read.symm.trans some'
          obtain ⟨turns, handled⟩ := ih shows (placed.fill read) connected
          exact ⟨turns + 1, handlePackets_filled reread filled handled⟩
  | @ended _ _ channel incomplete read =>
      rcases readPacket_spec decode h placed.coming.of_append with
        ⟨n, b', found, _⟩ | ⟨b₁, _, reread, held, capacity⟩
      · rw [found] at incomplete
        cases incomplete
      · rcases fillBufferFrom_eq channel held capacity with
          ⟨_, filled⟩ | ⟨bytes, channel', b', some', _⟩
        · refine ⟨2, ?_⟩
          rw [handlePackets, nextPacket, reread]
          simp only [filled]
          rfl
        · rw [read] at some'
          cases some'

end

/-! How the packets returned compare with those on the channel. -/

theorem kept_eq (whole : Splits frontPacket behind [] []) : kept behind window = window := by
  obtain rfl : [] = behind := by simpa using whole.flatten
  rw [kept]
  split <;> rfl

theorem kept_length : (kept behind window).length ≤ behind.length + window.length := by
  rw [kept]
  split
  · exact Nat.le_add_left _ _
  · exact Nat.le_of_eq List.length_append

/-- A read of the rest of an incomplete packet brings back the packets in front of it. -/
theorem splits_fill (whole : Splits frontPacket behind before [])
    (splits : Splits frontPacket (window ++ channel.flatten) completed rest)
    (read : channel.read (BUFFER_SIZE - (kept behind window).length) = some (bytes, channel')) :
    ∃ again, Splits frontPacket (kept behind window ++ bytes ++ channel'.flatten)
        (again ++ completed) rest ∧
      (again = [] ∧ window.length < LENGTH_FIELD_SIZE ∨
        again = before ∧ LENGTH_FIELD_SIZE ≤ window.length) := by
  rw [List.append_assoc, (Channel.read_eq_some read).1]
  by_cases short : window.length < LENGTH_FIELD_SIZE
  · rw [kept, if_pos short]
    exact ⟨[], splits, .inl ⟨rfl, short⟩⟩
  · rw [kept, if_neg short, List.append_assoc]
    exact ⟨before, whole.append framing_frontPacket splits, .inr ⟨rfl, Nat.le_of_not_lt short⟩⟩

theorem splits_packet (splits : Splits frontPacket (window ++ later) completed rest)
    (found : frontPacket window = some n) :
    ∃ completed', completed = window.take n :: completed' ∧
      Splits frontPacket (window.drop n ++ later) completed' rest := by
  have le := framing_frontPacket.le found
  obtain ⟨completed', rfl, after⟩ := splits.of_found (framing_frontPacket.more found later)
  rw [List.drop_append_of_le_length le] at after
  exact ⟨completed', by rw [List.take_append_of_le_length le], after⟩

theorem splits_ended (incomplete : frontPacket window = none)
    (splits : Splits frontPacket (window ++ ([] : Channel).flatten) completed rest) :
    completed = [] ∧ rest = window := by
  rw [List.flatten_nil, List.append_nil] at splits
  exact splits.unique (.rest incomplete)

/-- No packet is left out. -/
theorem Run.le (run : Run behind window channel packets)
    (whole : Splits frontPacket behind before [])
    (splits : Splits frontPacket (window ++ channel.flatten) completed rest) :
    completed.length ≤ packets.length := by
  induction run generalizing before completed with
  | packet found _ ih =>
      obtain ⟨completed, rfl, after⟩ := splits_packet splits found
      exact Nat.succ_le_succ (ih (whole.append framing_frontPacket (splits_take found)) after)
  | fill _ read _ ih =>
      obtain ⟨again, splits', _⟩ := splits_fill whole splits read
      have more := ih (.rest (by decide)) splits'
      rw [List.length_append] at more
      omega
  | ended incomplete read =>
      obtain ⟨rfl, _⟩ := Channel.read_eq_none read
      exact Nat.le_of_eq (congrArg List.length (splits_ended incomplete splits).1)

/-- Where each packet is returned once, no read brought any of them back. -/
theorem Run.aligned (run : Run behind window channel packets)
    (whole : Splits frontPacket behind before []) (begun : taken = true → before ≠ [])
    (splits : Splits frontPacket (window ++ channel.flatten) completed [])
    (once : packets.length ≤ completed.length) : Aligned taken window channel := by
  induction run generalizing before completed taken with
  | packet found _ ih =>
      obtain ⟨completed, rfl, after⟩ := splits_packet splits found
      exact .packet found (ih (whole.append framing_frontPacket (splits_take found)) (by simp) after
        (Nat.le_of_succ_le_succ once))
  | @fill behind window bytes channel channel' packets incomplete read later ih =>
      have step (apart : taken = true → window.length < LENGTH_FIELD_SIZE)
          (same : kept behind window = window)
          (splits' : Splits frontPacket (kept behind window ++ bytes ++ channel'.flatten)
            completed []) : Aligned taken window channel := by
        rw [same] at read splits' ih
        exact .fill incomplete apart read (ih (.rest (by decide)) (by simp) splits' once)
      obtain ⟨again, splits', ⟨rfl, short⟩ | ⟨rfl, _⟩⟩ := splits_fill whole splits read
      · exact step (fun _ => short) (if_pos short) splits'
      · have more := later.le (.rest (by decide)) splits'
        rw [List.length_append] at more
        obtain rfl : again = [] := List.eq_nil_of_length_eq_zero (by omega)
        exact step (fun begun' => absurd rfl (begun begun')) (kept_eq whole) splits'
  | ended incomplete read =>
      obtain ⟨rfl, _⟩ := Channel.read_eq_none read
      obtain ⟨_, rfl⟩ := splits_ended incomplete splits
      exact .ended incomplete (fun _ => by decide) rfl

/-- Every packet that is completed fits into the buffer. -/
theorem Run.small (run : Run behind window channel packets)
    (whole : Splits frontPacket behind before [])
    (length : behind.length + window.length ≤ BUFFER_SIZE)
    (splits : Splits frontPacket (window ++ channel.flatten) completed []) :
    ∀ packet ∈ completed, packet.length ≤ BUFFER_SIZE := by
  induction run generalizing before completed with
  | packet found _ ih =>
      obtain ⟨completed, rfl, after⟩ := splits_packet splits found
      have le := framing_frontPacket.le found
      have rest := ih (whole.append framing_frontPacket (splits_take found))
        (by rw [List.length_append, List.length_take, List.length_drop]; omega) after
      intro packet member
      rcases List.mem_cons.mp member with rfl | member
      · rw [List.length_take]
        omega
      · exact rest packet member
  | fill _ read _ ih =>
      obtain ⟨again, splits', _⟩ := splits_fill whole splits read
      have few := (Channel.read_eq_some read).2
      have fits := Nat.le_trans kept_length length
      have all := ih (.rest (by decide))
        (by rw [List.length_nil, List.length_append]; omega) splits'
      exact fun packet member => all packet (List.mem_append_right _ member)
  | ended incomplete read =>
      obtain ⟨rfl, _⟩ := Channel.read_eq_none read
      rw [(splits_ended incomplete splits).1]
      simp

/-- Aligned reads return each packet once. -/
theorem Aligned.run (aligned : Aligned taken window channel)
    (fresh : taken = false → behind = [])
    (splits : Splits frontPacket (window ++ channel.flatten) completed rest) :
    Run behind window channel completed := by
  have held {taken : Bool} {window behind : List UInt8} (fresh : taken = false → behind = [])
      (apart : taken = true → window.length < LENGTH_FIELD_SIZE) :
      kept behind window = window := by
    rw [kept]
    split
    · rfl
    · rename_i long
      cases taken with
      | true => exact absurd (apart rfl) long
      | false => rw [fresh rfl, List.nil_append]
  induction aligned generalizing behind completed with
  | packet found _ ih =>
      obtain ⟨completed, rfl, after⟩ := splits_packet splits found
      exact .packet found (ih (by simp) after)
  | fill incomplete apart read _ ih =>
      have same := held fresh apart
      rw [← (Channel.read_eq_some read).1, ← List.append_assoc] at splits
      have later := ih (fun _ => rfl) splits
      rw [← same] at read later
      exact .fill incomplete read later
  | ended incomplete apart read =>
      have same := held fresh apart
      obtain ⟨rfl, _⟩ := Channel.read_eq_none read
      rw [(splits_ended incomplete splits).1]
      rw [← same] at read
      exact .ended incomplete read

/-- Where the channel ends earlier, the reads are the same up to its end. -/
theorem Channel.read_append {room : Nat} {more : Channel}
    (read : (channel ++ more).read room = some (bytes, channel')) :
    channel.read room = none ∨
      ∃ rest, channel' = rest ++ more ∧ channel.read room = some (bytes, rest) := by
  unfold Channel.read at read ⊢
  split at read
  · cases read
    rename_i full
    rw [if_pos full]
    exact .inr ⟨channel, rfl, rfl⟩
  · rename_i some'
    rw [if_neg some']
    cases channel with
    | nil => exact .inl rfl
    | cons chunk channel =>
        cases read
        right
        refine ⟨_, ?_, rfl⟩
        split <;> rfl

theorem Aligned.of_prefix {more : Channel} (aligned : Aligned taken window (channel ++ more)) :
    Aligned taken window channel := by
  generalize whole : channel ++ more = channel' at aligned
  induction aligned generalizing channel with
  | packet found _ ih => exact .packet found (ih whole)
  | fill incomplete apart read _ ih =>
      subst whole
      rcases Channel.read_append read with none | ⟨rest, rfl, read'⟩
      · exact .ended incomplete apart none
      · exact .fill incomplete apart read' (ih rfl)
  | ended incomplete apart read =>
      subst whole
      obtain ⟨none, _⟩ := Channel.read_eq_none read
      obtain ⟨rfl, rfl⟩ := List.append_eq_nil_iff.mp none
      exact .ended incomplete apart read

/-! The greeting, and the run as a whole. -/

theorem greeting_spec (short : window.length < OKAY_SIZE) :
    (greeting window channel = none ∧ (window ++ channel.flatten).length < OKAY_SIZE) ∨
      ∃ bytes channel', greeting window channel = some (window ++ bytes, channel') ∧
        OKAY_SIZE ≤ (window ++ bytes).length ∧ (window ++ bytes).length ≤ BUFFER_SIZE ∧
        bytes ++ channel'.flatten = channel.flatten := by
  induction channel generalizing window with
  | nil => exact .inl ⟨rfl, by simpa using short⟩
  | cons chunk channel ih =>
      have small : OKAY_SIZE ≤ BUFFER_SIZE := by decide
      rw [greeting]
      split
      · rename_i whole
        split
        · rename_i short'
          rcases ih short' with ⟨none, less⟩ | ⟨bytes, channel', some', long, fits, flat⟩
          · refine .inl ⟨none, ?_⟩
            rwa [List.flatten_cons, ← List.append_assoc]
          · refine .inr ⟨chunk ++ bytes, channel', ?_⟩
            rw [List.append_assoc] at some' long fits
            exact ⟨some', long, fits, by rw [List.append_assoc, flat, List.flatten_cons]⟩
        · rename_i long
          refine .inr ⟨chunk, channel, rfl, Nat.le_of_not_lt long, ?_, rfl⟩
          rw [List.length_append]
          omega
      · rename_i more
        refine .inr ⟨_, _, rfl, ?_, ?_, ?_⟩
        · rw [List.length_append, List.length_take]
          omega
        · rw [List.length_append, List.length_take]
          omega
        · rw [List.flatten_cons, ← List.append_assoc, List.take_append_drop, List.flatten_cons]

theorem greeting_nil (channel : Channel) :
    (greeting [] channel = none ∧ channel.flatten.length < OKAY_SIZE) ∨
      ∃ bytes channel', greeting [] channel = some (bytes, channel') ∧
        OKAY_SIZE ≤ bytes.length ∧ bytes.length ≤ BUFFER_SIZE ∧
        bytes ++ channel'.flatten = channel.flatten :=
  @greeting_spec [] channel (by decide)

theorem greeting_append {more : Channel}
    (greeted : greeting window channel = some (bytes, channel')) :
    greeting window (channel ++ more) = some (bytes, channel' ++ more) := by
  induction channel generalizing window with
  | nil => cases greeted
  | cons chunk channel ih =>
      rw [greeting] at greeted
      rw [List.cons_append, greeting]
      split at greeted
      · split at greeted
        · rename_i whole short
          rw [if_pos whole, if_pos short]
          exact ih greeted
        · rename_i whole long
          rw [if_pos whole, if_neg long]
          cases greeted
          rfl
      · rename_i more
        rw [if_neg more]
        cases greeted
        rfl

section
variable {b : ByteBuffer} {decode : List UInt8 → List Char} {turns : Nat} {m : AdbMonitor}

theorem consumeOkay_add {result : Result (Bool × ByteBuffer × Channel)}
    (consumed : consumeOkay turns b channel = some result) (more : Nat) :
    consumeOkay (turns + more) b channel = some result := by
  induction turns generalizing b channel with
  | zero => cases consumed
  | succ turns ih =>
      rw [consumeOkay] at consumed
      rw [Nat.add_right_comm, consumeOkay]
      split at consumed
      · exact consumed
      · split at consumed
        · exact consumed
        · split at consumed
          · rename_i short
            rw [if_pos short]
            exact ih consumed
          · rename_i long
            rw [if_neg long]
            exact consumed

/-- Four bytes are taken for the greeting. -/
theorem greet_eq (channel : Channel) (written : b.written = window)
    (capacity : b.capacity = BUFFER_SIZE)
    (long : OKAY_SIZE ≤ window.length) :
    ∃ b', (do
        let (text, socketBuffer) ← b.flip.getArray OKAY_SIZE
        return (text == okay, socketBuffer.compact.flip, channel) : Result _) =
      .ok (window.take OKAY_SIZE == okay, b', channel) ∧ Shows b' [] (window.drop OKAY_SIZE) := by
  have front : b.flip.window = window := by rw [ByteBuffer.window_flip, written]
  obtain ⟨b', got, _, behind, capacity'⟩ := ByteBuffer.getArray_eq
    (show OKAY_SIZE ≤ b.flip.remaining by rw [← ByteBuffer.window_length, front]; exact long)
  rw [front] at got behind
  refine ⟨b'.compact.flip, ?_, rfl, ?_, ?_⟩
  · rw [got]
    rfl
  · rw [ByteBuffer.window_flip, ByteBuffer.written_compact, behind]
  · rw [ByteBuffer.capacity_flip, ByteBuffer.capacity_compact, capacity',
      ByteBuffer.capacity_flip, capacity]

theorem consumeOkay_eq (written : b.written = window) (limit : b.limit = BUFFER_SIZE)
    (capacity : b.capacity = BUFFER_SIZE) (short : window.length < OKAY_SIZE)
    (turn : channel.length < turns) :
    (greeting window channel = none ∧
      ∃ b' channel', consumeOkay turns b channel = some (.ok (false, b', channel'))) ∨
    ∃ bytes channel' b', greeting window channel = some (bytes, channel') ∧
      consumeOkay turns b channel =
        some (.ok (bytes.take OKAY_SIZE == okay, b', channel')) ∧
      Shows b' [] (bytes.drop OKAY_SIZE) := by
  have small : OKAY_SIZE ≤ BUFFER_SIZE := by decide
  induction channel generalizing b window turns with
  | nil =>
      obtain ⟨turns, rfl⟩ := Nat.exists_eq_add_one_of_ne_zero (Nat.ne_zero_of_lt turn)
      have room : b.remaining ≠ 0 := by
        rw [ByteBuffer.remaining, limit, ← ByteBuffer.written_length, written]
        omega
      have ended : Channel.read b.remaining [] = none := by rw [Channel.read, if_neg room]
      rw [consumeOkay, ended]
      exact .inl ⟨rfl, b, [], rfl⟩
  | cons chunk channel ih =>
      obtain ⟨turns, rfl⟩ := Nat.exists_eq_add_one_of_ne_zero (Nat.ne_zero_of_lt turn)
      have room : b.remaining = BUFFER_SIZE - window.length := by
        rw [ByteBuffer.remaining, limit, ← ByteBuffer.written_length, written]
      obtain ⟨b₁, put, written₁, limit₁, capacity₁⟩ := ByteBuffer.put_eq
        (show (chunk.take b.remaining).length ≤ b.remaining from List.length_take_le _ _)
      have position : b₁.position = (window ++ chunk.take b.remaining).length := by
        rw [← ByteBuffer.written_length, written₁, written]
      rw [written] at written₁
      rw [consumeOkay, Channel.read, if_neg (by omega)]
      simp only [put, position]
      rw [greeting]
      rw [room] at written₁ ⊢
      by_cases whole : chunk.length ≤ BUFFER_SIZE - window.length
      · rw [List.take_of_length_le whole] at written₁ ⊢
        simp only [if_pos whole]
        by_cases short' : (window ++ chunk).length < OKAY_SIZE
        · simp only [if_pos short']
          exact ih written₁ (limit₁.trans limit) (capacity₁.trans capacity) short'
            (Nat.lt_of_succ_lt_succ turn)
        · simp only [if_neg short']
          obtain ⟨b', greeted, shows⟩ := greet_eq channel written₁
            (capacity₁.trans capacity) (Nat.le_of_not_lt short')
          exact .inr ⟨_, _, b', rfl, congrArg some greeted, shows⟩
      · have long : OKAY_SIZE ≤ (window ++ chunk.take (BUFFER_SIZE - window.length)).length := by
          rw [List.length_append, List.length_take]
          omega
        simp only [if_neg whole, if_neg (Nat.not_lt.mpr long)]
        obtain ⟨b', greeted, shows⟩ := greet_eq
          (chunk.drop (BUFFER_SIZE - window.length) :: channel) written₁
          (capacity₁.trans capacity) long
        exact .inr ⟨_, _, b', rfl, congrArg some greeted, shows⟩

theorem news_length {connected : List (List Char)} {texts : List (List Char)} :
    (news connected texts).length = texts.length := by
  induction texts generalizing connected with
  | nil => rfl
  | cons packet packets ih => exact congrArg Nat.succ ih

/-- The greeting on a buffer that was cleared. -/
theorem consumeOkay_clear (capacity : m.socketBuffer.capacity = BUFFER_SIZE)
    (greeted : greeting [] channel = some (bytes, channel')) (hello : bytes.take OKAY_SIZE = okay)
    (turn : channel.length < turns) :
    ∃ b, consumeOkay turns m.socketBuffer.clear channel = some (.ok (true, b, channel')) ∧
      Shows b [] (bytes.drop OKAY_SIZE) := by
  rcases consumeOkay_eq (b := m.socketBuffer.clear) List.take_zero capacity capacity (by decide)
    turn with ⟨none, _⟩ | ⟨_, _, b, some', consumed, shows⟩
  · rw [greeted] at none
    cases none
  · cases greeted.symm.trans some'
    rw [hello] at consumed
    exact ⟨b, consumed, shows⟩

theorem run_of_tracks (capacity : m.socketBuffer.capacity = BUFFER_SIZE)
    (greeted : greeting [] channel = some (bytes, channel')) (hello : bytes.take OKAY_SIZE = okay)
    (begins : Begins (bytes.drop OKAY_SIZE ++ channel'.flatten))
    (tracks : Tracks decode m channel packets) :
    ∃ returned, Run [] (bytes.drop OKAY_SIZE) channel' returned ∧
      returned.length = packets.length := by
  obtain ⟨turns, ended, tracked, _⟩ := tracks
  obtain ⟨b, consumed, shows⟩ := consumeOkay_clear capacity greeted hello
    (show channel.length < turns + (channel.length + 1) by omega)
  rw [trackDevicesOnChannel] at tracked
  cases first : consumeOkay turns m.socketBuffer.clear channel with
  | none =>
      simp only [first] at tracked
      cases tracked
  | some taken =>
      rw [consumeOkay_add first] at consumed
      cases consumed
      simp only [first] at tracked
      obtain ⟨result, handled, same⟩ := Option.map_eq_some_iff.mp tracked
      obtain ⟨returned, run, rfl⟩ := handlePackets_run shows (.start begins) handled
      refine ⟨returned, run, ?_⟩
      have count := congrArg List.length (congrArg Prod.fst same)
      simpa only [news_length, List.length_map] using count

theorem Run.tracks (capacity : m.socketBuffer.capacity = BUFFER_SIZE)
    (greeted : greeting [] channel = some (bytes, channel')) (hello : bytes.take OKAY_SIZE = okay)
    (begins : Begins (bytes.drop OKAY_SIZE ++ channel'.flatten))
    (run : Run [] (bytes.drop OKAY_SIZE) channel' packets) : Tracks decode m channel packets := by
  obtain ⟨b, consumed, shows⟩ := consumeOkay_clear capacity greeted hello (Nat.lt_succ_self _)
  obtain ⟨turns, handled⟩ := run.handles decode shows (.start begins) m.connectedDevices
  refine ⟨channel.length + 1 + turns, some .ioException, ?_, .inr rfl⟩
  rw [trackDevicesOnChannel, consumeOkay_add consumed]
  simp only [Nat.add_comm _ turns, handlePackets_add handled, Option.map_some]

theorem tracks_unanswered (capacity : m.socketBuffer.capacity = BUFFER_SIZE)
    (short : greeting [] channel = none) : Tracks decode m channel [] := by
  rcases consumeOkay_eq (b := m.socketBuffer.clear) List.take_zero capacity capacity (by decide)
    (Nat.lt_succ_self channel.length) with ⟨_, b, channel', consumed⟩ | ⟨_, _, _, some', _⟩
  · refine ⟨channel.length + 1, none, ?_, .inl rfl⟩
    rw [trackDevicesOnChannel, consumed]
    rfl
  · rw [short] at some'
    cases some'

end

theorem Packet.incomplete (h : Packet packet) (front : window <+: packet)
    (shorter : window.length < packet.length) : frontPacket window = none := by
  obtain ⟨later, rfl⟩ := front
  rw [Option.eq_none_iff_forall_ne_some]
  intro n found
  have whole := framing_frontPacket.more found later
  rw [h.front] at whole
  cases whole
  have le := framing_frontPacket.le found
  omega

theorem splits_arrived {stream : List UInt8} (each : ∀ packet ∈ packets, Packet packet)
    (front : stream <+: packets.flatten) :
    ∃ rest, Splits frontPacket stream (arrived packets stream.length) rest := by
  induction packets generalizing stream with
  | nil =>
      obtain rfl : stream = [] := List.prefix_nil.mp front
      exact ⟨[], .rest (by decide)⟩
  | cons packet packets ih =>
      have own := each packet (List.mem_cons_self ..)
      rw [List.flatten_cons] at front
      rw [arrived]
      split
      · rename_i whole
        obtain ⟨stream, rfl⟩ : packet <+: stream :=
          List.prefix_of_prefix_length_le ⟨_, rfl⟩ front whole
        rw [List.prefix_append_right_inj] at front
        obtain ⟨rest, splits⟩ :=
          ih (fun other member => each other (List.mem_cons_of_mem _ member)) front
        have step := Splits.frame (framing_frontPacket.more own.front stream)
          (by rw [List.drop_left]; exact splits)
        rw [List.take_left] at step
        rw [List.length_append, Nat.add_sub_cancel_left]
        exact ⟨rest, step⟩
      · rename_i part
        have within : stream.length < packet.length := Nat.lt_of_not_le part
        exact ⟨stream, .rest (own.incomplete
          (List.prefix_of_prefix_length_le front ⟨_, rfl⟩ (Nat.le_of_lt within)) within)⟩

theorem arrived_flatten : arrived packets packets.flatten.length = packets := by
  induction packets with
  | nil => rfl
  | cons packet packets ih =>
      rw [arrived, List.flatten_cons, List.length_append, if_pos (Nat.le_add_right _ _),
        Nat.add_sub_cancel_left, ih]

theorem arrived_zero (each : ∀ packet ∈ packets, Packet packet) : arrived packets 0 = [] := by
  cases packets with
  | nil => rfl
  | cons packet packets =>
      have header := (each packet (List.mem_cons_self ..)).header
      rw [arrived, if_neg]
      unfold LENGTH_FIELD_SIZE at header
      omega

/-- What is left to be read behind the greeting. -/
theorem behind_greeting (each : ∀ packet ∈ packets, Packet packet)
    (front : channel.flatten <+: okay ++ packets.flatten)
    (greeted : greeting [] channel = some (bytes, channel')) :
    bytes.take OKAY_SIZE = okay ∧ bytes.length ≤ BUFFER_SIZE ∧
      (bytes.drop OKAY_SIZE ++ channel'.flatten).length = channel.flatten.length - OKAY_SIZE ∧
      bytes.drop OKAY_SIZE ++ channel'.flatten <+: packets.flatten ∧
      Begins (bytes.drop OKAY_SIZE ++ channel'.flatten) := by
  rcases greeting_nil channel with ⟨none, _⟩ | ⟨_, _, some', long, fits, flat⟩
  · rw [greeted] at none
    cases none
  · cases greeted.symm.trans some'
    rw [← flat] at front ⊢
    obtain ⟨later, whole⟩ := front
    rw [List.append_assoc] at whole
    have behind : bytes.drop OKAY_SIZE ++ channel'.flatten <+: packets.flatten := by
      refine ⟨later, ?_⟩
      have dropped := congrArg (List.drop OKAY_SIZE) whole
      rw [List.drop_append_of_le_length long] at dropped
      rw [List.append_assoc, dropped]
      rfl
    refine ⟨?_, fits, ?_, behind, packets, each, behind⟩
    · have taken := congrArg (List.take OKAY_SIZE) whole
      rw [List.take_append_of_le_length long] at taken
      exact taken
    · rw [List.length_append, List.length_append, List.length_drop]
      omega

section
variable {decode : List UInt8 → List Char} {m : AdbMonitor}

/-- What it takes that each packet is returned once. -/
theorem apart_of_tracks (capacity : m.socketBuffer.capacity = BUFFER_SIZE)
    (each : ∀ packet ∈ packets, Packet packet) (stream : channel.flatten = okay ++ packets.flatten)
    (tracks : Tracks decode m channel
      (arrived packets (channel.flatten.length - OKAY_SIZE))) :
    (∀ packet ∈ packets, packet.length ≤ BUFFER_SIZE) ∧ ReadsApart channel := by
  rcases greeting_nil channel with ⟨_, short⟩ | ⟨bytes, channel', greeted, _⟩
  · rw [stream, List.length_append] at short
    exact absurd short (Nat.not_lt.mpr (Nat.le_add_right _ _))
  · obtain ⟨hello, fits, length, behind, begins⟩ :=
      behind_greeting each (stream ▸ List.prefix_refl _) greeted
    have all : channel.flatten.length - OKAY_SIZE = packets.flatten.length := by
      rw [stream, List.length_append]
      exact Nat.add_sub_cancel_left ..
    rw [all, arrived_flatten] at tracks
    obtain ⟨returned, run, once⟩ := run_of_tracks capacity greeted hello begins tracks
    have same : bytes.drop OKAY_SIZE ++ channel'.flatten = packets.flatten :=
      behind.eq_of_length (by omega)
    have splits : Splits frontPacket (bytes.drop OKAY_SIZE ++ channel'.flatten) packets [] := by
      have cut := Splits.of_flatten framing_frontPacket packets
        (fun packet member => (each packet member).front) (show frontPacket [] = none by decide)
      rwa [List.append_nil, ← same] at cut
    refine ⟨run.small (.rest (by decide)) ?_ splits, fun window channel'' greeted' => ?_⟩
    · rw [List.length_nil, List.length_drop]
      omega
    · cases greeted.symm.trans greeted'
      exact run.aligned (.rest (by decide)) (by simp) splits (Nat.le_of_eq once)

theorem ReadsApart.tracks {part more : Channel} (apart : ReadsApart (part ++ more))
    (capacity : m.socketBuffer.capacity = BUFFER_SIZE)
    (each : ∀ packet ∈ packets, Packet packet) (front : part.flatten <+: okay ++ packets.flatten) :
    Tracks decode m part (arrived packets (part.flatten.length - OKAY_SIZE)) := by
  rcases greeting_nil part with ⟨short, few⟩ | ⟨bytes, channel', greeted, _⟩
  · rw [show part.flatten.length - OKAY_SIZE = 0 by omega, arrived_zero each]
    exact tracks_unanswered capacity short
  · obtain ⟨hello, _, length, behind, begins⟩ := behind_greeting each front greeted
    have aligned := Aligned.of_prefix (apart _ _ (greeting_append greeted))
    obtain ⟨rest, splits⟩ := splits_arrived each behind
    rw [length] at splits
    exact (aligned.run (fun _ => rfl) splits).tracks capacity greeted hello begins

end

/-- The packets that have arrived are returned, each once and in order, and the devices reported
that are new in each, exactly when they fit into the buffer with their length fields and no read
ends between the length field and the end of a packet behind the end of another. -/
theorem devices_tracked_iff (decode : List UInt8 → List Char) (m : AdbMonitor)
    (capacity : m.socketBuffer.capacity = BUFFER_SIZE) (packets : List (List UInt8))
    (each : ∀ packet ∈ packets, Packet packet) (channel : Channel)
    (stream : channel.flatten = okay ++ packets.flatten) :
    (∀ part, part <+: channel →
        Tracks decode m part (arrived packets (part.flatten.length - OKAY_SIZE))) ↔
      (∀ packet ∈ packets, packet.length ≤ BUFFER_SIZE) ∧ ReadsApart channel := by
  constructor
  · intro tracks
    exact apart_of_tracks capacity each stream (tracks channel (List.prefix_refl _))
  · rintro ⟨_, apart⟩ part ⟨more, rfl⟩
    rw [List.flatten_append] at stream
    exact apart.tracks capacity each ⟨_, stream⟩

def idle : AdbMonitor := ⟨[], .allocate BUFFER_SIZE⟩

/-- No device, and then a line of one character. -/
def twoPackets : List (List UInt8) := [[48, 48, 48, 48], [48, 48, 48, 49, 10]]

/-- The second packet comes without its payload first. -/
def lateEnd : Channel := [okay ++ [48, 48, 48, 48, 48, 48, 48, 49], [10]]

theorem packet_twoPackets : ∀ packet ∈ twoPackets, Packet packet := by
  intro packet member
  simp only [twoPackets, List.mem_cons, List.not_mem_nil, or_false] at member
  rcases member with rfl | rfl
  all_goals exact ⟨by decide, by decide +kernel, by decide +kernel, by decide⟩

theorem devices_tracked_iff_lateEnd :
    (∀ part, part <+: lateEnd → Tracks (fun _ => []) idle part
        (arrived twoPackets (part.flatten.length - OKAY_SIZE))) ↔
      (∀ packet ∈ twoPackets, packet.length ≤ BUFFER_SIZE) ∧ ReadsApart lateEnd :=
  devices_tracked_iff (fun _ => []) idle List.length_replicate twoPackets packet_twoPackets lateEnd
    rfl

/-- The first packet is returned twice. -/
theorem packet_returned_again :
    ¬ ∀ (decode : List UInt8 → List Char) (m : AdbMonitor) (packets : List (List UInt8))
      (channel : Channel), m.socketBuffer.capacity = BUFFER_SIZE →
      (∀ packet ∈ packets, Packet packet) → channel.flatten = okay ++ packets.flatten →
      ∀ part, part <+: channel →
        Tracks decode m part (arrived packets (part.flatten.length - OKAY_SIZE)) := by
  intro tracks
  have whole := tracks (fun _ => []) idle twoPackets lateEnd List.length_replicate packet_twoPackets
    rfl lateEnd (List.prefix_refl _)
  have aligned := (apart_of_tracks (m := idle) List.length_replicate packet_twoPackets rfl whole).2
    (okay ++ [48, 48, 48, 48, 48, 48, 48, 49]) [[10]] rfl
  have second {channel : Channel} : ¬ Aligned true [48, 48, 48, 49] channel := by
    intro aligned
    cases aligned with
    | packet found =>
        rw [show frontPacket [48, 48, 48, 49] = none by decide] at found
        cases found
    | fill _ apart => exact absurd (apart rfl) (by decide)
    | ended _ apart => exact absurd (apart rfl) (by decide)
  cases aligned with
  | packet found later =>
      obtain rfl : 4 = _ := Option.some.inj found
      exact second later
  | fill incomplete => exact absurd incomplete (by decide)
  | ended incomplete => exact absurd incomplete (by decide)

end AdbMonitor
end QuestVdWired.Relay
