import QuestVdWired.Java.ByteBuffer

/-!
`IPv4Header`, `TCPHeader`, `UDPHeader` and `IPv4Packet` as constructors over a buffer, with the
exceptions of their reads, and which packets they accept. Java assertions are not checked.
-/

namespace QuestVdWired.Relay
open Java Wire

def MAX_PACKET_LENGTH : Nat := 2 ^ 16

inductive IPv4Protocol
  | tcp | udp | other
  deriving DecidableEq, Repr

def IPv4Protocol.fromNumber (number : Nat) : IPv4Protocol :=
  if number = 6 then .tcp else if number = 17 then .udp else .other

structure IPv4Header where
  version : Int
  headerLength : Nat
  totalLength : Nat
  protocol : IPv4Protocol
  source : Nat
  destination : Nat
  deriving DecidableEq, Repr

namespace IPv4Header

/-- The first byte is signed, and so is the version shifted out of it. -/
def create (raw : ByteBuffer) : Result IPv4Header := do
  let versionAndIHL ← raw.get 0
  let version : Int := versionAndIHL.toNat / 16 - if 128 ≤ versionAndIHL.toNat then 16 else 0
  let headerLength := versionAndIHL.toNat % 16 * 4
  let raw ← raw.setLimit headerLength
  let totalLength ← raw.getShort 2
  let protocolNumber ← raw.get 9
  let source ← raw.getInt 12
  let destination ← raw.getInt 16
  return ⟨version, headerLength, totalLength, .fromNumber protocolNumber.toNat, source, destination⟩

def isSupported (h : IPv4Header) : Bool := h.version = 4 && h.protocol ≠ .other

end IPv4Header

/-- `raw` is the header up to its limit. -/
structure TCPHeader where
  raw : List UInt8
  sourcePort : Nat
  destinationPort : Nat
  headerLength : Nat
  sequenceNumber : Nat
  acknowledgementNumber : Nat
  flags : Nat
  window : Nat
  deriving DecidableEq, Repr

namespace TCPHeader

def create (raw : ByteBuffer) : Result TCPHeader := do
  let sourcePort ← raw.getShort 0
  let destinationPort ← raw.getShort 2
  let sequenceNumber ← raw.getInt 4
  let acknowledgementNumber ← raw.getInt 8
  let dataOffsetAndFlags ← raw.getShort 12
  let headerLength := dataOffsetAndFlags / 2 ^ 12 * 4
  let flags := dataOffsetAndFlags % 2 ^ 9
  let window ← raw.getShort 14
  let raw ← raw.setLimit headerLength
  return ⟨raw.bytes.take raw.limit, sourcePort, destinationPort, headerLength, sequenceNumber,
    acknowledgementNumber, flags, window⟩

def copy (h : TCPHeader) : Result TCPHeader := create (.wrap h.raw)

/-- `setDataOffset(5)`, and the limit behind the 20 bytes without options. -/
def shrinkOptions (h : TCPHeader) : Result TCPHeader := do
  let dataOffsetAndFlags ← (ByteBuffer.wrap h.raw).getShort 12
  let shrinked := overwrite h.raw 12 (toBigEndian 2 (dataOffsetAndFlags % 2 ^ 12 + 5 * 2 ^ 12))
  let raw ← (ByteBuffer.wrap shrinked).setLimit 20
  return { h with raw := raw.bytes.take raw.limit, headerLength := 20 }

end TCPHeader

structure UDPHeader where
  sourcePort : Nat
  destinationPort : Nat
  deriving DecidableEq, Repr

def UDP_HEADER_LENGTH : Nat := 8

def UDPHeader.create (raw : ByteBuffer) : Result UDPHeader := do
  let raw ← raw.setLimit UDP_HEADER_LENGTH
  let sourcePort ← raw.getShort 0
  let destinationPort ← raw.getShort 2
  return ⟨sourcePort, destinationPort⟩

inductive TransportHeader
  | tcp (header : TCPHeader)
  | udp (header : UDPHeader)
  deriving DecidableEq, Repr

structure IPv4Packet where
  raw : List UInt8
  ipv4Header : IPv4Header
  transportHeader : Option TransportHeader
  deriving DecidableEq, Repr

namespace IPv4Packet

def createTransportHeader (raw : ByteBuffer) : IPv4Protocol → Result TransportHeader
  | .udp => return .udp (← UDPHeader.create raw)
  | .tcp => return .tcp (← TCPHeader.create raw)
  | .other => .error .assertionError

def create (raw : ByteBuffer) : Result IPv4Packet := do
  let ipv4Header ← IPv4Header.create raw
  if ipv4Header.isSupported then
    -- getRawTransport
    let raw ← raw.setPosition ipv4Header.headerLength
    let transportHeader ← createTransportHeader raw.slice ipv4Header.protocol
    let raw ← raw.setLimit ipv4Header.totalLength
    return ⟨raw.bytes.take raw.limit, ipv4Header, some transportHeader⟩
  else return ⟨raw.bytes.take raw.limit, ipv4Header, none⟩

end IPv4Packet

/-- The headers of a new connection's packets: `TCPConnection` copies that of the first packet
without its options. The other copies are of headers that were read before. -/
def responseHeader : TransportHeader → Result TransportHeader
  | .tcp header => return .tcp (← (← header.copy).shrinkOptions)
  | .udp header => return .udp header

/-! The fields of a packet. -/

namespace Field
variable (packet : List UInt8)

def version : Nat := (packet.getD 0 0).toNat / 16

def headerLength : Nat := (packet.getD 0 0).toNat % 16 * 4

def totalLength : Nat := bigEndian ((packet.drop 2).take 2)

def protocol : IPv4Protocol := .fromNumber (packet.getD 9 0).toNat

/-- Of the TCP header behind the IPv4 header. -/
def dataOffset : Nat := (packet.getD (headerLength packet + 12) 0).toNat / 16 * 4

end Field

/-- The headers are there: an IPv4 header of at least 20 bytes and, over version 4, a TCP header
of at least 20 bytes or a UDP header of 8. -/
structure WellHeaded (packet : List UInt8) : Prop where
  least : 20 ≤ Field.headerLength packet
  header : Field.headerLength packet ≤ packet.length
  tcp : Field.version packet = 4 → Field.protocol packet = .tcp →
    20 ≤ Field.dataOffset packet ∧
      Field.headerLength packet + Field.dataOffset packet ≤ packet.length
  udp : Field.version packet = 4 → Field.protocol packet = .udp →
    Field.headerLength packet + UDP_HEADER_LENGTH ≤ packet.length

section
variable {packet : List UInt8}

/-- The header a packet has if all of it is there. -/
def Field.header (packet : List UInt8) : IPv4Header where
  version := Field.version packet - if 128 ≤ (packet.getD 0 0).toNat then 16 else 0
  headerLength := Field.headerLength packet
  totalLength := Field.totalLength packet
  protocol := Field.protocol packet
  source := bigEndian ((packet.drop 12).take 4)
  destination := bigEndian ((packet.drop 16).take 4)

theorem IPv4Header.create_eq_ok {header : IPv4Header} :
    create (.wrap packet) = .ok header ↔
      20 ≤ Field.headerLength packet ∧ Field.headerLength packet ≤ packet.length ∧
        header = Field.header packet := by
  unfold create
  simp only [bind_eq_ok, ByteBuffer.get_eq_ok, ByteBuffer.getShort_eq_ok, ByteBuffer.getInt_eq_ok,
    ByteBuffer.setLimit_eq_ok, pure, Except.pure, Except.ok.injEq]
  constructor
  · rintro ⟨first, ⟨_, rfl⟩, raw, ⟨fits, bytes, limit, _⟩, total, ⟨_, rfl⟩, protocol, ⟨_, rfl⟩,
      source, ⟨_, rfl⟩, destination, ⟨least, rfl⟩, rfl⟩
    rw [limit] at least
    refine ⟨least, fits, ?_⟩
    simp only [bytes]
    rfl
  · rintro ⟨least, fits, rfl⟩
    refine ⟨_, ⟨by rw [ByteBuffer.limit_wrap]; omega, rfl⟩,
      ⟨packet, 0, Field.headerLength packet, Nat.zero_le _, fits⟩,
      ⟨fits, rfl, rfl, (Nat.zero_min _).symm⟩, _, ⟨?_, rfl⟩, _, ⟨?_, rfl⟩, _, ⟨?_, rfl⟩, _,
      ⟨least, rfl⟩, rfl⟩
    all_goals dsimp only
    all_goals omega

theorem Field.isSupported_iff :
    (Field.header packet).isSupported = true ↔
      Field.version packet = 4 ∧ Field.protocol packet ≠ .other := by
  have small := (packet.getD 0 0).toNat_lt
  have version : (Field.header packet).version = 4 ↔ Field.version packet = 4 := by
    simp only [Field.header, Field.version]
    split <;> omega
  rw [IPv4Header.isSupported, Bool.and_eq_true, decide_eq_true_iff, decide_eq_true_iff, version]
  rfl

/-- The data offset of a TCP header in a slice of its own. -/
theorem dataOffset_eq {segment : List UInt8} (long : 14 ≤ segment.length) :
    bigEndian ((segment.drop 12).take 2) / 2 ^ 12 * 4 = (segment.getD 12 0).toNat / 16 * 4 := by
  have low := (segment.getD 13 0).toNat_lt
  have two : (segment.drop 12).take 2 = [segment.getD 12 0, segment.getD 13 0] := by
    rw [List.drop_eq_getElem_cons (by omega), List.drop_eq_getElem_cons (by omega),
      List.getD_eq_getElem _ _ (by omega), List.getD_eq_getElem _ _ (by omega)]
    rfl
  rw [two]
  simp only [bigEndian, List.foldl_cons, List.foldl_nil]
  omega

theorem TCPHeader.create_eq_ok {segment : List UInt8} {header : TCPHeader}
    (created : create (.wrap segment) = .ok header) :
    16 ≤ segment.length ∧ header.headerLength = (segment.getD 12 0).toNat / 16 * 4 ∧
      header.headerLength ≤ segment.length ∧ header.raw = segment.take header.headerLength := by
  unfold create at created
  simp only [bind_eq_ok, ByteBuffer.getShort_eq_ok, ByteBuffer.getInt_eq_ok,
    ByteBuffer.setLimit_eq_ok, pure, Except.pure, Except.ok.injEq] at created
  obtain ⟨_, _, _, _, _, _, _, _, offset, ⟨_, rfl⟩, window, ⟨long, rfl⟩, raw,
    ⟨fits, bytes, limit, _⟩, rfl⟩ := created
  have long : 16 ≤ segment.length := long
  have own := @dataOffset_eq segment (by omega)
  refine ⟨long, own, fits, ?_⟩
  simp only [bytes, limit]
  rfl

theorem TCPHeader.exists_create {segment : List UInt8} (long : 16 ≤ segment.length)
    (fits : (segment.getD 12 0).toNat / 16 * 4 ≤ segment.length) :
    ∃ header, create (.wrap segment) = .ok header := by
  have own := @dataOffset_eq segment (by omega)
  unfold create
  simp only [bind_eq_ok, ByteBuffer.getShort_eq_ok, ByteBuffer.getInt_eq_ok,
    ByteBuffer.setLimit_eq_ok, pure, Except.pure, Except.ok.injEq]
  refine ⟨_, _, ⟨?_, rfl⟩, _, ⟨?_, rfl⟩, _, ⟨?_, rfl⟩, _, ⟨?_, rfl⟩, _, ⟨?_, rfl⟩, _,
    ⟨long, rfl⟩, ⟨segment, 0, bigEndian ((segment.drop 12).take 2) / 2 ^ 12 * 4, Nat.zero_le _, ?_⟩,
    ⟨?_, rfl, rfl, (Nat.zero_min _).symm⟩, rfl⟩
  all_goals simp only [ByteBuffer.capacity, ByteBuffer.wrap, own]
  all_goals omega

/-- A header whose options can be dropped. -/
theorem TCPHeader.shrinkOptions_eq_ok {header header' : TCPHeader}
    (shrinked : header.shrinkOptions = .ok header') : 20 ≤ header.raw.length := by
  unfold shrinkOptions at shrinked
  simp only [bind_eq_ok, ByteBuffer.getShort_eq_ok, ByteBuffer.setLimit_eq_ok, pure, Except.pure,
    Except.ok.injEq] at shrinked
  obtain ⟨_, ⟨there, _⟩, raw, ⟨fits, _⟩, _⟩ := shrinked
  have there : 14 ≤ header.raw.length := there
  have fits : 20 ≤ (overwrite header.raw 12 (toBigEndian 2 _)).length := fits
  rwa [overwrite_length (by rw [toBigEndian_length]; omega)] at fits

theorem TCPHeader.exists_shrinkOptions {header : TCPHeader} (long : 20 ≤ header.raw.length) :
    ∃ header', header.shrinkOptions = .ok header' := by
  unfold shrinkOptions
  simp only [bind_eq_ok, ByteBuffer.getShort_eq_ok, ByteBuffer.setLimit_eq_ok, pure, Except.pure,
    Except.ok.injEq]
  have fits : 20 ≤ (overwrite header.raw 12 (toBigEndian 2 (bigEndian
      (((ByteBuffer.wrap header.raw).bytes.drop 12).take 2) % 2 ^ 12 + 5 * 2 ^ 12))).length := by
    rwa [overwrite_length (by rw [toBigEndian_length]; omega)]
  exact ⟨_, _, ⟨by rw [ByteBuffer.limit_wrap]; omega, rfl⟩, ⟨_, 0, 20, Nat.zero_le _, fits⟩,
    ⟨fits, rfl, rfl, (Nat.zero_min _).symm⟩, rfl⟩

/-- The header of the first packet does for the packets sent back if it has its 20 bytes. -/
theorem responseHeader_tcp_iff {segment : List UInt8} {header : TCPHeader}
    (created : TCPHeader.create (.wrap segment) = .ok header) :
    (∃ response, responseHeader (.tcp header) = .ok response) ↔ 20 ≤ header.headerLength := by
  obtain ⟨long, own, fits, raw⟩ := TCPHeader.create_eq_ok created
  have length : header.raw.length = header.headerLength := by
    rw [raw, List.length_take]
    omega
  simp only [responseHeader, TCPHeader.copy, bind_eq_ok, pure, Except.pure, Except.ok.injEq]
  constructor
  · rintro ⟨_, copied, copy, shrinked, shrink, _⟩
    obtain ⟨_, _, fits', raw'⟩ := TCPHeader.create_eq_ok copy
    have enough := TCPHeader.shrinkOptions_eq_ok shrink
    rw [raw', List.length_take] at enough
    omega
  · intro enough
    have own' : (header.raw.getD 12 0).toNat / 16 * 4 = header.headerLength := by
      rw [own, raw, List.getD_eq_getElem _ _ (by rw [List.length_take]; omega),
        List.getElem_take, List.getD_eq_getElem]
    obtain ⟨copied, copy⟩ := @TCPHeader.exists_create header.raw (by omega) (by omega)
    obtain ⟨_, copied', fits', raw'⟩ := TCPHeader.create_eq_ok copy
    obtain ⟨shrinked, shrink⟩ := TCPHeader.exists_shrinkOptions
      (by rw [raw', List.length_take]; omega)
    exact ⟨_, copied, copy, shrinked, shrink, rfl⟩

/-- What follows the IPv4 header. -/
def Field.transport (packet : List UInt8) : List UInt8 := packet.drop (Field.headerLength packet)

theorem Field.dataOffset_transport :
    ((Field.transport packet).getD 12 0).toNat / 16 * 4 = Field.dataOffset packet := by
  simp only [Field.transport, Field.dataOffset, List.getD_eq_getElem?_getD, List.getElem?_drop]

/-- What the constructor reads of a packet as long as its total length says. -/
theorem IPv4Packet.create_eq_ok {created : IPv4Packet}
    (total : Field.totalLength packet = packet.length) :
    create (.wrap packet) = .ok created ↔
      (20 ≤ Field.headerLength packet ∧ Field.headerLength packet ≤ packet.length) ∧
        created.raw = packet ∧ created.ipv4Header = Field.header packet ∧
        if (Field.header packet).isSupported = true then
          ∃ header, created.transportHeader = some header ∧
            createTransportHeader (.wrap (Field.transport packet)) (Field.protocol packet) =
              .ok header
        else created.transportHeader = none := by
  unfold create
  rw [bind_eq_ok]
  constructor
  · rintro ⟨header, read, rest⟩
    obtain ⟨least, fits, rfl⟩ := IPv4Header.create_eq_ok.mp read
    refine ⟨⟨least, fits⟩, ?_⟩
    by_cases supported : (Field.header packet).isSupported = true
    · rw [if_pos supported] at rest ⊢
      simp only [bind_eq_ok, ByteBuffer.setPosition_eq_ok, ByteBuffer.setLimit_eq_ok, pure,
        Except.pure, Except.ok.injEq] at rest
      obtain ⟨raw, ⟨_, bytes, limit, position⟩, transport, made, raw', ⟨_, bytes', limit', _⟩,
        rfl⟩ := rest
      have slice : raw.slice = .wrap (Field.transport packet) := by
        rw [ByteBuffer.slice, ByteBuffer.window, bytes, limit, position]
        congr 1
        rw [ByteBuffer.limit_wrap, ByteBuffer.wrap, List.take_length]
        rfl
      rw [slice] at made
      refine ⟨?_, rfl, transport, rfl, made⟩
      change raw'.bytes.take raw'.limit = packet
      rw [bytes', bytes, limit']
      change packet.take (Field.totalLength packet) = packet
      rw [total, List.take_length]
    · rw [if_neg supported] at rest ⊢
      simp only [pure, Except.pure, Except.ok.injEq] at rest
      subst rest
      exact ⟨List.take_length, rfl, rfl⟩
  · rintro ⟨⟨least, fits⟩, raw, header, transport⟩
    refine ⟨_, IPv4Header.create_eq_ok.mpr ⟨least, fits, rfl⟩, ?_⟩
    obtain ⟨bytes, ipv4Header, transportHeader⟩ := created
    simp only at raw header transport
    subst raw header
    by_cases supported : (Field.header bytes).isSupported = true
    · rw [if_pos supported] at transport ⊢
      obtain ⟨transport, rfl, made⟩ := transport
      simp only [bind_eq_ok, ByteBuffer.setPosition_eq_ok, ByteBuffer.setLimit_eq_ok, pure,
        Except.pure, Except.ok.injEq]
      refine ⟨⟨bytes, Field.headerLength bytes, bytes.length, fits, Nat.le_refl _⟩,
        ⟨fits, rfl, rfl, rfl⟩, transport, ?_,
        ⟨bytes, Field.headerLength bytes, bytes.length, fits, Nat.le_refl _⟩,
        ⟨Nat.le_of_eq total, rfl, total.symm, ?_⟩, ?_⟩
      · rw [ByteBuffer.slice, ByteBuffer.window, List.take_length]
        exact made
      · exact (Nat.min_eq_left (Nat.le_trans fits (Nat.le_of_eq total.symm))).symm
      · rw [List.take_length]
    · rw [if_neg supported] at transport ⊢
      subst transport
      simp [pure, Except.pure, ByteBuffer.wrap]

theorem UDPHeader.exists_create_iff {segment : List UInt8} :
    (∃ header, create (.wrap segment) = .ok header) ↔ UDP_HEADER_LENGTH ≤ segment.length := by
  unfold create
  simp only [bind_eq_ok, ByteBuffer.getShort_eq_ok, ByteBuffer.setLimit_eq_ok, pure, Except.pure,
    Except.ok.injEq]
  constructor
  · rintro ⟨_, _, ⟨fits, _⟩, _⟩
    exact fits
  · intro fits
    exact ⟨_, ⟨segment, 0, UDP_HEADER_LENGTH, Nat.zero_le _, fits⟩,
      ⟨fits, rfl, rfl, (Nat.zero_min _).symm⟩, _, ⟨Nat.le.intro (k := 6) rfl, rfl⟩, _,
      ⟨Nat.le.intro (k := 4) rfl, rfl⟩, rfl⟩

/-- A transport header that is read and does for the packets sent back. -/
theorem exists_transportHeader_iff {segment : List UInt8} {protocol : IPv4Protocol} :
    (∃ header, IPv4Packet.createTransportHeader (.wrap segment) protocol = .ok header ∧
        ∃ response, responseHeader header = .ok response) ↔
      (protocol = .tcp ∧ 20 ≤ (segment.getD 12 0).toNat / 16 * 4 ∧
          (segment.getD 12 0).toNat / 16 * 4 ≤ segment.length) ∨
        protocol = .udp ∧ UDP_HEADER_LENGTH ≤ segment.length := by
  cases protocol with
  | tcp =>
      simp only [IPv4Packet.createTransportHeader, bind_eq_ok, pure, Except.pure, Except.ok.injEq]
      constructor
      · rintro ⟨_, ⟨header, created, rfl⟩, response⟩
        obtain ⟨_, own, fits, _⟩ := TCPHeader.create_eq_ok created
        have enough := (responseHeader_tcp_iff created).mp response
        rw [own] at fits enough
        exact .inl ⟨trivial, enough, fits⟩
      · rintro (⟨_, enough, fits⟩ | ⟨other, _⟩)
        · obtain ⟨header, created⟩ := TCPHeader.exists_create (by omega) fits
          have own := (TCPHeader.create_eq_ok created).2.1
          exact ⟨_, ⟨header, created, rfl⟩, (responseHeader_tcp_iff created).mpr (own ▸ enough)⟩
        · cases other
  | udp =>
      simp only [IPv4Packet.createTransportHeader, bind_eq_ok, pure, Except.pure, Except.ok.injEq]
      constructor
      · rintro ⟨_, ⟨header, created, rfl⟩, _⟩
        exact .inr ⟨trivial, UDPHeader.exists_create_iff.mp ⟨header, created⟩⟩
      · rintro (⟨other, _⟩ | ⟨_, fits⟩)
        · cases other
        · obtain ⟨header, created⟩ := UDPHeader.exists_create_iff.mpr fits
          exact ⟨_, ⟨header, created, rfl⟩, _, rfl⟩
  | other => simp [IPv4Packet.createTransportHeader]

/-- The packets that are read and, if they open a connection, answered. -/
theorem wellHeaded_iff (total : Field.totalLength packet = packet.length) :
    WellHeaded packet ↔ ∃ created, IPv4Packet.create (.wrap packet) = .ok created ∧
      ∀ header, created.transportHeader = some header →
        ∃ response, responseHeader header = .ok response := by
  have behind : (Field.transport packet).length = packet.length - Field.headerLength packet :=
    List.length_drop
  have transports := @exists_transportHeader_iff (Field.transport packet)
    (Field.protocol packet)
  rw [Field.dataOffset_transport] at transports
  constructor
  · intro h
    have header := h.header
    by_cases supported : (Field.header packet).isSupported = true
    · obtain ⟨version, protocol⟩ := Field.isSupported_iff.mp supported
      obtain ⟨transport, made, response⟩ := transports.mpr (by
        cases known : Field.protocol packet with
        | tcp =>
            have := h.tcp version known
            exact .inl ⟨rfl, this.1, by omega⟩
        | udp =>
            have := h.udp version known
            exact .inr ⟨rfl, by omega⟩
        | other => exact absurd known protocol)
      refine ⟨⟨packet, Field.header packet, some transport⟩,
        (IPv4Packet.create_eq_ok total).mpr ⟨⟨h.least, h.header⟩, rfl, rfl, ?_⟩, ?_⟩
      · rw [if_pos supported]
        exact ⟨transport, rfl, made⟩
      · rintro _ ⟨⟩
        exact response
    · refine ⟨⟨packet, Field.header packet, none⟩,
        (IPv4Packet.create_eq_ok total).mpr ⟨⟨h.least, h.header⟩, rfl, rfl, ?_⟩, ?_⟩
      · rw [if_neg supported]
      · rintro _ ⟨⟩
  · rintro ⟨created, read, response⟩
    obtain ⟨⟨least, fits⟩, _, _, transport⟩ := (IPv4Packet.create_eq_ok total).mp read
    have headed (version : Field.version packet = 4) (protocol : Field.protocol packet ≠ .other) :=
      transports.mp (by
        rw [if_pos (Field.isSupported_iff.mpr ⟨version, protocol⟩)] at transport
        obtain ⟨header, own, made⟩ := transport
        exact ⟨header, made, response header own⟩)
    refine ⟨least, fits, ?_, ?_⟩
    · intro version protocol
      obtain ⟨_, enough, within⟩ | ⟨other, _⟩ := headed version (by simp [protocol])
      · exact ⟨enough, by omega⟩
      · simp [protocol] at other
    · intro version protocol
      obtain ⟨other, _⟩ | ⟨_, within⟩ := headed version (by simp [protocol])
      · simp [protocol] at other
      · omega

end
end QuestVdWired.Relay
