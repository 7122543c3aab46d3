import QuestVdWired.Wire.Codec

/-!
The Android peer's GNR4 codec, from `Gnr4.kt`: frames are written through a
`DataOutputStream` and read back field by field through a `DataInputStream`, so a field
is checked before the next one is read. Java's `Int` and `Long` are signed.
-/

namespace QuestVdWired.Android
open Wire

inductive Gnr4MessageType
  | hello | helloAck | started | heartbeat | stop | stopped | status | error
  | suspend | suspended | metrics
  deriving DecidableEq, Repr

/-- What the codec throws: `EOFException`, `IOException` and, from `require`,
`IllegalArgumentException`. -/
inductive Gnr4Exception
  | eof
  | io (message : String)
  | illegalArgument (message : String)
  deriving DecidableEq, Repr

namespace Gnr4MessageType

def wireValue : Gnr4MessageType → Nat
  | hello => 1
  | helloAck => 2
  | started => 3
  | heartbeat => 4
  | stop => 5
  | stopped => 6
  | status => 7
  | error => 8
  | suspend => 9
  | suspended => 10
  | metrics => 11

def entries : List Gnr4MessageType :=
  [hello, helloAck, started, heartbeat, stop, stopped, status, error, suspend, suspended, metrics]

def fromWire (value : Nat) : Except Gnr4Exception Gnr4MessageType :=
  match entries.find? (·.wireValue = value) with
  | some type => .ok type
  | none => .error (.io ("Unknown GNR4 message type: " ++ toString value))

theorem wireValue_lt (type : Gnr4MessageType) : type.wireValue < 256 ^ 2 := by
  cases type <;> decide

theorem fromWire_wireValue (type : Gnr4MessageType) : fromWire type.wireValue = .ok type := by
  cases type <;> rfl

theorem fromWire_eq_ok {value : Nat} {type : Gnr4MessageType} (h : fromWire value = .ok type) :
    value = type.wireValue := by
  unfold fromWire at h
  split at h
  · rename_i found first
    cases h
    have matching := List.find?_some first
    exact (of_decide_eq_true matching).symm
  · cases h

end Gnr4MessageType

/-- `java.util.UUID`. -/
structure UUID where
  mostSignificantBits : Int64
  leastSignificantBits : Int64
  deriving DecidableEq, Repr

structure Gnr4Frame where
  type : Gnr4MessageType
  sessionId : UUID
  payload : List UInt8
  deriving DecidableEq, Repr

structure Gnr4Metrics where
  txPackets : Int64
  txBytes : Int64
  rxPackets : Int64
  rxBytes : Int64
  controlRttSamples : Int64
  controlRttP99Micros : Int64
  controlRttMaxMicros : Int64
  deriving DecidableEq, Repr

/-- `DataOutputStream.writeLong` and `ByteBuffer.putLong` in big-endian order. -/
def writeLong (value : Int64) : List UInt8 :=
  toBigEndian 8 value.toUInt64.toNat

def readFully (n : Nat) (input : List UInt8) :
    Except Gnr4Exception (List UInt8 × List UInt8) :=
  match readExact n input with
  | none => .error .eof
  | some result => .ok result

/-- The signed value of four big-endian bytes. -/
def int (bytes : List UInt8) : Int32 :=
  (UInt32.ofNat (bigEndian bytes)).toInt32

/-- The signed value of eight big-endian bytes. -/
def long (bytes : List UInt8) : Int64 :=
  (UInt64.ofNat (bigEndian bytes)).toInt64

/-- A fixed-width field of a `DataInputStream`. -/
def readField {α : Type} (width : Nat) (value : List UInt8 → α) (input : List UInt8) :
    Except Gnr4Exception (α × List UInt8) := do
  let (bytes, rest) ← readFully width input
  .ok (value bytes, rest)

def readUnsignedShort : List UInt8 → Except Gnr4Exception (Nat × List UInt8) :=
  readField 2 bigEndian

def readInt : List UInt8 → Except Gnr4Exception (Int32 × List UInt8) :=
  readField 4 int

def readLong : List UInt8 → Except Gnr4Exception (Int64 × List UInt8) :=
  readField 8 long

namespace Gnr4

def VERSION : Nat := 4
def MAX_PAYLOAD : Nat := 65536
def METRICS_PAYLOAD_SIZE : Nat := 60
def METRICS_VERSION : Nat := 1
def METRICS_FLAGS : Nat := 0
def MAGIC : List UInt8 := [0x47, 0x4E, 0x52, 0x34]

def write (frame : Gnr4Frame) : Except Gnr4Exception (List UInt8) :=
  if frame.payload.length ≤ MAX_PAYLOAD then
    .ok (MAGIC ++ toBigEndian 2 VERSION ++ toBigEndian 2 frame.type.wireValue ++
      toBigEndian 4 frame.payload.length ++ writeLong frame.sessionId.mostSignificantBits ++
      writeLong frame.sessionId.leastSignificantBits ++ frame.payload)
  else
    .error (.illegalArgument ("GNR4 payload exceeds " ++ toString MAX_PAYLOAD ++ " bytes"))

def read (expectedSession : Option UUID) (input : List UInt8) :
    Except Gnr4Exception (Gnr4Frame × List UInt8) := do
  let (magic, input) ← readFully MAGIC.length input
  if magic ≠ MAGIC then .error (.io "Invalid GNR4 magic")
  else
    let (version, input) ← readUnsignedShort input
    if version ≠ VERSION then
      .error (.io ("Unsupported GNR4 version: " ++ toString version))
    else
      let (value, input) ← readUnsignedShort input
      let type ← Gnr4MessageType.fromWire value
      let (length, input) ← readInt input
      if ¬ (0 ≤ length.toInt ∧ length.toInt ≤ MAX_PAYLOAD) then
        .error (.io ("Invalid GNR4 payload length: " ++ toString length.toInt))
      else
        let (mostSignificantBits, input) ← readLong input
        let (leastSignificantBits, input) ← readLong input
        let session : UUID := ⟨mostSignificantBits, leastSignificantBits⟩
        if expectedSession ≠ none ∧ expectedSession ≠ some session then
          .error (.io "Stale GNR4 session")
        else
          let (payload, input) ← readFully length.toInt.toNat input
          .ok (⟨type, session, payload⟩, input)

def metricsPayload (metrics : Gnr4Metrics) : Except Gnr4Exception (List UInt8) :=
  if 0 ≤ metrics.txPackets ∧ 0 ≤ metrics.txBytes ∧ 0 ≤ metrics.rxPackets ∧
      0 ≤ metrics.rxBytes ∧ 0 ≤ metrics.controlRttSamples ∧
      0 ≤ metrics.controlRttP99Micros ∧ 0 ≤ metrics.controlRttMaxMicros then
    .ok (toBigEndian 2 METRICS_VERSION ++ toBigEndian 2 METRICS_FLAGS ++
      writeLong metrics.txPackets ++ writeLong metrics.txBytes ++
      writeLong metrics.rxPackets ++ writeLong metrics.rxBytes ++
      writeLong metrics.controlRttSamples ++ writeLong metrics.controlRttP99Micros ++
      writeLong metrics.controlRttMaxMicros)
  else
    .error (.illegalArgument "GNR4 metrics must not be negative")

end Gnr4

theorem readFully_eq_ok {n : Nat} {input bytes rest : List UInt8} :
    readFully n input = .ok (bytes, rest) ↔ input = bytes ++ rest ∧ bytes.length = n := by
  unfold readFully
  constructor
  · intro h
    split at h
    · cases h
    · rename_i result taken
      cases h
      exact readExact_eq_some taken
  · rintro ⟨rfl, wide⟩
    rw [readExact_append_of_length wide]

@[simp] theorem writeLong_length (value : Int64) : (writeLong value).length = 8 :=
  toBigEndian_length 8 _

/-- The buffer that `metricsPayload` allocates is filled exactly. -/
theorem metricsPayload_length {metrics : Gnr4Metrics} {payload : List UInt8}
    (written : Gnr4.metricsPayload metrics = .ok payload) :
    payload.length = Gnr4.METRICS_PAYLOAD_SIZE := by
  unfold Gnr4.metricsPayload at written
  split at written
  · cases written
    simp [Gnr4.METRICS_PAYLOAD_SIZE]
  · cases written

@[simp] theorem long_writeLong (value : Int64) : long (writeLong value) = value := by
  rw [long, writeLong, bigEndian_toBigEndian_of_lt (UInt64.toNat_lt _), UInt64.ofNat_toNat]
  rfl

theorem writeLong_long {bytes : List UInt8} (wide : bytes.length = 8) :
    writeLong (long bytes) = bytes := by
  have fits : bigEndian bytes < 2 ^ 64 := by
    have bound := bigEndian_lt bytes
    rw [wide] at bound
    exact bound
  have same : (long bytes).toUInt64.toNat = bigEndian bytes := by
    rw [long]
    exact UInt64.toNat_ofNat_of_lt' fits
  rw [writeLong, same, ← wide, toBigEndian_bigEndian]

theorem int_toInt {bytes : List UInt8} (wide : bytes.length = 4) :
    (int bytes).toInt =
      if 2 * bigEndian bytes < 2 ^ 32 then (bigEndian bytes : Int)
      else (bigEndian bytes : Int) - (2 ^ 32 : Nat) := by
  have fits : bigEndian bytes < 2 ^ 32 := by
    have bound := bigEndian_lt bytes
    rw [wide] at bound
    exact bound
  have same : (int bytes).toInt = (BitVec.ofNat 32 (bigEndian bytes)).toInt := rfl
  rw [same, BitVec.toInt_eq_toNat_cond, BitVec.toNat_ofNat, Nat.mod_eq_of_lt fits]

/-- A signed length in range is the unsigned one, and every unsigned length above the
bound is out of range, as a negative number or as a large one. -/
theorem int_in_range {bytes : List UInt8} (wide : bytes.length = 4) {bound : Nat}
    (small : bound < 2 ^ 31) :
    (0 ≤ (int bytes).toInt ∧ (int bytes).toInt ≤ bound) ↔
      bigEndian bytes ≤ bound ∧ (int bytes).toInt.toNat = bigEndian bytes := by
  have fits : bigEndian bytes < 2 ^ 32 := by
    have bound := bigEndian_lt bytes
    rw [wide] at bound
    exact bound
  rw [int_toInt wide]
  split <;> omega

theorem readField_eq_ok {α : Type} {width : Nat} {value : List UInt8 → α}
    {input rest : List UInt8} {a : α} :
    readField width value input = .ok (a, rest) ↔
      ∃ bytes, (input = bytes ++ rest ∧ bytes.length = width) ∧ value bytes = a := by
  constructor
  · intro h
    obtain ⟨⟨bytes, left⟩, taken, h⟩ := bind_eq_ok.mp h
    cases h
    exact ⟨bytes, readFully_eq_ok.mp taken, rfl⟩
  · rintro ⟨bytes, taken, rfl⟩
    exact bind_eq_ok.mpr ⟨(bytes, rest), readFully_eq_ok.mpr taken, rfl⟩

theorem readLong_eq_ok {input rest : List UInt8} {value : Int64} :
    readLong input = .ok (value, rest) ↔ input = writeLong value ++ rest := by
  constructor
  · intro h
    obtain ⟨bytes, ⟨split, wide⟩, rfl⟩ := readField_eq_ok.mp h
    rw [split, writeLong_long wide]
  · intro h
    exact readField_eq_ok.mpr ⟨writeLong value, ⟨h, writeLong_length value⟩, long_writeLong value⟩

namespace Gnr4

theorem write_eq_ok {frame : Gnr4Frame} {bytes : List UInt8} :
    write frame = .ok bytes ↔ frame.payload.length ≤ MAX_PAYLOAD ∧
      bytes = MAGIC ++ (toBigEndian 2 VERSION ++ (toBigEndian 2 frame.type.wireValue ++
        (toBigEndian 4 frame.payload.length ++ (writeLong frame.sessionId.mostSignificantBits ++
        (writeLong frame.sessionId.leastSignificantBits ++ frame.payload))))) := by
  unfold write
  split
  · rename_i small
    simp only [List.append_assoc, Except.ok.injEq]
    constructor
    · intro h
      exact ⟨small, h.symm⟩
    · intro h
      exact h.2.symm
  · rename_i large
    constructor
    · intro h
      cases h
    · intro h
      exact absurd h.1 large

/-- Everything an accepted stream has been checked for, field by field. -/
theorem read_inv {input rest : List UInt8} {frame : Gnr4Frame}
    (h : read none input = .ok (frame, rest)) :
    ∃ version value length, (input = MAGIC ++ (version ++ (value ++ (length ++
        (writeLong frame.sessionId.mostSignificantBits ++
        (writeLong frame.sessionId.leastSignificantBits ++ (frame.payload ++ rest))))))) ∧
      (version.length = 2 ∧ bigEndian version = VERSION) ∧
      (value.length = 2 ∧ bigEndian value = frame.type.wireValue) ∧
      (length.length = 4 ∧ bigEndian length = frame.payload.length) ∧
      frame.payload.length ≤ MAX_PAYLOAD := by
  obtain ⟨⟨magic, left⟩, magicRead, h⟩ := bind_eq_ok.mp h
  dsimp only at h
  split at h
  · cases h
  · rename_i right
    obtain ⟨⟨_, left⟩, versionRead, h⟩ := bind_eq_ok.mp h
    dsimp only at h
    split at h
    · cases h
    · rename_i supported
      obtain ⟨⟨_, left⟩, valueRead, h⟩ := bind_eq_ok.mp h
      obtain ⟨type, known, h⟩ := bind_eq_ok.mp h
      obtain ⟨⟨_, left⟩, lengthRead, h⟩ := bind_eq_ok.mp h
      dsimp only at h
      split at h
      · cases h
      · rename_i inRange
        obtain ⟨⟨high, afterHigh⟩, highRead, h⟩ := bind_eq_ok.mp h
        obtain ⟨⟨low, afterLow⟩, lowRead, h⟩ := bind_eq_ok.mp h
        dsimp only at h
        split at h
        · cases h
        · obtain ⟨⟨payload, left⟩, payloadRead, h⟩ := bind_eq_ok.mp h
          cases h
          obtain ⟨version, ⟨rfl, wideVersion⟩, rfl⟩ := readField_eq_ok.mp versionRead
          obtain ⟨value, ⟨rfl, wideValue⟩, rfl⟩ := readField_eq_ok.mp valueRead
          obtain ⟨length, ⟨rfl, wideLength⟩, rfl⟩ := readField_eq_ok.mp lengthRead
          obtain ⟨small, unsigned⟩ := (int_in_range wideLength (by decide)).mp (not_not.mp inRange)
          have highBytes : _ = writeLong high ++ afterHigh := readLong_eq_ok.mp highRead
          have lowBytes : afterHigh = writeLong low ++ afterLow := readLong_eq_ok.mp lowRead
          obtain ⟨payloadBytes, size⟩ : afterLow = payload ++ left ∧ _ :=
            readFully_eq_ok.mp payloadRead
          have len : bigEndian length = payload.length := by rw [size, unsigned]
          refine ⟨version, value, length, ?_, ⟨wideVersion, not_not.mp supported⟩,
            ⟨wideValue, Gnr4MessageType.fromWire_eq_ok known⟩, ⟨wideLength, len⟩, len ▸ small⟩
          rw [(readFully_eq_ok.mp magicRead).1, not_not.mp right, highBytes, lowBytes, payloadBytes]

theorem read_write {frame : Gnr4Frame} {bytes : List UInt8} (written : write frame = .ok bytes)
    (rest : List UInt8) : read none (bytes ++ rest) = .ok (frame, rest) := by
  obtain ⟨small, rfl⟩ := write_eq_ok.mp written
  have fits : frame.payload.length < 256 ^ 4 := Nat.lt_of_le_of_lt small (by decide)
  have wide := toBigEndian_length 4 frame.payload.length
  have unsigned : (int (toBigEndian 4 frame.payload.length)).toInt = frame.payload.length := by
    rw [int_toInt wide, bigEndian_toBigEndian_of_lt fits, if_pos]
    have : MAX_PAYLOAD = 65536 := rfl
    omega
  simp only [List.append_assoc]
  refine bind_eq_ok.mpr ⟨(MAGIC, _), readFully_eq_ok.mpr ⟨rfl, rfl⟩, ?_⟩
  dsimp only
  rw [if_neg (not_not.mpr rfl)]
  refine bind_eq_ok.mpr ⟨(VERSION, _), readField_eq_ok.mpr ⟨_, ⟨rfl, rfl⟩, by decide⟩, ?_⟩
  dsimp only
  rw [if_neg (not_not.mpr rfl)]
  refine bind_eq_ok.mpr ⟨(frame.type.wireValue, _), readField_eq_ok.mpr ⟨_, ⟨rfl, rfl⟩,
    bigEndian_toBigEndian_of_lt frame.type.wireValue_lt⟩, ?_⟩
  refine bind_eq_ok.mpr ⟨frame.type, frame.type.fromWire_wireValue, ?_⟩
  refine bind_eq_ok.mpr ⟨(int (toBigEndian 4 frame.payload.length), _),
    readField_eq_ok.mpr ⟨_, ⟨rfl, wide⟩, rfl⟩, ?_⟩
  dsimp only
  rw [unsigned, if_neg (not_not.mpr ⟨Int.natCast_nonneg _, Int.ofNat_le.mpr small⟩)]
  refine bind_eq_ok.mpr ⟨(_, _), readLong_eq_ok.mpr rfl, ?_⟩
  refine bind_eq_ok.mpr ⟨(_, _), readLong_eq_ok.mpr rfl, ?_⟩
  dsimp only
  rw [if_neg (by simp)]
  exact bind_eq_ok.mpr ⟨(frame.payload, rest), readFully_eq_ok.mpr ⟨rfl, by simp⟩, rfl⟩

/-- Without an expected session the reader takes exactly one written frame. -/
theorem read_reads : Reads write (read none) := by
  intro input frame rest
  constructor
  · intro h
    obtain ⟨version, value, length, split, ⟨wideVersion, versionIs⟩, ⟨wideValue, valueIs⟩,
      ⟨wideLength, lengthIs⟩, small⟩ := read_inv h
    have fits : frame.payload.length < 256 ^ 4 := Nat.lt_of_le_of_lt small (by decide)
    have versionBytes := (bigEndian_eq_iff wideVersion (by decide)).mp versionIs
    have valueBytes := (bigEndian_eq_iff wideValue frame.type.wireValue_lt).mp valueIs
    have lengthBytes := (bigEndian_eq_iff wideLength fits).mp lengthIs
    refine ⟨_, write_eq_ok.mpr ⟨small, rfl⟩, ?_⟩
    rw [split, versionBytes, valueBytes, lengthBytes]
    simp only [List.append_assoc]
  · rintro ⟨bytes, written, rfl⟩
    exact read_write written rest

/-- With an expected session the reader takes the frames of that session only. -/
theorem read_session {session : UUID} {input rest : List UInt8} {frame : Gnr4Frame} :
    read (some session) input = .ok (frame, rest) ↔
      read none input = .ok (frame, rest) ∧ frame.sessionId = session := by
  simp only [read, bind_eq_ok, ite_error_eq_ok, Prod.exists]
  constructor
  · rintro ⟨magic, l1, r1, h1, version, l2, r2, h2, value, l3, r3, type, r4, length, l5, r5, h5,
      high, l6, r6, low, l7, r7, same, payload, l8, r8, h8⟩
    cases h8
    refine ⟨⟨magic, l1, r1, h1, version, l2, r2, h2, value, l3, r3, type, r4, length, l5, r5, h5,
      high, l6, r6, low, l7, r7, by simp, payload, _, r8, rfl⟩, ?_⟩
    simpa [eq_comm] using same
  · rintro ⟨⟨magic, l1, r1, h1, version, l2, r2, h2, value, l3, r3, type, r4, length, l5, r5, h5,
      high, l6, r6, low, l7, r7, _, payload, l8, r8, h8⟩, same⟩
    cases h8
    subst same
    exact ⟨magic, l1, r1, h1, version, l2, r2, h2, value, l3, r3, type, r4, length, l5, r5, h5,
      high, l6, r6, low, l7, r7, by simp, payload, _, r8, rfl⟩

end Gnr4
end QuestVdWired.Android
