import QuestVdWired.Host.Protocol
import QuestVdWired.Wire.Codec

/-!
The host's GNR4 codec: `Frame::encode`, the slice parser `Frame::decode` and the stream
reader `Frame::read_from`, with the checks in the order the source makes them. The
parser accepts exactly the encodings, and the reader exactly an encoding followed by
anything.
-/

namespace QuestVdWired.Host
open Wire

/-- `*b"GNR4"`. -/
def MAGIC : List UInt8 := [0x47, 0x4E, 0x52, 0x34]
def VERSION : Nat := 4
def HEADER_LEN : Nat := 28
def MAX_PAYLOAD_LEN : Nat := 64 * 1024

/-- The `#[repr(u16)]` discriminant. -/
def MessageType.wireValue : MessageType → Nat
  | .hello => 1
  | .helloAck => 2
  | .started => 3
  | .heartbeat => 4
  | .stop => 5
  | .stopped => 6
  | .status => 7
  | .error => 8
  | .suspend => 9
  | .suspended => 10
  | .metrics => 11

def MessageType.tryFrom : Nat → Except ProtocolError MessageType
  | 1 => .ok .hello
  | 2 => .ok .helloAck
  | 3 => .ok .started
  | 4 => .ok .heartbeat
  | 5 => .ok .stop
  | 6 => .ok .stopped
  | 7 => .ok .status
  | 8 => .ok .error
  | 9 => .ok .suspend
  | 10 => .ok .suspended
  | 11 => .ok .metrics
  | other => .error (.unknownMessageType other)

theorem MessageType.wireValue_lt (type : MessageType) : type.wireValue < 256 ^ 2 := by
  cases type <;> decide

theorem MessageType.tryFrom_wireValue (type : MessageType) : tryFrom type.wireValue = .ok type := by
  cases type <;> rfl

theorem MessageType.tryFrom_eq_ok {value : Nat} {type : MessageType}
    (h : tryFrom value = .ok type) : value = type.wireValue := by
  unfold tryFrom at h
  split at h <;> cases h <;> rfl

/-- `copy_from_slice` of the session field. -/
def SessionId.copyFrom (bytes : List UInt8) : SessionId :=
  ⟨Wire.copyFrom 16 bytes⟩

namespace Frame

def encode (frame : Frame) : Except ProtocolError (List UInt8) :=
  if frame.payload.length > MAX_PAYLOAD_LEN then
    .error (.payloadTooLarge frame.payload.length)
  else
    .ok (MAGIC ++ toBigEndian 2 VERSION ++ toBigEndian 2 frame.messageType.wireValue ++
      toBigEndian 4 frame.payload.length ++ frame.sessionId.bytes.toList ++ frame.payload)

def decode (input : List UInt8) : Except ProtocolError Frame :=
  if input.length < HEADER_LEN then .error (.truncatedHeader input.length)
  else if input.take 4 ≠ MAGIC then .error .badMagic
  else
    let version := bigEndian ((input.drop 4).take 2)
    if version ≠ VERSION then .error (.unsupportedVersion version)
    else
      match MessageType.tryFrom (bigEndian ((input.drop 6).take 2)) with
      | .error e => .error e
      | .ok messageType =>
          let payloadLen := bigEndian ((input.drop 8).take 4)
          if payloadLen > MAX_PAYLOAD_LEN then .error (.payloadTooLarge payloadLen)
          else
            let expected := HEADER_LEN + payloadLen
            if input.length < expected then
              .error (.truncatedPayload payloadLen (input.length - HEADER_LEN))
            else if input.length ≠ expected then
              .error (.trailingBytes (input.length - expected))
            else
              .ok {
                messageType := messageType
                sessionId := .copyFrom ((input.drop 12).take 16)
                payload := (input.drop HEADER_LEN).take payloadLen }

/-- The frame read and what is left of the stream. The stream ends after its last byte,
and `read_exact` then fails with `UnexpectedEof`. -/
def readFrom (input : List UInt8) : Except ProtocolError (Frame × List UInt8) :=
  match readExact HEADER_LEN input with
  | none => .error (.io .unexpectedEof)
  | some (header, rest) =>
      if header.take 4 ≠ MAGIC then .error .badMagic
      else
        let version := bigEndian ((header.drop 4).take 2)
        if version ≠ VERSION then .error (.unsupportedVersion version)
        else
          let payloadLen := bigEndian ((header.drop 8).take 4)
          if payloadLen > MAX_PAYLOAD_LEN then .error (.payloadTooLarge payloadLen)
          else
            match readExact payloadLen rest with
            | none => .error (.io .unexpectedEof)
            | some (payload, rest) =>
                match decode (header ++ payload) with
                | .error e => .error e
                | .ok frame => .ok (frame, rest)

/-- The twenty-eight bytes before the payload. -/
def header (frame : Frame) : List UInt8 :=
  MAGIC ++ toBigEndian 2 VERSION ++ toBigEndian 2 frame.messageType.wireValue ++
    toBigEndian 4 frame.payload.length ++ frame.sessionId.bytes.toList

@[simp] theorem header_length (frame : Frame) : frame.header.length = HEADER_LEN := by
  simp [header, MAGIC, HEADER_LEN]

theorem encode_eq_ok {frame : Frame} {bytes : List UInt8} :
    frame.encode = .ok bytes ↔
      frame.payload.length ≤ MAX_PAYLOAD_LEN ∧ bytes = frame.header ++ frame.payload := by
  unfold encode
  split
  · rename_i large
    constructor
    · intro h
      cases h
    · intro h
      omega
  · rename_i small
    constructor
    · intro h
      cases h
      exact ⟨by omega, rfl⟩
    · intro h
      rw [h.2]
      rfl

section Layout
variable (frame : Frame) (after : List UInt8)

theorem header_magic : (frame.header ++ after).take 4 = MAGIC := by
  simp [header, MAGIC]

theorem header_version : bigEndian (((frame.header ++ after).drop 4).take 2) = VERSION := by
  simp only [header, List.append_assoc]
  rw [take_drop_append _ _ _ (by decide) (by simp)]
  decide

theorem header_messageType :
    bigEndian (((frame.header ++ after).drop 6).take 2) = frame.messageType.wireValue := by
  have field := take_drop_append (MAGIC ++ toBigEndian 2 VERSION)
    (toBigEndian 2 frame.messageType.wireValue)
    (toBigEndian 4 frame.payload.length ++ (frame.sessionId.bytes.toList ++ after))
    (by decide : _ = 6) (toBigEndian_length 2 _)
  simp only [header, List.append_assoc] at field ⊢
  rw [field, bigEndian_toBigEndian_of_lt frame.messageType.wireValue_lt]

theorem header_payloadLen (small : frame.payload.length ≤ MAX_PAYLOAD_LEN) :
    bigEndian (((frame.header ++ after).drop 8).take 4) = frame.payload.length := by
  have field := take_drop_append
    (MAGIC ++ toBigEndian 2 VERSION ++ toBigEndian 2 frame.messageType.wireValue)
    (toBigEndian 4 frame.payload.length) (frame.sessionId.bytes.toList ++ after)
    (by simp [MAGIC] : _ = 8) (toBigEndian_length 4 _)
  have fits : frame.payload.length < 256 ^ 4 := Nat.lt_of_le_of_lt small (by decide)
  simp only [header, List.append_assoc] at field ⊢
  rw [field, bigEndian_toBigEndian_of_lt fits]

theorem header_sessionId :
    ((frame.header ++ after).drop 12).take 16 = frame.sessionId.bytes.toList := by
  have field := take_drop_append
    (MAGIC ++ toBigEndian 2 VERSION ++ toBigEndian 2 frame.messageType.wireValue ++
      toBigEndian 4 frame.payload.length)
    frame.sessionId.bytes.toList after
    (by simp [MAGIC] : _ = 12) (by simp : _ = 16)
  simp only [header, List.append_assoc] at field ⊢
  exact field

end Layout

theorem decode_header {frame : Frame} (small : frame.payload.length ≤ MAX_PAYLOAD_LEN) :
    decode (frame.header ++ frame.payload) = .ok frame := by
  have len : (frame.header ++ frame.payload).length = HEADER_LEN + frame.payload.length := by
    rw [List.length_append, header_length]
  have payload : (frame.header ++ frame.payload).drop HEADER_LEN = frame.payload := by
    rw [← header_length frame, List.drop_left]
  have type := MessageType.tryFrom_wireValue frame.messageType
  simp [decode, len, payload, header_magic, header_version, header_messageType, type,
    header_payloadLen frame _ small, header_sessionId, SessionId.copyFrom,
    Nat.not_lt.mpr small]

/-- The fields of a header, one after the other. -/
theorem fields_append (input : List UInt8) :
    input = input.take 4 ++ (input.drop 4).take 2 ++ (input.drop 6).take 2 ++
      (input.drop 8).take 4 ++ (input.drop 12).take 16 ++ input.drop HEADER_LEN := by
  have session := drop_eq_append input 12 16
  have payloadLen := drop_eq_append input 8 4
  have messageType := drop_eq_append input 6 2
  have version := drop_eq_append input 4 2
  have magic := (List.take_append_drop 4 input).symm
  simp only [Nat.reduceAdd] at session payloadLen messageType version
  rw [HEADER_LEN]
  simp only [List.append_assoc]
  rw [← session, ← payloadLen, ← messageType, ← version, ← magic]

/-- Everything an accepted input has been checked for. -/
theorem decode_inv {input : List UInt8} {frame : Frame} (h : decode input = .ok frame) :
    input.take 4 = MAGIC ∧ bigEndian ((input.drop 4).take 2) = VERSION ∧
      MessageType.tryFrom (bigEndian ((input.drop 6).take 2)) = .ok frame.messageType ∧
      bigEndian ((input.drop 8).take 4) ≤ MAX_PAYLOAD_LEN ∧
      input.length = HEADER_LEN + bigEndian ((input.drop 8).take 4) ∧
      frame.sessionId = .copyFrom ((input.drop 12).take 16) ∧
      frame.payload = input.drop HEADER_LEN := by
  simp only [decode] at h
  split at h
  · cases h
  · split at h
    · cases h
    · rename_i magic
      split at h
      · cases h
      · rename_i version
        split at h
        · cases h
        · rename_i messageType type
          split at h
          · cases h
          · rename_i small
            split at h
            · cases h
            · split at h
              · cases h
              · rename_i whole
                cases h
                refine ⟨not_not.mp magic, not_not.mp version, type, Nat.not_lt.mp small,
                  not_not.mp whole, rfl, ?_⟩
                apply List.take_of_length_le
                rw [List.length_drop]
                omega

theorem decode_eq_ok {input : List UInt8} {frame : Frame} :
    decode input = .ok frame ↔ frame.encode = .ok input := by
  constructor
  · intro h
    obtain ⟨magic, version, type, small, whole, session, payload⟩ := decode_inv h
    have len : frame.payload.length = bigEndian ((input.drop 8).take 4) := by
      rw [payload, List.length_drop]
      omega
    have versionBytes : (input.drop 4).take 2 = toBigEndian 2 VERSION := by
      apply (bigEndian_eq_iff ?_ (by decide)).mp version
      simp [HEADER_LEN] at whole ⊢
      omega
    have typeBytes : (input.drop 6).take 2 = toBigEndian 2 frame.messageType.wireValue := by
      apply (bigEndian_eq_iff ?_ frame.messageType.wireValue_lt).mp (MessageType.tryFrom_eq_ok type)
      simp [HEADER_LEN] at whole ⊢
      omega
    have lenBytes : (input.drop 8).take 4 = toBigEndian 4 frame.payload.length := by
      have fits : frame.payload.length < 256 ^ 4 := by
        rw [len]
        exact Nat.lt_of_le_of_lt small (by decide)
      apply (bigEndian_eq_iff ?_ fits).mp len.symm
      simp [HEADER_LEN] at whole ⊢
      omega
    have sessionBytes : (input.drop 12).take 16 = frame.sessionId.bytes.toList := by
      rw [session, SessionId.copyFrom, toList_copyFrom]
      simp [HEADER_LEN] at whole ⊢
      omega
    refine encode_eq_ok.mpr ⟨len ▸ small, ?_⟩
    rw [header, ← magic, ← versionBytes, ← typeBytes, ← lenBytes, ← sessionBytes, payload]
    exact fields_append input
  · intro h
    obtain ⟨small, rfl⟩ := encode_eq_ok.mp h
    exact decode_header small

theorem readFrom_encode {frame : Frame} (small : frame.payload.length ≤ MAX_PAYLOAD_LEN)
    (rest : List UInt8) :
    readFrom (frame.header ++ (frame.payload ++ rest)) = .ok (frame, rest) := by
  have bare := header_payloadLen frame [] small
  have version := header_version frame []
  have magic := header_magic frame []
  rw [List.append_nil] at bare version magic
  simp only [readFrom, readExact_append_of_length (header_length frame), magic, version, bare,
    readExact_append, decode_header small]
  simp [Nat.not_lt.mpr small]

/-- The stream reader takes exactly one encoding from the front of the stream. -/
theorem readFrom_reads : Reads encode readFrom := by
  intro input frame rest
  constructor
  · intro h
    simp only [readFrom] at h
    split at h
    · cases h
    · rename_i header behind headerRead
      split at h
      · cases h
      · split at h
        · cases h
        · split at h
          · cases h
          · split at h
            · cases h
            · rename_i payload left payloadRead
              split at h
              · cases h
              · rename_i decoded accepted
                cases h
                refine ⟨header ++ payload, decode_eq_ok.mp accepted, ?_⟩
                rw [(readExact_eq_some headerRead).1, (readExact_eq_some payloadRead).1,
                  List.append_assoc]
  · rintro ⟨bytes, encoded, rfl⟩
    obtain ⟨small, rfl⟩ := encode_eq_ok.mp encoded
    rw [List.append_assoc]
    exact readFrom_encode small rest

end Frame
end QuestVdWired.Host
