import QuestVdWired.Wire.Bytes

/-!
The part of the GNR4 wire vocabulary that the control server acts on: session
identifiers, message types, frames as they leave the decoder, and the metrics
payload. The frame codec itself is in `FrameCodec`.
-/

namespace QuestVdWired.Host
open Wire

structure SessionId where
  bytes : Vector UInt8 16
  deriving DecidableEq, Repr

def hexDigit (n : Nat) : Char :=
  if n < 10 then Char.ofNat (48 + n) else Char.ofNat (87 + n)

def hexByte (b : UInt8) : String :=
  String.ofList [hexDigit (b.toNat / 16), hexDigit (b.toNat % 16)]

/-- `u8::is_ascii_hexdigit` -/
def isAsciiHexdigit (byte : UInt8) : Bool :=
  (48 ≤ byte && byte ≤ 57) || (65 ≤ byte && byte ≤ 70) || (97 ≤ byte && byte ≤ 102)

/-- `fmt::Display`: lower-case hex with hyphens before bytes 4, 6, 8 and 10. -/
def SessionId.display (session : SessionId) : String :=
  String.join (session.bytes.toList.zipIdx.map fun (byte, index) =>
    (if index ∈ [4, 6, 8, 10] then "-" else "") ++ hexByte byte)

inductive MessageType
  | hello | helloAck | started | heartbeat | stop | stopped | status | error
  | suspend | suspended | metrics
  deriving DecidableEq, Repr

def STARTED_WAKE_PAYLOAD : List UInt8 := [1]
def METRICS_V1_PAYLOAD_LEN : Nat := 60

structure AndroidMetricsV1 where
  txPackets : UInt64
  txBytes : UInt64
  rxPackets : UInt64
  rxBytes : UInt64
  controlRttSamples : UInt64
  controlRttP99Us : UInt64
  controlRttMaxUs : UInt64
  deriving DecidableEq, Repr

inductive MetricsError
  | invalidLength (length : Nat)
  | unsupportedVersion (version : Nat)
  | unsupportedFlags (flags : Nat)
  deriving DecidableEq, Repr

namespace AndroidMetricsV1

def VERSION : Nat := 1
def FLAGS : Nat := 0

def decode (payload : List UInt8) : Except MetricsError AndroidMetricsV1 :=
  if payload.length ≠ METRICS_V1_PAYLOAD_LEN then
    .error (.invalidLength payload.length)
  else
    let version := bigEndian (payload.take 2)
    let flags := bigEndian ((payload.drop 2).take 2)
    if version ≠ VERSION then .error (.unsupportedVersion version)
    else if flags ≠ FLAGS then .error (.unsupportedFlags flags)
    else
      let value (index : Nat) : UInt64 :=
        .ofNat (bigEndian ((payload.drop (4 + index * 8)).take 8))
      .ok {
        txPackets := value 0
        txBytes := value 1
        rxPackets := value 2
        rxBytes := value 3
        controlRttSamples := value 4
        controlRttP99Us := value 5
        controlRttMaxUs := value 6 }

end AndroidMetricsV1

structure Frame where
  messageType : MessageType
  sessionId : SessionId
  payload : List UInt8
  deriving DecidableEq, Repr

/-- `io::ErrorKind`, as far as the control server tells the kinds apart. -/
inductive IoErrorKind
  | unexpectedEof | connectionReset | other
  deriving DecidableEq, Repr

inductive ProtocolError
  | badMagic
  | invalidSessionId
  | payloadTooLarge (length : Nat)
  | truncatedHeader (length : Nat)
  | truncatedPayload (expected actual : Nat)
  | trailingBytes (length : Nat)
  | unknownMessageType (value : Nat)
  | unsupportedVersion (version : Nat)
  | io (kind : IoErrorKind)
  deriving DecidableEq, Repr

end QuestVdWired.Host
