import QuestVdWired.Android.Gnr4
import QuestVdWired.Host.FrameCodec

/-!
The two ends of the control connection speak one language. Each codec's reader accepts
exactly what its own encoder writes, and the encoders write the same bytes for
corresponding frames, so the readers agree on every stream, whatever their own order of
checks.
-/

namespace QuestVdWired.Link
open Wire Host Android

/-- The Android name of a message type. -/
def messageType : MessageType → Gnr4MessageType
  | .hello => .hello
  | .helloAck => .helloAck
  | .started => .started
  | .heartbeat => .heartbeat
  | .stop => .stop
  | .stopped => .stopped
  | .status => .status
  | .error => .error
  | .suspend => .suspend
  | .suspended => .suspended
  | .metrics => .metrics

/-- Sixteen session bytes as two big-endian longs. -/
def uuid (session : SessionId) : UUID where
  mostSignificantBits := long (session.bytes.toList.take 8)
  leastSignificantBits := long (session.bytes.toList.drop 8)

def gnr4Frame (frame : Frame) : Gnr4Frame where
  type := messageType frame.messageType
  sessionId := uuid frame.sessionId
  payload := frame.payload

theorem messageType_wireValue (type : MessageType) :
    (messageType type).wireValue = type.wireValue := by
  cases type <;> rfl

theorem messageType_bijective : Function.Bijective messageType := by
  constructor
  · intro type type' same
    cases type <;> cases type' <;> first | rfl | cases same
  · intro type
    cases type
    case hello => exact ⟨.hello, rfl⟩
    case helloAck => exact ⟨.helloAck, rfl⟩
    case started => exact ⟨.started, rfl⟩
    case heartbeat => exact ⟨.heartbeat, rfl⟩
    case stop => exact ⟨.stop, rfl⟩
    case stopped => exact ⟨.stopped, rfl⟩
    case status => exact ⟨.status, rfl⟩
    case error => exact ⟨.error, rfl⟩
    case suspend => exact ⟨.suspend, rfl⟩
    case suspended => exact ⟨.suspended, rfl⟩
    case metrics => exact ⟨.metrics, rfl⟩

theorem writeLong_uuid (session : SessionId) :
    writeLong (uuid session).mostSignificantBits ++
      writeLong (uuid session).leastSignificantBits = session.bytes.toList := by
  rw [uuid, writeLong_long (by simp), writeLong_long (by simp), List.take_append_drop]

theorem uuid_bijective : Function.Bijective uuid := by
  constructor
  · intro session session' same
    have bytes : session.bytes.toList = session'.bytes.toList := by
      rw [← writeLong_uuid session, ← writeLong_uuid session', same]
    cases session
    cases session'
    exact congrArg SessionId.mk (Vector.toList_inj.mp bytes)
  · intro id
    have wide : (writeLong id.mostSignificantBits ++
        writeLong id.leastSignificantBits).length = 16 := by simp
    refine ⟨.copyFrom (writeLong id.mostSignificantBits ++ writeLong id.leastSignificantBits), ?_⟩
    rw [uuid, SessionId.copyFrom, toList_copyFrom wide, List.take_left' (writeLong_length _),
      List.drop_left' (writeLong_length _), long_writeLong, long_writeLong]

theorem gnr4Frame_bijective : Function.Bijective gnr4Frame := by
  constructor
  · intro frame frame' same
    have type := congrArg Gnr4Frame.type same
    have session := congrArg Gnr4Frame.sessionId same
    have payload := congrArg Gnr4Frame.payload same
    cases frame
    cases frame'
    cases messageType_bijective.1 type
    cases uuid_bijective.1 session
    cases payload
    rfl
  · intro frame
    obtain ⟨type, sameType⟩ := messageType_bijective.2 frame.type
    obtain ⟨session, sameSession⟩ := uuid_bijective.2 frame.sessionId
    exact ⟨⟨type, session, frame.payload⟩, by rw [gnr4Frame, sameType, sameSession]⟩

theorem encode_eq_write (frame : Frame) (bytes : List UInt8) :
    frame.encode = .ok bytes ↔ Gnr4.write (gnr4Frame frame) = .ok bytes := by
  rw [Frame.encode_eq_ok, Gnr4.write_eq_ok]
  apply and_congr
  · exact Iff.rfl
  · have session := writeLong_uuid frame.sessionId
    have type := messageType_wireValue frame.messageType
    simp only [Frame.header, gnr4Frame, type, ← session, List.append_assoc]
    exact Iff.rfl

/-- The seven counters in their order on the wire. -/
def hostCounters (metrics : AndroidMetricsV1) : List Int :=
  [metrics.txPackets, metrics.txBytes, metrics.rxPackets, metrics.rxBytes,
    metrics.controlRttSamples, metrics.controlRttP99Us, metrics.controlRttMaxUs].map
    fun value => (value.toNat : Int)

def androidCounters (metrics : Gnr4Metrics) : List Int :=
  [metrics.txPackets, metrics.txBytes, metrics.rxPackets, metrics.rxBytes,
    metrics.controlRttSamples, metrics.controlRttP99Micros, metrics.controlRttMaxMicros].map
    Int64.toInt

/-- The layout the two ends share: two 16-bit words and seven 64-bit counters. -/
theorem metricsPayload_layout {metrics : Gnr4Metrics} {payload : List UInt8}
    (written : Gnr4.metricsPayload metrics = .ok payload) :
    payload = toBigEndian 2 1 ++ toBigEndian 2 0 ++
      ([metrics.txPackets, metrics.txBytes, metrics.rxPackets, metrics.rxBytes,
        metrics.controlRttSamples, metrics.controlRttP99Micros,
        metrics.controlRttMaxMicros].map writeLong).flatten := by
  unfold Gnr4.metricsPayload at written
  split at written
  · cases written
    simp [Gnr4.METRICS_VERSION, Gnr4.METRICS_FLAGS]
  · cases written

theorem ofNat_bigEndian_writeLong (value : Int64) :
    UInt64.ofNat (bigEndian (writeLong value)) = value.toUInt64 := by
  rw [writeLong, bigEndian_toBigEndian_of_lt (UInt64.toNat_lt _), UInt64.ofNat_toNat]

theorem decode_metricsPayload {metrics : Gnr4Metrics} {payload : List UInt8}
    (written : Gnr4.metricsPayload metrics = .ok payload) :
    AndroidMetricsV1.decode payload = .ok {
      txPackets := metrics.txPackets.toUInt64
      txBytes := metrics.txBytes.toUInt64
      rxPackets := metrics.rxPackets.toUInt64
      rxBytes := metrics.rxBytes.toUInt64
      controlRttSamples := metrics.controlRttSamples.toUInt64
      controlRttP99Us := metrics.controlRttP99Micros.toUInt64
      controlRttMaxUs := metrics.controlRttMaxMicros.toUInt64 } := by
  have layout := metricsPayload_layout written
  generalize fieldsEq : [metrics.txPackets, metrics.txBytes, metrics.rxPackets, metrics.rxBytes,
    metrics.controlRttSamples, metrics.controlRttP99Micros, metrics.controlRttMaxMicros] = fields
    at layout
  have wide : ∀ field ∈ fields.map writeLong, field.length = 8 := by
    intro field mem
    obtain ⟨value, -, rfl⟩ := List.mem_map.mp mem
    exact writeLong_length value
  -- The fixed words take four bytes, so the counters start at offset four.
  have counter : ∀ index (bound : index < fields.length),
      UInt64.ofNat (bigEndian ((payload.drop (4 + index * 8)).take 8)) =
        fields[index].toUInt64 := by
    intro index bound
    have inside : index < (fields.map writeLong).length := by
      rw [List.length_map]
      exact bound
    rw [layout, ← List.drop_drop, List.drop_left' (by simp), take_drop_flatten wide inside,
      List.getElem_map, ofNat_bigEndian_writeLong]
  have version : bigEndian (payload.take 2) = AndroidMetricsV1.VERSION := by
    rw [layout, List.append_assoc, List.take_left' (by simp)]
    decide
  have flags : bigEndian ((payload.drop 2).take 2) = AndroidMetricsV1.FLAGS := by
    rw [layout, List.append_assoc, take_drop_append _ _ _ (by simp) (by simp)]
    decide
  subst fieldsEq
  have len : payload.length = METRICS_V1_PAYLOAD_LEN := metricsPayload_length written
  simp only [AndroidMetricsV1.decode, len, version, flags, ne_eq, not_true_eq_false, if_false]
  rw [counter 0 (by simp), counter 1 (by simp), counter 2 (by simp), counter 3 (by simp),
    counter 4 (by simp), counter 5 (by simp), counter 6 (by simp)]
  rfl

theorem toNat_toUInt64 {value : Int64} (nonneg : 0 ≤ value) :
    (value.toUInt64.toNat : Int) = value.toInt := by
  have below : 0 ≤ value.toInt := by
    have ordered := Int64.le_iff_toInt_le.mp nonneg
    rwa [Int64.toInt_zero] at ordered
  rw [Int64.toNat_toUInt64_of_le nonneg, ← Int64.toNat_toInt, Int.toNat_of_nonneg below]

theorem metricsPayload_counters {metrics : Gnr4Metrics}
    (nonneg : ∀ value ∈ androidCounters metrics, 0 ≤ value) :
    ∃ payload decoded, Gnr4.metricsPayload metrics = .ok payload ∧
      AndroidMetricsV1.decode payload = .ok decoded ∧
      hostCounters decoded = androidCounters metrics := by
  have each : ∀ value : Int64, value.toInt ∈ androidCounters metrics → 0 ≤ value := by
    intro value mem
    apply Int64.le_iff_toInt_le.mpr
    rw [Int64.toInt_zero]
    exact nonneg _ mem
  have txPackets := each metrics.txPackets (by simp [androidCounters])
  have txBytes := each metrics.txBytes (by simp [androidCounters])
  have rxPackets := each metrics.rxPackets (by simp [androidCounters])
  have rxBytes := each metrics.rxBytes (by simp [androidCounters])
  have samples := each metrics.controlRttSamples (by simp [androidCounters])
  have p99 := each metrics.controlRttP99Micros (by simp [androidCounters])
  have max := each metrics.controlRttMaxMicros (by simp [androidCounters])
  obtain ⟨payload, written⟩ : ∃ payload, Gnr4.metricsPayload metrics = .ok payload :=
    ⟨_, if_pos ⟨txPackets, txBytes, rxPackets, rxBytes, samples, p99, max⟩⟩
  refine ⟨payload, _, written, decode_metricsPayload written, ?_⟩
  simp only [hostCounters, androidCounters, List.map_cons, List.map_nil, toNat_toUInt64 txPackets,
    toNat_toUInt64 txBytes, toNat_toUInt64 rxPackets, toNat_toUInt64 rxBytes,
    toNat_toUInt64 samples, toNat_toUInt64 p99, toNat_toUInt64 max]

theorem encodeMany_write {frames : List Frame} {bytes : List UInt8}
    (encoded : encodeMany Frame.encode frames = .ok bytes) :
    encodeMany Gnr4.write (frames.map gnr4Frame) = .ok bytes := by
  induction frames generalizing bytes with
  | nil =>
      cases encoded
      rfl
  | cons frame frames ih =>
      obtain ⟨first, more, own, others, rfl⟩ := encodeMany_cons_eq_ok.mp encoded
      exact encodeMany_cons_eq_ok.mpr
        ⟨first, more, (encode_eq_write frame first).mp own, ih others, rfl⟩

/-- The two codecs accept and write the same language. For every stream the readers both
fail or return corresponding frames and the same remainder; corresponding frames have the
same encoding; the host's slice parser inverts its encoder; a stream of encodings is read
back frame by frame, and its end is reported as such; and the metrics payload carries the
seven counters across. -/
theorem gnr4_agreement :
    (∀ input,
      (∃ e e', Frame.readFrom input = .error e ∧ Gnr4.read none input = .error e') ∨
        ∃ frame rest, Frame.readFrom input = .ok (frame, rest) ∧
          Gnr4.read none input = .ok (gnr4Frame frame, rest)) ∧
    Function.Bijective gnr4Frame ∧
    (∀ frame : Frame, frame.payload.length ≤ MAX_PAYLOAD_LEN →
      ∃ bytes, frame.encode = .ok bytes ∧ Gnr4.write (gnr4Frame frame) = .ok bytes) ∧
    (∀ bytes frame, Frame.decode bytes = .ok frame ↔ frame.encode = .ok bytes) ∧
    (∀ frames bytes rest, encodeMany Frame.encode frames = .ok bytes →
      readMany Frame.readFrom frames.length (bytes ++ rest) = .ok (frames, rest) ∧
        readMany (Gnr4.read none) frames.length (bytes ++ rest) =
          .ok (frames.map gnr4Frame, rest)) ∧
    (Frame.readFrom [] = .error (.io .unexpectedEof) ∧ Gnr4.read none [] = .error .eof) ∧
    (∀ metrics : Gnr4Metrics, (∀ value ∈ androidCounters metrics, 0 ≤ value) →
      ∃ payload decoded, Gnr4.metricsPayload metrics = .ok payload ∧
        AndroidMetricsV1.decode payload = .ok decoded ∧
        hostCounters decoded = androidCounters metrics) := by
  refine ⟨?_, gnr4Frame_bijective, ?_, ?_, ?_, ⟨rfl, rfl⟩, ?_⟩
  · intro input
    exact Frame.readFrom_reads.agree Gnr4.read_reads gnr4Frame_bijective.2 encode_eq_write input
  · intro frame small
    have encoded := Frame.encode_eq_ok.mpr ⟨small, rfl⟩
    exact ⟨_, encoded, (encode_eq_write frame _).mp encoded⟩
  · intro bytes frame
    exact Frame.decode_eq_ok
  · intro frames bytes rest encoded
    have read := readMany_encodeMany (fun frame _ => Gnr4.read_reads.readsBack frame)
      (encodeMany_write encoded) rest
    rw [List.length_map] at read
    exact ⟨readMany_encodeMany (fun frame _ => Frame.readFrom_reads.readsBack frame) encoded rest,
      read⟩
  · intro metrics nonneg
    exact metricsPayload_counters nonneg

/-- Two frames on one stream, the second with a payload, and counters in range. -/
theorem gnr4_agreement_stream :
    (∃ frames bytes, frames.length = 2 ∧ encodeMany Frame.encode frames = .ok bytes ∧
      readMany (Gnr4.read none) 2 (bytes ++ [9]) = .ok (frames.map gnr4Frame, [9])) ∧
    ∃ payload decoded, Gnr4.metricsPayload ⟨1, 2, 3, 4, 5, 6, 7⟩ = .ok payload ∧
      AndroidMetricsV1.decode payload = .ok decoded ∧
      hostCounters decoded = [1, 2, 3, 4, 5, 6, 7] := by
  obtain ⟨-, -, -, -, streams, -, metrics⟩ := gnr4_agreement
  obtain ⟨frames, bytes, two, encoded⟩ :
      ∃ frames bytes, frames.length = 2 ∧ encodeMany Frame.encode frames = .ok bytes :=
    ⟨[⟨.hello, ⟨Vector.replicate 16 1⟩, []⟩, ⟨.status, ⟨Vector.replicate 16 7⟩, [255, 0]⟩], _,
      rfl, rfl⟩
  have read := (streams frames bytes [9] encoded).2
  rw [two] at read
  exact ⟨⟨frames, bytes, two, encoded, read⟩, metrics ⟨1, 2, 3, 4, 5, 6, 7⟩ (by decide)⟩

end QuestVdWired.Link
