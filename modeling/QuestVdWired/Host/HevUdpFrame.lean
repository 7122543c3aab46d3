import QuestVdWired.Host.Protocol
import QuestVdWired.Wire.Codec

/-!
The HEV `FWD UDP` frame codec. A frame carries three lengths: the payload's, the
header's, which counts itself, and a domain name's. The parser takes the endpoint out of
the header and insists that it fills it.
-/

namespace QuestVdWired.Host
open Wire

def SOCKS_ATYP_IPV4 : UInt8 := 0x01
def SOCKS_ATYP_DOMAIN : UInt8 := 0x03
def SOCKS_ATYP_IPV6 : UInt8 := 0x04
def MAX_UDP_PAYLOAD : Nat := 65507
def MAX_DOMAIN_LEN : Nat := 255

inductive SocketAddr
  | v4 (ip : Vector UInt8 4) (port : UInt16)
  | v6 (ip : Vector UInt8 16) (port : UInt16) (flowinfo scopeId : UInt32)
  deriving DecidableEq

inductive Endpoint
  | socket (address : SocketAddr)
  | domain (host : String) (port : UInt16)
  deriving DecidableEq

structure HevUdpFrame where
  endpoint : Endpoint
  payload : List UInt8
  deriving DecidableEq

inductive HevFrameError
  | truncated
  | truncatedAddress
  | payloadTooLarge (length : Nat)
  | invalidHeaderLength (length : Nat)
  | headerTooLarge (length : Nat)
  | lengthMismatch (expected actual : Nat)
  | unsupportedAddressType (atyp : UInt8)
  | invalidDomainLength (length : Nat)
  | invalidDomain
  | io (kind : IoErrorKind)
  deriving DecidableEq

/-- `str::as_bytes`. -/
def asBytes (host : String) : List UInt8 :=
  host.toByteArray.data.toList

/-- `std::str::from_utf8`. -/
def fromUtf8 (bytes : List UInt8) : Option String :=
  String.fromUTF8? ⟨bytes.toArray⟩

def encodeEndpoint : Endpoint → Except HevFrameError (List UInt8)
  | .socket (.v4 ip port) =>
      .ok ([SOCKS_ATYP_IPV4] ++ ip.toList ++ toBigEndian 2 port.toNat)
  | .socket (.v6 ip port _ _) =>
      .ok ([SOCKS_ATYP_IPV6] ++ ip.toList ++ toBigEndian 2 port.toNat)
  | .domain host port =>
      let bytes := asBytes host
      if bytes.length = 0 ∨ bytes.length > MAX_DOMAIN_LEN then
        .error (.invalidDomainLength bytes.length)
      else
        .ok ([SOCKS_ATYP_DOMAIN] ++ [UInt8.ofNat bytes.length] ++ bytes ++
          toBigEndian 2 port.toNat)

/-- The endpoint and the number of bytes it took. `SocketAddr::new` leaves the flow
information and the scope of an IPv6 address zero. -/
def decodeEndpoint (input : List UInt8) : Except HevFrameError (Endpoint × Nat) :=
  match input with
  | [] => .error .truncatedAddress
  | atyp :: _ =>
      if atyp = SOCKS_ATYP_IPV4 then
        if input.length < 7 then .error .truncatedAddress
        else
          let port := UInt16.ofNat (bigEndian ((input.drop 5).take 2))
          .ok (.socket (.v4 (copyFrom 4 ((input.drop 1).take 4)) port), 7)
      else if atyp = SOCKS_ATYP_IPV6 then
        if input.length < 19 then .error .truncatedAddress
        else
          let port := UInt16.ofNat (bigEndian ((input.drop 17).take 2))
          .ok (.socket (.v6 (copyFrom 16 ((input.drop 1).take 16)) port 0 0), 19)
      else if atyp = SOCKS_ATYP_DOMAIN then
        match input[1]? with
        | none => .error .truncatedAddress
        | some length =>
            let length := length.toNat
            if length = 0 ∨ length > MAX_DOMAIN_LEN ∨ input.length < length + 4 then
              .error (.invalidDomainLength length)
            else
              match fromUtf8 ((input.drop 2).take length) with
              | none => .error .invalidDomain
              | some host =>
                  let portOffset := 2 + length
                  let port := UInt16.ofNat (bigEndian ((input.drop portOffset).take 2))
                  .ok (.domain host port, length + 4)
      else .error (.unsupportedAddressType atyp)

namespace HevUdpFrame

def encodedLen (frame : HevUdpFrame) : Except HevFrameError Nat :=
  if frame.payload.length > MAX_UDP_PAYLOAD then
    .error (.payloadTooLarge frame.payload.length)
  else
    match encodeEndpoint frame.endpoint with
    | .error e => .error e
    | .ok address =>
        let headerLen := 3 + address.length
        if headerLen > 255 then .error (.headerTooLarge headerLen)
        else .ok (headerLen + frame.payload.length)

def encodeInto (frame : HevUdpFrame) (output : List UInt8) : Except HevFrameError (List UInt8) :=
  if frame.payload.length > MAX_UDP_PAYLOAD then
    .error (.payloadTooLarge frame.payload.length)
  else
    match encodeEndpoint frame.endpoint with
    | .error e => .error e
    | .ok address =>
        let headerLen := 3 + address.length
        if headerLen > 255 then .error (.headerTooLarge headerLen)
        else
          .ok (output ++ toBigEndian 2 frame.payload.length ++ [UInt8.ofNat headerLen] ++
            address ++ frame.payload)

def encode (frame : HevUdpFrame) : Except HevFrameError (List UInt8) :=
  match frame.encodedLen with
  | .error e => .error e
  | .ok _ => frame.encodeInto []

/-- Lengths fit a `usize`, so `checked_add` never fails here. -/
def decode (input : List UInt8) : Except HevFrameError HevUdpFrame :=
  if input.length < 3 then .error .truncated
  else
    let payloadLen := bigEndian (input.take 2)
    if payloadLen > MAX_UDP_PAYLOAD then .error (.payloadTooLarge payloadLen)
    else
      let headerLen := (input.getD 2 0).toNat
      if headerLen < 3 ∨ headerLen > input.length then .error (.invalidHeaderLength headerLen)
      else
        let expected := headerLen + payloadLen
        if input.length ≠ expected then .error (.lengthMismatch expected input.length)
        else
          match decodeEndpoint ((input.drop 3).take (headerLen - 3)) with
          | .error e => .error e
          | .ok (endpoint, consumed) =>
              if consumed + 3 ≠ headerLen then .error (.invalidHeaderLength headerLen)
              else .ok ⟨endpoint, input.drop headerLen⟩

def readFrom (input : List UInt8) : Except HevFrameError (HevUdpFrame × List UInt8) :=
  match readExact 3 input with
  | none => .error (.io .unexpectedEof)
  | some (start, rest) =>
      let payloadLen := bigEndian (start.take 2)
      if payloadLen > MAX_UDP_PAYLOAD then .error (.payloadTooLarge payloadLen)
      else
        let headerLen := (start.getD 2 0).toNat
        if headerLen < 3 then .error (.invalidHeaderLength headerLen)
        else
          let total := headerLen + payloadLen
          match readExact (total - 3) rest with
          | none => .error (.io .unexpectedEof)
          | some (more, rest) =>
              match decode (start ++ more) with
              | .error e => .error e
              | .ok frame => .ok (frame, rest)

end HevUdpFrame

theorem fromUtf8_eq_some {bytes : List UInt8} {host : String} :
    fromUtf8 bytes = some host ↔ asBytes host = bytes := by
  unfold fromUtf8 String.fromUTF8? asBytes
  constructor
  · intro h
    split at h
    · cases h
      simp [String.fromUTF8]
    · cases h
  · rintro rfl
    have valid : ByteArray.IsValidUTF8 ⟨host.toByteArray.data.toList.toArray⟩ := by
      rw [Array.toArray_toList]
      exact host.isValidUTF8
    rw [dif_pos valid]
    simp [String.fromUTF8]

@[simp] theorem toBigEndian_ofNat_bigEndian {bytes : List UInt8} (wide : bytes.length = 2) :
    toBigEndian 2 (UInt16.ofNat (bigEndian bytes)).toNat = bytes := by
  have fits : bigEndian bytes < 2 ^ 16 := by
    have bound := bigEndian_lt bytes
    rw [wide] at bound
    exact bound
  rw [UInt16.toNat_ofNat_of_lt' fits, ← wide, toBigEndian_bigEndian]

@[simp] theorem ofNat_bigEndian_toBigEndian (port : UInt16) :
    UInt16.ofNat (bigEndian (toBigEndian 2 port.toNat)) = port := by
  rw [bigEndian_toBigEndian_of_lt port.toNat_lt, UInt16.ofNat_toNat]

/-- An address as `SocketAddr::new` builds it. -/
def Endpoint.Plain : Endpoint → Prop
  | .socket (.v6 _ _ flowinfo scopeId) => flowinfo = 0 ∧ scopeId = 0
  | .socket (.v4 ..) | .domain .. => True

/-- The names the one-byte header length leaves room for. -/
def Endpoint.Fits : Endpoint → Prop
  | .socket _ => True
  | .domain host _ => 1 ≤ (asBytes host).length ∧ (asBytes host).length ≤ 248

theorem encodeEndpoint_fits {endpoint : Endpoint} :
    (∃ address, encodeEndpoint endpoint = .ok address ∧ 3 + address.length ≤ 255) ↔
      endpoint.Fits := by
  match endpoint with
  | .socket (.v4 ip port) => simp [encodeEndpoint, Endpoint.Fits]
  | .socket (.v6 ip port _ _) => simp [encodeEndpoint, Endpoint.Fits]
  | .domain host port =>
      simp only [encodeEndpoint, Endpoint.Fits]
      constructor
      · rintro ⟨address, encoded, short⟩
        split at encoded
        · cases encoded
        · cases encoded
          simp only [List.length_append, List.length_singleton, toBigEndian_length] at short
          omega
      · intro fits
        rw [if_neg (by simp only [MAX_DOMAIN_LEN]; omega)]
        refine ⟨_, rfl, ?_⟩
        simp only [List.length_append, List.length_singleton, toBigEndian_length]
        omega

theorem take_toBigEndian (width n : Nat) :
    (toBigEndian width n).take width = toBigEndian width n := by
  apply List.take_of_length_le
  exact Nat.le_of_eq (toBigEndian_length width n)

theorem decodeEndpoint_encode {endpoint : Endpoint} {address : List UInt8} (plain : endpoint.Plain)
    (encoded : encodeEndpoint endpoint = .ok address) :
    decodeEndpoint address = .ok (endpoint, address.length) := by
  match endpoint with
  | .socket (.v4 ip port) =>
      cases encoded
      simp [decodeEndpoint, take_toBigEndian]
  | .socket (.v6 ip port flowinfo scopeId) =>
      cases encoded
      obtain ⟨rfl, rfl⟩ := plain
      simp [decodeEndpoint, take_toBigEndian, SOCKS_ATYP_IPV4, SOCKS_ATYP_IPV6]
  | .domain host port =>
      simp only [encodeEndpoint] at encoded
      split at encoded
      · cases encoded
      · rename_i named
        cases encoded
        have count : (UInt8.ofNat (asBytes host).length).toNat = (asBytes host).length := by
          apply UInt8.toNat_ofNat_of_lt'
          simp only [MAX_DOMAIN_LEN] at named
          change _ < 256
          omega
        have name := take_drop_append [SOCKS_ATYP_DOMAIN, UInt8.ofNat (asBytes host).length]
          (asBytes host) (toBigEndian 2 port.toNat) (rfl : _ = 2) rfl
        have behind := take_drop_append
          ([SOCKS_ATYP_DOMAIN, UInt8.ofNat (asBytes host).length] ++ asBytes host)
          (toBigEndian 2 port.toNat) [] (by simp; omega : _ = 2 + (asBytes host).length)
          (toBigEndian_length 2 _)
        have decoded := fromUtf8_eq_some.mpr (rfl : asBytes host = asBytes host)
        have size : (SOCKS_ATYP_DOMAIN :: UInt8.ofNat (asBytes host).length ::
            (asBytes host ++ toBigEndian 2 port.toNat)).length = (asBytes host).length + 4 := by
          simp
        simp only [List.append_nil, List.cons_append, List.nil_append] at name behind ⊢
        simp only [decodeEndpoint, SOCKS_ATYP_IPV4, SOCKS_ATYP_IPV6, List.getElem?_cons_succ,
          List.getElem?_cons_zero, count, name, behind, decoded, ofNat_bigEndian_toBigEndian]
        rw [if_neg (by decide), if_neg (by decide), if_pos trivial, size, if_neg]
        simp only [MAX_DOMAIN_LEN] at named ⊢
        omega

/-- An address field is its type, its host and its port. -/
theorem take_address {input tail : List UInt8} {atyp : UInt8} (first : input = atyp :: tail)
    (width : Nat) :
    input.take (1 + width + 2) =
      [atyp] ++ (input.drop 1).take width ++ (input.drop (1 + width)).take 2 := by
  rw [List.take_add, List.take_add, first]
  rfl

theorem tail_of_second {atyp second : UInt8} {tail : List UInt8}
    (h : (atyp :: tail)[1]? = some second) : ∃ behind, tail = second :: behind := by
  cases tail with
  | nil => cases h
  | cons next behind =>
      cases h
      exact ⟨behind, rfl⟩

theorem decodeEndpoint_eq_ok {input : List UInt8} {endpoint : Endpoint} {consumed : Nat}
    (h : decodeEndpoint input = .ok (endpoint, consumed)) :
    endpoint.Plain ∧ consumed ≤ input.length ∧
      encodeEndpoint endpoint = .ok (input.take consumed) := by
  unfold decodeEndpoint at h
  split at h
  · cases h
  · rename_i atyp tail
    generalize whole : atyp :: tail = input at h
    have address := take_address whole.symm
    split at h
    · rename_i kind
      split at h
      · cases h
      · cases h
        refine ⟨trivial, by omega, ?_⟩
        rw [encodeEndpoint, toList_copyFrom (by simp; omega),
          toBigEndian_ofNat_bigEndian (by simp; omega), ← kind]
        exact congrArg Except.ok (address 4).symm
    · split at h
      · rename_i kind
        split at h
        · cases h
        · cases h
          refine ⟨⟨rfl, rfl⟩, by omega, ?_⟩
          rw [encodeEndpoint, toList_copyFrom (by simp; omega),
            toBigEndian_ofNat_bigEndian (by simp; omega), ← kind]
          exact congrArg Except.ok (address 16).symm
      · split at h
        · rename_i kind
          split at h
          · cases h
          · rename_i count second
            dsimp only at h
            split at h
            · cases h
            · rename_i named
              split at h
              · cases h
              · rename_i host utf8
                cases h
                have name := fromUtf8_eq_some.mp utf8
                have width : (asBytes host).length = count.toNat := by
                  rw [name, List.length_take, List.length_drop]
                  omega
                have start : input.take 2 = [atyp, count] := by
                  rw [← whole] at second ⊢
                  obtain ⟨behind, rfl⟩ := tail_of_second second
                  rfl
                refine ⟨trivial, by omega, ?_⟩
                simp only [encodeEndpoint, width]
                rw [if_neg (by omega), UInt8.ofNat_toNat, name,
                  toBigEndian_ofNat_bigEndian (by simp; omega), ← kind]
                refine congrArg Except.ok ?_
                have total : count.toNat + 4 = 2 + count.toNat + 2 := by omega
                rw [total, List.take_add, List.take_add, start]
                rfl
        · cases h

namespace HevUdpFrame

/-- The two lengths in front of a frame whose endpoint has the encoding `address`. -/
def lengths (frame : HevUdpFrame) (address : List UInt8) : List UInt8 :=
  toBigEndian 2 frame.payload.length ++ [UInt8.ofNat (3 + address.length)]

@[simp] theorem lengths_length (frame : HevUdpFrame) (address : List UInt8) :
    (frame.lengths address).length = 3 := by
  simp [lengths]

def layout (frame : HevUdpFrame) (address : List UInt8) : List UInt8 :=
  frame.lengths address ++ (address ++ frame.payload)

/-- Both passes over a frame make the same checks. -/
def Encodes (frame : HevUdpFrame) (address : List UInt8) : Prop :=
  frame.payload.length ≤ MAX_UDP_PAYLOAD ∧ encodeEndpoint frame.endpoint = .ok address ∧
    3 + address.length ≤ 255

theorem encodedLen_eq_ok {frame : HevUdpFrame} {len : Nat} :
    frame.encodedLen = .ok len ↔
      ∃ address, frame.Encodes address ∧ (frame.layout address).length = len := by
  unfold encodedLen Encodes
  constructor
  · intro h
    split at h
    · cases h
    · rename_i small
      split at h
      · cases h
      · rename_i address encoded
        dsimp only at h
        split at h
        · cases h
        · rename_i short
          cases h
          refine ⟨address, ⟨Nat.not_lt.mp small, encoded, Nat.not_lt.mp short⟩, ?_⟩
          simp [layout]
          omega
  · rintro ⟨address, ⟨small, encoded, short⟩, rfl⟩
    rw [if_neg (Nat.not_lt.mpr small), encoded]
    dsimp only
    rw [if_neg (Nat.not_lt.mpr short)]
    simp [layout]
    omega

theorem encodeInto_eq_ok {frame : HevUdpFrame} {output bytes : List UInt8} :
    frame.encodeInto output = .ok bytes ↔
      ∃ address, frame.Encodes address ∧ bytes = output ++ frame.layout address := by
  unfold encodeInto Encodes
  constructor
  · intro h
    split at h
    · cases h
    · rename_i small
      split at h
      · cases h
      · rename_i address encoded
        dsimp only at h
        split at h
        · cases h
        · rename_i short
          cases h
          refine ⟨address, ⟨Nat.not_lt.mp small, encoded, Nat.not_lt.mp short⟩, ?_⟩
          simp [layout, lengths]
  · rintro ⟨address, ⟨small, encoded, short⟩, rfl⟩
    rw [if_neg (Nat.not_lt.mpr small), encoded]
    dsimp only
    rw [if_neg (Nat.not_lt.mpr short)]
    simp [layout, lengths]

theorem encode_eq_ok {frame : HevUdpFrame} {bytes : List UInt8} :
    frame.encode = .ok bytes ↔ ∃ address, frame.Encodes address ∧ bytes = frame.layout address := by
  unfold encode
  constructor
  · intro h
    split at h
    · cases h
    · exact encodeInto_eq_ok.mp h
  · rintro ⟨address, encodes, rfl⟩
    rw [encodedLen_eq_ok.mpr ⟨address, encodes, rfl⟩]
    exact encodeInto_eq_ok.mpr ⟨address, encodes, rfl⟩

theorem encode_fits (frame : HevUdpFrame) :
    (∃ bytes, frame.encode = .ok bytes) ↔
      frame.payload.length ≤ MAX_UDP_PAYLOAD ∧ frame.endpoint.Fits := by
  rw [← encodeEndpoint_fits]
  constructor
  · rintro ⟨bytes, h⟩
    obtain ⟨address, ⟨small, encoded, short⟩, -⟩ := encode_eq_ok.mp h
    exact ⟨small, address, encoded, short⟩
  · rintro ⟨small, address, encoded, short⟩
    exact ⟨_, encode_eq_ok.mpr ⟨address, ⟨small, encoded, short⟩, rfl⟩⟩

section Layout
variable {frame : HevUdpFrame} {address : List UInt8}

theorem lengths_payloadLen (encodes : frame.Encodes address) (after : List UInt8) :
    bigEndian ((frame.lengths address ++ after).take 2) = frame.payload.length := by
  have fits : frame.payload.length < 256 ^ 2 := Nat.lt_of_le_of_lt encodes.1 (by decide)
  rw [lengths, List.append_assoc, List.take_left' (toBigEndian_length 2 _),
    bigEndian_toBigEndian_of_lt fits]

theorem lengths_headerLen (encodes : frame.Encodes address) (after : List UInt8) :
    ((frame.lengths address ++ after).getD 2 0).toNat = 3 + address.length := by
  have third : (frame.lengths address ++ after).getD 2 0 = UInt8.ofNat (3 + address.length) := by
    simp [lengths]
  rw [third]
  exact UInt8.toNat_ofNat_of_lt' (Nat.lt_succ_of_le encodes.2.2)

theorem layout_address : ((frame.layout address).drop 3).take address.length = address := by
  exact take_drop_append _ address frame.payload (lengths_length frame address) rfl

theorem layout_payload : (frame.layout address).drop (3 + address.length) = frame.payload := by
  rw [layout, ← List.append_assoc]
  apply List.drop_left'
  simp

end Layout

theorem decode_layout {frame : HevUdpFrame} {address : List UInt8}
    (plain : frame.endpoint.Plain) (encodes : frame.Encodes address) :
    decode (frame.layout address) = .ok frame := by
  have size : (frame.layout address).length = 3 + address.length + frame.payload.length := by
    simp [layout]
    omega
  have payloadLen := lengths_payloadLen encodes (address ++ frame.payload)
  have headerLen := lengths_headerLen encodes (address ++ frame.payload)
  rw [← layout] at payloadLen headerLen
  have width : 3 + address.length - 3 = address.length := by omega
  unfold decode
  simp only [payloadLen, headerLen, width, layout_address, layout_payload,
    decodeEndpoint_encode plain encodes.2.1, size]
  rw [if_neg (by omega), if_neg (Nat.not_lt.mpr encodes.1), if_neg (by omega), if_neg (by omega),
    if_neg (by omega)]

/-- Everything an accepted input has been checked for. -/
theorem decode_inv {input : List UInt8} {frame : HevUdpFrame} (h : decode input = .ok frame) :
    ∃ headerLen, (input.getD 2 0).toNat = headerLen ∧ 3 ≤ headerLen ∧
      input.length = headerLen + bigEndian (input.take 2) ∧
      bigEndian (input.take 2) ≤ MAX_UDP_PAYLOAD ∧
      decodeEndpoint ((input.drop 3).take (headerLen - 3)) = .ok (frame.endpoint, headerLen - 3) ∧
      frame.payload = input.drop headerLen := by
  simp only [decode] at h
  split at h
  · cases h
  · split at h
    · cases h
    · rename_i small
      split at h
      · cases h
      · rename_i framed
        split at h
        · cases h
        · rename_i whole
          split at h
          · cases h
          · rename_i endpoint consumed accepted
            split at h
            · cases h
            · rename_i filled
              cases h
              have width : consumed = (input.getD 2 0).toNat - 3 := by omega
              exact ⟨_, rfl, by omega, not_not.mp whole, Nat.not_lt.mp small, width ▸ accepted, rfl⟩

theorem decode_eq_ok {input : List UInt8} {frame : HevUdpFrame} :
    decode input = .ok frame ↔ frame.endpoint.Plain ∧ frame.encode = .ok input := by
  constructor
  · intro h
    obtain ⟨headerLen, third, long, whole, small, endpoint, payload⟩ := decode_inv h
    obtain ⟨plain, -, encoded⟩ := decodeEndpoint_eq_ok endpoint
    rw [List.take_take, Nat.min_self] at encoded
    have len : frame.payload.length = bigEndian (input.take 2) := by
      rw [payload, List.length_drop]
      omega
    have width : ((input.drop 3).take (headerLen - 3)).length = headerLen - 3 := by
      rw [List.length_take, List.length_drop]
      omega
    have short : headerLen ≤ 255 := by
      rw [← third]
      exact Nat.le_of_lt_succ (UInt8.toNat_lt _)
    have header : 3 + ((input.drop 3).take (headerLen - 3)).length = headerLen := by omega
    have encodes : frame.Encodes ((input.drop 3).take (headerLen - 3)) :=
      ⟨len ▸ small, encoded, by omega⟩
    refine ⟨plain, encode_eq_ok.mpr ⟨_, encodes, ?_⟩⟩
    have first : toBigEndian 2 (bigEndian (input.take 2)) = input.take 2 := by
      have two : (input.take 2).length = 2 := by
        rw [List.length_take]
        omega
      nth_rewrite 1 [← two]
      exact toBigEndian_bigEndian _
    have start : input.take 3 = input.take 2 ++ [input.getD 2 0] := by
      rw [List.take_add_one, List.getD_eq_getElem?_getD, List.getElem?_eq_getElem (by omega)]
      rfl
    have rest := drop_eq_append input 3 (headerLen - 3)
    rw [Nat.add_sub_cancel' long] at rest
    rw [layout, lengths, header, len, first, ← third, UInt8.ofNat_toNat, third, ← start, payload,
      ← rest, List.take_append_drop]
  · rintro ⟨plain, h⟩
    obtain ⟨address, encodes, rfl⟩ := encode_eq_ok.mp h
    exact decode_layout plain encodes

/-- The stream reader takes exactly what the slice parser accepts. -/
theorem readFrom_eq_ok {input rest : List UInt8} {frame : HevUdpFrame} :
    readFrom input = .ok (frame, rest) ↔
      ∃ bytes, input = bytes ++ rest ∧ decode bytes = .ok frame := by
  constructor
  · intro h
    simp only [readFrom] at h
    split at h
    · cases h
    · rename_i start behind startRead
      split at h
      · cases h
      · split at h
        · cases h
        · split at h
          · cases h
          · rename_i more left moreRead
            split at h
            · cases h
            · rename_i decoded accepted
              cases h
              refine ⟨start ++ more, ?_, accepted⟩
              rw [(readExact_eq_some startRead).1, (readExact_eq_some moreRead).1,
                List.append_assoc]
  · rintro ⟨bytes, rfl, accepted⟩
    obtain ⟨plain, encoded⟩ := decode_eq_ok.mp accepted
    obtain ⟨address, encodes, rfl⟩ := encode_eq_ok.mp encoded
    have payloadLen := lengths_payloadLen encodes []
    have headerLen := lengths_headerLen encodes []
    rw [List.append_nil] at payloadLen headerLen
    have more : (address ++ frame.payload).length =
        3 + address.length + frame.payload.length - 3 := by
      rw [List.length_append]
      omega
    have whole := decode_layout plain encodes
    rw [layout] at whole ⊢
    rw [List.append_assoc]
    simp only [readFrom, readExact_append_of_length (lengths_length frame address), payloadLen,
      headerLen, readExact_append_of_length more, whole]
    rw [if_neg (Nat.not_lt.mpr encodes.1), if_neg (by omega)]

/-- A failure other than the end of the stream is the parser's own on what was read. -/
theorem readFrom_eq_error {input : List UInt8} {e : HevFrameError}
    (h : readFrom input = .error e) :
    e = .io .unexpectedEof ∨ ∃ bytes rest, input = bytes ++ rest ∧ decode bytes = .error e := by
  simp only [readFrom] at h
  split at h
  · cases h
    exact Or.inl rfl
  · rename_i start behind startRead
    obtain ⟨split_start, wide⟩ := readExact_eq_some startRead
    have nonempty : ¬ start.length < 3 := by omega
    split at h
    · rename_i large
      cases h
      refine Or.inr ⟨start, behind, split_start, ?_⟩
      rw [decode, if_neg nonempty, if_pos large]
    · rename_i small
      split at h
      · rename_i short
        cases h
        refine Or.inr ⟨start, behind, split_start, ?_⟩
        rw [decode, if_neg nonempty, if_neg small, if_pos (Or.inl short)]
      · split at h
        · cases h
          exact Or.inl rfl
        · rename_i more left moreRead
          split at h
          · rename_i refused
            cases h
            refine Or.inr ⟨start ++ more, left, ?_, refused⟩
            rw [split_start, (readExact_eq_some moreRead).1, List.append_assoc]
          · cases h

theorem readFrom_readsBack {frame : HevUdpFrame} (plain : frame.endpoint.Plain) :
    ReadsBack encode readFrom frame := by
  intro bytes rest encoded
  exact readFrom_eq_ok.mpr ⟨bytes, rfl, decode_eq_ok.mpr ⟨plain, encoded⟩⟩

/-- Framing loses nothing. A frame has an encoding exactly when its payload and its name
fit; the slice parser inverts the encoder on the addresses it can build and accepts
nothing else; a stream of encodings is read back frame by frame, up to the first byte
behind them; and the stream reader agrees with the slice parser on what it takes. -/
theorem hev_udp_framing :
    (∀ frame : HevUdpFrame, (∃ bytes, frame.encode = .ok bytes) ↔
      frame.payload.length ≤ MAX_UDP_PAYLOAD ∧
        ∀ host port, frame.endpoint = .domain host port →
          1 ≤ (asBytes host).length ∧ (asBytes host).length ≤ 248) ∧
    (∀ frame bytes, frame.endpoint.Plain → frame.encode = .ok bytes →
      decode bytes = .ok frame) ∧
    (∀ bytes frame, decode bytes = .ok frame → frame.encode = .ok bytes) ∧
    (∀ frames rest, (∀ frame ∈ frames, frame.endpoint.Plain ∧
        ∃ bytes, encode frame = .ok bytes) →
      ∃ bytes, encodeMany encode frames = .ok bytes ∧
        readMany readFrom frames.length (bytes ++ rest) = .ok (frames, rest)) ∧
    (∀ input frame rest, readFrom input = .ok (frame, rest) ↔
      ∃ bytes, input = bytes ++ rest ∧ decode bytes = .ok frame) ∧
    (∀ input e, readFrom input = .error e →
      e = .io .unexpectedEof ∨
        ∃ bytes rest, input = bytes ++ rest ∧ decode bytes = .error e) := by
  refine ⟨?_, ?_, ?_, ?_, ?_, ?_⟩
  · intro frame
    rw [encode_fits]
    apply and_congr_right
    intro _
    cases frame.endpoint with
    | socket address => simp [Endpoint.Fits]
    | domain host port =>
        constructor
        · rintro fits _ _ ⟨⟩
          exact fits
        · intro named
          exact named host port rfl
  · intro frame bytes plain encoded
    exact decode_eq_ok.mpr ⟨plain, encoded⟩
  · intro bytes frame accepted
    exact (decode_eq_ok.mp accepted).2
  · intro frames rest good
    obtain ⟨bytes, encoded⟩ := encodeMany_of_forall fun frame mem => (good frame mem).2
    exact ⟨bytes, encoded,
      readMany_encodeMany (fun frame mem => readFrom_readsBack (good frame mem).1) encoded rest⟩
  · intro input frame rest
    exact readFrom_eq_ok
  · intro input e
    exact readFrom_eq_error

/-- An IPv6 frame and a named one on one stream, with a byte of the next frame behind. -/
theorem hev_udp_framing_stream :
    ∃ bytes, encodeMany encode
        [⟨.socket (.v6 (Vector.replicate 16 1) 53 0 0), [7]⟩, ⟨.domain "quest.test" 443, []⟩] =
        .ok bytes ∧
      readMany readFrom 2 (bytes ++ [9]) = .ok
        ([⟨.socket (.v6 (Vector.replicate 16 1) 53 0 0), [7]⟩, ⟨.domain "quest.test" 443, []⟩],
          [9]) := by
  obtain ⟨encodable, -, -, stream, -, -⟩ := hev_udp_framing
  apply stream [⟨.socket (.v6 (Vector.replicate 16 1) 53 0 0), [7]⟩, ⟨.domain "quest.test" 443, []⟩]
  intro frame mem
  simp only [List.mem_cons, List.not_mem_nil, or_false] at mem
  rcases mem with rfl | rfl
  · exact ⟨⟨rfl, rfl⟩, (encodable _).mpr ⟨by decide, by simp⟩⟩
  · refine ⟨trivial, (encodable _).mpr ⟨by decide, ?_⟩⟩
    rintro host port ⟨⟩
    decide

end HevUdpFrame
end QuestVdWired.Host
