import QuestVdWired.Host.HevUdpFrame

/-!
The SOCKS request behind the authentication: the parser of a whole request, and the reader that
takes one off a stream.
-/

namespace QuestVdWired.Host
open Wire

def SOCKS_VERSION : UInt8 := 0x05
def CMD_CONNECT : UInt8 := 0x01
def CMD_FWD_UDP : UInt8 := 0x05

inductive SocksCommand
  | connect
  | fwdUdp
  deriving DecidableEq, Repr

structure SocksRequest where
  command : SocksCommand
  destination : Endpoint
  deriving DecidableEq

/-- The errors of a request. -/
inductive SocksError
  | malformed (reason : String)
  | unsupportedCommand (command : UInt8)
  | unsupportedAddressType (atyp : UInt8)
  | frame (e : HevFrameError)
  | io (kind : IoErrorKind)
  deriving DecidableEq

def SocksCommand.code : SocksCommand → UInt8
  | .connect => CMD_CONNECT
  | .fwdUdp => CMD_FWD_UDP

namespace SocksRequest

def commandOf (other : UInt8) : Except SocksError SocksCommand :=
  if other = CMD_CONNECT then .ok .connect
  else if other = CMD_FWD_UDP then .ok .fwdUdp
  else .error (.unsupportedCommand other)

def decode (input : List UInt8) : Except SocksError SocksRequest :=
  if input.length < 4 then .error (.malformed "truncated request")
  else if input.getD 0 0 ≠ SOCKS_VERSION ∨ input.getD 2 0 ≠ 0 then
    .error (.malformed "invalid version or reserved byte")
  else do
    let command ← commandOf (input.getD 1 0)
    let (destination, consumed) ← (decodeEndpoint (input.drop 3)).mapError .frame
    if consumed + 3 ≠ input.length then .error (.malformed "trailing request bytes")
    else return ⟨command, destination⟩

/-- The rest of a request whose length is known. -/
def readTail (encoded : List UInt8) (length : Nat) (input : List UInt8) :
    Except SocksError (SocksRequest × List UInt8) :=
  match readExact length input with
  | none => .error (.io .unexpectedEof)
  | some (tail, input) => do
      let request ← decode (encoded ++ tail)
      return (request, input)

/-- `read_request`: the request and what is left of the stream. -/
def readRequest (input : List UInt8) : Except SocksError (SocksRequest × List UInt8) :=
  match readExact 4 input with
  | none => .error (.io .unexpectedEof)
  | some (encoded, input) =>
      let atyp := encoded.getD 3 0
      if atyp = SOCKS_ATYP_IPV4 then readTail encoded (4 + 2) input
      else if atyp = SOCKS_ATYP_IPV6 then readTail encoded (16 + 2) input
      else if atyp = SOCKS_ATYP_DOMAIN then
        match input with
        | [] => .error (.io .unexpectedEof)
        | length :: input =>
            if length.toNat = 0 ∨ MAX_DOMAIN_LEN < length.toNat then
              .error (.malformed "invalid domain length")
            else readTail (encoded ++ [length]) (length.toNat + 2) input
      else .error (.unsupportedAddressType atyp)

/-- The bytes in front of the address. -/
def header (command : SocksCommand) : List UInt8 := [SOCKS_VERSION, command.code, 0]

section
variable {input rest bytes address : List UInt8} {request : SocksRequest} {command : SocksCommand}

theorem commandOf_eq_ok {other : UInt8} : commandOf other = .ok command ↔ other = command.code := by
  rw [commandOf]
  cases command with
  | connect =>
      constructor
      · intro found
        split at found
        · assumption
        · split at found <;> cases found
      · rintro rfl
        rfl
  | fwdUdp =>
      constructor
      · intro found
        split at found
        · cases found
        · split at found
          · assumption
          · cases found
      · rintro rfl
        rfl

theorem mapError_eq_ok {ε ε' α : Type} {result : Except ε α} {f : ε → ε'} {a : α} :
    result.mapError f = .ok a ↔ result = .ok a := by
  cases result <;> simp [Except.mapError]

theorem address_ne_nil {destination : Endpoint} (plain : destination.Plain)
    (encoded : encodeEndpoint destination = .ok address) : address ≠ [] := by
  rintro rfl
  have decoded := decodeEndpoint_encode plain encoded
  cases decoded

/-- What is accepted is a header and the encoding of the address behind it. -/
theorem decode_eq_ok :
    decode bytes = .ok request ↔ request.destination.Plain ∧
      ∃ address, encodeEndpoint request.destination = .ok address ∧
        bytes = header request.command ++ address := by
  constructor
  · intro accepted
    rcases bytes with _ | ⟨version, _ | ⟨other, _ | ⟨reserved, address⟩⟩⟩
    · cases accepted
    · cases accepted
    · cases accepted
    rw [decode] at accepted
    split at accepted
    · cases accepted
    · split at accepted
      · cases accepted
      · rename_i fixed
        obtain ⟨command, coded, accepted⟩ := bind_eq_ok.mp accepted
        obtain ⟨⟨destination, consumed⟩, decoded, accepted⟩ := bind_eq_ok.mp accepted
        have code : other = command.code := commandOf_eq_ok.mp coded
        obtain ⟨plain, _, encoded⟩ := decodeEndpoint_eq_ok (mapError_eq_ok.mp decoded)
        obtain ⟨whole, same⟩ := ite_error_eq_ok.mp accepted
        cases same
        have all : consumed = address.length := by
          rw [List.length_cons, List.length_cons, List.length_cons] at whole
          omega
        rw [List.drop_succ_cons, List.drop_succ_cons, List.drop_succ_cons, List.drop_zero, all,
          List.take_length] at encoded
        have version : version = SOCKS_VERSION := by
          by_contra other
          exact fixed (.inl other)
        have reserved : reserved = 0 := by
          by_contra other
          exact fixed (.inr other)
        refine ⟨plain, address, encoded, ?_⟩
        rw [version, reserved, code]
        rfl
  · rintro ⟨plain, address, encoded, rfl⟩
    have decoded := decodeEndpoint_encode plain encoded
    have some' := List.length_pos_iff.mpr (address_ne_nil plain encoded)
    have size : (header request.command ++ address).length = address.length + 3 := by
      rw [List.length_append, Nat.add_comm]
      rfl
    have behind : (header request.command ++ address).drop 3 = address := rfl
    rw [decode, if_neg (by omega), if_neg (by simp [header])]
    refine bind_eq_ok.mpr ⟨request.command, commandOf_eq_ok.mpr rfl, ?_⟩
    rw [behind, decoded]
    refine bind_eq_ok.mpr ⟨_, rfl, ?_⟩
    rw [size]
    exact if_neg (by simp)

theorem readTail_eq_ok {encoded : List UInt8} {length : Nat} :
    readTail encoded length input = .ok (request, rest) ↔
      ∃ tail, input = tail ++ rest ∧ tail.length = length ∧
        decode (encoded ++ tail) = .ok request := by
  rw [readTail]
  constructor
  · intro read
    split at read
    · cases read
    · rename_i tail input' taken
      obtain ⟨whole, wide⟩ := readExact_eq_some taken
      obtain ⟨request, decoded, same⟩ := bind_eq_ok.mp read
      cases same
      exact ⟨tail, whole, wide, decoded⟩
  · rintro ⟨tail, rfl, wide, decoded⟩
    rw [readExact_append_of_length wide]
    exact bind_eq_ok.mpr ⟨request, decoded, rfl⟩

/-- The reader takes what the parser accepts. -/
theorem readRequest_eq_ok :
    readRequest input = .ok (request, rest) ↔
      ∃ bytes, input = bytes ++ rest ∧ decode bytes = .ok request := by
  constructor
  · intro read
    rw [readRequest] at read
    split at read
    · cases read
    · rename_i encoded input' taken
      obtain ⟨rfl, _⟩ := readExact_eq_some taken
      have whole {more : List UInt8} {length : Nat}
          (read : readTail encoded length more = .ok (request, rest)) :
          ∃ bytes, encoded ++ more = bytes ++ rest ∧ decode bytes = .ok request := by
        obtain ⟨tail, rfl, _, decoded⟩ := readTail_eq_ok.mp read
        exact ⟨encoded ++ tail, (List.append_assoc ..).symm, decoded⟩
      simp only at read
      split at read
      · exact whole read
      · split at read
        · exact whole read
        · split at read
          · split at read
            · cases read
            · split at read
              · cases read
              · obtain ⟨tail, rfl, _, decoded⟩ := readTail_eq_ok.mp read
                exact ⟨_, by simp, decoded⟩
          · cases read
  · rintro ⟨bytes, rfl, decoded⟩
    obtain ⟨plain, address, encoded, whole⟩ := decode_eq_ok.mp decoded
    -- the address type decides how much is read, and the encoder has put as much there
    have tail {start later : List UInt8} {length : Nat} (cut : bytes = start ++ later)
        (wide : later.length = length) :
        readTail start length (later ++ rest) = .ok (request, rest) :=
      readTail_eq_ok.mpr ⟨later, rfl, wide, cut ▸ decoded⟩
    obtain ⟨command, destination⟩ := request
    match destination with
    | .socket (.v4 ip port) =>
        cases encoded
        have cut : bytes = (header command ++ [SOCKS_ATYP_IPV4]) ++
            (ip.toList ++ toBigEndian 2 port.toNat) := by
          simp [whole]
        have start : (header command ++ [SOCKS_ATYP_IPV4]).length = 4 := rfl
        rw [cut, List.append_assoc, readRequest, readExact_append_of_length start]
        exact tail cut (by simp)
    | .socket (.v6 ip port flowinfo scopeId) =>
        cases encoded
        have cut : bytes = (header command ++ [SOCKS_ATYP_IPV6]) ++
            (ip.toList ++ toBigEndian 2 port.toNat) := by
          simp [whole]
        have start : (header command ++ [SOCKS_ATYP_IPV6]).length = 4 := rfl
        rw [cut, List.append_assoc, readRequest, readExact_append_of_length start]
        exact tail cut (by simp)
    | .domain host port =>
        simp only [encodeEndpoint] at encoded
        split at encoded
        · cases encoded
        · rename_i named
          cases encoded
          have count : (UInt8.ofNat (asBytes host).length).toNat = (asBytes host).length := by
            refine UInt8.toNat_ofNat_of_lt' ?_
            simp only [MAX_DOMAIN_LEN] at named
            change _ < 256
            omega
          have cut : bytes = (header command ++ [SOCKS_ATYP_DOMAIN] ++
              [UInt8.ofNat (asBytes host).length]) ++
              (asBytes host ++ toBigEndian 2 port.toNat) := by
            simp [whole]
          have start : (header command ++ [SOCKS_ATYP_DOMAIN]).length = 4 := rfl
          rw [cut, List.append_assoc, List.append_assoc, readRequest,
            readExact_append_of_length start]
          have more := tail cut (show _ = (UInt8.ofNat (asBytes host).length).toNat + 2 by
            rw [count, List.length_append, toBigEndian_length])
          have valid : ¬ ((UInt8.ofNat (asBytes host).length).toNat = 0 ∨
              MAX_DOMAIN_LEN < (UInt8.ofNat (asBytes host).length).toNat) := by
            rw [count]
            exact named
          exact (if_neg valid).trans more

/-- Requests are read off a stream as the parser accepts them, and no more than that; a request is
the header and one well-formed address, and no other prefix of the stream is one. -/
theorem requests_read :
    (∀ input request rest, readRequest input = .ok (request, rest) ↔
      ∃ bytes, input = bytes ++ rest ∧ decode bytes = .ok request) ∧
    (∀ input bytes bytes' request request', bytes <+: input → bytes' <+: input →
      decode bytes = .ok request → decode bytes' = .ok request' → bytes = bytes') ∧
    (∀ bytes request, decode bytes = .ok request ↔ request.destination.Plain ∧
      ∃ address, encodeEndpoint request.destination = .ok address ∧
        bytes = [0x05, request.command.code, 0x00] ++ address) ∧
    ∀ command destination address, destination.Plain → encodeEndpoint destination = .ok address →
      decode (header command ++ address) = .ok ⟨command, destination⟩ := by
  refine ⟨fun _ _ _ => readRequest_eq_ok, ?_, fun _ _ => decode_eq_ok, ?_⟩
  · rintro _ bytes bytes' request request' ⟨rest, rfl⟩ ⟨rest', same⟩ decoded decoded'
    have read := readRequest_eq_ok.mpr ⟨bytes, (rfl : bytes ++ rest = _), decoded⟩
    have read' := readRequest_eq_ok.mpr ⟨bytes', same.symm, decoded'⟩
    rw [read] at read'
    cases read'
    exact (List.append_cancel_right same).symm
  · intro command destination address plain encoded
    exact decode_eq_ok.mpr ⟨plain, address, encoded, rfl⟩

end

end SocksRequest
end QuestVdWired.Host
