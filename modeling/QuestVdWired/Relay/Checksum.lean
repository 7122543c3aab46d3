import QuestVdWired.Java.Arithmetic
import QuestVdWired.Relay.IPv4Packet
import QuestVdWired.Wire.OnesComplement

/-!
`IPv4Packet.computeChecksums` on `int`s. What a loop adds to its accumulator is collected first, in
the order of the additions, and summed then. All buffers of a packet share its bytes.
-/

namespace QuestVdWired.Relay
open Java Wire

/-- `((high & 0xff) << 8) | (low & 0xff)`. -/
def word (high low : UInt8) : Int32 :=
  (Int32.ofNat high.toNat <<< 8) ||| Int32.ofNat low.toNat

/-- The words that `count` turns of a loop add, from `offset` on. -/
def loopWords (array : List UInt8) (offset : Nat) : Nat → Result (List Int32)
  | 0 => .ok []
  | i + 1 => do
      let before ← loopWords array offset i
      let high ← load array (offset + 2 * i)
      let low ← load array (offset + 2 * i + 1)
      return before ++ [word high low]

/-- `sum += summand`, one after the other. -/
def accumulate (summands : List Int32) : Int32 := summands.foldl (· + ·) 0

/-- `while ((sum & ~0xffff) != 0)`, `none` if it goes on after that many turns. -/
def foldSum : Nat → Int32 → Option Int32
  | 0, _ => none
  | turns + 1, sum =>
      if sum &&& ~~~0xffff = 0 then some sum
      else foldSum turns ((sum &&& (0xffff : Int32)) + (sum >>> (16 : Int32)))

/-- `x >>> 16`. -/
def highHalf (x : Int32) : Int32 := (x.toUInt32 >>> 16).toInt32

/-- `raw.putShort(index, (short) value)`, `raw` being the bytes from `offset` up to its limit. -/
def putShort (array : List UInt8) (offset limit index : Nat) (value : Int32) :
    Result (List UInt8) :=
  if index + 2 ≤ limit then
    .ok (overwrite array (offset + index) (toBigEndian 2 (value.toUInt32.toNat % 2 ^ 16)))
  else .error .indexOutOfBounds

attribute [local grind =] loopWords foldSum

namespace IPv4Header

/-- `computeChecksum`: the words it adds, and the array with the checksum field reset. -/
def summands (h : IPv4Header) (array : List UInt8) : Result (List Int32 × List UInt8) := do
  let array ← putShort array 0 h.headerLength 10 0
  let words ← loopWords array 0 (h.headerLength / 2)
  return (words, array)

def computeChecksum (turns : Nat) (h : IPv4Header) (array : List UInt8) :
    Option (Result (List UInt8)) :=
  match h.summands array with
  | .error e => some (.error e)
  | .ok (summands, array) =>
      (foldSum turns (accumulate summands)).map fun sum =>
        putShort array 0 h.headerLength 10 (~~~sum)

/-- Of a segment, with its header. -/
def length (h : IPv4Header) : Int32 := .ofNat h.totalLength - .ofNat h.headerLength

/-- What the pseudo-header adds. -/
def pseudoHeader (h : IPv4Header) : List Int32 :=
  [highHalf (.ofNat h.source), .ofNat h.source &&& 0xffff, highHalf (.ofNat h.destination),
    .ofNat h.destination &&& 0xffff, 6, h.length]

end IPv4Header

namespace TCPHeader

/-- The last byte of a payload of odd length. -/
def oddWord (array : List UInt8) (payloadOffset : Nat) (payloadLength : Int32) :
    Result (List Int32) :=
  if payloadLength % 2 ≠ 0 then do
    let last ← load array (payloadOffset + payloadLength.toNatClampNeg - 1)
    return [Int32.ofNat last.toNat <<< 8]
  else .ok []

/-- `computeChecksum`: what it adds, and the array with the checksum field reset. -/
def summands (h : TCPHeader) (ipv4Header : IPv4Header) (rawOffset payloadOffset : Nat)
    (array : List UInt8) : Result (List Int32 × List UInt8) := do
  let array ← putShort array rawOffset h.headerLength 16 0
  let headerWords ← loopWords array rawOffset (h.headerLength / 2)
  let payloadLength := ipv4Header.length - .ofNat h.headerLength
  let payloadWords ← loopWords array payloadOffset (payloadLength / 2).toNatClampNeg
  let odd ← oddWord array payloadOffset payloadLength
  return (ipv4Header.pseudoHeader ++ headerWords ++ payloadWords ++ odd, array)

def computeChecksum (turns : Nat) (h : TCPHeader) (ipv4Header : IPv4Header)
    (rawOffset payloadOffset : Nat) (array : List UInt8) : Option (Result (List UInt8)) :=
  match h.summands ipv4Header rawOffset payloadOffset array with
  | .error e => some (.error e)
  | .ok (summands, array) =>
      (foldSum turns (accumulate summands)).map fun sum =>
        putShort array rawOffset h.headerLength 16 (~~~sum)

end TCPHeader

/-- `UDPHeader.computeChecksum`. -/
def UDPHeader.computeChecksum (rawOffset : Nat) (array : List UInt8) : Result (List UInt8) :=
  putShort array rawOffset UDP_HEADER_LENGTH 6 0

def TransportHeader.headerLength : TransportHeader → Nat
  | .tcp header => header.headerLength
  | .udp _ => UDP_HEADER_LENGTH

def TransportHeader.computeChecksum (turns : Nat) (ipv4Header : IPv4Header)
    (rawOffset payloadOffset : Nat) (array : List UInt8) :
    TransportHeader → Option (Result (List UInt8))
  | .tcp header => header.computeChecksum turns ipv4Header rawOffset payloadOffset array
  | .udp _ => some (UDPHeader.computeChecksum rawOffset array)

/-- The packet's bytes afterwards; of a packet that is not valid there is no transport header. -/
def IPv4Packet.computeChecksums (turns : Nat) (p : IPv4Packet) :
    Option (Result (List UInt8)) :=
  match p.ipv4Header.computeChecksum turns p.raw, p.transportHeader with
  | some (.ok raw), some header =>
      -- getPayload
      let headersLength := p.ipv4Header.headerLength + header.headerLength
      if headersLength ≤ raw.length then
        header.computeChecksum turns p.ipv4Header p.ipv4Header.headerLength headersLength raw
      else some (.error .illegalArgument)
  | some (.ok _), none => some (.error .nullPointer)
  | computed, _ => computed

/-! What is added, and its sum. -/

/-- The sum without a bound on its size. -/
def exactSum : List Int32 → Int
  | [] => 0
  | summand :: rest => summand.toInt + exactSum rest

/-- The accumulator is exact after each addition. -/
def NoOverflow (summands : List Int32) : Prop :=
  ∀ front, front <+: summands → (accumulate front).toInt = exactSum front

section
variable {summands summands' : List Int32} {words words' : List Nat}

theorem toInt_highHalf {m : Nat} (small : m < 2 ^ 32) :
    (highHalf (.ofNat m)).toInt = (m / 2 ^ 16 : Nat) := by
  refine toInt_of_bits ?_ (by omega)
  have shifted : (highHalf (.ofNat m)).toBitVec = BitVec.ofNat 32 m >>> 16 := rfl
  rw [shifted, BitVec.toNat_ushiftRight, BitVec.toNat_ofNat, Nat.mod_eq_of_lt small,
    Nat.shiftRight_eq_div_pow]

/-- `byte << 8`. -/
theorem bits_highByte (byte : UInt8) :
    (Int32.ofNat byte.toNat <<< (8 : Int32)).toBitVec.toNat = byte.toNat * 256 := by
  have small := byte.toNat_lt
  have shifted : (Int32.ofNat byte.toNat <<< (8 : Int32)).toBitVec =
      BitVec.ofNat 32 byte.toNat <<< 8 := rfl
  have itself : byte.toNat % 2 ^ 32 = byte.toNat := Nat.mod_eq_of_lt (by omega)
  rw [shifted, BitVec.toNat_shiftLeft, BitVec.toNat_ofNat, itself, Nat.shiftLeft_eq]
  omega

theorem toInt_word (high low : UInt8) :
    (word high low).toInt = (high.toNat * 256 + low.toNat : Nat) := by
  have small := high.toNat_lt
  have small' := low.toNat_lt
  have low' : (Int32.ofNat low.toNat).toBitVec.toNat = low.toNat :=
    bits_of_toInt (Int32.toInt_ofNat_of_lt (by omega))
  have apart : high.toNat * 256 + low.toNat = high.toNat * 256 ||| low.toNat := by
    simpa [Nat.shiftLeft_eq] using
      Nat.shiftLeft_add_eq_or_of_lt (b := low.toNat) (i := 8) (by omega) high.toNat
  refine toInt_of_bits ?_ (by omega)
  rw [word, Int32.toBitVec_or, BitVec.toNat_or, bits_highByte, low', apart]

/-- The summands, one by one, as natural numbers. -/
def Adds (summands : List Int32) (words : List Nat) : Prop :=
  summands.map Int32.toInt = words.map Int.ofNat

theorem Adds.append (h : Adds summands words) (h' : Adds summands' words') :
    Adds (summands ++ summands') (words ++ words') := by
  rw [Adds, List.map_append, List.map_append, h, h']

theorem adds_cons {summand : Int32} {word : Nat} :
    Adds (summand :: summands) (word :: words) ↔ summand.toInt = word ∧ Adds summands words := by
  simp [Adds]

theorem Adds.accumulate (h : Adds summands words) (small : plainSum words < 2 ^ 31) :
    (accumulate summands).toInt = plainSum words ∧ exactSum summands = plainSum words := by
  have run (summands : List Int32) (words : List Nat) (h : Adds summands words) (start : Int32)
      (n : Nat) (from' : start.toInt = n) (small : n + plainSum words < 2 ^ 31) :
      (summands.foldl (· + ·) start).toInt = n + plainSum words ∧
        exactSum summands = plainSum words := by
    induction summands generalizing words start n with
    | nil =>
        cases words with
        | nil => exact ⟨by simpa [plainSum] using from', rfl⟩
        | cons => cases h
    | cons summand summands ih =>
        cases words with
        | nil => cases h
        | cons word words =>
            obtain ⟨own, rest⟩ := adds_cons.mp h
            rw [plainSum] at small ⊢
            have next : (start + summand).toInt = (n + word : Nat) := by
              rw [toInt_add_of_fits (by omega) (by omega), own, from']
              rfl
            obtain ⟨sum, exact'⟩ := ih words rest _ _ next (by omega)
            rw [List.foldl_cons, exactSum, sum, own, exact']
            omega
  obtain ⟨sum, exact'⟩ := run summands words h 0 0 rfl (by omega)
  exact ⟨by simpa [Relay.accumulate] using sum, exact'⟩

theorem plainSum_take_le (words : List Nat) (k : Nat) :
    plainSum (words.take k) ≤ plainSum words := by
  have whole := plainSum_append (words.take k) (words.drop k)
  rw [List.take_append_drop] at whole
  omega

theorem Adds.noOverflow (h : Adds summands words) (small : plainSum words < 2 ^ 31) :
    NoOverflow summands := by
  intro front front'
  have part : Adds front (words.take front.length) := by
    have eq := List.prefix_iff_eq_take.mp front'
    generalize front.length = k at eq
    rw [eq, Adds, List.map_take, List.map_take, h]
  obtain ⟨sum, exact'⟩ := part.accumulate
    (Nat.lt_of_le_of_lt (plainSum_take_le words front.length) small)
  rw [sum, exact']

theorem loopWords_adds {array : List UInt8} {offset count : Nat}
    (fits : offset + 2 * count ≤ array.length) :
    ∃ summands, loopWords array offset count = .ok summands ∧
      Adds summands (words16 ((array.drop offset).take (2 * count))) := by
  induction count with
  | zero => exact ⟨[], rfl, rfl⟩
  | succ count ih =>
      obtain ⟨summands, before, adds⟩ := ih (by omega)
      have high : load array (offset + 2 * count) = .ok array[offset + 2 * count] := by
        simp [load, List.getElem?_eq_getElem (show offset + 2 * count < array.length by omega)]
      have low : load array (offset + 2 * count + 1) = .ok array[offset + 2 * count + 1] := by
        simp [load, List.getElem?_eq_getElem (show offset + 2 * count + 1 < array.length by omega)]
      refine ⟨_, by rw [loopWords, before, high, low]; rfl, ?_⟩
      have two : (array.drop offset).take (2 * (count + 1)) =
          (array.drop offset).take (2 * count) ++
            [array[offset + 2 * count], array[offset + 2 * count + 1]] := by
        have first := List.drop_eq_getElem_cons (show offset + 2 * count < array.length by omega)
        have second :=
          List.drop_eq_getElem_cons (show offset + 2 * count + 1 < array.length by omega)
        rw [Nat.mul_add, List.take_add, List.drop_drop, first, second]
        rfl
      have even : ((array.drop offset).take (2 * count)).length % 2 = 0 := by
        rw [List.length_take, List.length_drop]
        omega
      rw [two, words16_append even]
      exact adds.append (adds_cons.mpr ⟨toInt_word _ _, rfl⟩)

/-- The loop comes to an end, with 16 bits that stand for the sum. -/
theorem foldSum_stands {sum : Int32} {n : Nat} (same : sum.toInt = n) (small : n < 2 ^ 31) :
    ∃ folded s, (∀ turns, 3 ≤ turns → foldSum turns sum = some folded) ∧
      folded.toInt = (s : Nat) ∧ Stands s n := by
  have turn {x : Int32} {m : Nat} (at' : x.toInt = m) (bound : m < 2 ^ 31) :
      ((x &&& (0xffff : Int32)) + (x >>> (16 : Int32))).toInt =
        (m % 2 ^ 16 + m / 2 ^ 16 : Nat) := by
    rw [toInt_add_of_fits (by rw [toInt_and_ffff at', toInt_shiftRight_16 at']; omega)
      (by rw [toInt_and_ffff at', toInt_shiftRight_16 at']; omega), toInt_and_ffff at',
      toInt_shiftRight_16 at']
    rfl
  have stop {x : Int32} {m : Nat} (at' : x.toInt = m) (short : m < 2 ^ 16) (turns : Nat)
      (more : 1 ≤ turns) : foldSum turns x = some x := by
    obtain ⟨turns, rfl⟩ := Nat.exists_eq_add_of_le' more
    rw [foldSum, if_pos ((and_not_ffff_eq_zero at').mpr short)]
  have go {x : Int32} {m : Nat} (at' : x.toInt = m) (long : ¬ m < 2 ^ 16) (turns : Nat)
      (more : 1 ≤ turns) :
      foldSum turns x = foldSum (turns - 1) ((x &&& (0xffff : Int32)) + (x >>> (16 : Int32))) := by
    obtain ⟨turns, rfl⟩ := Nat.exists_eq_add_of_le' more
    rw [foldSum, if_neg (fun zero => long ((and_not_ffff_eq_zero at').mp zero))]
    rfl
  by_cases short : n < 2 ^ 16
  · exact ⟨sum, n, fun turns more => stop same short turns (by omega), same, short, rfl, Iff.rfl⟩
  · have next := turn same small
    by_cases short' : n % 2 ^ 16 + n / 2 ^ 16 < 2 ^ 16
    · refine ⟨_, _, fun turns more => ?_, next, short', by omega, by omega⟩
      rw [go same short turns (by omega), stop next short' _ (by omega)]
    · have last := turn next (by omega)
      refine ⟨_, _, fun turns more => ?_, last, by omega, by omega, by omega⟩
      rw [go same short turns (by omega), go next short' _ (by omega),
        stop last (by omega) _ (by omega)]

end

/-! The checksum fields. -/

section
variable {front bytes back field : List UInt8} {k : Nat}

theorem overwrite_append_left (fits : k + field.length ≤ bytes.length) :
    overwrite (bytes ++ back) k field = overwrite bytes k field ++ back := by
  simp only [overwrite, List.append_assoc]
  rw [List.take_append_of_le_length (by omega), List.drop_append_of_le_length (by omega)]

theorem overwrite_append_right :
    overwrite (front ++ bytes) (front.length + k) field = front ++ overwrite bytes k field := by
  simp only [overwrite, List.append_assoc, Nat.add_assoc]
  rw [List.take_length_add_append, List.drop_length_add_append, List.append_assoc]

/-- A field adds its value to the sum. -/
theorem plainSum_overwrite {value : Nat} (even : k % 2 = 0) (fits : k + 2 ≤ bytes.length)
    (small : value < 2 ^ 16) :
    plainSum (words16 (overwrite bytes k (toBigEndian 2 value))) =
      plainSum (words16 (overwrite bytes k (toBigEndian 2 0))) + value := by
  have sum (v : Nat) (bound : v < 2 ^ 16) :
      plainSum (words16 (overwrite bytes k (toBigEndian 2 v))) =
        plainSum (words16 (bytes.take k)) + (v + plainSum (words16 (bytes.drop (k + 2)))) := by
    have two : toBigEndian 2 v = [UInt8.ofNat (v / 256 % 256), UInt8.ofNat (v % 256)] := rfl
    have front : (bytes.take k).length % 2 = 0 := by
      rw [List.length_take]
      omega
    rw [overwrite, toBigEndian_length, List.append_assoc, words16_append front, two,
      plainSum_append]
    simp only [List.cons_append, List.nil_append, words16, plainSum, UInt8.toNat_ofNat']
    omega
  rw [sum value small, sum 0 (by decide)]
  omega

theorem words16_four (long : bytes.length = 4) :
    words16 bytes = [bigEndian bytes / 2 ^ 16, bigEndian bytes % 2 ^ 16] := by
  obtain ⟨a, b, c, d, rfl⟩ : ∃ a b c d, bytes = [a, b, c, d] := by
    match bytes, long with
    | [a, b, c, d], _ => exact ⟨a, b, c, d, rfl⟩
  have := a.toNat_lt
  have := b.toNat_lt
  have := c.toNat_lt
  have := d.toNat_lt
  simp only [words16, bigEndian, List.foldl_cons, List.foldl_nil, List.cons.injEq, and_true]
  omega

end

/-- The addresses of the header, the protocol and the length of the segment. -/
def pseudoBytes (header : List UInt8) (length : Nat) : List UInt8 :=
  (header.drop 12).take 8 ++ ([0, 6] ++ toBigEndian 2 length)

/-- An IPv4 header, a TCP header and a payload that say what they are. -/
structure Composed (header tcp payload : List UInt8) : Prop where
  version : Field.version (header ++ tcp ++ payload) = 4
  headerLength : Field.headerLength (header ++ tcp ++ payload) = header.length
  protocol : Field.protocol (header ++ tcp ++ payload) = .tcp
  dataOffset : Field.dataOffset (header ++ tcp ++ payload) = tcp.length
  totalLength : Field.totalLength (header ++ tcp ++ payload) = (header ++ tcp ++ payload).length
  header_le : 20 ≤ header.length
  tcp_le : 20 ≤ tcp.length

/-- The accumulator was exact all the time, and was folded to 16 bits. -/
structure Summed (summands : List Int32) : Prop where
  noOverflow : NoOverflow summands
  folds : ∃ sum : Int32, (∀ turns, 3 ≤ turns → foldSum turns (accumulate summands) = some sum) ∧
    0 ≤ sum.toInt ∧ sum.toInt < 2 ^ 16

/-- The complement of the folded sum goes where a zero was added. -/
theorem verifies {summands : List Int32} {bytes : List UInt8} {k : Nat}
    (adds : Adds summands (words16 (overwrite bytes k (toBigEndian 2 0)))) (even : k % 2 = 0)
    (fits : k + 2 ≤ bytes.length) (short : bytes.length < 2 ^ 16 - 1) :
    ∃ sum : Int32, (∀ turns, 3 ≤ turns → foldSum turns (accumulate summands) = some sum) ∧
      onesSum (words16 (overwrite bytes k (toBigEndian 2 ((~~~sum).toUInt32.toNat % 2 ^ 16)))) =
        0xffff ∧ Summed summands := by
  have length (value : Nat) : (overwrite bytes k (toBigEndian 2 value)).length = bytes.length :=
    overwrite_length (by rw [toBigEndian_length]; omega)
  have bound : plainSum (words16 (overwrite bytes k (toBigEndian 2 0))) < 2 ^ 31 := by
    have le := @plainSum_le (words16 (overwrite bytes k (toBigEndian 2 0))) fun _ => word_lt
    rw [length_words16, length] at le
    omega
  obtain ⟨sum, s, folds, value, stands⟩ := foldSum_stands (adds.accumulate bound).1 bound
  have small := stands.small
  refine ⟨sum, folds, ?_, adds.noOverflow bound, sum, folds, by omega, by omega⟩
  rw [toNat_complement value small]
  refine stands.complement (fun _ => word_lt) ?_
  rw [plainSum_overwrite even fits (by omega)]

theorem putShort_eq {array : List UInt8} {offset limit index : Nat} {value : Int32}
    (fits : index + 2 ≤ limit) :
    putShort array offset limit index value =
      .ok (overwrite array (offset + index) (toBigEndian 2 (value.toUInt32.toNat % 2 ^ 16))) :=
  if_pos fits

section
variable {header tcp payload : List UInt8}

/-- The packet the constructor makes of it. -/
theorem Composed.create (c : Composed header tcp payload) :
    ∃ p tcpHeader, IPv4Packet.create (.wrap (header ++ tcp ++ payload)) = .ok p ∧
      p.raw = header ++ tcp ++ payload ∧ p.ipv4Header = Field.header (header ++ tcp ++ payload) ∧
      p.transportHeader = some (.tcp tcpHeader) ∧ tcpHeader.headerLength = tcp.length := by
  have header_le := c.header_le
  have tcp_le := c.tcp_le
  have transport : Field.transport (header ++ tcp ++ payload) = tcp ++ payload := by
    rw [Field.transport, c.headerLength, List.append_assoc, List.drop_left]
  have offset := @Field.dataOffset_transport (header ++ tcp ++ payload)
  rw [transport, c.dataOffset] at offset
  obtain ⟨tcpHeader, created⟩ := @TCPHeader.exists_create (tcp ++ payload)
    (by rw [List.length_append]; omega) (by rw [offset, List.length_append]; omega)
  obtain ⟨_, own, _, _⟩ := TCPHeader.create_eq_ok created
  refine ⟨⟨header ++ tcp ++ payload, Field.header (header ++ tcp ++ payload), some (.tcp tcpHeader)⟩,
    tcpHeader, ?_, rfl, rfl, rfl, own.trans offset⟩
  refine (IPv4Packet.create_eq_ok c.totalLength).mpr ⟨⟨?_, ?_⟩, rfl, rfl, ?_⟩
  · rw [c.headerLength]
    exact header_le
  · rw [c.headerLength, List.append_assoc, List.length_append]
    omega
  · rw [if_pos (Field.isSupported_iff.mpr ⟨c.version, by rw [c.protocol]; decide⟩)]
    refine ⟨_, rfl, ?_⟩
    rw [transport, c.protocol, IPv4Packet.createTransportHeader, created]
    rfl

theorem Composed.total_lt (c : Composed header tcp payload) :
    (header ++ tcp ++ payload).length < 2 ^ 16 := by
  have small := bigEndian_lt (((header ++ tcp ++ payload).drop 2).take 2)
  have two : (((header ++ tcp ++ payload).drop 2).take 2).length ≤ 2 := List.length_take_le _ _
  rw [← c.totalLength]
  exact Nat.lt_of_lt_of_le small (Nat.pow_le_pow_right (by decide) two)

theorem Composed.header_even (c : Composed header tcp payload) :
    header.length % 2 = 0 ∧ header.length ≤ 60 := by
  have length := c.headerLength
  unfold Field.headerLength at length
  omega

theorem Composed.tcp_even (c : Composed header tcp payload) :
    tcp.length % 2 = 0 ∧ tcp.length ≤ 60 := by
  have length := c.dataOffset
  have byte := ((header ++ tcp ++ payload).getD
    (Field.headerLength (header ++ tcp ++ payload) + 12) 0).toNat_lt
  unfold Field.dataOffset at length
  omega

/-- Only the field at `k` differs. -/
structure Refielded (k : Nat) (bytes bytes' : List UInt8) : Prop where
  length : bytes'.length = bytes.length
  before : bytes'.take k = bytes.take k
  after : bytes'.drop (k + 2) = bytes.drop (k + 2)

theorem refielded {bytes : List UInt8} {k value : Nat} (fits : k + 2 ≤ bytes.length) :
    Refielded k bytes (overwrite bytes k (toBigEndian 2 value)) := by
  have front : (bytes.take k).length = k := by
    rw [List.length_take]
    omega
  have both : (bytes.take k ++ toBigEndian 2 value).length = k + 2 := by
    rw [List.length_append, front, toBigEndian_length]
  refine ⟨overwrite_length (by rw [toBigEndian_length]; omega), ?_, ?_⟩
  · rw [overwrite, List.append_assoc, List.take_append_of_le_length (by omega), List.take_take,
      Nat.min_self]
  · rw [overwrite, toBigEndian_length, List.drop_append_of_le_length (by omega),
      List.drop_eq_nil_of_le (by omega), List.nil_append]

theorem Refielded.overwrite {bytes bytes' field : List UInt8} {k : Nat}
    (h : Refielded k bytes bytes') (two : field.length = 2) :
    Java.overwrite bytes' k field = Java.overwrite bytes k field := by
  rw [Java.overwrite, Java.overwrite, two, h.before, h.after]

/-- The checksum of the IPv4 header. -/
theorem Composed.ipv4 (c : Composed header tcp payload) :
    ∃ header' summands array, Refielded 10 header header' ∧ onesSum (words16 header') = 0xffff ∧
      (Field.header (header ++ tcp ++ payload)).summands (header ++ tcp ++ payload) =
        .ok (summands, array) ∧ Summed summands ∧
      ∀ turns, 3 ≤ turns →
        (Field.header (header ++ tcp ++ payload)).computeChecksum turns
            (header ++ tcp ++ payload) = some (.ok (header' ++ tcp ++ payload)) := by
  obtain ⟨even, short⟩ := c.header_even
  have least := c.header_le
  have length : (Field.header (header ++ tcp ++ payload)).headerLength = header.length :=
    c.headerLength
  have write (bytes : List UInt8) (value : Nat) (same : bytes.length = header.length) :
      overwrite (bytes ++ tcp ++ payload) (0 + 10) (toBigEndian 2 value) =
        overwrite bytes 10 (toBigEndian 2 value) ++ tcp ++ payload := by
    rw [Nat.zero_add, List.append_assoc, overwrite_append_left (by rw [toBigEndian_length]; omega),
      List.append_assoc]
  have zeroed := @refielded header 10 0 (by omega)
  obtain ⟨summands, added, adds⟩ := @loopWords_adds
    (overwrite header 10 (toBigEndian 2 0) ++ tcp ++ payload) 0 (header.length / 2) (by
      have whole := zeroed.length
      rw [List.append_assoc, List.length_append]
      omega)
  have all : 2 * (header.length / 2) = (overwrite header 10 (toBigEndian 2 0)).length := by
    rw [zeroed.length]
    omega
  rw [List.drop_zero, all, List.append_assoc, List.take_left] at adds
  obtain ⟨sum, folds, verified, summed⟩ := verifies adds (by decide) (by omega) (by omega)
  have collected : (Field.header (header ++ tcp ++ payload)).summands (header ++ tcp ++ payload) =
      .ok (summands, overwrite header 10 (toBigEndian 2 0) ++ tcp ++ payload) := by
    rw [IPv4Header.summands, length, putShort_eq (by omega), write header _ rfl]
    change (loopWords (overwrite header 10 (toBigEndian 2 0) ++ tcp ++ payload) 0
      (header.length / 2) >>= _) = _
    rw [added]
    rfl
  refine ⟨_, summands, _, refielded (by omega), verified, collected, summed, fun turns more => ?_⟩
  rw [IPv4Header.computeChecksum, collected]
  simp only [folds turns more, Option.map_some, length, putShort_eq (show 10 + 2 ≤ header.length by
    omega), write _ _ zeroed.length,
    zeroed.overwrite (toBigEndian_length _ _)]

theorem Composed.toInt_length (c : Composed header tcp payload) :
    (Field.header (header ++ tcp ++ payload)).length.toInt =
      (tcp.length + payload.length : Nat) := by
  have below := c.total_lt
  have total : (Field.header (header ++ tcp ++ payload)).totalLength =
      (header ++ tcp ++ payload).length := c.totalLength
  have own : (Field.header (header ++ tcp ++ payload)).headerLength = header.length :=
    c.headerLength
  rw [IPv4Header.length, total, own]
  simp only [List.length_append] at below ⊢
  rw [toInt_sub_of_fits, Int32.toInt_ofNat_of_lt (by omega), Int32.toInt_ofNat_of_lt (by omega)]
  · omega
  · rw [Int32.toInt_ofNat_of_lt (by omega), Int32.toInt_ofNat_of_lt (by omega)]
    omega
  · rw [Int32.toInt_ofNat_of_lt (by omega), Int32.toInt_ofNat_of_lt (by omega)]
    omega

/-- What the pseudo-header adds are the words of its bytes. -/
theorem Composed.pseudoHeader (c : Composed header tcp payload) :
    Adds (Field.header (header ++ tcp ++ payload)).pseudoHeader
      (words16 (pseudoBytes header (tcp.length + payload.length))) := by
  have least := c.header_le
  have below := c.total_lt
  have source : (Field.header (header ++ tcp ++ payload)).source =
      bigEndian ((header.drop 12).take 4) := by
    simp only [Field.header]
    rw [List.append_assoc, List.drop_append_of_le_length (by omega),
      List.take_append_of_le_length (by rw [List.length_drop]; omega)]
  have destination : (Field.header (header ++ tcp ++ payload)).destination =
      bigEndian ((header.drop 16).take 4) := by
    simp only [Field.header]
    rw [List.append_assoc, List.drop_append_of_le_length (by omega),
      List.take_append_of_le_length (by rw [List.length_drop]; omega)]
  have four (n : Nat) (fits : n + 4 ≤ header.length) : ((header.drop n).take 4).length = 4 := by
    rw [List.length_take, List.length_drop]
    omega
  have bound (n : Nat) (fits : n + 4 ≤ header.length) :
      bigEndian ((header.drop n).take 4) < 2 ^ 32 := by
    have small := bigEndian_lt ((header.drop n).take 4)
    rwa [four n fits] at small
  have addresses : words16 ((header.drop 12).take 8) =
      words16 ((header.drop 12).take 4) ++ words16 ((header.drop 16).take 4) := by
    have split : (header.drop 12).take (4 + 4) =
        (header.drop 12).take 4 ++ (header.drop 16).take 4 := by
      rw [List.take_add, List.drop_drop]
    rw [split, words16_append (by rw [four 12 (by omega)])]
  have rest : words16 ([0, 6] ++ toBigEndian 2 (tcp.length + payload.length)) =
      [6, tcp.length + payload.length] := by
    have two : toBigEndian 2 (tcp.length + payload.length) =
        [UInt8.ofNat ((tcp.length + payload.length) / 256 % 256),
          UInt8.ofNat ((tcp.length + payload.length) % 256)] := rfl
    simp only [List.length_append] at below
    rw [two]
    simp only [List.cons_append, List.nil_append, words16, UInt8.toNat_ofNat', List.cons.injEq,
      and_true]
    exact ⟨rfl, by omega⟩
  have half {n : Nat} (small : n < 2 ^ 32) :
      (Int32.ofNat n &&& (0xffff : Int32)).toInt = (n % 2 ^ 16 : Nat) := by
    refine toInt_of_bits ?_ (by omega)
    have bits : (Int32.ofNat n).toBitVec.toNat = n % 2 ^ 32 := BitVec.toNat_ofNat _ _
    rw [Int32.toBitVec_and, BitVec.toNat_and, bits, Nat.mod_eq_of_lt small]
    exact Nat.and_two_pow_sub_one_eq_mod n 16
  rw [pseudoBytes, words16_append (by
      rw [List.length_take, List.length_drop]
      omega),
    addresses, rest, words16_four (four 12 (by omega)), words16_four (four 16 (by omega))]
  simp only [IPv4Header.pseudoHeader, source, destination, List.cons_append, List.nil_append,
    adds_cons]
  exact ⟨toInt_highHalf (bound 12 (by omega)), half (bound 12 (by omega)),
    toInt_highHalf (bound 16 (by omega)), half (bound 16 (by omega)), rfl, c.toInt_length, rfl⟩

/-- The loop over the payload and its odd byte. -/
theorem payload_adds {front : List UInt8} {length : Int32} (own : length.toInt = payload.length) :
    ∃ words odd, loopWords (front ++ payload) front.length (length / 2).toNatClampNeg = .ok words ∧
      TCPHeader.oddWord (front ++ payload) front.length length = .ok odd ∧
      Adds (words ++ odd) (words16 payload) := by
  have small := length.toInt_lt
  have natural : length.toNatClampNeg = payload.length := by
    rw [Int32.toNatClampNeg, own, Int.toNat_natCast]
  have two : (2 : Int32).toInt = 2 := rfl
  have half : (length / 2).toNatClampNeg = payload.length / 2 := by
    have exact' : (length / 2).toInt = (payload.length / 2 : Nat) := by
      rw [Int32.toInt_div_of_ne_right _ _ (by decide), own, two]
      rfl
    rw [Int32.toNatClampNeg, exact', Int.toNat_natCast]
  have parity : length % 2 = 0 ↔ payload.length % 2 = 0 := by
    have exact' : (length % 2).toInt = (payload.length % 2 : Nat) := by
      rw [Int32.toInt_mod, own, two]
      rfl
    rw [← Int32.toInt_inj, exact', Int32.toInt_zero]
    omega
  obtain ⟨words, added, adds⟩ := @loopWords_adds (front ++ payload) front.length
    (payload.length / 2) (by rw [List.length_append]; omega)
  rw [List.drop_left] at adds
  rw [half, added]
  by_cases even : payload.length % 2 = 0
  · refine ⟨words, [], rfl, ?_, ?_⟩
    · rw [TCPHeader.oddWord, if_neg (fun odd => odd (parity.mpr even))]
    · have all : 2 * (payload.length / 2) = payload.length := by omega
      rwa [all, List.take_length, ← List.append_nil words] at adds
  · obtain ⟨before, last, rfl⟩ : ∃ before last, payload = before ++ [last] := by
      rcases List.eq_nil_or_concat payload with rfl | ⟨before, last, rfl⟩
      · exact absurd rfl even
      · exact ⟨before, last, List.concat_eq_append⟩
    rw [List.length_append, List.length_singleton] at adds even natural
    have all : 2 * ((before.length + 1) / 2) = before.length := by omega
    rw [all, List.take_left] at adds
    have there : load (front ++ (before ++ [last]))
        (front.length + length.toNatClampNeg - 1) = .ok last := by
      have index : front.length + length.toNatClampNeg - 1 = (front ++ before).length := by
        rw [List.length_append]
        omega
      rw [index, ← List.append_assoc]
      simp [load]
    refine ⟨words, [Int32.ofNat last.toNat <<< 8], rfl, ?_, ?_⟩
    · rw [TCPHeader.oddWord, if_pos (fun zero => even (by
        have := parity.mp zero
        rwa [List.length_append, List.length_singleton] at this)), there]
      rfl
    · rw [words16_append (by omega)]
      have bound := last.toNat_lt
      exact adds.append (adds_cons.mpr ⟨toInt_of_bits (bits_highByte last) (by omega), rfl⟩)

/-- The checksum of the TCP header, in an array whose IPv4 header has its own. -/
theorem Composed.transport (c : Composed header tcp payload) {header' : List UInt8}
    (same : header'.length = header.length) {h : TCPHeader} (own : h.headerLength = tcp.length) :
    ∃ tcp' summands array, Refielded 16 tcp tcp' ∧
      onesSum (words16 (pseudoBytes header (tcp.length + payload.length) ++ tcp' ++ payload)) =
        0xffff ∧
      h.summands (Field.header (header ++ tcp ++ payload)) header.length
        (header.length + tcp.length) (header' ++ tcp ++ payload) = .ok (summands, array) ∧
      Summed summands ∧
      ∀ turns, 3 ≤ turns →
        h.computeChecksum turns (Field.header (header ++ tcp ++ payload)) header.length
          (header.length + tcp.length) (header' ++ tcp ++ payload) =
            some (.ok (header' ++ tcp' ++ payload)) := by
  obtain ⟨even, short⟩ := c.tcp_even
  have header_le := c.header_le
  have tcp_le := c.tcp_le
  have below := c.total_lt
  simp only [List.length_append] at below
  have segment : (Field.header (header ++ tcp ++ payload)).length.toInt =
      (tcp.length + payload.length : Nat) := c.toInt_length
  have write (bytes : List UInt8) (value : Nat) (long : bytes.length = tcp.length) :
      overwrite (header' ++ bytes ++ payload) (header.length + 16) (toBigEndian 2 value) =
        header' ++ overwrite bytes 16 (toBigEndian 2 value) ++ payload := by
    rw [List.append_assoc, ← same, overwrite_append_right,
      overwrite_append_left (by rw [toBigEndian_length]; omega), List.append_assoc]
  have zeroed := @refielded tcp 16 0 (by omega)
  have length := zeroed.length
  -- the pseudo-header, the header, the payload
  have pseudo := c.pseudoHeader
  obtain ⟨words, added, adds⟩ := @loopWords_adds
    (header' ++ overwrite tcp 16 (toBigEndian 2 0) ++ payload) header.length (tcp.length / 2) (by
      simp only [List.length_append]
      omega)
  have all : 2 * (tcp.length / 2) = (overwrite tcp 16 (toBigEndian 2 0)).length := by omega
  rw [List.append_assoc, ← same, List.drop_left, all, List.take_left] at adds
  have payloadLength : ((Field.header (header ++ tcp ++ payload)).length -
      Int32.ofNat h.headerLength).toInt = payload.length := by
    have offset : (Int32.ofNat h.headerLength).toInt = tcp.length := by
      rw [own]
      exact Int32.toInt_ofNat_of_lt (by omega)
    rw [toInt_sub_of_fits (by rw [segment, offset]; omega) (by rw [segment, offset]; omega),
      segment, offset]
    omega
  obtain ⟨words', odd, added', last, adds'⟩ :=
    @payload_adds payload (header' ++ overwrite tcp 16 (toBigEndian 2 0)) _ payloadLength
  have place : (header' ++ overwrite tcp 16 (toBigEndian 2 0)).length =
      header.length + tcp.length := by
    rw [List.length_append, length, same]
  have twelve : (pseudoBytes header (tcp.length + payload.length)).length = 12 := by
    simp only [pseudoBytes, List.length_append, List.length_take, List.length_drop,
      toBigEndian_length, List.length_cons, List.length_nil]
    omega
  have field (value : Nat) :
      overwrite (pseudoBytes header (tcp.length + payload.length) ++ tcp ++ payload) (12 + 16)
          (toBigEndian 2 value) =
        pseudoBytes header (tcp.length + payload.length) ++
          overwrite tcp 16 (toBigEndian 2 value) ++ payload := by
    rw [List.append_assoc, ← twelve, overwrite_append_right,
      overwrite_append_left (by rw [toBigEndian_length]; omega), List.append_assoc]
  have whole : Adds
      ((Field.header (header ++ tcp ++ payload)).pseudoHeader ++ words ++ words' ++ odd)
      (words16 (overwrite (pseudoBytes header (tcp.length + payload.length) ++ tcp ++ payload)
        (12 + 16) (toBigEndian 2 0))) := by
    rw [field, words16_append (by rw [List.length_append, twelve, length]; omega),
      words16_append (by rw [twelve]), List.append_assoc _ words' odd]
    exact (pseudo.append adds).append adds'
  obtain ⟨sum, folds, verified, summed⟩ := verifies whole (by decide)
    (by simp only [List.length_append, twelve]; omega)
    (by simp only [List.length_append, twelve]; omega)
  rw [field] at verified
  have collected : h.summands (Field.header (header ++ tcp ++ payload)) header.length
      (header.length + tcp.length) (header' ++ tcp ++ payload) =
        .ok ((Field.header (header ++ tcp ++ payload)).pseudoHeader ++ words ++ words' ++ odd,
          header' ++ overwrite tcp 16 (toBigEndian 2 0) ++ payload) := by
    rw [TCPHeader.summands, own, putShort_eq (by omega), write tcp _ rfl]
    rw [place] at added' last
    rw [own] at added' last
    change (loopWords (header' ++ overwrite tcp 16 (toBigEndian 2 0) ++ payload) header.length
      (tcp.length / 2) >>= _) = _
    rw [added]
    change (loopWords (header' ++ overwrite tcp 16 (toBigEndian 2 0) ++ payload)
      (header.length + tcp.length) _ >>= _) = _
    rw [added']
    change (TCPHeader.oddWord (header' ++ overwrite tcp 16 (toBigEndian 2 0) ++ payload)
      (header.length + tcp.length) _ >>= _) = _
    rw [last]
    rfl
  refine ⟨_, _, _, refielded (by omega), verified, collected, summed, fun turns more => ?_⟩
  rw [TCPHeader.computeChecksum, collected]
  simp only [folds turns more, Option.map_some, own,
    putShort_eq (show 16 + 2 ≤ tcp.length by omega), write _ _ length,
    zeroed.overwrite (toBigEndian_length _ _)]

/-- What `computeChecksums` makes of the packet. -/
structure Checksummed (header tcp payload header' tcp' : List UInt8) : Prop where
  header : Refielded 10 header header'
  tcp : Refielded 16 tcp tcp'
  ipv4 : onesSum (words16 header') = 0xffff
  transport : onesSum (words16 (pseudoBytes header' (tcp'.length + payload.length) ++ tcp' ++
    payload)) = 0xffff

/-- The checksums verify, and no `int` overflows on the way. -/
theorem checksums_verify (c : Composed header tcp payload) :
    ∃ p h header' tcp', IPv4Packet.create (.wrap (header ++ tcp ++ payload)) = .ok p ∧
      p.transportHeader = some (.tcp h) ∧ Checksummed header tcp payload header' tcp' ∧
      (∀ turns, 3 ≤ turns →
        p.computeChecksums turns = some (.ok (header' ++ tcp' ++ payload))) ∧
      (∃ summands array, p.ipv4Header.summands (header ++ tcp ++ payload) = .ok (summands, array) ∧
        Summed summands) ∧
      ∃ summands array, h.summands p.ipv4Header header.length (header.length + tcp.length)
          (header' ++ tcp ++ payload) = .ok (summands, array) ∧ Summed summands := by
  obtain ⟨p, h, created, raw, ipv4Header, transportHeader, own⟩ := c.create
  obtain ⟨header', summands, array, kept, verified, collected, summed, computed⟩ := c.ipv4
  obtain ⟨tcp', summands', array', kept', verified', collected', summed', computed'⟩ :=
    c.transport kept.length own
  have length : p.ipv4Header.headerLength = header.length := by
    rw [ipv4Header]
    exact c.headerLength
  have addresses : pseudoBytes header' (tcp'.length + payload.length) =
      pseudoBytes header (tcp.length + payload.length) := by
    rw [pseudoBytes, pseudoBytes, kept'.length, kept.after]
  refine ⟨p, h, header', tcp', created, transportHeader,
    ⟨kept, kept', verified, addresses ▸ verified'⟩, fun turns more => ?_,
    ⟨summands, array, ipv4Header ▸ collected, summed⟩,
    summands', array', ipv4Header ▸ collected', summed'⟩
  have fits : header.length + tcp.length ≤ (header' ++ tcp ++ payload).length := by
    simp only [List.length_append, kept.length]
    omega
  rw [← ipv4Header] at computed computed'
  rw [IPv4Packet.computeChecksums, raw, computed turns more, transportHeader]
  simp only [length, TransportHeader.headerLength, own, if_pos fits,
    TransportHeader.computeChecksum]
  exact computed' turns more

theorem checksums_verify_oddPayload :
    let header : List UInt8 := [0x45, 0, 0, 41, 0, 0, 0, 0, 64, 6, 0, 0, 10, 0, 0, 2, 10, 0, 0, 1]
    let tcp : List UInt8 := [0, 80, 4, 210, 0, 0, 0, 1, 0, 0, 0, 2, 0x50, 0x18, 1, 0, 0, 0, 0, 0]
    ∃ p h header' tcp', IPv4Packet.create (.wrap (header ++ tcp ++ [0x2a])) = .ok p ∧
      p.transportHeader = some (.tcp h) ∧ Checksummed header tcp [0x2a] header' tcp' ∧
      (∀ turns, 3 ≤ turns →
        p.computeChecksums turns = some (.ok (header' ++ tcp' ++ [0x2a]))) ∧
      (∃ summands array, p.ipv4Header.summands (header ++ tcp ++ [0x2a]) = .ok (summands, array) ∧
        Summed summands) ∧
      ∃ summands array, h.summands p.ipv4Header header.length (header.length + tcp.length)
          (header' ++ tcp ++ [0x2a]) = .ok (summands, array) ∧ Summed summands :=
  checksums_verify ⟨by decide, by decide, by decide, by decide, by decide, by decide, by decide⟩

end

end QuestVdWired.Relay
