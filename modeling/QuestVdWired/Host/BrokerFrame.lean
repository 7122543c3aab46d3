import QuestVdWired.Wire.Bytes
import QuestVdWired.Wire.Codec
import QuestVdWired.Wire.Utf8

/-!
The responses of the command broker: texts cut to a bound in UTF-8, written as JSON in a frame
whose length is bounded.
-/

namespace QuestVdWired.Host.Broker
open Wire Utf8

def BROKER_PROTOCOL_VERSION : UInt16 := 6
def MAX_BROKER_FRAME : Nat := 256 * 1024
def MAX_BROKER_TEXT : Nat := 32 * 1024

def SUFFIX : List Char := "\n[broker output truncated]\n".toList

def boundedBrokerText (text : List Char) : List Char :=
  if MAX_BROKER_TEXT < len text then
    truncate text (boundaryBelow text (MAX_BROKER_TEXT - len SUFFIX)) ++ SUFFIX
  else if text.getLast? ≠ some '\n' then text ++ ['\n']
  else text

structure BrokerResponse where
  protocolVersion : UInt16
  exitCode : UInt8
  stdout : List Char
  stderr : List Char
  deriving DecidableEq

namespace BrokerResponse

def success (stdout : List Char) : BrokerResponse :=
  ⟨BROKER_PROTOCOL_VERSION, 0, boundedBrokerText stdout, []⟩

def failure (error : List Char) : BrokerResponse :=
  ⟨BROKER_PROTOCOL_VERSION, 1, [], boundedBrokerText ("Error: ".toList ++ error)⟩

end BrokerResponse

/-- How characters are written between quotation marks: at most six bytes for a control character,
two for a quotation mark or a backslash, and UTF-8 for the others. -/
structure Escaping where
  escape : Char → List UInt8
  control : ∀ c : Char, c.toNat < 0x20 → (escape c).length ≤ 6
  quote : ∀ c : Char, c = '"' ∨ c = '\\' → (escape c).length ≤ 2
  plain : ∀ c : Char, 0x20 ≤ c.toNat → c ≠ '"' → c ≠ '\\' → escape c = String.utf8EncodeChar c

def ascii (text : String) : List UInt8 := text.toList.map fun c => c.val.toUInt8

def decimal (n : Nat) : List UInt8 := (Nat.toDigits 10 n).map fun c => c.val.toUInt8

/-- `serde_json::to_vec` -/
def toVec (escaping : Escaping) (response : BrokerResponse) : List UInt8 :=
  ascii "\x7b\"protocol_version\":" ++ decimal response.protocolVersion.toNat ++
    ascii ",\"exit_code\":" ++ decimal response.exitCode.toNat ++
    ascii ",\"stdout\":\"" ++ response.stdout.flatMap escaping.escape ++
    ascii "\",\"stderr\":\"" ++ response.stderr.flatMap escaping.escape ++ ascii "\"\x7d"

inductive BrokerError where
  | frameLength (length : Nat)
  | endOfStream
  | decoding
  deriving DecidableEq

/-- What goes onto the stream. -/
def writeBrokerFrame (bytes : List UInt8) : Except BrokerError (List UInt8) :=
  if MAX_BROKER_FRAME < bytes.length then .error (.frameLength bytes.length)
  else .ok (toBigEndian 4 (UInt32.ofNat bytes.length).toNat ++ bytes)

def readBrokerFrame {V : Type*} (fromSlice : List UInt8 → Option V) (stream : List UInt8) :
    Except BrokerError (V × List UInt8) :=
  match readExact 4 stream with
  | none => .error .endOfStream
  | some (header, stream) =>
      let length := bigEndian header
      if MAX_BROKER_FRAME < length then .error (.frameLength length)
      else
        match readExact length stream with
        | none => .error .endOfStream
        | some (bytes, stream) =>
            match fromSlice bytes with
            | none => .error .decoding
            | some value => .ok (value, stream)

/-! ### The text -/

/-- The text itself with a line feed at its end, or what fits of it before the suffix. -/
theorem boundedBrokerText_cases (text : List Char) :
    (len text ≤ MAX_BROKER_TEXT ∧ text.getLast? = some '\n' ∧ boundedBrokerText text = text) ∨
    (len text ≤ MAX_BROKER_TEXT ∧ text.getLast? ≠ some '\n' ∧
      boundedBrokerText text = text ++ ['\n']) ∨
    MAX_BROKER_TEXT < len text ∧ ∃ kept, boundedBrokerText text = kept ++ SUFFIX ∧
      kept <+: text ∧ len kept + len SUFFIX ≤ MAX_BROKER_TEXT ∧
      ∀ part, part <+: text → len part + len SUFFIX ≤ MAX_BROKER_TEXT → len part ≤ len kept := by
  rw [boundedBrokerText]
  split
  · rename_i long
    have room : len SUFFIX ≤ MAX_BROKER_TEXT := by decide
    obtain ⟨first, fits, most⟩ := truncate_boundaryBelow text (MAX_BROKER_TEXT - len SUFFIX)
    refine .inr (.inr ⟨long, _, rfl, first, by omega, fun part is le => most part is (by omega)⟩)
  · rename_i short
    split
    · rename_i open_
      exact .inr (.inl ⟨Nat.not_lt.mp short, open_, rfl⟩)
    · rename_i closed
      exact .inl ⟨Nat.not_lt.mp short, not_not.mp closed, rfl⟩

theorem len_boundedBrokerText (text : List Char) :
    len (boundedBrokerText text) ≤ MAX_BROKER_TEXT + 1 := by
  obtain ⟨short, _, is⟩ | ⟨short, _, is⟩ | ⟨_, kept, is, _, fits, _⟩ := boundedBrokerText_cases text
  · rw [is]
    exact Nat.le_succ_of_le short
  · rw [is, len_append]
    exact Nat.add_le_add_right short 1
  · rw [is, len_append]
    exact Nat.le_succ_of_le fits

/-! ### The frame -/

section
variable (escaping : Escaping)

theorem escape_length_le (c : Char) : (escaping.escape c).length ≤ 6 * c.utf8Size := by
  have some_ := c.utf8Size_pos
  by_cases low : c.toNat < 0x20
  · have short := escaping.control c low
    omega
  · by_cases quote : c = '"' ∨ c = '\\'
    · have short := escaping.quote c quote
      omega
    · rw [not_or] at quote
      rw [escaping.plain c (Nat.not_lt.mp low) quote.1 quote.2, String.length_utf8EncodeChar]
      omega

theorem escaped_length_le (text : List Char) :
    (text.flatMap escaping.escape).length ≤ 6 * len text := by
  induction text with
  | nil => exact Nat.le_refl _
  | cons c rest ih =>
      have first := escape_length_le escaping c
      rw [List.flatMap_cons, List.length_append, len]
      omega

theorem toVec_length (response : BrokerResponse) : (toVec escaping response).length =
    58 + (decimal response.protocolVersion.toNat).length +
      (decimal response.exitCode.toNat).length +
      (response.stdout.flatMap escaping.escape).length +
      (response.stderr.flatMap escaping.escape).length := by
  have first : (ascii "\x7b\"protocol_version\":").length = 20 := by decide
  have second : (ascii ",\"exit_code\":").length = 13 := by decide
  have third : (ascii ",\"stdout\":\"").length = 11 := by decide
  have fourth : (ascii "\",\"stderr\":\"").length = 12 := by decide
  have last : (ascii "\"\x7d").length = 2 := by decide
  simp only [toVec, List.length_append, first, second, third, fourth, last]
  omega

/-- The responses that the broker makes. -/
def Made (response : BrokerResponse) : Prop :=
  ∃ text, response = .success text ∨ response = .failure text

theorem made_length_le {response : BrokerResponse} (made : Made response) :
    (toVec escaping response).length ≤ MAX_BROKER_FRAME := by
  have digits : (decimal BROKER_PROTOCOL_VERSION.toNat).length = 1 ∧
      (decimal (0 : UInt8).toNat).length = 1 ∧ (decimal (1 : UInt8).toNat).length = 1 := by
    decide +kernel
  -- six bytes for each of the text, and one for a line feed that is added
  have room : 60 + 6 * (MAX_BROKER_TEXT + 1) ≤ MAX_BROKER_FRAME := by decide
  obtain ⟨text, rfl | rfl⟩ := made
  · have bounded := len_boundedBrokerText text
    have escaped := escaped_length_le escaping (boundedBrokerText text)
    rw [toVec_length]
    simp only [BrokerResponse.success, digits.1, digits.2.1, List.flatMap_nil, List.length_nil]
    omega
  · have bounded := len_boundedBrokerText ("Error: ".toList ++ text)
    have escaped := escaped_length_le escaping (boundedBrokerText ("Error: ".toList ++ text))
    rw [toVec_length]
    simp only [BrokerResponse.failure, digits.1, digits.2.2, List.flatMap_nil, List.length_nil]
    omega

end

/-- A frame that is written is read back, with what comes behind it. -/
theorem readBrokerFrame_writeBrokerFrame {V : Type*} {fromSlice : List UInt8 → Option V}
    {bytes frame later : List UInt8} {value : V} (wrote : writeBrokerFrame bytes = .ok frame)
    (decodes : fromSlice bytes = some value) :
    readBrokerFrame fromSlice (frame ++ later) = .ok (value, later) := by
  rw [writeBrokerFrame] at wrote
  split at wrote
  · cases wrote
  · rename_i fits
    cases wrote
    have small : bytes.length < 256 ^ 4 := Nat.lt_of_le_of_lt (Nat.not_lt.mp fits) (by decide)
    have length : (UInt32.ofNat bytes.length).toNat = bytes.length :=
      UInt32.toNat_ofNat_of_lt' small
    have header : bigEndian (toBigEndian 4 bytes.length) = bytes.length :=
      bigEndian_toBigEndian_of_lt small
    rw [readBrokerFrame, length, List.append_assoc,
      readExact_append_of_length (toBigEndian_length ..)]
    simp only [header, if_neg fits, readExact_append_of_length rfl, decodes]

/-- For every text, what is sent is the text with a line feed at its end, or the longest part from
its start that fits before the suffix. However its characters are escaped, the response fits in a
frame, and what reads the JSON that was written reads the response back from the frame. -/
theorem broker_response_fits (escaping : Escaping) (fromSlice : List UInt8 → Option BrokerResponse)
    {response : BrokerResponse} (made : Made response)
    (readsBack : fromSlice (toVec escaping response) = some response) :
    (∀ text,
      (len text ≤ MAX_BROKER_TEXT ∧ text.getLast? = some '\n' ∧ boundedBrokerText text = text) ∨
      (len text ≤ MAX_BROKER_TEXT ∧ text.getLast? ≠ some '\n' ∧
        boundedBrokerText text = text ++ ['\n']) ∨
      MAX_BROKER_TEXT < len text ∧ ∃ kept, boundedBrokerText text = kept ++ SUFFIX ∧
        kept <+: text ∧ len kept + len SUFFIX ≤ MAX_BROKER_TEXT ∧
        ∀ part, part <+: text → len part + len SUFFIX ≤ MAX_BROKER_TEXT → len part ≤ len kept) ∧
    (toVec escaping response).length ≤ MAX_BROKER_FRAME ∧
    ∃ frame, writeBrokerFrame (toVec escaping response) = .ok frame ∧
      ∀ later, readBrokerFrame fromSlice (frame ++ later) = .ok (response, later) := by
  have fits := made_length_le escaping made
  refine ⟨boundedBrokerText_cases, fits, _, if_neg (Nat.not_lt.mpr fits), fun later => ?_⟩
  exact readBrokerFrame_writeBrokerFrame (if_neg (Nat.not_lt.mpr fits)) readsBack

def hexDigit (n : Nat) : UInt8 := (Nat.digitChar n).val.toUInt8

/-- The escapes of `serde_json`. -/
def escapeChar (c : Char) : List UInt8 :=
  if c = '"' then ascii "\\\""
  else if c = '\\' then ascii "\\\\"
  else if c = '\n' then ascii "\\n"
  else if c = '\r' then ascii "\\r"
  else if c = '\t' then ascii "\\t"
  else if c.toNat = 8 then ascii "\\b"
  else if c.toNat = 12 then ascii "\\f"
  else if c.toNat < 0x20 then
    ascii "\\u00" ++ [hexDigit (c.toNat / 16), hexDigit (c.toNat % 16)]
  else String.utf8EncodeChar c

theorem escapeChar_control (c : Char) (low : c.toNat < 0x20) : (escapeChar c).length ≤ 6 := by
  have short {b : Prop} [Decidable b] {bytes bytes' : List UInt8} (first : bytes.length ≤ 6)
      (second : bytes'.length ≤ 6) : (if b then bytes else bytes').length ≤ 6 := by
    split
    · exact first
    · exact second
  unfold escapeChar
  refine short (by decide) (short (by decide) (short (by decide) (short (by decide)
    (short (by decide) (short (by decide) (short (by decide) ?_))))))
  rw [if_pos low, List.length_append]
  exact Nat.le_of_eq (by simp [ascii])

theorem escapeChar_quote (c : Char) (quote : c = '"' ∨ c = '\\') :
    (escapeChar c).length ≤ 2 := by
  rcases quote with rfl | rfl
  · decide
  · decide

theorem escapeChar_plain (c : Char) (high : 0x20 ≤ c.toNat) (quote : c ≠ '"')
    (backslash : c ≠ '\\') : escapeChar c = String.utf8EncodeChar c := by
  have feed : c ≠ '\n' := by
    rintro rfl
    exact absurd high (by decide)
  have back : c ≠ '\r' := by
    rintro rfl
    exact absurd high (by decide)
  have tab : c ≠ '\t' := by
    rintro rfl
    exact absurd high (by decide)
  rw [escapeChar, if_neg quote, if_neg backslash, if_neg feed, if_neg back, if_neg tab,
    if_neg (by omega), if_neg (by omega), if_neg (by omega)]

def serdeJson : Escaping := ⟨escapeChar, escapeChar_control, escapeChar_quote, escapeChar_plain⟩

/-- A reader of one response. -/
def readsOnly (response : BrokerResponse) (bytes : List UInt8) : Option BrokerResponse :=
  if bytes = toVec serdeJson response then some response else none

theorem len_replicate (n : Nat) (c : Char) : len (List.replicate n c) = n * c.utf8Size := by
  induction n with
  | zero => rw [List.replicate_zero, len, Nat.zero_mul]
  | succ n ih => rw [List.replicate_succ, len, ih, Nat.succ_mul, Nat.add_comm]

/-- A short text, and one of characters of three bytes that is cut two bytes below the bound. -/
theorem broker_response_fits_version :
    (∃ frame, writeBrokerFrame (toVec serdeJson (.success "\"GNR4\"".toList)) = .ok frame ∧
      readBrokerFrame (readsOnly (.success "\"GNR4\"".toList)) frame =
        .ok (.success "\"GNR4\"".toList, [])) ∧
    boundedBrokerText (List.replicate 20000 '€') = List.replicate 10913 '€' ++ SUFFIX ∧
    ∃ frame, writeBrokerFrame (toVec serdeJson (.success (List.replicate 20000 '€'))) = .ok frame ∧
      readBrokerFrame (readsOnly (.success (List.replicate 20000 '€'))) frame =
        .ok (.success (List.replicate 20000 '€'), []) := by
  have sent (text : List Char) := broker_response_fits serdeJson (readsOnly (.success text))
    ⟨text, .inl rfl⟩ (if_pos rfl)
  have read (text : List Char) : ∃ frame,
      writeBrokerFrame (toVec serdeJson (.success text)) = .ok frame ∧
        readBrokerFrame (readsOnly (.success text)) frame = .ok (.success text, []) := by
    obtain ⟨_, _, frame, wrote, reads⟩ := sent text
    exact ⟨frame, wrote, by simpa using reads []⟩
  refine ⟨read _, ?_, read _⟩
  have size (n : Nat) : len (List.replicate n '€') = n * 3 := len_replicate n '€'
  have suffix : len SUFFIX = 27 := by decide
  obtain ⟨short, _⟩ | ⟨short, _⟩ | ⟨_, kept, is, first, fits, most⟩ :=
    (sent []).1 (List.replicate 20000 '€')
  · rw [size] at short
    exact absurd short (by decide)
  · rw [size] at short
    exact absurd short (by decide)
  · obtain ⟨_, only⟩ := List.prefix_replicate_iff.mp first
    have begins : List.replicate 10913 '€' <+: List.replicate 20000 '€' := by
      rw [List.prefix_replicate_iff, List.length_replicate]
      exact ⟨by decide, rfl⟩
    have least := most (List.replicate 10913 '€') begins (by rw [size, suffix]; decide)
    rw [only, size] at fits least
    rw [size] at least
    have count : kept.length = 10913 := by
      simp only [suffix, MAX_BROKER_TEXT] at fits
      omega
    rw [is, only, count]

end QuestVdWired.Host.Broker
