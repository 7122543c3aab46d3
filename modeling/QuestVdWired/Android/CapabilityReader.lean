import QuestVdWired.Wire.Json

/-!
What a `HELLO_ACK` says about metrics: `helloAckSupportsMetrics` and the `JsonCapabilityReader`
behind it. The reader's position is the input that is left to be read.
-/

namespace QuestVdWired.Android
open Wire Json

def MAX_JSON_DEPTH : Nat := 32

/-- The zeros of the decimal digits that are one code unit. -/
def zeros : List CodeUnit :=
  [0x0030, 0x0660, 0x06F0, 0x07C0, 0x0966, 0x09E6, 0x0A66, 0x0AE6, 0x0B66, 0x0BE6, 0x0C66, 0x0CE6,
    0x0D66, 0x0DE6, 0x0E50, 0x0ED0, 0x0F20, 0x1040, 0x1090, 0x17E0, 0x1810, 0x1946, 0x19D0, 0x1A80,
    0x1A90, 0x1B50, 0x1BB0, 0x1C40, 0x1C50, 0xA620, 0xA8D0, 0xA900, 0xA9D0, 0xA9F0, 0xAA50, 0xABF0,
    0xFF10]

/-- `Char.isDigit` -/
def isDigit (c : CodeUnit) : Bool := zeros.any fun zero => zero ≤ c && c < zero + 10

/-- `Char.digitToIntOrNull` with radix 16, which knows full-width letters too. -/
def digitToIntOrNull (c : CodeUnit) : Option Nat :=
  match zeros.find? fun zero => zero ≤ c && c < zero + 10 with
  | some zero => some (c.toNat - zero.toNat)
  | none =>
      if ch 'A' ≤ c && c ≤ ch 'F' then some (c.toNat - 55)
      else if ch 'a' ≤ c && c ≤ ch 'f' then some (c.toNat - 87)
      else if 0xFF21 ≤ c && c ≤ 0xFF26 then some (c.toNat - 0xFF21 + 10)
      else if 0xFF41 ≤ c && c ≤ 0xFF46 then some (c.toNat - 0xFF41 + 10)
      else none

/-- The digits of Kotlin. -/
def unicodeDigits : Digits := ⟨isDigit, digitToIntOrNull⟩

namespace JsonCapabilityReader

/-- What the reader has found so far. -/
structure Found where
  capabilitiesSeen : Bool
  capabilityFound : Bool
  deriving DecidableEq, Repr

def skipWhitespace (input : List CodeUnit) : List CodeUnit := input.dropWhile isBlank

/-- The loop of `readString`, behind the quotation mark. -/
def readChars (result : List CodeUnit) : List CodeUnit → Option (List CodeUnit × List CodeUnit)
  | [] => none
  | character :: input =>
      if character = ch '"' then some (result, input)
      else if character = ch '\\' then
        match input with
        | [] => none
        | escape :: input =>
            match escaped escape with
            | some value => readChars (result ++ [value]) input
            | none =>
                if escape = ch 'u' then
                  match input with
                  | a :: b :: c :: d :: input =>
                      match digitToIntOrNull a, digitToIntOrNull b, digitToIntOrNull c,
                          digitToIntOrNull d with
                      | some x, some y, some z, some w =>
                          let codePoint := ((x * 16 + y) * 16 + z) * 16 + w
                          readChars (result ++ [UInt16.ofNat codePoint]) input
                      | _, _, _, _ => none
                  | _ => none
                else none
      else if character < ch ' ' then none
      else readChars (result ++ [character]) input

def readString (input : List CodeUnit) : Option (List CodeUnit × List CodeUnit) :=
  match consume (ch '"') input with
  | none => none
  | some input => readChars [] input

def startsWithDigit : List CodeUnit → Bool
  | [] => false
  | c :: _ => isDigit c

/-- At least one digit, and then as many as there are. -/
def readDigits (input : List CodeUnit) : Option (List CodeUnit) :=
  if startsWithDigit input then some (input.dropWhile isDigit) else none

def readInt (input : List CodeUnit) : Option (List CodeUnit) :=
  match consume (ch '0') input with
  | some input => if startsWithDigit input then none else some input
  | none =>
      match input with
      | [] => none
      | c :: _ =>
          if ch '1' ≤ c ∧ c ≤ ch '9' then some (input.dropWhile isDigit) else none

def readFrac (input : List CodeUnit) : Option (List CodeUnit) :=
  match consume (ch '.') input with
  | some input => readDigits input
  | none => some input

def readExp : List CodeUnit → Option (List CodeUnit)
  | [] => some []
  | c :: input =>
      if c = ch 'e' ∨ c = ch 'E' then
        match input with
        | [] => none
        | sign :: rest =>
            readDigits (if sign = ch '+' ∨ sign = ch '-' then rest else sign :: rest)
      else some (c :: input)

def readNumber (input : List CodeUnit) : Option (List CodeUnit) :=
  ((readInt ((consume (ch '-') input).getD input)).bind readFrac).bind readExp

def readLiteral (value : String) (input : List CodeUnit) : Option (List CodeUnit) :=
  if (value.toList.map ch).isPrefixOf input then some (input.drop value.toList.length) else none

/-- A capability, and whether the one that is wanted was found before or is this one. -/
def readCapability (wantedCapability : List CodeUnit) (found : Bool) (input : List CodeUnit) :
    Option (Bool × List CodeUnit) :=
  match readString input with
  | none => none
  | some (capability, input) => some (if capability = wantedCapability then true else found, input)

def readCapabilities (wantedCapability : List CodeUnit) (depth : Nat) (input : List CodeUnit) :
    Option (Bool × List CodeUnit) :=
  if MAX_JSON_DEPTH < depth then none
  else
    readBracketed isBlank (ch ',') (ch '[') (ch ']') (readCapability wantedCapability) false input

attribute [local grind =] readChars

section
variable (wantedCapability : List CodeUnit) (readValue : List CodeUnit → Option (List CodeUnit))

/-- A member of an object at that depth. `readValue` reads at the next. -/
def readMember (depth : Nat) (root : Bool) (found : Found) (input : List CodeUnit) :
    Option (Found × List CodeUnit) :=
  match readString input with
  | none => none
  | some (key, input) =>
      match consume (ch ':') (skipWhitespace input) with
      | none => none
      | some input =>
          let input := skipWhitespace input
          if root ∧ key = "capabilities".toList.map ch then
            if found.capabilitiesSeen then none
            else
              match readCapabilities wantedCapability (depth + 1) input with
              | none => none
              | some (capabilityFound, input) => some (⟨true, capabilityFound⟩, input)
          else (readValue input).map fun input => (found, input)

def readObject (depth : Nat) (root : Bool) (found : Found) (input : List CodeUnit) :
    Option (Found × List CodeUnit) :=
  if MAX_JSON_DEPTH < depth then none
  else
    readBracketed isBlank (ch ',') (ch '{') (ch '}')
      (readMember wantedCapability readValue depth root) found input

def readElement (_ : Unit) (input : List CodeUnit) : Option (Unit × List CodeUnit) :=
  (readValue input).map fun input => ((), input)

def readArray (depth : Nat) (input : List CodeUnit) : Option (List CodeUnit) :=
  if MAX_JSON_DEPTH < depth then none
  else
    (readBracketed isBlank (ch ',') (ch '[') (ch ']') (readElement readValue) () input).map
      Prod.snd

end

def readValue (wantedCapability : List CodeUnit) (depth : Nat) (input : List CodeUnit) :
    Option (List CodeUnit) :=
  if _shallow : MAX_JSON_DEPTH < depth then none
  else
    let nested := fun input => readValue wantedCapability (depth + 1) input
    match input with
    | [] => none
    | c :: _ =>
        if c = ch '{' then
          (readObject wantedCapability nested depth false ⟨false, false⟩ input).map Prod.snd
        else if c = ch '[' then readArray nested depth input
        else if c = ch '"' then (readString input).map Prod.snd
        else if c = ch 't' then readLiteral "true" input
        else if c = ch 'f' then readLiteral "false" input
        else if c = ch 'n' then readLiteral "null" input
        else if c = ch '-' ∨ ch '0' ≤ c ∧ c ≤ ch '9' then readNumber input
        else none
  termination_by MAX_JSON_DEPTH + 1 - depth

def read (wantedCapability : List CodeUnit) (input : List CodeUnit) : Option Bool :=
  match readObject wantedCapability (readValue wantedCapability 1) 0 true ⟨false, false⟩
      (skipWhitespace input) with
  | none => none
  | some (found, input) =>
      if skipWhitespace input = [] then some found.capabilityFound else none

attribute [local grind =] readValue

end JsonCapabilityReader

/-- A decoder that reports what is malformed. -/
def decodeUtf8 (payload : List UInt8) : Option String :=
  String.fromUTF8? ⟨payload.toArray⟩

def helloAckSupportsMetrics (payload : List UInt8) : Bool :=
  if payload.isEmpty then false
  else
    match decodeUtf8 payload with
    | none => false
    | some text =>
        JsonCapabilityReader.read ("metrics_v1".toList.map ch) (text.toList.flatMap utf16) ==
          some true

end QuestVdWired.Android
