import QuestVdWired.Wire.Separated

/-!
The JSON texts of RFC 8259, as UTF-16 code units. What counts as a digit is a parameter.
-/

namespace Wire.Json

abbrev CodeUnit := UInt16

/-- A character of one code unit. -/
def ch (c : Char) : CodeUnit := c.val.toUInt16

/-- The code units of a character. -/
def utf16 (c : Char) : List CodeUnit :=
  if c.val < 0x10000 then [c.val.toUInt16]
  else
    let n := c.val - 0x10000
    [(0xD800 + n / 0x400).toUInt16, (0xDC00 + n % 0x400).toUInt16]

def isBlank (c : CodeUnit) : Bool :=
  c = ch ' ' || c = ch '\t' || c = ch '\r' || c = ch '\n'

/-- What stands for a digit, and what for a hexadecimal one. -/
structure Digits where
  decimal : CodeUnit → Bool
  hexadecimal : CodeUnit → Option Nat

/-- The digits of the standard. -/
def asciiDigits : Digits where
  decimal c := ch '0' ≤ c && c ≤ ch '9'
  hexadecimal c :=
    if ch '0' ≤ c && c ≤ ch '9' then some (c.toNat - 48)
    else if ch 'A' ≤ c && c ≤ ch 'F' then some (c.toNat - 55)
    else if ch 'a' ≤ c && c ≤ ch 'f' then some (c.toNat - 87)
    else none

/-- What a character behind a backslash stands for. -/
def escaped (c : CodeUnit) : Option CodeUnit :=
  if c = ch '"' ∨ c = ch '\\' ∨ c = ch '/' then some c
  else if c = ch 'b' then some 0x08
  else if c = ch 'f' then some 0x0C
  else if c = ch 'n' then some 0x0A
  else if c = ch 'r' then some 0x0D
  else if c = ch 't' then some 0x09
  else none

section
variable (digits : Digits)

/-- What stands between the quotation marks, and what it is the text of. -/
inductive Chars : List CodeUnit → List CodeUnit → Prop
  | nil : Chars [] []
  | plain {c : CodeUnit} {text name : List CodeUnit} (printable : ch ' ' ≤ c)
      (quotation : c ≠ ch '"') (backslash : c ≠ ch '\\') (later : Chars text name) :
      Chars (c :: text) (c :: name)
  | escape {c value : CodeUnit} {text name : List CodeUnit} (known : escaped c = some value)
      (later : Chars text name) : Chars (ch '\\' :: c :: text) (value :: name)
  | unicode {a b c d : CodeUnit} {x y z w : Nat} {text name : List CodeUnit}
      (first : digits.hexadecimal a = some x) (second : digits.hexadecimal b = some y)
      (third : digits.hexadecimal c = some z) (fourth : digits.hexadecimal d = some w)
      (later : Chars text name) :
      Chars (ch '\\' :: ch 'u' :: a :: b :: c :: d :: text)
        (UInt16.ofNat (((x * 16 + y) * 16 + z) * 16 + w) :: name)

def JString (text name : List CodeUnit) : Prop :=
  ∃ chars, Chars digits chars name ∧ text = ch '"' :: (chars ++ [ch '"'])

/-- At least one digit. -/
def Run (text : List CodeUnit) : Prop := text ≠ [] ∧ ∀ c ∈ text, digits.decimal c

def Int (text : List CodeUnit) : Prop :=
  text = [ch '0'] ∨
    ∃ c rest, text = c :: rest ∧ ch '1' ≤ c ∧ c ≤ ch '9' ∧ ∀ d ∈ rest, digits.decimal d

def Frac (text : List CodeUnit) : Prop :=
  text = [] ∨ ∃ rest, text = ch '.' :: rest ∧ Run digits rest

def Exp (text : List CodeUnit) : Prop :=
  text = [] ∨ ∃ e sign rest, text = e :: (sign ++ rest) ∧ (e = ch 'e' ∨ e = ch 'E') ∧
    (sign = [] ∨ sign = [ch '+'] ∨ sign = [ch '-']) ∧ Run digits rest

def Number (text : List CodeUnit) : Prop :=
  ∃ minus int frac exp, text = minus ++ (int ++ (frac ++ exp)) ∧ (minus = [] ∨ minus = [ch '-']) ∧
    Int digits int ∧ Frac digits frac ∧ Exp digits exp

/-- A name, a colon and a value. -/
def Member (Nested : List CodeUnit → Prop) (text : List CodeUnit)
    (member : List CodeUnit × List CodeUnit) : Prop :=
  ∃ name w w', JString digits name member.1 ∧ (∀ c ∈ w, isBlank c) ∧ (∀ c ∈ w', isBlank c) ∧
    Nested member.2 ∧ text = name ++ (w ++ ch ':' :: (w' ++ member.2))

def Object (Nested : List CodeUnit → Prop) : List CodeUnit → List (List CodeUnit × List CodeUnit) →
    Prop :=
  Bracketed isBlank (ch ',') (ch '{') (ch '}') (Member digits Nested)

def Array (Nested : List CodeUnit → Prop) : List CodeUnit → List Unit → Prop :=
  Bracketed isBlank (ch ',') (ch '[') (ch ']') fun text _ => Nested text

/-- An array of strings, and the texts of these. -/
def Strings : List CodeUnit → List (List CodeUnit) → Prop :=
  Bracketed isBlank (ch ',') (ch '[') (ch ']') (JString digits)

def literals : List (List CodeUnit) :=
  ["true".toList.map ch, "false".toList.map ch, "null".toList.map ch]

inductive ValueOf (Nested : List CodeUnit → Prop) : List CodeUnit → Prop
  | literal {text : List CodeUnit} (known : text ∈ literals) : ValueOf Nested text
  | string {text name : List CodeUnit} (string : JString digits text name) : ValueOf Nested text
  | number {text : List CodeUnit} (number : Number digits text) : ValueOf Nested text
  | array {text : List CodeUnit} {items : List Unit} (array : Array Nested text items) :
      ValueOf Nested text
  | object {text : List CodeUnit} {members : List (List CodeUnit × List CodeUnit)}
      (object : Object digits Nested text members) : ValueOf Nested text

/-- A value of so many levels at most. -/
def Value : Nat → List CodeUnit → Prop
  | 0 => fun _ => False
  | levels + 1 => ValueOf digits (Value levels)

attribute [local grind =] Value

theorem strings_array {levels : Nat} {text : List CodeUnit} {names : List (List CodeUnit)}
    (strings : Strings digits text names) : Value digits (levels + 2) text :=
  .array (strings.map (fun _ => ()) fun string => .string string)

end

section
variable {digits digits' : Digits} {text : List CodeUnit}

/-! ### The same number with other digits -/

theorem Run.imp (run : Run digits text)
    (each : ∀ c ∈ text, digits.decimal c → digits'.decimal c) : Run digits' text :=
  ⟨run.1, fun c member => each c member (run.2 c member)⟩

theorem Int.imp (int : Int digits text)
    (each : ∀ c ∈ text, digits.decimal c → digits'.decimal c) : Int digits' text := by
  obtain rfl | ⟨c, rest, rfl, low, high, run⟩ := int
  · exact .inl rfl
  · exact .inr ⟨c, rest, rfl, low, high,
      fun d member => each d (List.mem_cons_of_mem _ member) (run d member)⟩

theorem Frac.imp (frac : Frac digits text)
    (each : ∀ c ∈ text, digits.decimal c → digits'.decimal c) : Frac digits' text := by
  obtain rfl | ⟨rest, rfl, run⟩ := frac
  · exact .inl rfl
  · exact .inr ⟨rest, rfl, run.imp fun c member => each c (List.mem_cons_of_mem _ member)⟩

theorem Exp.imp (exp : Exp digits text)
    (each : ∀ c ∈ text, digits.decimal c → digits'.decimal c) : Exp digits' text := by
  obtain rfl | ⟨e, sign, rest, rfl, known, signed, run⟩ := exp
  · exact .inl rfl
  · exact .inr ⟨e, sign, rest, rfl, known, signed, run.imp fun c member =>
      each c (List.mem_cons_of_mem _ (List.mem_append_right _ member))⟩

theorem Number.imp (number : Number digits text)
    (each : ∀ c ∈ text, digits.decimal c → digits'.decimal c) : Number digits' text := by
  obtain ⟨minus, int, frac, exp, rfl, sign, whole, fraction, exponent⟩ := number
  simp only [List.mem_append] at each
  exact ⟨minus, int, frac, exp, rfl, sign, whole.imp fun c member => each c (.inr (.inl member)),
    fraction.imp fun c member => each c (.inr (.inr (.inl member))),
    exponent.imp fun c member => each c (.inr (.inr (.inr member)))⟩

/-- What stands in a number besides the digits. -/
def marks : List CodeUnit := "+-.eE".toList.map ch

theorem Number.mem (number : Number digits text) {c : CodeUnit} (member : c ∈ text) :
    digits.decimal c ∨ asciiDigits.decimal c ∨ c ∈ marks := by
  obtain ⟨minus, int, frac, exp, rfl, sign, whole, fraction, exponent⟩ := number
  simp only [List.mem_append] at member
  rcases member with member | member | member | member
  · rcases sign with rfl | rfl
    · cases member
    · rw [List.mem_singleton.mp member]
      exact .inr (by decide)
  · obtain rfl | ⟨d, rest, rfl, low, high, run⟩ := whole
    · rw [List.mem_singleton.mp member]
      exact .inr (by decide)
    · rcases List.mem_cons.mp member with rfl | member
      · have first : ch '0' ≤ c := UInt16.le_trans (by decide) low
        exact .inr (.inl (by simp [asciiDigits, first, high]))
      · exact .inl (run c member)
  · obtain rfl | ⟨rest, rfl, run⟩ := fraction
    · cases member
    · rcases List.mem_cons.mp member with rfl | member
      · exact .inr (by decide)
      · exact .inl (run.2 c member)
  · obtain rfl | ⟨e, sign', rest, rfl, known, signed, run⟩ := exponent
    · cases member
    · rcases List.mem_cons.mp member with rfl | member
      · rcases known with rfl | rfl <;> exact .inr (by decide)
      · rcases List.mem_append.mp member with member | member
        · rcases signed with rfl | rfl | rfl
          · cases member
          · rw [List.mem_singleton.mp member]
            exact .inr (by decide)
          · rw [List.mem_singleton.mp member]
            exact .inr (by decide)
        · exact .inl (run.2 c member)

end
end Wire.Json
