import QuestVdWired.Android.CapabilityReader

/-!
The `JsonCapabilityReader` reads the JSON texts of Kotlin's digits: each of its functions takes what
the grammar has for it, and all of it where the text goes on with what may stand behind a value.
-/

namespace QuestVdWired.Android
open Wire Json

/-- What may stand behind a value. -/
def Stop (c : CodeUnit) : Prop := isBlank c ∨ c = ch ',' ∨ c = ch ']' ∨ c = ch '}'

theorem isDigit_stop {c : CodeUnit} (h : Stop c) : isDigit c = false := by
  rcases h with blank | rfl | rfl | rfl
  · simp only [isBlank, Bool.or_eq_true, decide_eq_true_eq] at blank
    rcases blank with ((rfl | rfl) | rfl) | rfl <;> decide
  · decide
  · decide
  · decide

theorem stop_ne {c d : CodeUnit} (h : Stop c)
    (other : isBlank d = false ∧ d ≠ ch ',' ∧ d ≠ ch ']' ∧ d ≠ ch '}') : c ≠ d := by
  rintro rfl
  obtain ⟨solid, comma, bracket, brace⟩ := other
  simp [Stop, solid, comma, bracket, brace] at h

theorem isDigit_ascii {c : CodeUnit} (low : ch '0' ≤ c) (high : c ≤ ch '9') : isDigit c = true := by
  have high' : c < 0x0030 + 10 := UInt16.lt_of_le_of_lt high (by decide)
  rw [isDigit, List.any_eq_true]
  refine ⟨0x0030, by simp [zeros], ?_⟩
  rw [Bool.and_eq_true, decide_eq_true_eq, decide_eq_true_eq]
  exact ⟨low, high'⟩

namespace JsonCapabilityReader

theorem readChars_sound {result name input rest : List CodeUnit}
    (read : readChars result input = some (name, rest)) :
    ∃ text later, Chars unicodeDigits text later ∧ name = result ++ later ∧
      input = text ++ ch '"' :: rest := by
  fun_induction readChars result input <;> try contradiction
  case case2 result input =>
      cases read
      exact ⟨[], [], .nil, (List.append_nil _).symm, rfl⟩
  case case4 result escape input value known _ ih =>
      obtain ⟨text, later, chars, rfl, rfl⟩ := ih read
      exact ⟨_, _, .escape known chars, List.append_assoc .., rfl⟩
  case case5 result a b c d input x y z w fourth third second first codePoint _ _ ih =>
      obtain ⟨text, later, chars, rfl, rfl⟩ := ih read
      exact ⟨_, _, .unicode first second third fourth chars, List.append_assoc .., rfl⟩
  case case10 result character input quotation backslash control ih =>
      obtain ⟨text, later, chars, rfl, rfl⟩ := ih read
      exact ⟨_, _, .plain (UInt16.not_lt.mp control) quotation backslash chars,
        List.append_assoc .., rfl⟩

theorem escaped_u : escaped (ch 'u') = none := by decide

theorem readChars_complete {result text later rest : List CodeUnit}
    (chars : Chars unicodeDigits text later) :
    readChars result (text ++ ch '"' :: rest) = some (result ++ later, rest) := by
  have apart : ch '\\' ≠ ch '"' := by decide
  induction chars generalizing result with
  | nil =>
      rw [List.nil_append, readChars.eq_def]
      simp only [if_pos, List.append_nil]
  | plain printable quotation backslash later ih =>
      rw [List.cons_append, readChars.eq_def]
      simp only [if_neg quotation, if_neg backslash, if_neg (UInt16.not_lt.mpr printable)]
      rw [ih, List.append_assoc, List.singleton_append]
  | escape known later ih =>
      rw [List.cons_append, List.cons_append, readChars.eq_def]
      simp only [if_neg apart, if_pos, known]
      rw [ih, List.append_assoc, List.singleton_append]
  | unicode first second third fourth later ih =>
      simp only [unicodeDigits] at first second third fourth
      simp only [List.cons_append]
      rw [readChars.eq_def]
      simp only [if_neg apart, if_pos, escaped_u, first, second, third, fourth]
      rw [ih, List.append_assoc, List.singleton_append]

/-- A string says itself where it ends, so nothing is asked of what follows. -/
theorem readString_eq_some {input name rest : List CodeUnit} :
    readString input = some (name, rest) ↔
      ∃ text, JString unicodeDigits text name ∧ input = text ++ rest := by
  constructor
  · intro read
    unfold readString at read
    split at read
    · cases read
    · rename_i input' opened
      obtain ⟨text, later, chars, rfl, rfl⟩ := readChars_sound read
      refine ⟨ch '"' :: (text ++ [ch '"']), ⟨text, chars, rfl⟩, ?_⟩
      rw [consume_eq_some.mp opened, List.cons_append, List.append_assoc, List.singleton_append]
  · rintro ⟨_, ⟨text, chars, rfl⟩, rfl⟩
    rw [readString, List.cons_append, List.append_assoc, List.singleton_append, consume, if_pos rfl]
    exact readChars_complete chars

theorem readString_append {text name : List CodeUnit} (string : JString unicodeDigits text name)
    (rest : List CodeUnit) : readString (text ++ rest) = some (name, rest) :=
  readString_eq_some.mpr ⟨text, string, rfl⟩

/-! ### Numbers -/

theorem dropWhile_digits {text rest : List CodeUnit} (run : ∀ c ∈ text, isDigit c)
    (ends : ∀ c ∈ rest.head?, isDigit c = false) : (text ++ rest).dropWhile isDigit = rest := by
  rw [List.dropWhile_append_of_pos run]
  cases rest with
  | nil => rfl
  | cons c rest => rw [List.dropWhile_cons_of_neg (by simp [ends c rfl])]

theorem digits_dropWhile (input : List CodeUnit) :
    ∃ text, (∀ c ∈ text, isDigit c) ∧ input = text ++ input.dropWhile isDigit :=
  blank_dropWhile isDigit input

theorem readDigits_sound {input rest : List CodeUnit} (read : readDigits input = some rest) :
    ∃ text, Run unicodeDigits text ∧ input = text ++ rest := by
  unfold readDigits at read
  split at read
  · rename_i starts
    cases read
    obtain ⟨text, run, whole⟩ := digits_dropWhile input
    refine ⟨text, ⟨?_, run⟩, whole⟩
    rintro rfl
    cases input with
    | nil => exact absurd starts (by simp [startsWithDigit])
    | cons c input =>
        rw [startsWithDigit] at starts
        have shorter := (List.dropWhile_suffix (p := isDigit) (l := input)).length_le
        have same := congrArg List.length whole
        rw [List.nil_append, List.dropWhile_cons_of_pos starts, List.length_cons] at same
        omega
  · cases read

theorem readDigits_complete {text rest : List CodeUnit} (run : Run unicodeDigits text)
    (ends : ∀ c ∈ rest.head?, isDigit c = false) : readDigits (text ++ rest) = some rest := by
  obtain ⟨some', digits⟩ := run
  have starts : startsWithDigit (text ++ rest) := by
    cases text with
    | nil => exact absurd rfl some'
    | cons c text => exact digits c (List.mem_cons_self ..)
  rw [readDigits, if_pos starts, dropWhile_digits digits ends]

theorem readInt_sound {input rest : List CodeUnit} (read : readInt input = some rest) :
    ∃ text, Int unicodeDigits text ∧ input = text ++ rest := by
  unfold readInt at read
  split at read
  · rename_i input' zero
    split at read
    · cases read
    · cases read
      exact ⟨[ch '0'], .inl rfl, consume_eq_some.mp zero⟩
  · split at read
    · cases read
    · rename_i c input' _
      split at read
      · rename_i bounds
        have digit := isDigit_ascii (UInt16.le_trans (by decide) bounds.1) bounds.2
        rw [List.dropWhile_cons_of_pos digit] at read
        cases read
        obtain ⟨text, run, whole⟩ := digits_dropWhile input'
        exact ⟨c :: text, .inr ⟨c, text, rfl, bounds.1, bounds.2, run⟩, congrArg (c :: ·) whole⟩
      · cases read

theorem readInt_complete {text rest : List CodeUnit} (int : Int unicodeDigits text)
    (ends : ∀ c ∈ rest.head?, isDigit c = false) : readInt (text ++ rest) = some rest := by
  obtain rfl | ⟨c, digits, rfl, low, high, run⟩ := int
  · have stops : startsWithDigit rest = false := by
      cases rest with
      | nil => rfl
      | cons c rest => exact ends c rfl
    simp [readInt, consume, stops]
  · have positive : c ≠ ch '0' := by
      rintro rfl
      exact absurd low (by decide)
    have digit := isDigit_ascii (UInt16.le_trans (by decide) low) high
    rw [readInt.eq_def, List.cons_append, consume, if_neg positive]
    simp only [low, high, and_self, if_true]
    rw [List.dropWhile_cons_of_pos digit, dropWhile_digits run ends]

theorem readFrac_sound {input rest : List CodeUnit} (read : readFrac input = some rest) :
    ∃ text, Frac unicodeDigits text ∧ input = text ++ rest := by
  unfold readFrac at read
  split at read
  · rename_i input' point
    obtain ⟨text, run, rfl⟩ := readDigits_sound read
    exact ⟨ch '.' :: text, .inr ⟨text, rfl, run⟩, consume_eq_some.mp point⟩
  · cases read
    exact ⟨[], .inl rfl, rfl⟩

theorem readFrac_complete {text rest : List CodeUnit} (frac : Frac unicodeDigits text)
    (ends : ∀ c ∈ rest.head?, isDigit c = false ∧ c ≠ ch '.') :
    readFrac (text ++ rest) = some rest := by
  obtain rfl | ⟨digits, rfl, run⟩ := frac
  · have none' : consume (ch '.') rest = none := by
      cases rest with
      | nil => rfl
      | cons c rest => rw [consume, if_neg (ends c rfl).2]
    rw [List.nil_append, readFrac, none']
  · rw [readFrac, List.cons_append, consume, if_pos rfl]
    exact readDigits_complete run fun c head => (ends c head).1

theorem readExp_sound {input rest : List CodeUnit} (read : readExp input = some rest) :
    ∃ text, Exp unicodeDigits text ∧ input = text ++ rest := by
  cases input with
  | nil =>
      cases read
      exact ⟨[], .inl rfl, rfl⟩
  | cons e input =>
      rw [readExp.eq_def] at read
      by_cases known : e = ch 'e' ∨ e = ch 'E'
      · simp only [if_pos known] at read
        cases input with
        | nil => cases read
        | cons sign input =>
            simp only at read
            obtain ⟨text, run, whole⟩ := readDigits_sound read
            split at whole
            · rename_i signed
              subst whole
              refine ⟨e :: ([sign] ++ text), .inr ⟨e, [sign], text, rfl, known, ?_, run⟩, rfl⟩
              rcases signed with rfl | rfl
              · exact .inr (.inl rfl)
              · exact .inr (.inr rfl)
            · refine ⟨e :: ([] ++ text), .inr ⟨e, [], text, rfl, known, .inl rfl, run⟩, ?_⟩
              rw [whole]
              rfl
      · simp only [if_neg known] at read
        cases read
        exact ⟨[], .inl rfl, rfl⟩

theorem readExp_complete {text rest : List CodeUnit} (exp : Exp unicodeDigits text)
    (ends : ∀ c ∈ rest.head?, isDigit c = false ∧ c ≠ ch 'e' ∧ c ≠ ch 'E') :
    readExp (text ++ rest) = some rest := by
  obtain rfl | ⟨e, sign, digits, rfl, known, signed, run⟩ := exp
  · cases rest with
    | nil => rfl
    | cons c rest =>
        obtain ⟨_, small, large⟩ := ends c rfl
        rw [List.nil_append, readExp.eq_def]
        simp only [small, large, or_self, if_false]
  · have read := readDigits_complete run fun c head => (ends c head).1
    simp only [List.cons_append, List.append_assoc]
    rw [readExp.eq_def]
    simp only [if_pos known]
    rcases signed with rfl | rfl | rfl
    · obtain ⟨some', all⟩ := run
      cases digits with
      | nil => exact absurd rfl some'
      | cons d digits =>
          have digit := all d (List.mem_cons_self ..)
          have bare : ¬(d = ch '+' ∨ d = ch '-') := by
            rintro (rfl | rfl)
            · exact absurd digit (by decide)
            · exact absurd digit (by decide)
          simp only [List.nil_append, List.cons_append, if_neg bare]
          exact read
    · simp only [List.singleton_append, true_or, if_true]
      exact read
    · simp only [List.singleton_append, or_true, if_true]
      exact read

theorem int_starts {text : List CodeUnit} (int : Int unicodeDigits text) :
    ∃ c text', text = c :: text' ∧ ch '0' ≤ c ∧ c ≤ ch '9' := by
  obtain rfl | ⟨c, digits, rfl, low, high, _⟩ := int
  · exact ⟨_, _, rfl, by decide, by decide⟩
  · exact ⟨c, digits, rfl, UInt16.le_trans (by decide) low, high⟩

/-- The character by which `readValue` knows a number. -/
def StartsNumber (c : CodeUnit) : Prop := c = ch '-' ∨ ch '0' ≤ c ∧ c ≤ ch '9'

instance (c : CodeUnit) : Decidable (StartsNumber c) := by
  unfold StartsNumber
  infer_instance

theorem number_starts {text : List CodeUnit} (number : Number unicodeDigits text) :
    ∃ c text', text = c :: text' ∧ StartsNumber c := by
  obtain ⟨minus, int, frac, exp, rfl, rfl | rfl, whole, _⟩ := number
  · obtain ⟨c, text', rfl, bounds⟩ := int_starts whole
    exact ⟨c, _, rfl, .inr bounds⟩
  · exact ⟨_, _, rfl, .inl rfl⟩

theorem startsNumber_ne {c d : CodeUnit} (h : StartsNumber c) (other : ¬StartsNumber d) :
    c ≠ d := by
  rintro rfl
  exact other h

theorem readNumber_sound {input rest : List CodeUnit} (read : readNumber input = some rest) :
    ∃ text, Number unicodeDigits text ∧ input = text ++ rest := by
  obtain ⟨input₂, read₂, read₃⟩ := Option.bind_eq_some_iff.mp read
  obtain ⟨input₁, read₁, read₂⟩ := Option.bind_eq_some_iff.mp read₂
  obtain ⟨int, whole, rest₁⟩ := readInt_sound read₁
  obtain ⟨frac, fraction, rfl⟩ := readFrac_sound read₂
  obtain ⟨exp, exponent, rfl⟩ := readExp_sound read₃
  cases minus : consume (ch '-') input with
  | none =>
      rw [minus, Option.getD_none] at rest₁
      refine ⟨[] ++ (int ++ (frac ++ exp)), ⟨[], int, frac, exp, rfl, .inl rfl, whole, fraction,
        exponent⟩, ?_⟩
      rw [rest₁]
      simp only [List.append_assoc, List.nil_append]
  | some input' =>
      rw [minus, Option.getD_some] at rest₁
      refine ⟨[ch '-'] ++ (int ++ (frac ++ exp)), ⟨[ch '-'], int, frac, exp, rfl, .inr rfl, whole,
        fraction, exponent⟩, ?_⟩
      rw [consume_eq_some.mp minus, rest₁]
      simp only [List.append_assoc, List.cons_append, List.nil_append]

theorem exp_behind {exp rest : List CodeUnit} (exponent : Exp unicodeDigits exp)
    (stop : ∀ c ∈ rest.head?, Stop c) :
    ∀ c ∈ (exp ++ rest).head?, isDigit c = false ∧ c ≠ ch '.' := by
  intro c head
  obtain rfl | ⟨e, sign, digits, rfl, known, _⟩ := exponent
  · exact ⟨isDigit_stop (stop c head), stop_ne (stop c head) (by decide)⟩
  · cases head
    rcases known with rfl | rfl <;> decide

theorem frac_behind {frac rest : List CodeUnit} (fraction : Frac unicodeDigits frac)
    (ends : ∀ c ∈ rest.head?, isDigit c = false) :
    ∀ c ∈ (frac ++ rest).head?, isDigit c = false := by
  intro c head
  obtain rfl | ⟨digits, rfl, _⟩ := fraction
  · exact ends c head
  · cases head
    decide

theorem readNumber_complete {text rest : List CodeUnit} (number : Number unicodeDigits text)
    (stop : ∀ c ∈ rest.head?, Stop c) : readNumber (text ++ rest) = some rest := by
  obtain ⟨minus, int, frac, exp, rfl, sign, whole, fraction, exponent⟩ := number
  have behind := exp_behind exponent stop
  have unsigned : (consume (ch '-') (minus ++ (int ++ (frac ++ (exp ++ rest))))).getD
      (minus ++ (int ++ (frac ++ (exp ++ rest)))) = int ++ (frac ++ (exp ++ rest)) := by
    rcases sign with rfl | rfl
    · obtain ⟨c, text', rfl, low, _⟩ := int_starts whole
      have positive : c ≠ ch '-' := by
        rintro rfl
        exact absurd low (by decide)
      rw [List.nil_append, List.cons_append, consume, if_neg positive, Option.getD_none]
    · rw [List.singleton_append, consume, if_pos rfl, Option.getD_some]
  simp only [List.append_assoc]
  rw [readNumber, unsigned,
    readInt_complete whole (frac_behind fraction fun c head => (behind c head).1),
    Option.bind_some, readFrac_complete fraction behind, Option.bind_some]
  refine readExp_complete exponent fun c head => ⟨isDigit_stop (stop c head), ?_, ?_⟩
  · exact stop_ne (stop c head) (by decide)
  · exact stop_ne (stop c head) (by decide)

theorem readLiteral_eq_some {value : String} {input rest : List CodeUnit} :
    readLiteral value input = some rest ↔ input = value.toList.map ch ++ rest := by
  rw [readLiteral]
  constructor
  · intro read
    split at read
    · rename_i begins
      obtain ⟨after, rfl⟩ := List.isPrefixOf_iff_prefix.mp begins
      cases read
      rw [← List.length_map (f := ch), List.drop_left]
    · cases read
  · rintro rfl
    rw [if_pos (List.isPrefixOf_iff_prefix.mpr (List.prefix_append ..)),
      ← List.length_map (f := ch), List.drop_left]

/-! ### Values -/

/-- A reader of the values of a grammar. -/
structure ReadsValue (Nested : List CodeUnit → Prop)
    (nested : List CodeUnit → Option (List CodeUnit)) : Prop where
  sound : ∀ {input rest}, nested input = some rest → ∃ text, Nested text ∧ input = text ++ rest
  complete : ∀ {text rest}, Nested text → (∀ c ∈ rest.head?, Stop c) →
    nested (text ++ rest) = some rest
  starts : ∀ {text}, Nested text → ∃ c text', text = c :: text' ∧ isBlank c = false ∧ c ≠ ch ']'

theorem stop_blank (c : CodeUnit) (blank : isBlank c) : Stop c := .inl blank
theorem stop_comma : Stop (ch ',') := .inr (.inl rfl)
theorem stop_bracket : Stop (ch ']') := .inr (.inr (.inl rfl))
theorem stop_brace : Stop (ch '}') := .inr (.inr (.inr rfl))

section
variable {wanted : List CodeUnit} {Nested : List CodeUnit → Prop}
  {nested : List CodeUnit → Option (List CodeUnit)} {input rest text : List CodeUnit} {depth : Nat}

theorem reads_element (values : ReadsValue Nested nested) :
    ReadsItem isBlank (ch ']') Stop (fun text (_ : Unit) => Nested text) (fun _ _ _ => True)
      (readElement nested) where
  sound read := by
    obtain ⟨rest', read', same⟩ := Option.map_eq_some_iff.mp read
    cases same
    obtain ⟨text, value, whole⟩ := values.sound read'
    exact ⟨text, (), value, trivial, whole⟩
  complete value _ stop := by rw [readElement, values.complete value stop, Option.map_some]
  starts value := values.starts value

theorem readArray_sound (values : ReadsValue Nested nested)
    (read : readArray nested depth input = some rest) :
    ∃ text items, Array Nested text items ∧ input = text ++ rest := by
  unfold readArray at read
  split at read
  · cases read
  · obtain ⟨⟨_, rest'⟩, read', rfl⟩ := Option.map_eq_some_iff.mp read
    obtain ⟨text, items, array, _, whole⟩ := readBracketed_sound (reads_element values) read'
    exact ⟨text, items, array, whole⟩

theorem steps_true {σ β : Type*} {items : List β} :
    ∀ {s : σ}, Steps (fun _ _ _ => True) s items s := by
  intro s
  induction items with
  | nil => exact .nil
  | cons item items ih => exact .cons trivial ih

theorem readArray_complete (values : ReadsValue Nested nested) (shallow : ¬MAX_JSON_DEPTH < depth)
    {items : List Unit} (array : Array Nested text items) :
    readArray nested depth (text ++ rest) = some rest := by
  rw [readArray, if_neg shallow, readBracketed_complete (reads_element values) stop_blank stop_comma
    stop_bracket (by decide) (by decide) (by decide) array steps_true, Option.map_some]

theorem string_starts {text name : List CodeUnit} (string : JString unicodeDigits text name) :
    ∃ text', text = ch '"' :: text' := by
  obtain ⟨chars, _, rfl⟩ := string
  exact ⟨_, rfl⟩

theorem reads_capability :
    ReadsItem isBlank (ch ']') Stop (JString unicodeDigits)
      (fun found name found' => found' = if name = wanted then true else found)
      (readCapability wanted) where
  sound {found found' input rest} read := by
    unfold readCapability at read
    split at read
    · cases read
    · rename_i capability input' read'
      cases read
      obtain ⟨text, string, whole⟩ := readString_eq_some.mp read'
      exact ⟨text, capability, string, rfl, whole⟩
  complete {found found' text name rest} string step _ := by
    rw [readCapability, readString_append string rest, step]
  starts {text name} string := by
    obtain ⟨text', rfl⟩ := string_starts string
    exact ⟨_, text', rfl, by decide, by decide⟩

theorem found_steps {found found' : Bool} {names : List (List CodeUnit)} :
    Steps (fun found name found' => found' = if name = wanted then true else found) found names
      found' ↔ found' = (found || decide (wanted ∈ names)) := by
  induction names generalizing found with
  | nil =>
      constructor
      · rintro ⟨⟩
        simp
      · intro same
        simp only [List.not_mem_nil, decide_false, Bool.or_false] at same
        rw [same]
        exact .nil
  | cons name names ih =>
      have one : Steps (fun found name found' => found' = if name = wanted then true else found)
          found (name :: names) found' ↔
          Steps (fun found name found' => found' = if name = wanted then true else found)
            (if name = wanted then true else found) names found' := by
        constructor
        · intro steps
          cases steps with
          | cons step later => exact step ▸ later
        · exact fun later => .cons rfl later
      rw [one, ih]
      by_cases same : name = wanted
      · simp [same]
      · simp [same, Ne.symm same]

theorem readCapabilities_sound {found : Bool}
    (read : readCapabilities wanted depth input = some (found, rest)) :
    ∃ text names, Strings unicodeDigits text names ∧ found = decide (wanted ∈ names) ∧
      input = text ++ rest := by
  unfold readCapabilities at read
  split at read
  · cases read
  · obtain ⟨text, names, strings, steps, whole⟩ := readBracketed_sound reads_capability read
    rw [found_steps, Bool.false_or] at steps
    exact ⟨text, names, strings, steps, whole⟩

theorem readCapabilities_complete (shallow : ¬MAX_JSON_DEPTH < depth)
    {names : List (List CodeUnit)} (strings : Strings unicodeDigits text names) :
    readCapabilities wanted depth (text ++ rest) = some (decide (wanted ∈ names), rest) := by
  rw [readCapabilities, if_neg shallow]
  refine readBracketed_complete reads_capability stop_blank stop_comma stop_bracket (by decide)
    (by decide) (by decide) strings ?_
  rw [found_steps, Bool.false_or]

/-- What a member makes of what was found. -/
def Takes (wanted : List CodeUnit) (root : Bool) (found : Found)
    (member : List CodeUnit × List CodeUnit) (found' : Found) : Prop :=
  if root ∧ member.1 = "capabilities".toList.map ch then
    found.capabilitiesSeen = false ∧ ∃ names, Strings unicodeDigits member.2 names ∧
      found' = ⟨true, decide (wanted ∈ names)⟩
  else found' = found

theorem reads_member {root : Bool} (values : ReadsValue Nested nested)
    (arrays : root → ∀ {text names}, Strings unicodeDigits text names → Nested text)
    (shallow : root → ¬MAX_JSON_DEPTH < depth + 1) :
    ReadsItem isBlank (ch '}') Stop (Member unicodeDigits Nested) (Takes wanted root)
      (readMember wanted nested depth root) where
  sound {found found' input rest} read := by
    unfold readMember at read
    split at read
    · cases read
    · rename_i key input₁ keyRead
      obtain ⟨name, string, rfl⟩ := readString_eq_some.mp keyRead
      obtain ⟨w, space, split₁⟩ := blank_dropWhile isBlank input₁
      split at read
      · cases read
      · rename_i input₂ colon
        rw [← skipWhitespace, consume_eq_some.mp colon] at split₁
        obtain ⟨w', space', split₂⟩ := blank_dropWhile isBlank input₂
        rw [← skipWhitespace] at split₂
        -- the member, once its value is known
        have member {value : List CodeUnit} (nests : Nested value)
            (behind : skipWhitespace input₂ = value ++ rest) :
            Member unicodeDigits Nested (name ++ (w ++ ch ':' :: (w' ++ value))) (key, value) ∧
              name ++ input₁ = name ++ (w ++ ch ':' :: (w' ++ value)) ++ rest := by
          refine ⟨⟨name, w, w', string, space, space', nests, rfl⟩, ?_⟩
          rw [split₁, split₂, behind]
          simp only [List.append_assoc, List.cons_append]
        split at read
        · rename_i wantedKey
          split at read
          · cases read
          · rename_i unseen
            simp only at read
            split at read
            · cases read
            · rename_i capabilityFound input₃ capabilities
              cases read
              obtain ⟨value, names, strings, rfl, behind⟩ := readCapabilities_sound capabilities
              obtain ⟨is, whole⟩ := member (arrays wantedKey.1 strings) behind
              refine ⟨_, (key, value), is, ?_, whole⟩
              rw [Takes, if_pos wantedKey]
              exact ⟨Bool.eq_false_iff.mpr unseen, names, strings, rfl⟩
        · rename_i otherKey
          obtain ⟨input₃, valueRead, same⟩ := Option.map_eq_some_iff.mp read
          cases same
          obtain ⟨value, nests, behind⟩ := values.sound valueRead
          obtain ⟨is, whole⟩ := member nests behind
          refine ⟨_, (key, value), is, ?_, whole⟩
          rw [Takes, if_neg otherKey]
  complete {found found' text member rest} is takes stop := by
    obtain ⟨name, w, w', string, space, space', nests, rfl⟩ := is
    obtain ⟨key, value⟩ := member
    obtain ⟨c, value', first, solid, _⟩ := values.starts nests
    have colon : skipWhitespace (w ++ ch ':' :: (w' ++ (value ++ rest))) =
        ch ':' :: (w' ++ (value ++ rest)) := dropWhile_blank space (by decide)
    have behind : skipWhitespace (w' ++ (value ++ rest)) = value ++ rest := by
      simp only at first
      rw [first, List.cons_append]
      exact dropWhile_blank space' solid
    simp only [List.append_assoc, List.cons_append]
    rw [readMember, readString_append string]
    simp only [colon, consume, if_pos]
    rw [behind]
    by_cases wantedKey : root ∧ key = "capabilities".toList.map ch
    · rw [Takes, if_pos wantedKey] at takes
      obtain ⟨unseen, names, strings, rfl⟩ := takes
      simp only [if_pos wantedKey, unseen, Bool.false_eq_true, if_false,
        readCapabilities_complete (shallow wantedKey.1) strings]
    · rw [Takes, if_neg wantedKey] at takes
      simp only [if_neg wantedKey, values.complete nests stop, Option.map_some, takes]
  starts {text member} is := by
    obtain ⟨name, w, w', string, _, _, _, rfl⟩ := is
    obtain ⟨name', rfl⟩ := string_starts string
    exact ⟨_, _, rfl, by decide, by decide⟩

theorem readObject_sound {root : Bool} {found found' : Found} (values : ReadsValue Nested nested)
    (arrays : root → ∀ {text names}, Strings unicodeDigits text names → Nested text)
    (shallow : root → ¬MAX_JSON_DEPTH < depth + 1)
    (read : readObject wanted nested depth root found input = some (found', rest)) :
    ∃ text members, Object unicodeDigits Nested text members ∧
      Steps (Takes wanted root) found members found' ∧ input = text ++ rest := by
  unfold readObject at read
  split at read
  · cases read
  · exact readBracketed_sound (reads_member values arrays shallow) read

theorem readObject_complete {root : Bool} {found found' : Found} (values : ReadsValue Nested nested)
    (arrays : root → ∀ {text names}, Strings unicodeDigits text names → Nested text)
    (shallow : root → ¬MAX_JSON_DEPTH < depth + 1) (here : ¬MAX_JSON_DEPTH < depth)
    {members : List (List CodeUnit × List CodeUnit)}
    (object : Object unicodeDigits Nested text members)
    (steps : Steps (Takes wanted root) found members found') :
    readObject wanted nested depth root found (text ++ rest) = some (found', rest) := by
  rw [readObject, if_neg here]
  exact readBracketed_complete (reads_member values arrays shallow) stop_blank stop_comma stop_brace
    (by decide) (by decide) (by decide) object steps

theorem steps_same {members : List (List CodeUnit × List CodeUnit)} {found : Found} :
    Steps (Takes wanted false) found members found := by
  induction members with
  | nil => exact .nil
  | cons member members ih => exact .cons (by simp [Takes]) ih

/-- One layer of values: those whose parts the reader of the next depth reads. -/
theorem reads_valueOf (shallow : ¬MAX_JSON_DEPTH < depth)
    (values : ReadsValue Nested fun input => readValue wanted (depth + 1) input) :
    ReadsValue (ValueOf unicodeDigits Nested) (readValue wanted depth) where
  sound {input rest} read := by
    rw [readValue, dif_neg shallow] at read
    simp only at read
    split at read
    · cases read
    · rename_i c input'
      split at read
      · obtain ⟨⟨_, rest'⟩, read', rfl⟩ := Option.map_eq_some_iff.mp read
        obtain ⟨text, members, object, _, whole⟩ :=
          readObject_sound values (by simp) (by simp) read'
        exact ⟨text, .object object, whole⟩
      · split at read
        · obtain ⟨text, items, array, whole⟩ := readArray_sound values read
          exact ⟨text, .array array, whole⟩
        · split at read
          · obtain ⟨⟨name, rest'⟩, read', rfl⟩ := Option.map_eq_some_iff.mp read
            obtain ⟨text, string, whole⟩ := readString_eq_some.mp read'
            exact ⟨text, .string string, whole⟩
          · split at read
            · exact ⟨_, .literal (by simp [literals]), readLiteral_eq_some.mp read⟩
            · split at read
              · exact ⟨_, .literal (by simp [literals]), readLiteral_eq_some.mp read⟩
              · split at read
                · exact ⟨_, .literal (by simp [literals]), readLiteral_eq_some.mp read⟩
                · split at read
                  · obtain ⟨text, number, whole⟩ := readNumber_sound read
                    exact ⟨text, .number number, whole⟩
                  · cases read
  complete {text rest} value stop := by
    have other {c d : CodeUnit} (starts : StartsNumber c) (not : ¬StartsNumber d) :=
      startsNumber_ne starts not
    rw [readValue, dif_neg shallow]
    cases value with
    | literal known =>
        simp only [literals, List.mem_cons, List.not_mem_nil, or_false] at known
        have read {value : String} : readLiteral value (value.toList.map ch ++ rest) = some rest :=
          readLiteral_eq_some.mpr rfl
        rcases known with rfl | rfl | rfl
        · have first : "true".toList.map ch = ch 't' :: "rue".toList.map ch := rfl
          rw [← @read "true", first, List.cons_append]
          dsimp only
          rw [if_neg (by decide), if_neg (by decide), if_neg (by decide), if_pos rfl]
        · have first : "false".toList.map ch = ch 'f' :: "alse".toList.map ch := rfl
          rw [← @read "false", first, List.cons_append]
          dsimp only
          rw [if_neg (by decide), if_neg (by decide), if_neg (by decide), if_neg (by decide),
            if_pos rfl]
        · have first : "null".toList.map ch = ch 'n' :: "ull".toList.map ch := rfl
          rw [← @read "null", first, List.cons_append]
          dsimp only
          rw [if_neg (by decide), if_neg (by decide), if_neg (by decide), if_neg (by decide),
            if_neg (by decide), if_pos rfl]
    | string string =>
        have read := readString_append string rest
        obtain ⟨text', rfl⟩ := string_starts string
        rw [List.cons_append] at read ⊢
        dsimp only
        rw [if_neg (by decide), if_neg (by decide), if_pos rfl, read, Option.map_some]
    | number number =>
        have read := readNumber_complete number stop
        obtain ⟨c, text', rfl, starts⟩ := number_starts number
        rw [List.cons_append] at read ⊢
        dsimp only
        rw [if_neg (other starts (by decide)), if_neg (other starts (by decide)),
          if_neg (other starts (by decide)), if_neg (other starts (by decide)),
          if_neg (other starts (by decide)), if_neg (other starts (by decide))]
        rw [StartsNumber] at starts
        rw [if_pos starts, read]
    | array array =>
        have read : readArray (fun input => readValue wanted (depth + 1) input) depth
            (text ++ rest) = some rest := readArray_complete values shallow array
        obtain ⟨text', rfl⟩ := array.starts
        rw [List.cons_append] at read ⊢
        dsimp only
        rw [if_neg (by decide), if_pos rfl, read]
    | object object =>
        have read : readObject wanted (fun input => readValue wanted (depth + 1) input) depth false
            ⟨false, false⟩ (text ++ rest) = some (⟨false, false⟩, rest) :=
          readObject_complete values (by simp) (by simp) shallow object steps_same
        obtain ⟨text', rfl⟩ := object.starts
        rw [List.cons_append] at read ⊢
        dsimp only
        rw [if_pos rfl, read, Option.map_some]
  starts {text} value := by
    cases value with
    | literal known =>
        simp only [literals, List.mem_cons, List.not_mem_nil, or_false] at known
        rcases known with rfl | rfl | rfl
        · exact ⟨ch 't', _, rfl, by decide, by decide⟩
        · exact ⟨ch 'f', _, rfl, by decide, by decide⟩
        · exact ⟨ch 'n', _, rfl, by decide, by decide⟩
    | string string =>
        obtain ⟨text', rfl⟩ := string_starts string
        exact ⟨_, text', rfl, by decide, by decide⟩
    | number number =>
        obtain ⟨c, text', rfl, starts⟩ := number_starts number
        refine ⟨c, text', rfl, ?_, startsNumber_ne starts (by decide)⟩
        obtain rfl | ⟨low, high⟩ := starts
        · decide
        · rw [← Bool.not_eq_true]
          intro blank
          exact absurd (isDigit_ascii low high) (by rw [isDigit_stop (.inl blank)]; decide)
    | array array =>
        obtain ⟨text', rfl⟩ := array.starts
        exact ⟨_, text', rfl, by decide, by decide⟩
    | object object =>
        obtain ⟨text', rfl⟩ := object.starts
        exact ⟨_, text', rfl, by decide, by decide⟩

/-- A value at a depth is one of the levels that are left there. -/
theorem reads_value (levels : Nat) :
    ∀ {depth : Nat}, depth + levels = MAX_JSON_DEPTH + 1 →
      ReadsValue (Value unicodeDigits levels) (readValue wanted depth) := by
  induction levels with
  | zero =>
      intro depth deep
      have none' (input : List CodeUnit) : readValue wanted depth input = none := by
        rw [readValue, dif_pos (by omega)]
      exact ⟨fun read => by simp [none'] at read, False.elim, False.elim⟩
  | succ levels ih =>
      intro depth deep
      exact reads_valueOf (by omega) (ih (by omega))

end

end JsonCapabilityReader
end QuestVdWired.Android
