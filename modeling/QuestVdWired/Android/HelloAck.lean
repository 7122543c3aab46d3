import QuestVdWired.Android.CapabilityGrammar

/-!
When a `HELLO_ACK` is said to support metrics. The reader keeps to the standard but for its digits:
it takes the decimal digits of every script in a number, and full-width letters too in an escape.
-/

namespace QuestVdWired.Android
open Wire Json JsonCapabilityReader

def capabilitiesName : List CodeUnit := "capabilities".toList.map ch

def metricsCapability : List CodeUnit := "metrics_v1".toList.map ch

/-- A text that is one object and no deeper than it may be, with one member for the capabilities,
which are strings and among them the one for metrics. -/
def Announces (digits : Digits) (text : List CodeUnit) : Prop :=
  ∃ w object w' members value names, (∀ c ∈ w, isBlank c) ∧ (∀ c ∈ w', isBlank c) ∧
    Object digits (Value digits MAX_JSON_DEPTH) object members ∧ text = w ++ (object ++ w') ∧
    members.filter (fun member => member.1 = capabilitiesName) = [(capabilitiesName, value)] ∧
    Strings digits value names ∧ metricsCapability ∈ names

def Announced (digits : Digits) (payload : List UInt8) : Prop :=
  ∃ text, decodeUtf8 payload = some text ∧ Announces digits (text.toList.flatMap utf16)

section
variable {members : List (List CodeUnit × List CodeUnit)} {wanted : List CodeUnit} {b : Bool}
  {found' : Found}

theorem steps_other {member : List CodeUnit × List CodeUnit} {found : Found}
    (other : member.1 ≠ capabilitiesName) :
    Steps (Takes wanted true) found (member :: members) found' ↔
      Steps (Takes wanted true) found members found' := by
  have same : Takes wanted true found member = (· = found) := by
    funext found'
    rw [Takes, if_neg fun h => other h.2]
  constructor
  · intro steps
    cases steps with
    | cons step later =>
        rw [same] at step
        exact step ▸ later
  · intro later
    exact .cons (by rw [same]) later

theorem steps_seen :
    Steps (Takes wanted true) ⟨true, b⟩ members found' ↔
      members.filter (fun member => member.1 = capabilitiesName) = [] ∧ found' = ⟨true, b⟩ := by
  induction members with
  | nil =>
      constructor
      · intro steps
        cases steps
        exact ⟨rfl, rfl⟩
      · rintro ⟨_, rfl⟩
        exact .nil
  | cons member members ih =>
      by_cases wantedKey : member.1 = capabilitiesName
      · rw [List.filter_cons_of_pos (by simpa using wantedKey)]
        constructor
        · intro steps
          cases steps with
          | cons step later =>
              rw [Takes, if_pos ⟨rfl, wantedKey⟩] at step
              exact absurd step.1 (by simp)
        · rintro ⟨absent, _⟩
          cases absent
      · rw [List.filter_cons_of_neg (by simpa using wantedKey), ← ih]
        exact steps_other wantedKey

theorem steps_unseen :
    Steps (Takes wanted true) ⟨false, false⟩ members found' ↔
      members.filter (fun member => member.1 = capabilitiesName) = [] ∧ found' = ⟨false, false⟩ ∨
      ∃ value names,
        members.filter (fun member => member.1 = capabilitiesName) = [(capabilitiesName, value)] ∧
        Strings unicodeDigits value names ∧ found' = ⟨true, decide (wanted ∈ names)⟩ := by
  induction members with
  | nil =>
      constructor
      · intro steps
        cases steps
        exact .inl ⟨rfl, rfl⟩
      · rintro (⟨_, rfl⟩ | ⟨_, _, absent, _⟩)
        · exact .nil
        · cases absent
  | cons member members ih =>
      obtain ⟨key, value⟩ := member
      by_cases wantedKey : key = capabilitiesName
      · subst wantedKey
        rw [List.filter_cons_of_pos (by simp)]
        have takes (found₁ : Found) : Takes wanted true ⟨false, false⟩ (capabilitiesName, value)
            found₁ ↔ ∃ names, Strings unicodeDigits value names ∧
              found₁ = ⟨true, decide (wanted ∈ names)⟩ := by
          rw [Takes, if_pos ⟨rfl, rfl⟩]
          simp
        constructor
        · intro steps
          cases steps with
          | cons step later =>
              obtain ⟨names, strings, rfl⟩ := (takes _).mp step
              obtain ⟨others, rfl⟩ := steps_seen.mp later
              exact .inr ⟨value, names, by rw [others], strings, rfl⟩
        · rintro (⟨absent, _⟩ | ⟨value', names, only, strings, rfl⟩)
          · cases absent
          · obtain ⟨same, others⟩ := List.cons.inj only
            cases same
            exact .cons ((takes _).mpr ⟨names, strings, rfl⟩) (steps_seen.mpr ⟨others, rfl⟩)
      · rw [List.filter_cons_of_neg (by simpa using wantedKey), ← ih]
        exact steps_other wantedKey

end

theorem skipWhitespace_eq_nil {input : List CodeUnit} :
    skipWhitespace input = [] ↔ ∀ c ∈ input, isBlank c := by
  rw [skipWhitespace, List.dropWhile_eq_nil_iff]

/-- What the reader says is what the text announces, with the digits of Kotlin. -/
theorem read_eq_true {text : List CodeUnit} :
    JsonCapabilityReader.read metricsCapability text = some true ↔
      Announces unicodeDigits text := by
  have values : ReadsValue (Value unicodeDigits MAX_JSON_DEPTH) (readValue metricsCapability 1) :=
    reads_value MAX_JSON_DEPTH (by rw [Nat.add_comm])
  have here : ¬MAX_JSON_DEPTH < 0 := by omega
  have below : true = true → ¬MAX_JSON_DEPTH < 0 + 1 := fun _ => by decide
  constructor
  · intro accepted
    unfold JsonCapabilityReader.read at accepted
    split at accepted
    · cases accepted
    · rename_i found rest object
      split at accepted
      · rename_i ended
        obtain ⟨w, space, whole⟩ := blank_dropWhile isBlank text
        obtain ⟨object', members, is, steps, behind⟩ :=
          readObject_sound values (fun _ => strings_array unicodeDigits) below object
        rw [skipWhitespace] at behind
        rw [behind] at whole
        rcases steps_unseen.mp steps with ⟨_, rfl⟩ | ⟨value, names, only, strings, rfl⟩
        · cases accepted
        · exact ⟨w, object', rest, members, value, names, space, skipWhitespace_eq_nil.mp ended, is,
            whole, only, strings, by simpa using accepted⟩
      · cases accepted
  · rintro ⟨w, object, w', members, value, names, space, space', is, rfl, only, strings, announced⟩
    obtain ⟨object', first⟩ := is.starts
    have skipped : skipWhitespace (w ++ (object ++ w')) = object ++ w' := by
      rw [first, List.cons_append]
      exact dropWhile_blank space (by decide)
    have steps : Steps (Takes metricsCapability true) ⟨false, false⟩ members
        ⟨true, decide (metricsCapability ∈ names)⟩ :=
      steps_unseen.mpr (.inr ⟨value, names, only, strings, rfl⟩)
    rw [JsonCapabilityReader.read, skipped,
      readObject_complete values (fun _ => strings_array unicodeDigits) below here is steps]
    simp only [skipWhitespace_eq_nil.mpr space', if_true, decide_eq_true announced]

/-! ### The digits of the standard -/

/-- Whether a text keeps to the digits of the standard: outside of its strings, and behind each
`\\u` in one. -/
def standardDigits (inside : Bool) : List CodeUnit → Bool
  | [] => true
  | c :: text =>
      if inside then
        if c = ch '"' then standardDigits false text
        else if c = ch '\\' then
          match text with
          | [] => true
          | e :: text =>
              (e ≠ ch 'u' || (text.take 4).all fun d => (asciiDigits.hexadecimal d).isSome) &&
                standardDigits true text
        else standardDigits true text
      else if c = ch '"' then standardDigits true text
      else (!isDigit c || asciiDigits.decimal c) && standardDigits false text

/-- The items of the standard are those of Kotlin where the text keeps to the digits of the
standard. -/
structure Narrows {β : Type*} (Item Item' : List CodeUnit → β → Prop) : Prop where
  wider : ∀ {v b}, Item v b → Item' v b
  keeps : ∀ {v b}, Item v b → ∀ rest, standardDigits false (v ++ rest) = standardDigits false rest
  narrower : ∀ {v b rest}, Item' v b → standardDigits false (v ++ rest) →
    Item v b ∧ standardDigits false rest

attribute [local grind =] standardDigits

section
variable {c : CodeUnit} {text rest : List CodeUnit}

theorem standardDigits_append (quotation : ∀ c ∈ text, c ≠ ch '"') :
    standardDigits false (text ++ rest) =
      (text.all (fun c => !isDigit c || asciiDigits.decimal c) && standardDigits false rest) := by
  induction text with
  | nil => rw [List.nil_append, List.all_nil, Bool.true_and]
  | cons c text ih =>
      rw [List.forall_mem_cons] at quotation
      rw [List.cons_append, standardDigits.eq_def, List.all_cons, Bool.and_assoc, ← ih quotation.2]
      simp only [Bool.false_eq_true, if_false, if_neg quotation.1]

theorem asciiDigits_isDigit (digit : asciiDigits.decimal c) : isDigit c := by
  simp only [asciiDigits, Bool.and_eq_true, decide_eq_true_eq] at digit
  exact isDigit_ascii digit.1 digit.2

theorem isDigit_quotation (digit : isDigit c) : c ≠ ch '"' := by
  rintro rfl
  exact absurd digit (by decide)

theorem number_quotation (number : Number unicodeDigits text) : ∀ c ∈ text, c ≠ ch '"' := by
  intro c member
  rcases number.mem member with digit | digit | mark
  · exact isDigit_quotation digit
  · exact isDigit_quotation (asciiDigits_isDigit digit)
  · rintro rfl
    exact absurd mark (by decide)

theorem marks_isDigit (mark : c ∈ marks) : isDigit c = false := by
  have each : marks.all fun c => !isDigit c := by decide
  simpa using List.all_eq_true.mp each c mark

theorem narrows_number : Narrows (fun text (_ : Unit) => Number asciiDigits text)
    (fun text _ => Number unicodeDigits text) where
  wider number := number.imp fun _ _ digit => asciiDigits_isDigit digit
  keeps {text _} number rest := by
    have wide : Number unicodeDigits text := number.imp fun _ _ digit => asciiDigits_isDigit digit
    rw [standardDigits_append (number_quotation wide)]
    have standard : text.all (fun c => !isDigit c || asciiDigits.decimal c) := by
      rw [List.all_eq_true]
      intro c member
      rcases number.mem member with digit | digit | mark
      · simp [digit]
      · simp [digit]
      · simp [marks_isDigit mark]
    rw [standard, Bool.true_and]
  narrower {text _ rest} number standard := by
    rw [standardDigits_append (number_quotation number), Bool.and_eq_true,
      List.all_eq_true] at standard
    refine ⟨number.imp fun c member digit => ?_, standard.2⟩
    have plain := standard.1 c member
    rw [show isDigit c = true from digit] at plain
    simpa using plain

/-- The hexadecimal digits of the standard are those of Kotlin among the first characters. -/
theorem asciiDigits_hexadecimal {x : Nat} (digit : asciiDigits.hexadecimal c = some x) :
    digitToIntOrNull c = some x ∧ c ≠ ch '"' ∧ c ≠ ch '\\' := by
  have small : c.toNat < 128 := by
    simp only [asciiDigits] at digit
    split at digit
    · rename_i bounds
      simp only [Bool.and_eq_true, decide_eq_true_eq] at bounds
      exact Nat.lt_of_le_of_lt (UInt16.le_iff_toNat_le.mp bounds.2) (by decide)
    · split at digit
      · rename_i bounds
        simp only [Bool.and_eq_true, decide_eq_true_eq] at bounds
        exact Nat.lt_of_le_of_lt (UInt16.le_iff_toNat_le.mp bounds.2) (by decide)
      · split at digit
        · rename_i bounds
          simp only [Bool.and_eq_true, decide_eq_true_eq] at bounds
          exact Nat.lt_of_le_of_lt (UInt16.le_iff_toNat_le.mp bounds.2) (by decide)
        · cases digit
  have each : ∀ n < 128, asciiDigits.hexadecimal (UInt16.ofNat n) = none ∨
      digitToIntOrNull (UInt16.ofNat n) = asciiDigits.hexadecimal (UInt16.ofNat n) ∧
        UInt16.ofNat n ≠ ch '"' ∧ UInt16.ofNat n ≠ ch '\\' := by
    decide +kernel
  have here := each c.toNat small
  rw [UInt16.ofNat_toNat, digit] at here
  simpa using here

theorem standardDigits_inside (quotation : c ≠ ch '"') (backslash : c ≠ ch '\\') :
    standardDigits true (c :: text) = standardDigits true text := by
  rw [standardDigits.eq_def]
  simp only [if_true, if_neg quotation, if_neg backslash]

theorem standardDigits_escape {e : CodeUnit} (known : e ≠ ch 'u') :
    standardDigits true (ch '\\' :: e :: text) = standardDigits true text := by
  rw [standardDigits.eq_def]
  simp only [if_true, if_neg (show ch '\\' ≠ ch '"' by decide), known, ne_eq, not_false_eq_true,
    decide_true, Bool.true_or, Bool.true_and]

theorem standardDigits_unicode {a b d e : CodeUnit} :
    standardDigits true (ch '\\' :: ch 'u' :: a :: b :: d :: e :: text) =
      (([a, b, d, e].all fun d => (asciiDigits.hexadecimal d).isSome) &&
        standardDigits true (a :: b :: d :: e :: text)) := by
  rw [standardDigits.eq_def]
  simp only [if_true, if_neg (show ch '\\' ≠ ch '"' by decide), ne_eq, not_true_eq_false,
    decide_false, Bool.false_or, List.take_succ_cons, List.take_zero]

theorem escaped_ne {e value : CodeUnit} (known : escaped e = some value) : e ≠ ch 'u' := by
  rintro rfl
  rw [escaped_u] at known
  cases known

theorem standardDigits_four {a b d e : CodeUnit} {x y z w : Nat}
    (first : asciiDigits.hexadecimal a = some x) (second : asciiDigits.hexadecimal b = some y)
    (third : asciiDigits.hexadecimal d = some z) (fourth : asciiDigits.hexadecimal e = some w) :
    standardDigits true (a :: b :: d :: e :: text) = standardDigits true text := by
  obtain ⟨_, quotation₁, backslash₁⟩ := asciiDigits_hexadecimal first
  obtain ⟨_, quotation₂, backslash₂⟩ := asciiDigits_hexadecimal second
  obtain ⟨_, quotation₃, backslash₃⟩ := asciiDigits_hexadecimal third
  obtain ⟨_, quotation₄, backslash₄⟩ := asciiDigits_hexadecimal fourth
  rw [standardDigits_inside quotation₁ backslash₁, standardDigits_inside quotation₂ backslash₂,
    standardDigits_inside quotation₃ backslash₃, standardDigits_inside quotation₄ backslash₄]

theorem chars_wider {name : List CodeUnit} (chars : Chars asciiDigits text name) :
    Chars unicodeDigits text name := by
  induction chars with
  | nil => exact .nil
  | plain printable quotation backslash later ih => exact .plain printable quotation backslash ih
  | escape known later ih => exact .escape known ih
  | unicode first second third fourth later ih =>
      exact .unicode (asciiDigits_hexadecimal first).1 (asciiDigits_hexadecimal second).1
        (asciiDigits_hexadecimal third).1 (asciiDigits_hexadecimal fourth).1 ih

theorem chars_keeps {name : List CodeUnit} (chars : Chars asciiDigits text name)
    (rest : List CodeUnit) :
    standardDigits true (text ++ ch '"' :: rest) = standardDigits false rest := by
  induction chars with
  | nil =>
      rw [List.nil_append, standardDigits.eq_def]
      simp only [if_true]
  | plain printable quotation backslash later ih =>
      rw [List.cons_append, standardDigits_inside quotation backslash, ih]
  | escape known later ih =>
      rw [List.cons_append, List.cons_append, standardDigits_escape (escaped_ne known), ih]
  | unicode first second third fourth later ih =>
      simp only [List.cons_append]
      rw [standardDigits_unicode, standardDigits_four first second third fourth, ih]
      simp [first, second, third, fourth]

theorem chars_narrower {name : List CodeUnit} (chars : Chars unicodeDigits text name)
    (standard : standardDigits true (text ++ ch '"' :: rest)) :
    Chars asciiDigits text name ∧ standardDigits false rest := by
  induction chars with
  | nil =>
      rw [List.nil_append, standardDigits.eq_def] at standard
      simp only [if_true] at standard
      exact ⟨.nil, standard⟩
  | plain printable quotation backslash later ih =>
      rw [List.cons_append, standardDigits_inside quotation backslash] at standard
      obtain ⟨narrow, standard'⟩ := ih standard
      exact ⟨.plain printable quotation backslash narrow, standard'⟩
  | escape known later ih =>
      rw [List.cons_append, List.cons_append, standardDigits_escape (escaped_ne known)] at standard
      obtain ⟨narrow, standard'⟩ := ih standard
      exact ⟨.escape known narrow, standard'⟩
  | unicode first second third fourth later ih =>
      simp only [List.cons_append] at standard
      rw [standardDigits_unicode, Bool.and_eq_true] at standard
      obtain ⟨four, standard⟩ := standard
      simp only [List.all_cons, List.all_nil, Bool.and_true, Bool.and_eq_true,
        Option.isSome_iff_exists] at four
      obtain ⟨⟨x', first'⟩, ⟨y', second'⟩, ⟨z', third'⟩, ⟨w', fourth'⟩⟩ := four
      rw [standardDigits_four first' second' third' fourth'] at standard
      obtain ⟨narrow, standard'⟩ := ih standard
      have same {c : CodeUnit} {x x' : Nat} (wide : unicodeDigits.hexadecimal c = some x)
          (digit : asciiDigits.hexadecimal c = some x') : x = x' :=
        Option.some.inj (wide.symm.trans (asciiDigits_hexadecimal digit).1)
      rw [same first first', same second second', same third third', same fourth fourth']
      exact ⟨.unicode first' second' third' fourth' narrow, standard'⟩

theorem standardDigits_quotation :
    standardDigits false (ch '"' :: text) = standardDigits true text := by
  rw [standardDigits.eq_def]
  simp only [Bool.false_eq_true, if_false, if_true]

theorem narrows_string : Narrows (JString asciiDigits) (JString unicodeDigits) where
  wider string := by
    obtain ⟨chars, is, rfl⟩ := string
    exact ⟨chars, chars_wider is, rfl⟩
  keeps string rest := by
    obtain ⟨chars, is, rfl⟩ := string
    rw [List.cons_append, List.append_assoc, List.singleton_append, standardDigits_quotation,
      chars_keeps is]
  narrower string standard := by
    obtain ⟨chars, is, rfl⟩ := string
    rw [List.cons_append, List.append_assoc, List.singleton_append,
      standardDigits_quotation] at standard
    obtain ⟨narrow, standard'⟩ := chars_narrower is standard
    exact ⟨⟨chars, narrow, rfl⟩, standard'⟩

/-- What is neither a digit nor the beginning of a string. -/
def Plain (c : CodeUnit) : Prop := c ≠ ch '"' ∧ isDigit c = false

theorem standardDigits_plain (plain : Plain c) :
    standardDigits false (c :: text) = standardDigits false text := by
  rw [standardDigits.eq_def]
  simp only [Bool.false_eq_true, if_false, if_neg plain.1, plain.2, Bool.not_false, Bool.true_or,
    Bool.true_and]

theorem standardDigits_blanks {w : List CodeUnit} (space : ∀ c ∈ w, isBlank c) :
    standardDigits false (w ++ text) = standardDigits false text := by
  induction w with
  | nil => rfl
  | cons c w ih =>
      rw [List.forall_mem_cons] at space
      have stop : Stop c := .inl space.1
      rw [List.cons_append,
        standardDigits_plain ⟨stop_ne stop (by decide), isDigit_stop stop⟩, ih space.2]

variable {β : Type*} {Item Item' : List CodeUnit → β → Prop}

theorem separated_keeps (narrows : Narrows Item Item') {items : List β}
    (separated : Separated isBlank (ch ',') Item text items) (rest : List CodeUnit) :
    standardDigits false (text ++ rest) = standardDigits false rest := by
  induction separated with
  | last item space =>
      rw [List.append_assoc, narrows.keeps item, standardDigits_blanks space]
  | more item space space' later ih =>
      simp only [List.append_assoc, List.cons_append]
      rw [narrows.keeps item, standardDigits_blanks space,
        standardDigits_plain ⟨by decide, by decide⟩, standardDigits_blanks space', ih]

theorem separated_narrower (narrows : Narrows Item Item') {items : List β}
    (separated : Separated isBlank (ch ',') Item' text items)
    (standard : standardDigits false (text ++ rest)) :
    Separated isBlank (ch ',') Item text items ∧ standardDigits false rest := by
  induction separated with
  | last item space =>
      rw [List.append_assoc] at standard
      obtain ⟨narrow, standard⟩ := narrows.narrower item standard
      rw [standardDigits_blanks space] at standard
      exact ⟨.last narrow space, standard⟩
  | more item space space' later ih =>
      simp only [List.append_assoc, List.cons_append] at standard
      obtain ⟨narrow, standard⟩ := narrows.narrower item standard
      rw [standardDigits_blanks space, standardDigits_plain ⟨by decide, by decide⟩,
        standardDigits_blanks space'] at standard
      obtain ⟨separated, standard⟩ := ih standard
      exact ⟨.more narrow space space' separated, standard⟩

theorem Narrows.bracketed (narrows : Narrows Item Item') {opening close : CodeUnit}
    (opens : Plain opening) (closes : Plain close) :
    Narrows (Bracketed isBlank (ch ',') opening close Item)
      (Bracketed isBlank (ch ',') opening close Item') where
  wider {text items} bracketed := by
    have wide : Bracketed isBlank (ch ',') opening close Item' text (items.map id) :=
      bracketed.map id narrows.wider
    rwa [List.map_id] at wide
  keeps bracketed rest := by
    obtain ⟨w, space, ⟨rfl, rfl⟩ | ⟨body, separated, rfl⟩⟩ := bracketed
    · simp only [List.cons_append, List.append_assoc, List.nil_append]
      rw [standardDigits_plain opens, standardDigits_blanks space, standardDigits_plain closes]
    · simp only [List.cons_append, List.append_assoc, List.nil_append]
      rw [standardDigits_plain opens, standardDigits_blanks space,
        separated_keeps narrows separated, standardDigits_plain closes]
  narrower bracketed standard := by
    obtain ⟨w, space, ⟨rfl, rfl⟩ | ⟨body, separated, rfl⟩⟩ := bracketed
    · simp only [List.cons_append, List.append_assoc, List.nil_append] at standard
      rw [standardDigits_plain opens, standardDigits_blanks space,
        standardDigits_plain closes] at standard
      exact ⟨⟨w, space, .inl ⟨rfl, rfl⟩⟩, standard⟩
    · simp only [List.cons_append, List.append_assoc, List.nil_append] at standard
      rw [standardDigits_plain opens, standardDigits_blanks space] at standard
      obtain ⟨narrow, standard⟩ := separated_narrower narrows separated standard
      rw [standardDigits_plain closes] at standard
      exact ⟨⟨w, space, .inr ⟨body, narrow, rfl⟩⟩, standard⟩

variable {Nested Nested' : List CodeUnit → Prop}

theorem narrows_member (narrows : Narrows (fun text (_ : Unit) => Nested text)
    (fun text _ => Nested' text)) :
    Narrows (Member asciiDigits Nested) (Member unicodeDigits Nested') where
  wider member := by
    obtain ⟨name, w, w', string, space, space', nested, rfl⟩ := member
    exact ⟨name, w, w', narrows_string.wider string, space, space', narrows.wider (b := ()) nested,
      rfl⟩
  keeps member rest := by
    obtain ⟨name, w, w', string, space, space', nested, rfl⟩ := member
    simp only [List.append_assoc, List.cons_append]
    rw [narrows_string.keeps string, standardDigits_blanks space,
      standardDigits_plain ⟨by decide, by decide⟩, standardDigits_blanks space',
      narrows.keeps (b := ()) nested]
  narrower member standard := by
    obtain ⟨name, w, w', string, space, space', nested, rfl⟩ := member
    simp only [List.append_assoc, List.cons_append] at standard
    obtain ⟨narrow, standard⟩ := narrows_string.narrower string standard
    rw [standardDigits_blanks space, standardDigits_plain ⟨by decide, by decide⟩,
      standardDigits_blanks space'] at standard
    obtain ⟨value, standard⟩ := narrows.narrower (b := ()) nested standard
    exact ⟨⟨name, w, w', narrow, space, space', value, rfl⟩, standard⟩

theorem narrows_literal : Narrows (fun text (_ : Unit) => text ∈ literals)
    (fun text _ => text ∈ literals) := by
  have keeps {text : List CodeUnit} (known : text ∈ literals) (rest : List CodeUnit) :
      standardDigits false (text ++ rest) = standardDigits false rest := by
    have unquoted : literals.all fun text => text.all (· != ch '"') := by decide
    have undigited : literals.all fun text =>
        text.all fun c => !isDigit c || asciiDigits.decimal c := by decide
    have quotation : ∀ c ∈ text, c ≠ ch '"' := fun c member =>
      bne_iff_ne.mp (List.all_eq_true.mp (List.all_eq_true.mp unquoted text known) c member)
    rw [standardDigits_append quotation, List.all_eq_true.mp undigited text known, Bool.true_and]
  exact ⟨id, keeps, fun known standard => ⟨known, by rwa [keeps known] at standard⟩⟩

theorem narrows_valueOf (narrows : Narrows (fun text (_ : Unit) => Nested text)
    (fun text _ => Nested' text)) :
    Narrows (fun text (_ : Unit) => ValueOf asciiDigits Nested text)
      (fun text _ => ValueOf unicodeDigits Nested' text) := by
  have arrays : Narrows (Array Nested) (Array Nested') :=
    narrows.bracketed ⟨by decide, by decide⟩ ⟨by decide, by decide⟩
  have objects : Narrows (Object asciiDigits Nested) (Object unicodeDigits Nested') :=
    (narrows_member narrows).bracketed ⟨by decide, by decide⟩ ⟨by decide, by decide⟩
  refine ⟨fun value => ?_, fun value rest => ?_, fun value standard => ?_⟩
  · cases value with
    | literal known => exact .literal known
    | string string => exact .string (narrows_string.wider string)
    | number number => exact .number (narrows_number.wider (b := ()) number)
    | array array => exact .array (arrays.wider array)
    | object object => exact .object (objects.wider object)
  · cases value with
    | literal known => exact narrows_literal.keeps (b := ()) known rest
    | string string => exact narrows_string.keeps string rest
    | number number => exact narrows_number.keeps (b := ()) number rest
    | array array => exact arrays.keeps array rest
    | object object => exact objects.keeps object rest
  · cases value with
    | literal known =>
        exact (narrows_literal.narrower (b := ()) known standard).imp_left .literal
    | string string => exact (narrows_string.narrower string standard).imp_left .string
    | number number =>
        exact (narrows_number.narrower (b := ()) number standard).imp_left .number
    | array array => exact (arrays.narrower array standard).imp_left .array
    | object object => exact (objects.narrower object standard).imp_left .object

theorem narrows_value (levels : Nat) :
    Narrows (fun text (_ : Unit) => Value asciiDigits levels text)
      (fun text _ => Value unicodeDigits levels text) := by
  induction levels with
  | zero => exact ⟨id, fun value => value.elim, fun value => value.elim⟩
  | succ levels ih => exact narrows_valueOf ih

end

theorem narrows_object : Narrows (Object asciiDigits (Value asciiDigits MAX_JSON_DEPTH))
    (Object unicodeDigits (Value unicodeDigits MAX_JSON_DEPTH)) :=
  (narrows_member (narrows_value MAX_JSON_DEPTH)).bracketed ⟨by decide, by decide⟩
    ⟨by decide, by decide⟩

theorem narrows_strings : Narrows (Strings asciiDigits) (Strings unicodeDigits) :=
  narrows_string.bracketed ⟨by decide, by decide⟩ ⟨by decide, by decide⟩

theorem announces_wider {text : List CodeUnit} (announces : Announces asciiDigits text) :
    Announces unicodeDigits text ∧ standardDigits false text := by
  obtain ⟨w, object, w', members, value, names, space, space', is, rfl, only, strings, announced⟩ :=
    announces
  refine ⟨⟨w, object, w', members, value, names, space, space', narrows_object.wider is, rfl, only,
    narrows_strings.wider strings, announced⟩, ?_⟩
  have ends : standardDigits false (w' ++ []) = standardDigits false [] :=
    standardDigits_blanks space'
  rw [List.append_nil] at ends
  rw [standardDigits_blanks space, narrows_object.keeps is, ends, standardDigits]

theorem announces_narrower {text : List CodeUnit} (announces : Announces unicodeDigits text)
    (standard : standardDigits false text) : Announces asciiDigits text := by
  obtain ⟨w, object, w', members, value, names, space, space', is, rfl, only, strings, announced⟩ :=
    announces
  rw [standardDigits_blanks space] at standard
  have narrow := (narrows_object.narrower is standard).1
  refine ⟨w, object, w', members, value, names, space, space', narrow, rfl, only, ?_, announced⟩
  -- the value of the one member has a place in the text, so its digits are of the standard too
  have member : (capabilitiesName, value) ∈ members :=
    (List.mem_filter.mp (by rw [only]; exact List.mem_cons_self ..)).1
  obtain ⟨_, _, _, _, _, _, _, nested, _⟩ := narrow.mem member
  have here : standardDigits false (value ++ []) := by
    rw [(narrows_value MAX_JSON_DEPTH).keeps (b := ()) nested, standardDigits]
  exact (narrows_strings.narrower strings here).1

/-! ### Payloads -/

theorem helloAckSupportsMetrics_eq_true {payload : List UInt8} :
    helloAckSupportsMetrics payload = true ↔ Announced unicodeDigits payload := by
  unfold helloAckSupportsMetrics
  split
  · rename_i empty
    rw [List.isEmpty_iff] at empty
    subst empty
    have decoded : decodeUtf8 [] = some "" := by decide +kernel
    constructor
    · intro supports
      cases supports
    · rintro ⟨text, decoded', w, object, w', members, value, names, _, _, is, whole, _⟩
      rw [decoded] at decoded'
      cases decoded'
      obtain ⟨object', rfl⟩ := is.starts
      exact absurd whole (by simp)
  · split
    · rename_i malformed
      constructor
      · intro supports
        cases supports
      · rintro ⟨text, decoded, _⟩
        rw [malformed] at decoded
        cases decoded
    · rename_i text decoded
      rw [beq_iff_eq]
      constructor
      · exact fun accepted => ⟨text, decoded, read_eq_true.mp accepted⟩
      · rintro ⟨text', decoded', announces⟩
        rw [decoded] at decoded'
        cases decoded'
        exact read_eq_true.mpr announces

/-- Metrics are supported exactly where the payload announces them, unless it does so only with
digits that are not of the standard. -/
theorem supportsMetrics_iff (payload : List UInt8) :
    (helloAckSupportsMetrics payload = true ↔ Announced asciiDigits payload) ↔
      (Announced unicodeDigits payload → ∀ text, decodeUtf8 payload = some text →
        standardDigits false (text.toList.flatMap utf16)) := by
  rw [helloAckSupportsMetrics_eq_true]
  constructor
  · intro same wide text decoded
    obtain ⟨text', decoded', announces⟩ := same.mp wide
    rw [decoded] at decoded'
    cases decoded'
    exact (announces_wider announces).2
  · intro standard
    constructor
    · intro wide
      obtain ⟨text, decoded, announces⟩ := wide
      exact ⟨text, decoded,
        announces_narrower announces (standard ⟨text, decoded, announces⟩ text decoded)⟩
    · rintro ⟨text, decoded, announces⟩
      exact ⟨text, decoded, (announces_wider announces).1⟩

/-- `{"capabilities":["metrics_v1"],"a":1٣}` -/
def arabicDigit : List UInt8 :=
  [123, 34, 99, 97, 112, 97, 98, 105, 108, 105, 116, 105, 101, 115, 34, 58, 91, 34, 109, 101, 116,
    114, 105, 99, 115, 95, 118, 49, 34, 93, 44, 34, 97, 34, 58, 49, 217, 163, 125]

theorem arabicDigit_supportsMetrics :
    ¬∀ payload, helloAckSupportsMetrics payload = true ↔ Announced asciiDigits payload := by
  intro each
  obtain ⟨text, decoded, announces⟩ := (each arabicDigit).mp (by decide +kernel)
  have foreign : (decodeUtf8 arabicDigit).any (fun text =>
      standardDigits false (text.toList.flatMap utf16)) = false := by decide +kernel
  rw [decoded, Option.any_some, (announces_wider announces).2] at foreign
  cases foreign

end QuestVdWired.Android
