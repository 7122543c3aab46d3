import QuestVdWired.Wire.Bytes

/-!
Readers and encoders. A reader consumes a prefix of what is left of a stream and returns
it with the remainder; `Reads` says that a reader accepts exactly the encodings of its
values, whatever follows them, and a stream of encodings is then read back value by value.
-/

namespace Wire
universe u

/-- The next `n` bytes of a stream and what is left; `none` at its end. -/
def readExact (n : Nat) (input : List UInt8) : Option (List UInt8 × List UInt8) :=
  if n ≤ input.length then some (input.take n, input.drop n) else none

@[simp] theorem readExact_append (bytes rest : List UInt8) :
    readExact bytes.length (bytes ++ rest) = some (bytes, rest) := by
  simp [readExact]

theorem readExact_append_of_length {bytes rest : List UInt8} {n : Nat} (wide : bytes.length = n) :
    readExact n (bytes ++ rest) = some (bytes, rest) := by
  rw [← wide, readExact_append]

theorem readExact_eq_some {n : Nat} {input bytes rest : List UInt8}
    (h : readExact n input = some (bytes, rest)) :
    input = bytes ++ rest ∧ bytes.length = n := by
  unfold readExact at h
  split at h
  · rename_i enough
    cases h
    exact ⟨(List.take_append_drop n input).symm, List.length_take_of_le enough⟩
  · cases h

section
variable {ε α : Type u}

theorem bind_eq_ok {β : Type u} {first : Except ε α} {next : α → Except ε β} {b : β} :
    (first >>= next) = .ok b ↔ ∃ a, first = .ok a ∧ next a = .ok b := by
  cases first with
  | error e => simp [bind, Except.bind]
  | ok a => simp [bind, Except.bind]

theorem ite_error_eq_ok {p : Prop} [Decidable p] {e : ε} {x : Except ε α} {a : α} :
    (if p then .error e else x) = .ok a ↔ ¬ p ∧ x = .ok a := by
  split <;> simp_all

/-- The reader accepts exactly the encodings, each followed by anything. -/
def Reads (encode : α → Except ε (List UInt8))
    (read : List UInt8 → Except ε (α × List UInt8)) : Prop :=
  ∀ input a rest, read input = .ok (a, rest) ↔
    ∃ bytes, encode a = .ok bytes ∧ input = bytes ++ rest

/-- Read `n` values one after the other. -/
def readMany (read : List UInt8 → Except ε (α × List UInt8)) :
    Nat → List UInt8 → Except ε (List α × List UInt8)
  | 0, input => .ok ([], input)
  | n + 1, input =>
      match read input with
      | .error e => .error e
      | .ok (a, rest) =>
          match readMany read n rest with
          | .error e => .error e
          | .ok (values, rest) => .ok (a :: values, rest)

/-- The encodings of a list of values, one after the other. -/
def encodeMany (encode : α → Except ε (List UInt8)) : List α → Except ε (List UInt8)
  | [] => .ok []
  | a :: values =>
      match encode a with
      | .error e => .error e
      | .ok bytes =>
          match encodeMany encode values with
          | .error e => .error e
          | .ok more => .ok (bytes ++ more)

/-- One value is read back from in front of anything. -/
def ReadsBack (encode : α → Except ε (List UInt8))
    (read : List UInt8 → Except ε (α × List UInt8)) (a : α) : Prop :=
  ∀ bytes rest, encode a = .ok bytes → read (bytes ++ rest) = .ok (a, rest)

attribute [local grind =] readMany encodeMany

theorem Reads.readsBack {encode : α → Except ε (List UInt8)}
    {read : List UInt8 → Except ε (α × List UInt8)} (reads : Reads encode read) (a : α) :
    ReadsBack encode read a := by
  intro bytes rest encoded
  exact (reads (bytes ++ rest) a rest).mpr ⟨bytes, encoded, rfl⟩

theorem encodeMany_cons_eq_ok {encode : α → Except ε (List UInt8)} {a : α} {values : List α}
    {bytes : List UInt8} :
    encodeMany encode (a :: values) = .ok bytes ↔
      ∃ first more, encode a = .ok first ∧ encodeMany encode values = .ok more ∧
        bytes = first ++ more := by
  rw [encodeMany]
  constructor
  · intro h
    split at h
    · cases h
    · split at h
      · cases h
      · rename_i first own _ more others
        cases h
        exact ⟨first, more, own, others, rfl⟩
  · rintro ⟨first, more, own, others, rfl⟩
    rw [own, others]

theorem encodeMany_singleton {encode : α → Except ε (List UInt8)} {a : α} {bytes : List UInt8}
    (own : encode a = .ok bytes) : encodeMany encode [a] = .ok bytes :=
  encodeMany_cons_eq_ok.mpr ⟨bytes, [], own, rfl, (List.append_nil bytes).symm⟩

theorem encodeMany_append {encode : α → Except ε (List UInt8)} {l r : List α}
    {before after : List UInt8} (first : encodeMany encode l = .ok before)
    (second : encodeMany encode r = .ok after) :
    encodeMany encode (l ++ r) = .ok (before ++ after) := by
  induction l generalizing before with
  | nil =>
      cases first
      exact second
  | cons a l ih =>
      obtain ⟨own, more, encoded, others, rfl⟩ := encodeMany_cons_eq_ok.mp first
      rw [List.append_assoc]
      exact encodeMany_cons_eq_ok.mpr ⟨own, more ++ after, encoded, ih others, rfl⟩

theorem encodeMany_append_eq_ok {encode : α → Except ε (List UInt8)} {l r : List α}
    {bytes : List UInt8} :
    encodeMany encode (l ++ r) = .ok bytes ↔
      ∃ before after, encodeMany encode l = .ok before ∧ encodeMany encode r = .ok after ∧
        bytes = before ++ after := by
  constructor
  · intro h
    induction l generalizing bytes with
    | nil => exact ⟨[], bytes, rfl, h, rfl⟩
    | cons a l ih =>
        obtain ⟨own, more, encoded, others, rfl⟩ := encodeMany_cons_eq_ok.mp h
        obtain ⟨before, after, first, second, rfl⟩ := ih others
        exact ⟨own ++ before, after, encodeMany_cons_eq_ok.mpr ⟨own, before, encoded, first, rfl⟩,
          second, (List.append_assoc ..).symm⟩
  · rintro ⟨before, after, first, second, rfl⟩
    exact encodeMany_append first second

theorem encodeMany_of_forall {encode : α → Except ε (List UInt8)} {values : List α}
    (encodable : ∀ a ∈ values, ∃ bytes, encode a = .ok bytes) :
    ∃ bytes, encodeMany encode values = .ok bytes := by
  induction values with
  | nil => exact ⟨[], rfl⟩
  | cons a values ih =>
      obtain ⟨first, own⟩ := encodable a (List.mem_cons_self ..)
      obtain ⟨more, others⟩ := ih fun b mem => encodable b (List.mem_cons_of_mem a mem)
      exact ⟨first ++ more, encodeMany_cons_eq_ok.mpr ⟨first, more, own, others, rfl⟩⟩

/-- A stream of encodings is read back value by value. -/
theorem readMany_encodeMany {encode : α → Except ε (List UInt8)}
    {read : List UInt8 → Except ε (α × List UInt8)} {values : List α}
    (back : ∀ a ∈ values, ReadsBack encode read a) {bytes : List UInt8}
    (encoded : encodeMany encode values = .ok bytes) (rest : List UInt8) :
    readMany read values.length (bytes ++ rest) = .ok (values, rest) := by
  induction values generalizing bytes with
  | nil =>
      cases encoded
      rfl
  | cons a values ih =>
      obtain ⟨first, more, own, others, rfl⟩ := encodeMany_cons_eq_ok.mp encoded
      have head := back a (List.mem_cons_self ..) first (more ++ rest) own
      have tail := ih (fun b mem => back b (List.mem_cons_of_mem a mem)) others
      simp only [List.length_cons, readMany, List.append_assoc, head, tail]

/-- Two readers agree on every stream as soon as their encoders write the same bytes for
corresponding values: the readers' own order of checks does not matter. -/
theorem Reads.agree {ε' β : Type u} {encode : α → Except ε (List UInt8)}
    {read : List UInt8 → Except ε (α × List UInt8)} {encode' : β → Except ε' (List UInt8)}
    {read' : List UInt8 → Except ε' (β × List UInt8)} {f : α → β}
    (reads : Reads encode read) (reads' : Reads encode' read') (onto : Function.Surjective f)
    (same : ∀ a bytes, encode a = .ok bytes ↔ encode' (f a) = .ok bytes) (input : List UInt8) :
    (∃ e e', read input = .error e ∧ read' input = .error e') ∨
      ∃ a rest, read input = .ok (a, rest) ∧ read' input = .ok (f a, rest) := by
  cases own : read input with
  | ok result =>
      obtain ⟨a, rest⟩ := result
      obtain ⟨bytes, encoded, split⟩ := (reads input a rest).mp own
      have other := (reads' input (f a) rest).mpr ⟨bytes, (same a bytes).mp encoded, split⟩
      exact Or.inr ⟨a, rest, rfl, other⟩
  | error e =>
      refine Or.inl ?_
      cases other : read' input with
      | error e' => exact ⟨e, e', rfl, rfl⟩
      | ok result =>
          obtain ⟨b, rest⟩ := result
          obtain ⟨bytes, encoded, split⟩ := (reads' input b rest).mp other
          obtain ⟨a, rfl⟩ := onto b
          have accepted := (reads input a rest).mpr ⟨bytes, (same a bytes).mpr encoded, split⟩
          rw [own] at accepted
          cases accepted

end
end Wire
