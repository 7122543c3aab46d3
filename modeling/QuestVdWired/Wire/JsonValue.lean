import Mathlib.Data.List.Basic
import Mathlib.Tactic.Common

/-!
JSON values with the members of an object in the order of their keys, and values that are hidden
under some of the keys.
-/

namespace Wire

abbrev JsonKey := List Char

/-- A number as it is held: an integer that fits in 64 bits, or the bits of a floating one. -/
inductive JsonNumber where
  | posInt (n : UInt64)
  | negInt (n : Int64)
  | float (bits : UInt64)
  deriving DecidableEq

inductive JsonValue where
  | null
  | bool (b : Bool)
  | number (n : JsonNumber)
  | string (text : List Char)
  | array (values : List JsonValue)
  | object (members : List (JsonKey × JsonValue))

namespace JsonValue

/-- Induction over the nesting. -/
theorem induct {P : JsonValue → Prop} (null : P .null) (bool : ∀ b, P (.bool b))
    (number : ∀ n, P (.number n)) (string : ∀ text, P (.string text))
    (array : ∀ values, (∀ value ∈ values, P value) → P (.array values))
    (object : ∀ members, (∀ member ∈ members, P member.2) → P (.object members))
    (value : JsonValue) : P value :=
  @JsonValue.rec P (fun values => ∀ value ∈ values, P value)
    (fun members => ∀ member ∈ members, P member.2) (fun member => P member.2)
    null bool number string array object
    (by simp) (fun _ _ first rest => by simpa using ⟨first, rest⟩)
    (by simp) (fun _ _ first rest => by simpa using ⟨first, by simpa using rest⟩)
    (fun _ _ value => value) value

section
variable (hidden : JsonKey → Bool) (text : List Char → List Char → Prop)

mutual
/-- The same keys, lengths and scalars, but for what stands under hidden keys. What the strings have
in common is a parameter. -/
def Matches : JsonValue → JsonValue → Prop
  | .string content, .string content' => text content content'
  | .array values, .array values' => MatchesAll values values'
  | .object members, .object members' => MatchesMembers members members'
  | value, value' => value = value'

def MatchesAll : List JsonValue → List JsonValue → Prop
  | [], [] => True
  | value :: values, value' :: values' => Matches value value' ∧ MatchesAll values values'
  | _, _ => False

def MatchesMembers : List (JsonKey × JsonValue) → List (JsonKey × JsonValue) → Prop
  | [], [] => True
  | (key, value) :: members, (key', value') :: members' =>
      key = key' ∧ (hidden key = true ∨ Matches value value') ∧ MatchesMembers members members'
  | _, _ => False
end

/-- Values that differ only in what stands under hidden keys. -/
def Alike : JsonValue → JsonValue → Prop := Matches hidden Eq

attribute [local grind =] Matches MatchesAll MatchesMembers

variable (placeholder : JsonValue)

mutual
/-- Under every hidden key, at any depth, stands the placeholder. -/
def Conceals : JsonValue → Prop
  | .array values => ConcealsAll values
  | .object members => ConcealsMembers members
  | _ => True

def ConcealsAll : List JsonValue → Prop
  | [] => True
  | value :: values => Conceals value ∧ ConcealsAll values

def ConcealsMembers : List (JsonKey × JsonValue) → Prop
  | [] => True
  | (key, value) :: members =>
      (if hidden key = true then value = placeholder else Conceals value) ∧
        ConcealsMembers members
end

mutual
/-- The members of every object stand in the order of their keys, and no key stands twice. -/
def Sorted : JsonValue → Prop
  | .array values => SortedAll values
  | .object members => (members.map Prod.fst).Pairwise (· < ·) ∧ SortedMembers members
  | _ => True

def SortedAll : List JsonValue → Prop
  | [] => True
  | value :: values => Sorted value ∧ SortedAll values

def SortedMembers : List (JsonKey × JsonValue) → Prop
  | [] => True
  | (_, value) :: members => Sorted value ∧ SortedMembers members
end

attribute [local grind =] Conceals Sorted

end

/-! ### Member by member -/

section
variable {hidden : JsonKey → Bool} {text : List Char → List Char → Prop} {placeholder : JsonValue}
  {f : JsonValue → JsonValue} {g : JsonKey × JsonValue → JsonValue}

theorem matchesAll_map {values : List JsonValue}
    (each : ∀ value ∈ values, Matches hidden text value (f value)) :
    MatchesAll hidden text values (values.map f) := by
  induction values with
  | nil => simp [MatchesAll]
  | cons value values ih =>
      rw [List.forall_mem_cons] at each
      rw [List.map_cons, MatchesAll]
      exact ⟨each.1, ih each.2⟩

theorem matchesMembers_map {members : List (JsonKey × JsonValue)}
    (each : ∀ member ∈ members, hidden member.1 = true ∨ Matches hidden text member.2 (g member)) :
    MatchesMembers hidden text members (members.map fun member => (member.1, g member)) := by
  induction members with
  | nil => simp [MatchesMembers]
  | cons member members ih =>
      rw [List.forall_mem_cons] at each
      rw [List.map_cons, MatchesMembers]
      exact ⟨rfl, each.1, ih each.2⟩

theorem concealsAll_iff {values : List JsonValue} : ConcealsAll hidden placeholder values ↔
    ∀ value ∈ values, Conceals hidden placeholder value := by
  induction values with
  | nil => simp [ConcealsAll]
  | cons value values ih => rw [ConcealsAll, ih, List.forall_mem_cons]

theorem concealsMembers_iff {members : List (JsonKey × JsonValue)} :
    ConcealsMembers hidden placeholder members ↔ ∀ member ∈ members,
      if hidden member.1 = true then member.2 = placeholder
      else Conceals hidden placeholder member.2 := by
  induction members with
  | nil => simp [ConcealsMembers]
  | cons member members ih => rw [ConcealsMembers, ih, List.forall_mem_cons]

theorem sortedAll_iff {values : List JsonValue} :
    SortedAll values ↔ ∀ value ∈ values, Sorted value := by
  induction values with
  | nil => simp [SortedAll]
  | cons value values ih => rw [SortedAll, ih, List.forall_mem_cons]

theorem sortedMembers_iff {members : List (JsonKey × JsonValue)} :
    SortedMembers members ↔ ∀ member ∈ members, Sorted member.2 := by
  induction members with
  | nil => simp [SortedMembers]
  | cons member members ih => rw [SortedMembers, ih, List.forall_mem_cons]

/-- Equal results for lists that match. -/
theorem map_eq_of_matchesAll {values values' : List JsonValue}
    (each : ∀ value ∈ values, ∀ value', Matches hidden text value value' → f value = f value')
    (alike : MatchesAll hidden text values values') : values.map f = values'.map f := by
  induction values generalizing values' with
  | nil =>
      cases values' with
      | nil => rfl
      | cons value' values' => simp [MatchesAll] at alike
  | cons value values ih =>
      cases values' with
      | nil => simp [MatchesAll] at alike
      | cons value' values' =>
          rw [MatchesAll] at alike
          rw [List.forall_mem_cons] at each
          rw [List.map_cons, List.map_cons, each.1 value' alike.1, ih each.2 alike.2]

theorem map_eq_of_matchesMembers {members members' : List (JsonKey × JsonValue)}
    (each : ∀ member ∈ members, ∀ value',
      hidden member.1 = true ∨ Matches hidden text member.2 value' →
        g member = g (member.1, value'))
    (alike : MatchesMembers hidden text members members') :
    (members.map fun member => (member.1, g member)) =
      members'.map fun member => (member.1, g member) := by
  induction members generalizing members' with
  | nil =>
      cases members' with
      | nil => rfl
      | cons member' members' => simp [MatchesMembers] at alike
  | cons member members ih =>
      cases members' with
      | nil => simp [MatchesMembers] at alike
      | cons member' members' =>
          rw [MatchesMembers] at alike
          rw [List.forall_mem_cons] at each
          obtain ⟨key, same, rest⟩ := alike
          rw [List.map_cons, List.map_cons, each.1 member'.2 same, ih each.2 rest, key]

end

end JsonValue
end Wire
