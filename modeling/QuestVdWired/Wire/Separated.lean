import Mathlib.Data.List.TakeWhile
import Mathlib.Tactic.Common

/-!
Items with commas between them and blanks around them, and the loop that reads them up to their
closing bracket. A reader takes a prefix of its input and returns what is left.
-/

namespace Wire
variable {α β σ : Type*}

/-- The input behind one expected character. -/
def consume [DecidableEq α] (expected : α) : List α → Option (List α)
  | [] => none
  | c :: input => if c = expected then some input else none

theorem consume_eq_some [DecidableEq α] {expected : α} {input rest : List α} :
    consume expected input = some rest ↔ input = expected :: rest := by
  cases input with
  | nil => simp [consume]
  | cons c input =>
      rw [consume]
      by_cases same : c = expected
      · simp [same]
      · simp [same]

/-- Each item with the blanks behind it, and a comma with the blanks behind it between two. -/
inductive Separated (blank : α → Bool) (comma : α) (Item : List α → β → Prop) :
    List α → List β → Prop
  | last {v w : List α} {b : β} (item : Item v b) (space : ∀ c ∈ w, blank c) :
      Separated blank comma Item (v ++ w) [b]
  | more {v w w' text : List α} {b : β} {items : List β} (item : Item v b)
      (space : ∀ c ∈ w, blank c) (space' : ∀ c ∈ w', blank c)
      (later : Separated blank comma Item text items) :
      Separated blank comma Item (v ++ (w ++ comma :: (w' ++ text))) (b :: items)

/-- What the items make of a state, one after the other. -/
inductive Steps (Step : σ → β → σ → Prop) : σ → List β → σ → Prop
  | nil {s : σ} : Steps Step s [] s
  | cons {s s' s'' : σ} {b : β} {items : List β} (step : Step s b s')
      (later : Steps Step s' items s'') : Steps Step s (b :: items) s''

/-- Read items up to the bracket. An item is followed by the bracket, or by a comma and the next. -/
def readItems [DecidableEq α] (blank : α → Bool) (comma close : α)
    (readItem : σ → List α → Option (σ × List α)) (s : σ) (input : List α) :
    Option (σ × List α) :=
  match readItem s input with
  | none => none
  | some (s, rest) =>
      match consume close (rest.dropWhile blank) with
      | some rest => some (s, rest)
      | none =>
          match consume comma (rest.dropWhile blank) with
          | none => none
          | some rest =>
              -- there is always less to be read than before
              if (rest.dropWhile blank).length < input.length then
                readItems blank comma close readItem s (rest.dropWhile blank)
              else none
  termination_by input.length

/-- A list in its brackets. -/
def Bracketed (blank : α → Bool) (comma opening close : α) (Item : List α → β → Prop)
    (text : List α) (items : List β) : Prop :=
  ∃ w, (∀ c ∈ w, blank c) ∧
    ((items = [] ∧ text = opening :: (w ++ [close])) ∨
      ∃ body, Separated blank comma Item body items ∧ text = opening :: (w ++ (body ++ [close])))

def readBracketed [DecidableEq α] (blank : α → Bool) (comma opening close : α)
    (readItem : σ → List α → Option (σ × List α)) (s : σ) (input : List α) :
    Option (σ × List α) :=
  match consume opening input with
  | none => none
  | some input =>
      match consume close (input.dropWhile blank) with
      | some input => some (s, input)
      | none => readItems blank comma close readItem s (input.dropWhile blank)

/-- What makes a reader read the items of a list: it takes an item exactly where there is one, and
what may follow an item does not make another of it. -/
structure ReadsItem (blank : α → Bool) (close : α) (stop : α → Prop) (Item : List α → β → Prop)
    (Step : σ → β → σ → Prop) (readItem : σ → List α → Option (σ × List α)) : Prop where
  sound : ∀ {s s' input rest}, readItem s input = some (s', rest) →
    ∃ v b, Item v b ∧ Step s b s' ∧ input = v ++ rest
  complete : ∀ {s s' v b rest}, Item v b → Step s b s' → (∀ c ∈ rest.head?, stop c) →
    readItem s (v ++ rest) = some (s', rest)
  starts : ∀ {v b}, Item v b → ∃ c v', v = c :: v' ∧ blank c = false ∧ c ≠ close

attribute [local grind =] readItems

section
variable {blank : α → Bool} {comma close c : α} {stop : α → Prop} {Item : List α → β → Prop}
  {Step : σ → β → σ → Prop} {readItem : σ → List α → Option (σ × List α)} {s s' : σ}
  {input rest text w : List α} {items : List β}

theorem dropWhile_blank (space : ∀ c ∈ w, blank c) (solid : blank c = false) :
    (w ++ c :: rest).dropWhile blank = c :: rest := by
  rw [List.dropWhile_append_of_pos space, List.dropWhile_cons_of_neg (by simp [solid])]

theorem blank_dropWhile (blank : α → Bool) (input : List α) :
    ∃ w, (∀ c ∈ w, blank c) ∧ input = w ++ input.dropWhile blank :=
  ⟨input.takeWhile blank, fun _ member => List.mem_takeWhile_imp member,
    (List.takeWhile_append_dropWhile ..).symm⟩

theorem Separated.starts (reads : ReadsItem blank close stop Item Step readItem)
    (h : Separated blank comma Item text items) :
    ∃ c text', text = c :: text' ∧ blank c = false ∧ c ≠ close := by
  cases h with
  | last item | more item =>
      obtain ⟨c, v', rfl, solid⟩ := reads.starts item
      exact ⟨c, _, rfl, solid⟩

theorem Separated.map {γ : Type*} {Item' : List α → γ → Prop} (f : β → γ)
    (each : ∀ {v b}, Item v b → Item' v (f b)) (h : Separated blank comma Item text items) :
    Separated blank comma Item' text (items.map f) := by
  induction h with
  | last item space => exact .last (each item) space
  | more item space space' later ih => exact .more (each item) space space' ih

theorem Bracketed.map {γ : Type*} {Item' : List α → γ → Prop} {opening : α} (f : β → γ)
    (each : ∀ {v b}, Item v b → Item' v (f b))
    (h : Bracketed blank comma opening close Item text items) :
    Bracketed blank comma opening close Item' text (items.map f) := by
  obtain ⟨w, space, ⟨rfl, rfl⟩ | ⟨body, separated, rfl⟩⟩ := h
  · exact ⟨w, space, .inl ⟨rfl, rfl⟩⟩
  · exact ⟨w, space, .inr ⟨body, separated.map f each, rfl⟩⟩

theorem Separated.mem (h : Separated blank comma Item text items) {b : β} (member : b ∈ items) :
    ∃ v, Item v b := by
  induction h with
  | last item =>
      rw [List.mem_singleton.mp member]
      exact ⟨_, item⟩
  | more item space space' later ih =>
      rcases List.mem_cons.mp member with rfl | member
      · exact ⟨_, item⟩
      · exact ih member

theorem Bracketed.mem {opening : α} (h : Bracketed blank comma opening close Item text items)
    {b : β} (member : b ∈ items) : ∃ v, Item v b := by
  obtain ⟨w, _, ⟨rfl, _⟩ | ⟨body, separated, _⟩⟩ := h
  · cases member
  · exact separated.mem member

theorem Bracketed.starts {opening : α} (h : Bracketed blank comma opening close Item text items) :
    ∃ text', text = opening :: text' := by
  obtain ⟨w, _, ⟨_, rfl⟩ | ⟨body, _, rfl⟩⟩ := h
  · exact ⟨_, rfl⟩
  · exact ⟨_, rfl⟩

variable [DecidableEq α]

/-- The loop as it is written: for a reader of items there is less to be read every time. -/
theorem readItems_eq (reads : ReadsItem blank close stop Item Step readItem) :
    readItems blank comma close readItem s input =
      match readItem s input with
      | none => none
      | some (s, rest) =>
          match consume close (rest.dropWhile blank) with
          | some rest => some (s, rest)
          | none =>
              match consume comma (rest.dropWhile blank) with
              | none => none
              | some rest => readItems blank comma close readItem s (rest.dropWhile blank) := by
  rw [readItems]
  cases read : readItem s input with
  | none => rfl
  | some pair =>
      obtain ⟨s', rest⟩ := pair
      simp only
      split
      · rfl
      · split
        · rfl
        · rename_i rest' separated
          obtain ⟨v, b, _, _, rfl⟩ := reads.sound read
          have whole := congrArg List.length (consume_eq_some.mp separated)
          have some' := (List.dropWhile_suffix (p := blank) (l := rest)).length_le
          have fewer := (List.dropWhile_suffix (p := blank) (l := rest')).length_le
          rw [List.length_cons] at whole
          rw [if_pos (by rw [List.length_append]; omega)]

theorem readItems_sound (reads : ReadsItem blank close stop Item Step readItem)
    (read : readItems blank comma close readItem s input = some (s', rest)) :
    ∃ text items, Separated blank comma Item text items ∧ Steps Step s items s' ∧
      input = text ++ close :: rest := by
  induction length : input.length using Nat.strongRecOn generalizing s input with
  | ind length ih =>
      subst length
      rw [readItems_eq reads] at read
      split at read
      · cases read
      · rename_i s₁ rest₁ taken
        obtain ⟨v, b, item, step, rfl⟩ := reads.sound taken
        obtain ⟨w, space, split₁⟩ := blank_dropWhile blank rest₁
        split at read
        · rename_i rest₂ closed
          cases read
          rw [consume_eq_some.mp closed] at split₁
          refine ⟨v ++ w, [b], .last item space, .cons step .nil, ?_⟩
          rw [split₁, List.append_assoc]
        · split at read
          · cases read
          · rename_i rest₂ separated
            rw [consume_eq_some.mp separated] at split₁
            obtain ⟨w', space', split₂⟩ := blank_dropWhile blank rest₂
            have shorter : (rest₂.dropWhile blank).length < (v ++ rest₁).length := by
              have fewer := (List.dropWhile_suffix (p := blank) (l := rest₂)).length_le
              have whole := congrArg List.length split₁
              rw [List.length_append, List.length_cons] at whole
              rw [List.length_append]
              omega
            obtain ⟨text, items, separated, steps, rest'⟩ := ih _ shorter read rfl
            refine ⟨v ++ (w ++ comma :: (w' ++ text)), b :: items,
              .more item space space' separated, .cons step steps, ?_⟩
            rw [rest'] at split₂
            rw [split₁, split₂]
            simp only [List.append_assoc, List.cons_append]

theorem readItems_complete (reads : ReadsItem blank close stop Item Step readItem)
    (blanks : ∀ c, blank c → stop c) (commas : stop comma) (closes : stop close)
    (solid : blank comma = false) (solid' : blank close = false) (apart : comma ≠ close)
    (separated : Separated blank comma Item text items) (steps : Steps Step s items s') :
    readItems blank comma close readItem s (text ++ close :: rest) = some (s', rest) := by
  have follows {w rest : List α} {c : α} (space : ∀ c ∈ w, blank c) (next : stop c) :
      ∀ d ∈ (w ++ c :: rest).head?, stop d := by
    intro d head
    cases w with
    | nil =>
        cases head
        exact next
    | cons e w =>
        cases head
        exact blanks _ (space _ (List.mem_cons_self ..))
  induction separated generalizing s with
  | last item space =>
      cases steps with
      | cons step later =>
          cases later
          rw [readItems_eq reads, List.append_assoc,
            reads.complete item step (follows space closes)]
          simp only [dropWhile_blank space solid', consume, if_pos]
  | @more v w w' text b items item space space' later ih =>
      cases steps with
      | cons step after =>
          obtain ⟨c, text', first, solid'', _⟩ := later.starts reads
          have behind :
              (w' ++ (text ++ close :: rest)).dropWhile blank = text ++ close :: rest := by
            rw [first, List.cons_append]
            exact dropWhile_blank space' solid''
          rw [readItems_eq reads]
          simp only [List.append_assoc, List.cons_append]
          rw [reads.complete item step (follows space commas)]
          simp only [dropWhile_blank space solid, consume, if_neg apart, if_pos]
          rw [behind]
          exact ih after

theorem readBracketed_sound {opening : α} (reads : ReadsItem blank close stop Item Step readItem)
    (read : readBracketed blank comma opening close readItem s input = some (s', rest)) :
    ∃ text items, Bracketed blank comma opening close Item text items ∧ Steps Step s items s' ∧
      input = text ++ rest := by
  unfold readBracketed at read
  split at read
  · cases read
  · rename_i input' opened
    rw [consume_eq_some.mp opened]
    obtain ⟨w, space, whole⟩ := blank_dropWhile blank input'
    split at read
    · rename_i closed
      cases read
      rw [consume_eq_some.mp closed] at whole
      refine ⟨opening :: (w ++ [close]), [], ⟨w, space, .inl ⟨rfl, rfl⟩⟩, .nil, ?_⟩
      rw [whole]
      simp
    · obtain ⟨body, items, separated, steps, body_rest⟩ := readItems_sound reads read
      rw [body_rest] at whole
      refine ⟨opening :: (w ++ (body ++ [close])), items, ⟨w, space, .inr ⟨body, separated, rfl⟩⟩,
        steps, ?_⟩
      rw [whole]
      simp

theorem readBracketed_complete {opening : α}
    (reads : ReadsItem blank close stop Item Step readItem) (blanks : ∀ c, blank c → stop c)
    (commas : stop comma) (closes : stop close) (solid : blank comma = false)
    (solid' : blank close = false) (apart : comma ≠ close)
    (bracketed : Bracketed blank comma opening close Item text items)
    (steps : Steps Step s items s') :
    readBracketed blank comma opening close readItem s (text ++ rest) = some (s', rest) := by
  obtain ⟨w, space, ⟨rfl, rfl⟩ | ⟨body, separated, rfl⟩⟩ := bracketed
  · cases steps
    simp only [readBracketed, List.cons_append, List.append_assoc, List.nil_append, consume,
      if_true, dropWhile_blank space solid']
  · obtain ⟨c, body', first, solid'', open'⟩ := separated.starts reads
    have read : readItems blank comma close readItem s (body ++ close :: rest) = some (s', rest) :=
      readItems_complete reads blanks commas closes solid solid' apart separated steps
    have behind : (w ++ (body ++ close :: rest)).dropWhile blank = body ++ close :: rest := by
      rw [first, List.cons_append]
      exact dropWhile_blank space solid''
    simp only [readBracketed, List.cons_append, List.append_assoc, List.nil_append]
    rw [consume, if_pos rfl]
    simp only [behind, read]
    rw [first, List.cons_append, consume, if_neg open']

end
end Wire
