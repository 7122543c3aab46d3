import Mathlib.Algebra.Group.Nat.Defs
import Mathlib.Tactic.Common

/-!
Programs that ask an oracle. The oracle may let each answer depend on everything asked and
answered before, so quantifying over oracles quantifies over every behaviour of what stands
behind it. A program's meaning is its result together with the exchanges it adds to the
record, and its specification speaks of exactly those.
-/

namespace Oracle

/-- A question and the answer it got. -/
abbrev Exchange (Q : Type) (A : Q → Type) := (q : Q) × A q

/-- Answers, given the record so far. -/
abbrev Answers (Q : Type) (A : Q → Type) := List (Exchange Q A) → (q : Q) → A q

def Asking (Q : Type) (A : Q → Type) (α : Type) : Type :=
  Answers Q A → List (Exchange Q A) → α × List (Exchange Q A)

/-- An exchange about one part of what is asked. -/
def Exchange.embed {Q Q' : Type} {A' : Q' → Type} (part : Q → Q')
    (e : Exchange Q fun q => A' (part q)) : Exchange Q' A' := ⟨part e.1, e.2⟩

namespace Asking
variable {Q : Type} {A : Q → Type} {α β : Type}

instance : Monad (Asking Q A) where
  pure a := fun _ record => (a, record)
  bind m f := fun answers record =>
    let (a, record) := m answers record
    f a answers record

def ask (q : Q) : Asking Q A (A q) := fun answers record =>
  let a := answers record q
  (a, record ++ [⟨q, a⟩])

/-- Whatever the oracle and whatever the past, the program adds a record `l` and returns `a`
with `P l a`. -/
def Ensures (m : Asking Q A α) (P : List (Exchange Q A) → α → Prop) : Prop :=
  ∀ answers record, ∃ l, (m answers record).2 = record ++ l ∧ P l (m answers record).1

variable {m : Asking Q A α} {f : α → Asking Q A β} {P P' : List (Exchange Q A) → α → Prop}
  {R : List (Exchange Q A) → β → Prop}

theorem Ensures.mono (h : Ensures m P) (weaker : ∀ l a, P l a → P' l a) : Ensures m P' := by
  intro answers record
  obtain ⟨l, added, holds⟩ := h answers record
  exact ⟨l, added, weaker l _ holds⟩

theorem ensures_pure {a : α} (h : P [] a) : Ensures (pure a) P := by
  intro answers record
  exact ⟨[], (List.append_nil record).symm, h⟩

/-- A program that goes on with the answer it got. -/
theorem ensures_ask_bind {q : Q} {f : A q → Asking Q A β}
    (next : ∀ a, Ensures (f a) (fun l b => R (⟨q, a⟩ :: l) b)) : Ensures (ask q >>= f) R := by
  intro answers record
  obtain ⟨l, added, holds⟩ := next (answers record q) answers (record ++ [⟨q, answers record q⟩])
  exact ⟨⟨q, answers record q⟩ :: l, by rw [List.append_cons]; exact added, holds⟩

/-- A program that returns a function of a result. -/
theorem Ensures.returns {g : α → β} (h : Ensures m P) (gives : ∀ l a, P l a → R l (g a)) :
    Ensures (do return g (← m)) R := by
  intro answers record
  obtain ⟨l, added, holds⟩ := h answers record
  exact ⟨l, added, gives l _ holds⟩

/-- Sequencing: what the second part adds comes behind what the first added. -/
theorem Ensures.bind (h : Ensures m P)
    (next : ∀ l a, P l a → Ensures (f a) (fun l' b => R (l ++ l') b)) : Ensures (m >>= f) R := by
  intro answers record
  obtain ⟨l, added, holds⟩ := h answers record
  obtain ⟨l', added', holds'⟩ := next l _ holds answers (record ++ l)
  refine ⟨l ++ l', ?_, ?_⟩
  · rw [← List.append_assoc, ← added']
    change (f (m answers record).1 answers (m answers record).2).2 = _
    rw [added]
  · change R (l ++ l') (f (m answers record).1 answers (m answers record).2).1
    rw [added]
    exact holds'

/-- Some oracle and some past make the program record `l` and return `a`. -/
def Runs (m : Asking Q A α) (l : List (Exchange Q A)) (a : α) : Prop :=
  ∃ answers record, m answers record = (a, record ++ l)

theorem Ensures.of_runs (h : Ensures m P) {l : List (Exchange Q A)} {a : α} (runs : Runs m l a) :
    P l a := by
  obtain ⟨answers, record, ran⟩ := runs
  obtain ⟨l', added, holds⟩ := h answers record
  rw [ran] at added holds
  rwa [List.append_cancel_left added]

section
variable {Q' : Type} (A' : Q' → Type) (part : Q → Q')

/-- A program that asks only a part of what the oracle answers. -/
def lift (m : Asking Q (fun q => A' (part q)) α) : Asking Q' A' α := fun answers record =>
  let ran := m (fun l q => answers (record ++ l.map (Exchange.embed part)) (part q)) []
  (ran.1, record ++ ran.2.map (Exchange.embed part))

theorem ensures_lift (m : Asking Q (fun q => A' (part q)) α) :
    Ensures (lift A' part m) fun l a =>
      ∃ l', l = l'.map (Exchange.embed part) ∧ Runs m l' a := by
  intro answers record
  exact ⟨_, rfl, _, rfl, _, [], rfl⟩

end
end Asking
end Oracle
