import Mathlib.Data.List.Basic
import Mathlib.Data.List.Induction
import Mathlib.Tactic.Common

/-!
What has held since one of the events of a history, or from its beginning on.
-/

namespace Transition

variable {E : Type*} {sets keeps : E → Prop} {initially : Prop} {events : List E} {event : E}

/-- An event set it and all that came later keep it, or it was so at first and all events keep
it. -/
def Since (sets keeps : E → Prop) (initially : Prop) (events : List E) : Prop :=
  (∃ before event after, events = before ++ event :: after ∧ sets event ∧
    ∀ later ∈ after, keeps later) ∨ ((∀ event ∈ events, keeps event) ∧ initially)

theorem since_nil : Since sets keeps initially [] ↔ initially := by
  simp [Since]

/-- The last event decides, or leaves it to those before. -/
theorem since_append : Since sets keeps initially (events ++ [event]) ↔
    sets event ∨ keeps event ∧ Since sets keeps initially events := by
  constructor
  · rintro (⟨before, set, after, split, isSet, kept⟩ | ⟨kept, first⟩)
    · rcases List.eq_nil_or_concat after with rfl | ⟨after', last, rfl⟩
      · obtain ⟨_, is⟩ := List.append_inj' split rfl
        rw [List.head_eq_of_cons_eq is]
        exact .inl isSet
      · rw [List.concat_eq_append, ← List.cons_append, ← List.append_assoc] at split
        obtain ⟨rfl, is⟩ := List.append_inj' split rfl
        rw [List.concat_eq_append, List.forall_mem_append, List.forall_mem_singleton] at kept
        rw [List.head_eq_of_cons_eq is]
        exact .inr ⟨kept.2, .inl ⟨before, set, after', rfl, isSet, kept.1⟩⟩
    · rw [List.forall_mem_append, List.forall_mem_singleton] at kept
      exact .inr ⟨kept.2, .inr ⟨kept.1, first⟩⟩
  · rintro (isSet | ⟨kept, ⟨before, set, after, rfl, isSet, others⟩ | ⟨others, first⟩⟩)
    · exact .inl ⟨events, event, [], rfl, isSet, by simp⟩
    · refine .inl ⟨before, set, after ++ [event], by simp, isSet, ?_⟩
      rw [List.forall_mem_append, List.forall_mem_singleton]
      exact ⟨others, kept⟩
    · refine .inr ⟨?_, first⟩
      rw [List.forall_mem_append, List.forall_mem_singleton]
      exact ⟨others, kept⟩

end Transition
