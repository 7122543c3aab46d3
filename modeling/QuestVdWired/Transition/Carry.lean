import QuestVdWired.Transition.System

/-!
Two systems over one alphabet whose steps a function of states carries into each other
exactly: an action is enabled on both sides or on neither, and the results correspond. The
correspondence may be confined to some actions and to states they do not leave.
-/

namespace Transition
namespace System
universe u v w

structure Carries {σ : Type u} {τ : Type v} {α : Type w} (M : System σ α) (N : System τ α)
    (f : σ → τ) (I : σ → Prop) (P : α → Prop) : Prop where
  keep : ∀ s a t, I s → P a → M.step a s = some t → I t
  step : ∀ s a, I s → P a → N.step a (f s) = (M.step a s).map f

namespace Carries
variable {σ : Type u} {τ : Type v} {α : Type w} {M : System σ α} {N : System τ α}
  {f : σ → τ} {I : σ → Prop} {P : α → Prop}

theorem inside (c : M.Carries N f I P) {s t : σ} {acts : List α} (start : I s)
    (only : ∀ a ∈ acts, P a) (path : M.Path Free s acts t) : I t := by
  induction path with
  | nil => exact start
  | snoc _ _ taken ih =>
      exact c.keep _ _ _ (ih fun a ha => only a (by simp [ha])) (only _ (by simp)) taken

/-- The image of a run is a run. -/
theorem path (c : M.Carries N f I P) {s t : σ} {acts : List α} (start : I s)
    (only : ∀ a ∈ acts, P a) (path : M.Path Free s acts t) :
    N.Path Free (f s) acts (f t) := by
  induction path with
  | nil => exact .nil
  | @snoc acts t u a before _ taken ih =>
      have early : ∀ a ∈ acts, P a := fun a ha => only a (by simp [ha])
      have there := c.step t a (c.inside start early before) (only a (by simp))
      rw [taken] at there
      exact .snoc (ih early) trivial there

/-- A run from an image is the image of a run. -/
theorem of_path (c : M.Carries N f I P) {s : σ} {u : τ} {acts : List α} (start : I s)
    (only : ∀ a ∈ acts, P a) (path : N.Path Free (f s) acts u) :
    ∃ t, M.Path Free s acts t ∧ u = f t := by
  induction path with
  | nil => exact ⟨s, .nil, rfl⟩
  | @snoc acts u w a before _ taken ih =>
      have early : ∀ a ∈ acts, P a := fun a ha => only a (by simp [ha])
      obtain ⟨t, run, rfl⟩ := ih early
      rw [c.step t a (c.inside start early run) (only a (by simp))] at taken
      obtain ⟨t', taken', rfl⟩ := Option.map_eq_some_iff.mp taken
      exact ⟨t', .snoc run trivial taken', rfl⟩

end Carries

/-- A run of two lists of actions passes through a state between them. -/
theorem Path.split {σ : Type u} {α : Type v} {M : System σ α} {ok : σ → α → Prop}
    {s u : σ} {l r : List α} (path : M.Path ok s (l ++ r) u) :
    ∃ t, M.Path ok s l t ∧ M.Path ok t r u := by
  generalize whole : l ++ r = acts at path
  induction path generalizing r with
  | nil =>
      obtain ⟨rfl, rfl⟩ := List.append_eq_nil_iff.mp whole
      exact ⟨s, .nil, .nil⟩
  | @snoc acts t u a before meets taken ih =>
      rcases List.eq_nil_or_concat r with rfl | ⟨r', b, rfl⟩
      · rw [List.append_nil] at whole
        subst whole
        exact ⟨u, .snoc before meets taken, .nil⟩
      · rw [List.concat_eq_append, ← List.append_assoc] at whole
        obtain ⟨front, last⟩ := List.append_inj' whole rfl
        cases last
        obtain ⟨m, first, second⟩ := ih front
        refine ⟨m, first, ?_⟩
        rw [List.concat_eq_append]
        exact .snoc second meets taken

/-- The first step of a run. -/
theorem Path.uncons {σ : Type u} {α : Type v} {M : System σ α} {ok : σ → α → Prop}
    {s u : σ} {a : α} {acts : List α} (path : M.Path ok s (a :: acts) u) :
    ∃ t, ok s a ∧ M.step a s = some t ∧ M.Path ok t acts u := by
  obtain ⟨t, first, rest⟩ := Path.split (l := [a]) path
  generalize single : [a] = front at first
  cases first with
  | nil => cases single
  | snoc before meets taken =>
      cases before with
      | nil =>
          cases single
          exact ⟨t, meets, taken, rest⟩
      | snoc _ _ _ =>
          have length := congrArg List.length single
          simp at length

end System
end Transition
