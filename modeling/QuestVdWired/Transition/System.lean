import Mathlib.Algebra.Group.Nat.Defs
import Mathlib.Logic.Function.Basic
import Mathlib.Tactic.Common

/-!
Guarded transition systems. A step function returns `none` where its action is
not enabled, so one definition serves replay of a concrete schedule and proof
about every schedule. Runs carry a side condition on the state before each
step; the free runs are those under the trivial condition.
-/

namespace Transition
universe u v

structure System (σ : Type u) (α : Type v) where
  init : σ
  step : α → σ → Option σ

/-- The side condition every step meets. -/
def Free {σ : Type u} {α : Type v} (_ : σ) (_ : α) : Prop := True

instance {σ : Type u} {α : Type v} (s : σ) (a : α) : Decidable (Free s a) :=
  inferInstanceAs (Decidable True)

namespace System
variable {σ : Type u} {α : Type v} (M : System σ α)

/-- The actions lead from `s` to the last state, each step meeting `ok`. -/
inductive Path (ok : σ → α → Prop) (s : σ) : List α → σ → Prop
  | nil : Path ok s [] s
  | snoc {acts : List α} {t u : σ} {a : α} (before : Path ok s acts t) (meets : ok t a)
      (taken : M.step a t = some u) : Path ok s (acts ++ [a]) u

def Reachable (ok : σ → α → Prop) (t : σ) : Prop := ∃ acts, M.Path ok M.init acts t

/-- Replay of a schedule; `none` once an action is disabled or breaks `ok`. -/
def replay (ok : σ → α → Prop) [∀ s a, Decidable (ok s a)] (s : σ) : List α → Option σ
  | [] => some s
  | a :: acts => if ok s a then (M.step a s).bind fun t => replay ok t acts else none

attribute [local grind =] replay

variable {M} {ok : σ → α → Prop}

theorem Path.cons {s t u : σ} {a : α} {acts : List α} (meets : ok s a)
    (taken : M.step a s = some t) (after : M.Path ok t acts u) :
    M.Path ok s (a :: acts) u := by
  induction after with
  | nil => exact .snoc .nil meets taken
  | snoc _ meets' taken' ih => exact .snoc ih meets' taken'

theorem Path.trans {s t u : σ} {l r : List α} (first : M.Path ok s l t)
    (second : M.Path ok t r u) : M.Path ok s (l ++ r) u := by
  induction second with
  | nil => simpa using first
  | snoc _ meets taken ih =>
      rw [← List.append_assoc]
      exact .snoc ih meets taken

theorem Path.mono {ok' : σ → α → Prop} (weaker : ∀ s a, ok s a → ok' s a)
    {s t : σ} {acts : List α} (path : M.Path ok s acts t) : M.Path ok' s acts t := by
  induction path with
  | nil => exact .nil
  | snoc _ meets taken ih => exact .snoc ih (weaker _ _ meets) taken

theorem path_of_replay [∀ s a, Decidable (ok s a)] {s t : σ} {acts : List α}
    (h : M.replay ok s acts = some t) : M.Path ok s acts t := by
  induction acts generalizing s with
  | nil =>
      cases h
      exact .nil
  | cons a acts ih =>
      unfold replay at h
      split at h
      · rename_i meets
        obtain ⟨u, taken, rest⟩ := Option.bind_eq_some_iff.mp h
        exact .cons meets taken (ih rest)
      · cases h

theorem reachable_of_replay [∀ s a, Decidable (ok s a)] {t : σ} (acts : List α)
    (h : M.replay ok M.init acts = some t) : M.Reachable ok t :=
  ⟨acts, path_of_replay h⟩

/-- What holds at the start and survives every permitted step holds throughout. -/
theorem Path.invariant {I : σ → Prop}
    (keep : ∀ s a t, I s → ok s a → M.step a s = some t → I t)
    {s t : σ} {acts : List α} (path : M.Path ok s acts t) (start : I s) : I t := by
  induction path with
  | nil => exact start
  | snoc _ meets taken ih => exact keep _ _ _ ih meets taken

theorem Reachable.invariant {I : σ → Prop} (start : I M.init)
    (keep : ∀ s a t, I s → ok s a → M.step a s = some t → I t)
    {t : σ} (h : M.Reachable ok t) : I t := by
  obtain ⟨_, path⟩ := h
  exact path.invariant keep start

theorem Reachable.extend {s t : σ} {acts : List α} (h : M.Reachable ok s)
    (path : M.Path ok s acts t) : M.Reachable ok t := by
  obtain ⟨before, run⟩ := h
  exact ⟨before ++ acts, run.trans path⟩

/-- A fact that is false at the start of a run and true at its end became true
in one of its steps. -/
theorem Path.exists_step {P : σ → Prop} {s t : σ} {acts : List α}
    (path : M.Path ok s acts t) (start : ¬ P s) (finish : P t) :
    ∃ (l r : List α) (a : α) (u v : σ), acts = l ++ a :: r ∧ M.Path ok s l u ∧
      ok u a ∧ M.step a u = some v ∧ ¬ P u ∧ P v ∧ M.Path ok v r t := by
  induction path with
  | nil => exact absurd finish start
  | @snoc acts t u a before meets taken ih =>
      by_cases h : P t
      · obtain ⟨l, r, b, x, y, rfl, hl, hb, hstep, hx, hy, hr⟩ := ih h
        refine ⟨l, r ++ [a], b, x, y, by simp, hl, hb, hstep, hx, hy, ?_⟩
        exact .snoc hr meets taken
      · exact ⟨acts, [], a, t, u, rfl, before, meets, taken, h, finish, .nil⟩

/-- A budget that no step raises and every counted step spends bounds the number
of counted steps. -/
theorem Path.countP_le {budget : σ → Nat} {counted : α → Bool} {I : σ → Prop}
    (keep : ∀ s a t, I s → ok s a → M.step a s = some t → I t)
    (spend : ∀ s a t, I s → ok s a → M.step a s = some t →
      budget t + (if counted a then 1 else 0) ≤ budget s)
    {s t : σ} {acts : List α} (path : M.Path ok s acts t) (start : I s) :
    acts.countP counted + budget t ≤ budget s := by
  induction path with
  | nil => simp
  | snoc before meets taken ih =>
      have step := spend _ _ _ (before.invariant keep start) meets taken
      simp only [List.countP_append, List.countP_singleton]
      omega

/-- What no step raises by more than one is bounded by the length of the run. -/
theorem Path.count_le {f : σ → Nat}
    (grows : ∀ s a t, ok s a → M.step a s = some t → f t ≤ f s + 1)
    {s t : σ} {acts : List α} (path : M.Path ok s acts t) : f t ≤ f s + acts.length := by
  induction path with
  | nil => exact Nat.le_refl _
  | snoc _ meets taken ih =>
      have step := grows _ _ _ meets taken
      rw [List.length_append, List.length_singleton]
      omega

end System

/-- A state shared by a family of tasks, each with a state of its own. -/
structure Config (ι : Type u) (σ τ : Type v) where
  shared : σ
  task : ι → τ

/-- Tasks that interleave over a shared state: a step of one task reads and
writes the shared state and its own. -/
structure Tasks (ι : Type u) (σ τ α : Type v) where
  shared : σ
  task : ι → τ
  step : ι → α → σ → τ → Option (σ × τ)

namespace Tasks
variable {ι : Type u} [DecidableEq ι] {σ τ α : Type v} (T : Tasks ι σ τ α)

def system : System (Config ι σ τ) (ι × α) where
  init := ⟨T.shared, T.task⟩
  step a c :=
    (T.step a.1 a.2 c.shared (c.task a.1)).map fun p =>
      ⟨p.1, Function.update c.task a.1 p.2⟩

variable {T}

theorem system_step {c c' : Config ι σ τ} {i : ι} {a : α}
    (h : T.system.step (i, a) c = some c') :
    ∃ sh t, T.step i a c.shared (c.task i) = some (sh, t) ∧
      c' = ⟨sh, Function.update c.task i t⟩ := by
  obtain ⟨⟨sh, t⟩, taken, rfl⟩ := Option.map_eq_some_iff.mp h
  exact ⟨sh, t, taken, rfl⟩

/-- A step one task can take is a run of the system that leaves the other tasks alone. -/
theorem exists_path {c : Config ι σ τ} {i : ι} {a : α} {sh : σ} {t : τ}
    (h : T.step i a c.shared (c.task i) = some (sh, t)) :
    ∃ c', T.system.Path Free c [(i, a)] c' ∧ c'.shared = sh ∧ c'.task i = t ∧
      ∀ k, k ≠ i → c'.task k = c.task k := by
  refine ⟨⟨sh, Function.update c.task i t⟩, .snoc .nil trivial ?_, rfl, ?_, ?_⟩
  · simp [system, h]
  · exact Function.update_self ..
  · exact fun k ne => Function.update_of_ne ne _ _

/-- A task that takes no step in a run is where it was. -/
theorem task_of_untouched {ok : Config ι σ τ → ι × α → Prop} {c c' : Config ι σ τ}
    {acts : List (ι × α)} {i : ι} (path : T.system.Path ok c acts c')
    (untouched : i ∉ acts.map Prod.fst) : c'.task i = c.task i := by
  induction path with
  | nil => rfl
  | @snoc acts t u a before meets taken ih =>
      simp only [List.map_append, List.mem_append, not_or, List.map_cons, List.map_nil,
        List.mem_singleton] at untouched
      obtain ⟨sh, t', _, rfl⟩ := system_step taken
      rw [← ih untouched.1]
      exact Function.update_of_ne untouched.2 _ _

/-- The invariant rule for tasks: `I` speaks of the shared state, `J` of a task
against it. The acting task keeps both, and disturbs no other task's `J`. What is known of
reachable states may be used. -/
theorem system_invariant_of_reachable {ok : Config ι σ τ → ι × α → Prop} {I : σ → Prop}
    {J : ι → σ → τ → Prop} (start : I T.shared) (starts : ∀ k, J k T.shared (T.task k))
    (keep : ∀ (c : Config ι σ τ) i a sh t, T.system.Reachable ok c → ok c (i, a) → I c.shared →
      (∀ k, J k c.shared (c.task k)) → T.step i a c.shared (c.task i) = some (sh, t) →
      I sh ∧ J i sh t ∧ ∀ k, k ≠ i → J k sh (c.task k))
    {c : Config ι σ τ} (h : T.system.Reachable ok c) :
    I c.shared ∧ ∀ k, J k c.shared (c.task k) := by
  refine (h.invariant (I := fun c => T.system.Reachable ok c ∧ I c.shared ∧
    ∀ k, J k c.shared (c.task k)) ⟨⟨[], .nil⟩, start, starts⟩ ?_).2
  rintro c ⟨i, a⟩ c' ⟨reached, hI, hJ⟩ meets taken
  refine ⟨reached.extend (.snoc .nil meets taken), ?_⟩
  obtain ⟨sh, t, hstep, rfl⟩ := system_step taken
  obtain ⟨hI', own, others⟩ := keep c i a sh t reached meets hI hJ hstep
  refine ⟨hI', fun k => ?_⟩
  by_cases hk : k = i
  · subst hk
    simpa using own
  · simpa [Function.update_of_ne hk] using others k hk

/-- The same for `I` and `J` that the steps keep on their own. -/
theorem system_invariant {ok : Config ι σ τ → ι × α → Prop} {I : σ → Prop}
    {J : ι → σ → τ → Prop} (start : I T.shared) (starts : ∀ k, J k T.shared (T.task k))
    (keep : ∀ (c : Config ι σ τ) i a sh t, ok c (i, a) → I c.shared →
      (∀ k, J k c.shared (c.task k)) → T.step i a c.shared (c.task i) = some (sh, t) →
      I sh ∧ J i sh t ∧ ∀ k, k ≠ i → J k sh (c.task k))
    {c : Config ι σ τ} (h : T.system.Reachable ok c) :
    I c.shared ∧ ∀ k, J k c.shared (c.task k) :=
  system_invariant_of_reachable start starts (fun c i a sh t _ => keep c i a sh t) h

/-- A lock whose holder is told by where it stands: every step leaves it, takes it while it is
free, or gives it up. -/
theorem lock_invariant {ok : Config ι σ τ → ι × α → Prop} {lock : σ → Option ι} {holds : τ → Bool}
    (starts : ∀ k, holds (T.task k) = false)
    (steps : ∀ i a sh t sh' t', T.step i a sh t = some (sh', t') →
      lock sh' = lock sh ∧ (holds t' = true → holds t = true) ∨
        lock sh = none ∧ lock sh' = some i ∨
        holds t = true ∧ holds t' = false ∧ lock sh' = none)
    {c : Config ι σ τ} (h : T.system.Reachable ok c) {k : ι} (held : holds (c.task k) = true) :
    lock c.shared = some k := by
  refine (system_invariant (I := fun _ => True)
    (J := fun k sh t => holds t = true → lock sh = some k) trivial ?_ ?_ h).2 k held
  · intro k held
    simp [starts k] at held
  · intro c i a sh t _ _ owned taken
    refine ⟨trivial, ?_⟩
    rcases steps i a _ _ sh t taken with ⟨same, before⟩ | ⟨free, mine⟩ | ⟨mine, gone, _⟩
    · exact ⟨fun now => same.trans (owned i (before now)),
        fun k _ there => same.trans (owned k there)⟩
    · refine ⟨fun _ => mine, fun k _ there => ?_⟩
      have := owned k there
      simp [free] at this
    · refine ⟨fun now => by simp [gone] at now, fun k ne there => ?_⟩
      have both := (owned k there).symm.trans (owned i mine)
      exact absurd (Option.some.inj both) ne

end Tasks

/-- Some task stands where `f` says. -/
def Somewhere {ι τ : Type*} (f : τ → Bool) (task : ι → τ) : Prop := ∃ k, f (task k) = true

namespace Somewhere
variable {ι τ : Type*} {f g : τ → Bool} {task : ι → τ} {i : ι} {t : τ}

theorem mono (before : Somewhere f task) (weaker : ∀ t, f t = true → g t = true) :
    Somewhere g task := by
  obtain ⟨k, stands⟩ := before
  exact ⟨k, weaker _ stands⟩

variable [DecidableEq ι]

theorem here (stands : f t = true) : Somewhere f (Function.update task i t) :=
  ⟨i, by simpa using stands⟩

/-- A task moves, and stays where `f` says if it stood there. -/
theorem move (before : Somewhere f task) (stays : f (task i) = true → f t = true) :
    Somewhere f (Function.update task i t) := by
  obtain ⟨k, stands⟩ := before
  by_cases acting : k = i
  · subst acting
    exact here (stays stands)
  · exact ⟨k, by simpa [Function.update_of_ne acting] using stands⟩

/-- Where a task stands after a move, it stood before or came there. -/
theorem cases_update (after : Somewhere f (Function.update task i t)) :
    f t = true ∨ ∃ k, k ≠ i ∧ f (task k) = true := by
  obtain ⟨k, stands⟩ := after
  by_cases acting : k = i
  · subst acting
    exact .inl (by simpa using stands)
  · exact .inr ⟨k, acting, by simpa [Function.update_of_ne acting] using stands⟩

/-- A place that no task has entered. -/
theorem of_update (after : Somewhere f (Function.update task i t))
    (entered : f t = true → f (task i) = true) : Somewhere f task := by
  rcases after.cases_update with now | ⟨k, _, there⟩
  · exact ⟨i, entered now⟩
  · exact ⟨k, there⟩

end Somewhere
end Transition
