import QuestVdWired.Host.RecoveryEpisodes

/-!
The bound on automatic recovery. A generation that `rearm_failed_transport` made
must not be rearmed again; what tells it apart is a marker outside the recovery
mutex, written after the mutex was released, and by a notification before it is
taken. If no rearm loads the marker while such a pair of writes is half done, an
automatic generation is never rearmed, and between two external inputs at most two
generations get their attempts.
-/

namespace QuestVdWired.Host

open Transition

namespace RecoveryTask

/-- One of the two writes of the call is done. -/
def unsettled : RecoveryTask → Bool
  | .notified _ | .rearmed _ | .authRearmed => true
  | _ => false

/-- The generation a task has in hand. -/
def knows : RecoveryTask → Option Nat
  | .rebuilding generation _ _ | .rebuilt generation _ _ _ => some generation
  | .arming timer => some timer.generation
  | .scheduling timer _ | .inserting timer _ | .elapsed timer | .rearming timer
  | .rearmLive timer | .rearmChecked timer => some timer.generation
  | _ => none

end RecoveryTask

/-- The step loads the marker for a rearm while some call is unsettled. -/
def loadsUnsettled (c : RecoveryConfig) (a : Nat × RecoveryAction) : Bool :=
  match a.2, c.task a.1 with
  | .load, .rearmLive _ => !c.shared.unsettled.isEmpty
  | _, _ => false

def Orderly (c : RecoveryConfig) (a : Nat × RecoveryAction) : Prop :=
  Unwrapped c a ∧ loadsUnsettled c a = false

instance (c : RecoveryConfig) (a : Nat × RecoveryAction) : Decidable (Orderly c a) :=
  inferInstanceAs (Decidable (_ ∧ _))

/-- The step by which an external input takes effect: a notification, an
authenticated Connected report, or a device that is found unavailable. -/
def isExternal (c : RecoveryConfig) (a : Nat × RecoveryAction) : Bool :=
  match a.2, c.task a.1 with
  | .waitForDevice, _ => true
  | .lock, .notified _ | .lock, .authLive => true
  | _, _ => false

def Internal (c : RecoveryConfig) (a : Nat × RecoveryAction) : Prop :=
  Orderly c a ∧ isExternal c a = false

instance (c : RecoveryConfig) (a : Nat × RecoveryAction) : Decidable (Internal c a) :=
  inferInstanceAs (Decidable (_ ∧ _))

namespace RecoveryStep
variable {id : Nat} {sh sh' : RecoveryShared} {t t' : RecoveryTask} {a : RecoveryAction}

/-- A task learns of a generation from the machine or from a timer. -/
theorem knows (step : RecoveryStep id sh a t sh' t') {generation : Nat}
    (after : t'.knows = some generation) :
    t.knows = some generation ∨ sh.recovery.generation = generation ∨
      (∃ timer ∈ sh.rearmTimers, timer.generation = generation) ∨
      (∃ timer ∈ sh.controlTimers, timer.generation = generation) := by
  cases step with
  | moved _ move =>
      cases move with
      | @unscheduled _ _ monitor | @duplicate _ monitor =>
          cases monitor <;> simp [RecoveryTask.resume, RecoveryTask.knows] at after
      | _ => first
        | exact Or.inl after
        | cases after
  | @inserted _ monitor =>
      cases monitor <;> simp [RecoveryTask.resume, RecoveryTask.knows] at after
  | begun | finishedOk => exact Or.inr (Or.inl (Option.some.inj after))
  | finishedFailed onward =>
      rcases onward with rfl | rfl
      · cases after
      · exact Or.inr (Or.inl (Option.some.inj after))
  | finishedStale | finishedFailedStale | unscheduled => exact Or.inl after
  | expired armed _ _ _ onward =>
      rcases onward with rfl | rfl
      · cases after
      · exact Or.inr (Or.inr (Or.inr ⟨_, List.mem_of_getElem? armed, Option.some.inj after⟩))
  | elapsed armed =>
      exact Or.inr (Or.inr (Or.inl ⟨_, List.mem_of_getElem? armed, Option.some.inj after⟩))
  | _ => cases after

theorem rearmTimers (step : RecoveryStep id sh a t sh' t') {timer : RearmTimer}
    (after : timer ∈ sh'.rearmTimers) :
    timer ∈ sh.rearmTimers ∨ t.knows = some timer.generation := by
  cases step with
  | inserted =>
      rcases List.mem_append.mp after with before | new
      · exact Or.inl before
      · cases List.mem_singleton.mp new
        exact Or.inr rfl
  | elapsed => exact Or.inl (List.mem_of_mem_eraseIdx after)
  | _ => exact Or.inl after

theorem controlTimers (step : RecoveryStep id sh a t sh' t') {timer : ControlTimer}
    (after : timer ∈ sh'.controlTimers) :
    timer ∈ sh.controlTimers ∨ t.knows = some timer.generation := by
  cases step with
  | armed =>
      rcases List.mem_append.mp after with before | new
      · exact Or.inl before
      · cases List.mem_singleton.mp new
        exact Or.inr rfl
  | expired | expiredStale => exact Or.inl (List.mem_of_mem_eraseIdx after)
  | _ => exact Or.inl after

/-- The steps that write the generation or its marker, or load it for a rearm;
every other step leaves both alone. -/
inductive Writes (id : Nat) (sh sh' : RecoveryShared) : RecoveryAction → RecoveryTask →
    RecoveryTask → Prop
  | checked {timer : RearmTimer} (same : sh' = sh)
      (unmarked : sh.transportAutoRearmGeneration ≠ timer.generation) :
      Writes id sh sh' .load (.rearmLive timer) (.rearmChecked timer)
  | notified {trigger : TransportRecoveryTrigger}
      (generation : sh'.recovery.generation = wrappingSucc sh.recovery.generation)
      (automatic : sh'.automatic = false) (settled : sh'.unsettled = sh.unsettled.erase id) :
      Writes id sh sh' .lock (.notified trigger) .done
  | rearmed {trigger : TransportRecoveryTrigger}
      (generation : sh'.recovery.generation = wrappingSucc sh.recovery.generation)
      (automatic : sh'.automatic = true) (settled : sh'.unsettled = id :: sh.unsettled) :
      Writes id sh sh' .lock (.rearmChecked ⟨sh.recovery.generation, trigger⟩)
        (.rearmed (wrappingSucc sh.recovery.generation))
  | authRearmed
      (generation : sh'.recovery.generation = wrappingSucc sh.recovery.generation)
      (automatic : sh'.automatic = false) (settled : sh'.unsettled = id :: sh.unsettled) :
      Writes id sh sh' .lock .authLive .authRearmed
  | storedNotify {trigger : TransportRecoveryTrigger}
      (same : sh' = { sh with
        transportAutoRearmGeneration := 0
        unsettled := id :: sh.unsettled }) :
      Writes id sh sh' .store (.notifying trigger) (.notified trigger)
  | storedRearm {next : Nat}
      (same : sh' = { sh with
        transportAutoRearmGeneration := next
        unsettled := sh.unsettled.erase id }) :
      Writes id sh sh' .store (.rearmed next) .done
  | storedAuth
      (same : sh' = { sh with
        transportAutoRearmGeneration := 0
        unsettled := sh.unsettled.erase id }) :
      Writes id sh sh' .store .authRearmed .done
  | nothing {a : RecoveryAction} {t t' : RecoveryTask}
      (generation : sh'.recovery.generation = sh.recovery.generation)
      (automatic : sh'.automatic = sh.automatic)
      (marker : sh'.transportAutoRearmGeneration = sh.transportAutoRearmGeneration)
      (ghost : sh'.unsettled = sh.unsettled)
      (before : t.unsettled = false) (after : t'.unsettled = false)
      (unchecked : ∀ timer, t' ≠ .rearmChecked timer) : Writes id sh sh' a t t'

theorem writes (step : RecoveryStep id sh a t sh' t') : Writes id sh sh' a t t' := by
  cases step with
  | moved _ move =>
      cases move with
      | rearmChecked unmarked => exact .checked rfl unmarked
      | @unscheduled _ _ monitor | @duplicate _ monitor =>
          cases monitor <;> exact .nothing rfl rfl rfl rfl rfl rfl (by simp [RecoveryTask.resume])
      | refused small =>
          refine .nothing rfl rfl rfl rfl ?_ rfl (by simp)
          rcases small with ⟨_, rfl | rfl | rfl⟩ | rfl | rfl <;> rfl
      | _ => exact .nothing rfl rfl rfl rfl rfl rfl (by simp)
  | @inserted _ monitor =>
      cases monitor <;> exact .nothing rfl rfl rfl rfl rfl rfl (by simp [RecoveryTask.resume])
  | finishedFailed onward =>
      rcases onward with rfl | rfl <;>
        exact .nothing (Timed.failAttempt_generation _) rfl rfl rfl rfl rfl (by simp)
  | expired _ _ _ _ onward =>
      rcases onward with rfl | rfl <;>
        exact .nothing (Timed.failAttempt_generation _) rfl rfl rfl rfl rfl (by simp)
  | notified => exact .notified rfl rfl rfl
  | rearmed => exact .rearmed rfl rfl rfl
  | authRearmed => exact .authRearmed rfl rfl rfl
  | storedNotify => exact .storedNotify rfl
  | storedRearm => exact .storedRearm rfl
  | storedAuth => exact .storedAuth rfl
  | _ => exact .nothing rfl rfl rfl rfl rfl rfl (by simp)

end RecoveryStep

/-- Every generation in circulation is one the machine has reached. -/
structure Known (c : RecoveryConfig) : Prop where
  tasks : ∀ i generation, (c.task i).knows = some generation →
    generation ≤ c.shared.recovery.generation
  rearmTimers : ∀ timer ∈ c.shared.rearmTimers,
    timer.generation ≤ c.shared.recovery.generation
  controlTimers : ∀ timer ∈ c.shared.controlTimers,
    timer.generation ≤ c.shared.recovery.generation

/-- The task is past the marker check with the current generation in hand. -/
def Cleared (c : RecoveryConfig) : Prop :=
  ∃ i timer, c.task i = .rearmChecked timer ∧
    timer.generation = c.shared.recovery.generation

/-- The marker against the generation. -/
structure Marked (c : RecoveryConfig) : Prop where
  unsettled : ∀ i, (c.task i).unsettled = true → i ∈ c.shared.unsettled
  marker : c.shared.automatic = true →
    c.shared.transportAutoRearmGeneration = c.shared.recovery.generation ∨
      ∃ i, (c.task i).unsettled = true
  rearmed : ∀ i next, c.task i = .rearmed next → c.shared.automatic = true →
    c.shared.recovery.generation = next
  authRearmed : ∀ i, c.task i = .authRearmed → c.shared.automatic = false
  cleared : Cleared c → c.shared.automatic = false ∧
    ∀ i, c.task i ≠ .authRearmed ∧ ∀ next, c.task i ≠ .rearmed next

namespace Known
variable {c c' : RecoveryConfig} {i : Nat} {a : RecoveryAction}

theorem initial : Known recoverySystem.init where
  tasks := by
    intro i generation known
    by_cases zero : i = 0 <;>
      simp [Tasks.system, recoveryTasks, zero, RecoveryTask.knows] at known
  rearmTimers := by simp [Tasks.system, recoveryTasks, RecoveryShared.initial]
  controlTimers := by simp [Tasks.system, recoveryTasks, RecoveryShared.initial]

theorem step {sh : RecoveryShared} {t : RecoveryTask} (inv : Known c)
    (grows : c.shared.recovery.generation ≤ sh.recovery.generation)
    (step : RecoveryStep i c.shared a (c.task i) sh t) :
    Known ⟨sh, Function.update c.task i t⟩ where
  tasks := by
    intro j generation known
    refine Nat.le_trans ?_ grows
    by_cases mine : j = i
    · subst mine
      rcases step.knows (by simpa using known) with
        before | current | ⟨timer, member, rfl⟩ | ⟨timer, member, rfl⟩
      · exact inv.tasks j generation before
      · exact Nat.le_of_eq current.symm
      · exact inv.rearmTimers timer member
      · exact inv.controlTimers timer member
    · exact inv.tasks j generation (by simpa [mine] using known)
  rearmTimers := by
    intro timer member
    refine Nat.le_trans ?_ grows
    rcases step.rearmTimers member with before | known
    · exact inv.rearmTimers timer before
    · exact inv.tasks i _ known
  controlTimers := by
    intro timer member
    refine Nat.le_trans ?_ grows
    rcases step.controlTimers member with before | known
    · exact inv.controlTimers timer before
    · exact inv.tasks i _ known

end Known

namespace Marked
variable {c : RecoveryConfig} {i : Nat} {a : RecoveryAction} {sh : RecoveryShared}
  {t t' : RecoveryTask}

theorem initial : Marked recoverySystem.init := by
  have quiet : ∀ i, recoverySystem.init.task i = .idle ∨ recoverySystem.init.task i = .vacant := by
    intro i
    by_cases zero : i = 0 <;> simp [Tasks.system, recoveryTasks, zero]
  constructor
  · intro i unsettled
    rcases quiet i with idle | vacant <;> simp_all [RecoveryTask.unsettled]
  · intro automatic
    cases automatic
  · intro i next at_
    rcases quiet i with idle | vacant <;> simp_all
  · intro i at_
    rfl
  · rintro ⟨i, timer, at_, _⟩
    rcases quiet i with idle | vacant <;> simp_all

/-- Past a renewal nobody holds the current generation. -/
theorem not_cleared (known : Known c) (other : ∀ timer, t' ≠ .rearmChecked timer)
    (generation : sh.recovery.generation = c.shared.recovery.generation + 1) :
    ¬ Cleared ⟨sh, Function.update c.task i t'⟩ := by
  rintro ⟨j, timer, at_j, current⟩
  by_cases mine : j = i
  · subst mine
    exact other timer (by simpa using at_j)
  · have bound := known.tasks j timer.generation (by
      rw [show c.task j = .rearmChecked timer by simpa [mine] using at_j]
      rfl)
    dsimp only at current
    omega

theorem cleared_before (other : ∀ timer, t' ≠ .rearmChecked timer)
    (generation : sh.recovery.generation = c.shared.recovery.generation)
    (after : Cleared ⟨sh, Function.update c.task i t'⟩) : Cleared c := by
  obtain ⟨j, timer, at_j, current⟩ := after
  by_cases mine : j = i
  · subst mine
    exact absurd (by simpa using at_j) (other timer)
  · exact ⟨j, timer, by simpa [mine] using at_j, current.trans generation⟩

/-- A step after which the acting task is settled and past no check, and which
leaves generation, marker and ghosts alone. -/
theorem of_nothing (inv : Marked c)
    (generation : sh.recovery.generation = c.shared.recovery.generation)
    (automatic : sh.automatic = c.shared.automatic)
    (marker : sh.transportAutoRearmGeneration = c.shared.transportAutoRearmGeneration)
    (ghost : sh.unsettled = c.shared.unsettled)
    (before : (c.task i).unsettled = false) (after : t'.unsettled = false)
    (unchecked : ∀ timer, t' ≠ .rearmChecked timer) :
    Marked ⟨sh, Function.update c.task i t'⟩ := by
  -- An unsettled task is not the acting one, so it was there before.
  have other : ∀ j, (Function.update c.task i t' j).unsettled = true →
      Function.update c.task i t' j = c.task j := by
    intro j unsettled
    by_cases mine : j = i
    · subst mine
      simp [after] at unsettled
    · simp [mine]
  constructor
  · intro j unsettled
    have same := other j unsettled
    simp only at unsettled ⊢
    rw [same] at unsettled
    exact ghost ▸ inv.unsettled j unsettled
  · intro auto
    simp only at auto ⊢
    rw [generation, marker]
    rcases inv.marker (automatic ▸ auto) with marked | ⟨j, unsettled⟩
    · exact Or.inl marked
    · refine Or.inr ⟨j, ?_⟩
      have mine : j ≠ i := by
        rintro rfl
        simp [before] at unsettled
      simpa [mine] using unsettled
  · intro j next at_j auto
    simp only at at_j auto ⊢
    have same := other j (by rw [at_j]; rfl)
    rw [generation]
    exact inv.rearmed j next (same ▸ at_j) (automatic ▸ auto)
  · intro j at_j
    simp only at at_j ⊢
    have same := other j (by rw [at_j]; rfl)
    rw [automatic]
    exact inv.authRearmed j (same ▸ at_j)
  · intro cleared
    obtain ⟨auto, none⟩ := inv.cleared (cleared_before unchecked generation cleared)
    refine ⟨automatic ▸ auto, fun j => ⟨fun at_j => ?_, fun next at_j => ?_⟩⟩
    · simp only at at_j
      exact (none j).1 ((other j (by rw [at_j]; rfl)) ▸ at_j)
    · simp only at at_j
      exact (none j).2 next ((other j (by rw [at_j]; rfl)) ▸ at_j)

/-- The marker check: nobody is unsettled, so the marker tells what it should. -/
theorem of_checked {timer : RearmTimer} (inv : Marked c) (own : c.task i = .rearmLive timer)
    (settled : c.shared.unsettled = [])
    (unmarked : c.shared.transportAutoRearmGeneration ≠ timer.generation) :
    Marked ⟨c.shared, Function.update c.task i (.rearmChecked timer)⟩ := by
  have quiet : ∀ j, (c.task j).unsettled = false := by
    intro j
    cases unsettled : (c.task j).unsettled with
    | false => rfl
    | true => simpa [settled] using inv.unsettled j unsettled
  have quiet' : ∀ j, (Function.update c.task i (.rearmChecked timer) j).unsettled = false := by
    intro j
    by_cases mine : j = i
    · subst mine
      simp [RecoveryTask.unsettled]
    · simpa [mine] using quiet j
  have notRearmed : ∀ j next, Function.update c.task i (.rearmChecked timer) j ≠ .rearmed next := by
    intro j next at_j
    have := quiet' j
    simp [at_j, RecoveryTask.unsettled] at this
  have notAuth : ∀ j, Function.update c.task i (.rearmChecked timer) j ≠ .authRearmed := by
    intro j at_j
    have := quiet' j
    simp [at_j, RecoveryTask.unsettled] at this
  constructor
  · intro j unsettled
    simp [quiet' j] at unsettled
  · intro auto
    rcases inv.marker auto with marked | ⟨j, unsettled⟩
    · exact Or.inl marked
    · simp [quiet j] at unsettled
  · intro j next at_j
    exact absurd at_j (notRearmed j next)
  · intro j at_j
    exact absurd at_j (notAuth j)
  · rintro ⟨j, timer', at_j, current⟩
    refine ⟨?_, fun j => ⟨notAuth j, notRearmed j⟩⟩
    simp only at at_j current ⊢
    by_cases mine : j = i
    · subst mine
      obtain rfl : timer = timer' := by simpa using at_j
      by_contra auto
      rcases inv.marker (by simpa using auto) with marked | ⟨k, unsettled⟩
      · exact unmarked (marked.trans current.symm)
      · simp [quiet k] at unsettled
    · exact (inv.cleared ⟨j, timer', by simpa [mine] using at_j, current⟩).1

/-- The list of unsettled calls gains or loses the acting one. -/
theorem unsettled_after (inv : Marked c)
    (mine : t'.unsettled = true → sh.unsettled = i :: c.shared.unsettled)
    (ghost : sh.unsettled = i :: c.shared.unsettled ∨
      sh.unsettled = c.shared.unsettled.erase i) (j : Nat)
    (after : (Function.update c.task i t' j).unsettled = true) : j ∈ sh.unsettled := by
  by_cases same : j = i
  · subst same
    rw [mine (by simpa using after)]
    exact List.mem_cons_self
  · have member := inv.unsettled j (by simpa [same] using after)
    rcases ghost with added | removed
    · rw [added]
      exact List.mem_cons_of_mem _ member
    · rw [removed]
      exact (List.mem_erase_of_ne same).mpr member

/-- An external renewal. -/
theorem of_external (known : Known c)
    (generation : sh.recovery.generation = c.shared.recovery.generation + 1)
    (automatic : sh.automatic = false)
    (other : ∀ timer, t' ≠ .rearmChecked timer)
    (ghost : ∀ j, (Function.update c.task i t' j).unsettled = true → j ∈ sh.unsettled) :
    Marked ⟨sh, Function.update c.task i t'⟩ where
  unsettled := ghost
  marker := fun auto => by simp [automatic] at auto
  rearmed := fun _ _ _ auto => by simp [automatic] at auto
  authRearmed := fun _ _ => automatic
  cleared := fun cleared => absurd cleared (not_cleared known other generation)

/-- A rearm: it was past the check with the current generation in hand. -/
theorem of_rearmed {trigger : TransportRecoveryTrigger} (inv : Marked c) (known : Known c)
    (own : c.task i = .rearmChecked ⟨c.shared.recovery.generation, trigger⟩)
    (generation : sh.recovery.generation = c.shared.recovery.generation + 1)
    (settled : sh.unsettled = i :: c.shared.unsettled) :
    Marked ⟨sh, Function.update c.task i (.rearmed (c.shared.recovery.generation + 1))⟩ := by
  obtain ⟨_, none⟩ := inv.cleared ⟨i, _, own, rfl⟩
  constructor
  · exact inv.unsettled_after (fun _ => settled) (Or.inl settled)
  · exact fun _ => Or.inr ⟨i, by simp [RecoveryTask.unsettled]⟩
  · intro j next at_j _
    simp only at at_j ⊢
    by_cases mine : j = i
    · subst mine
      have same : c.shared.recovery.generation + 1 = next := by simpa using at_j
      exact generation.trans same
    · exact absurd (by simpa [mine] using at_j) ((none j).2 next)
  · intro j at_j
    simp only at at_j
    by_cases mine : j = i
    · subst mine
      simp at at_j
    · exact absurd (by simpa [mine] using at_j) (none j).1
  · exact fun cleared => absurd cleared (not_cleared known (by simp) generation)

/-- A store to the marker: the recovery state and its origin stay. -/
theorem of_stored (inv : Marked c) (generation : sh.recovery = c.shared.recovery)
    (automatic : sh.automatic = c.shared.automatic)
    (ghost : ∀ j, (Function.update c.task i t' j).unsettled = true → j ∈ sh.unsettled)
    (marker : sh.automatic = true →
      sh.transportAutoRearmGeneration = sh.recovery.generation ∨ t'.unsettled = true)
    (onward : t' = .done ∨ ∃ trigger, t' = .notified trigger) :
    Marked ⟨sh, Function.update c.task i t'⟩ := by
  have rearmed : ∀ j next, Function.update c.task i t' j = .rearmed next →
      c.task j = .rearmed next := by
    intro j next at_j
    by_cases mine : j = i
    · subst mine
      rcases onward with rfl | ⟨_, rfl⟩ <;> simp at at_j
    · simpa [mine] using at_j
  have authRearmed : ∀ j, Function.update c.task i t' j = .authRearmed →
      c.task j = .authRearmed := by
    intro j at_j
    by_cases mine : j = i
    · subst mine
      rcases onward with rfl | ⟨_, rfl⟩ <;> simp at at_j
    · simpa [mine] using at_j
  have unchecked : ∀ timer, t' ≠ .rearmChecked timer := by
    rcases onward with rfl | ⟨_, rfl⟩ <;> simp
  constructor
  · exact ghost
  · intro auto
    rcases marker auto with marked | unsettled
    · exact Or.inl marked
    · exact Or.inr ⟨i, by simpa using unsettled⟩
  · intro j next at_j auto
    simp only [generation]
    exact inv.rearmed j next (rearmed j next at_j) (automatic ▸ auto)
  · intro j at_j
    exact automatic.trans (inv.authRearmed j (authRearmed j at_j))
  · intro cleared
    obtain ⟨auto, none⟩ :=
      inv.cleared (cleared_before unchecked (by rw [generation]) cleared)
    refine ⟨automatic.trans auto, fun j => ⟨fun at_j => ?_, fun next at_j => ?_⟩⟩
    · exact (none j).1 (authRearmed j at_j)
    · exact (none j).2 next (rearmed j next at_j)

theorem step (inv : Marked c) (known : Known c) (meets : Orderly c (i, a))
    (step : RecoveryStep i c.shared a (c.task i) sh t') :
    Marked ⟨sh, Function.update c.task i t'⟩ := by
  have succ := TransportRecoverySnapshot.wrappingSucc_of_lt meets.1
  have writes := step.writes
  have orderly := meets.2
  unfold loadsUnsettled at orderly
  generalize own : c.task i = t at writes orderly
  cases writes with
  | checked same unmarked =>
      subst same
      exact inv.of_checked own (by simpa using orderly) unmarked
  | notified generation automatic settled =>
      exact of_external known (generation.trans succ) automatic (by simp)
        (inv.unsettled_after (by simp [RecoveryTask.unsettled]) (Or.inr settled))
  | rearmed generation _ settled =>
      rw [succ]
      exact inv.of_rearmed known own (generation.trans succ) settled
  | authRearmed generation automatic settled =>
      exact of_external known (generation.trans succ) automatic (by simp)
        (inv.unsettled_after (fun _ => settled) (Or.inl settled))
  | storedNotify same =>
      subst same
      exact inv.of_stored rfl rfl (inv.unsettled_after (fun _ => rfl) (Or.inl rfl))
        (fun _ => Or.inr rfl) (Or.inr ⟨_, rfl⟩)
  | storedRearm same =>
      subst same
      refine inv.of_stored rfl rfl ?_ ?_ (Or.inl rfl)
      · exact inv.unsettled_after (by simp [RecoveryTask.unsettled]) (Or.inr rfl)
      · exact fun auto => Or.inl (inv.rearmed i _ own auto).symm
  | storedAuth same =>
      subst same
      refine inv.of_stored rfl rfl ?_ ?_ (Or.inl rfl)
      · exact inv.unsettled_after (by simp [RecoveryTask.unsettled]) (Or.inr rfl)
      · intro auto
        rw [inv.authRearmed i own] at auto
        cases auto
  | nothing generation automatic marker ghost before after unchecked =>
      exact inv.of_nothing generation automatic marker ghost (own ▸ before) after unchecked

end Marked

/-- The rebuilds that are still to come without an external input. -/
def rebuildBudget (sh : RecoveryShared) : Nat :=
  (TRANSPORT_RECOVERY_MAX_ATTEMPTS - sh.recovery.attempt) +
    if sh.automatic then 0 else TRANSPORT_RECOVERY_MAX_ATTEMPTS

def startsRebuild (a : Nat × RecoveryAction) : Bool := a.2 = .beginAttempt

/-- `rearm_failed_transport` starts a new generation. -/
def Rearms (c : RecoveryConfig) (i : Nat) (c' : RecoveryConfig) : Prop :=
  recoverySystem.step (i, .lock) c = some c' ∧ (∃ timer, c.task i = .rearmChecked timer) ∧
    c'.shared.recovery ≠ c.shared.recovery

/-- What holds along every orderly run. -/
structure Bounded (c : RecoveryConfig) : Prop where
  recovering : Recovering c
  known : Known c
  marked : Marked c

theorem rebuildBudget_le (sh : RecoveryShared) :
    rebuildBudget sh ≤ 2 * TRANSPORT_RECOVERY_MAX_ATTEMPTS := by
  unfold rebuildBudget
  split <;> omega

theorem failAttempt_attempt (r : TransportRecoverySnapshot) :
    r.failAttempt.2.attempt = r.attempt := by
  rcases r.failAttempt_cases with ⟨_, result⟩ | ⟨_, result⟩ <;> simp [result]

namespace Bounded
variable {c c' : RecoveryConfig} {i : Nat} {a : RecoveryAction}

theorem initial : Bounded recoverySystem.init := ⟨.initial, .initial, .initial⟩

theorem step (inv : Bounded c) (meets : Orderly c (i, a))
    (taken : recoverySystem.step (i, a) c = some c') : Bounded c' := by
  have recovering := inv.recovering.step meets.1 taken
  have grows := generation_grows inv.recovering meets.1 taken
  obtain ⟨sh, t, step, rfl⟩ := inv.recovering.step_cases taken
  exact ⟨recovering, inv.known.step (by dsimp only at grows; omega) step,
    inv.marked.step inv.known meets step⟩

theorem of_reachable (reached : recoverySystem.Reachable Orderly c) : Bounded c := by
  refine reached.invariant initial ?_
  rintro c ⟨i, a⟩ c' inv meets taken
  exact inv.step meets taken

/-- A rearm takes a generation that no rearm made. -/
theorem rearms (inv : Bounded c) (below : Unwrapped c (i, .lock)) (rearms : Rearms c i c') :
    c.shared.automatic = false ∧ c'.shared.automatic = true ∧
      c'.shared.recovery.generation = c.shared.recovery.generation + 1 := by
  obtain ⟨taken, ⟨timer, own⟩, changed⟩ := rearms
  obtain ⟨sh, t, step, rfl⟩ := inv.recovering.step_cases taken
  rw [own] at step
  cases step with
  | moved => exact absurd rfl changed
  | rearmed =>
      obtain ⟨external, _⟩ := inv.marked.cleared ⟨i, _, own, rfl⟩
      exact ⟨external, rfl, TransportRecoverySnapshot.wrappingSucc_of_lt below⟩

/-- No internal step earns a rebuild, and each rebuild spends one. -/
theorem spend (inv : Bounded c) (meets : Internal c (i, a))
    (taken : recoverySystem.step (i, a) c = some c') :
    rebuildBudget c'.shared + (if startsRebuild (i, a) then 1 else 0) ≤
      rebuildBudget c.shared := by
  have internal := meets.2
  obtain ⟨sh, t, step, rfl⟩ := inv.recovering.step_cases taken
  have external : ∀ trigger,
      c.task i = .rearmChecked ⟨c.shared.recovery.generation, trigger⟩ →
        c.shared.automatic = false :=
    fun _ own => (inv.marked.cleared ⟨i, _, own, rfl⟩).1
  unfold isExternal at internal
  unfold rebuildBudget startsRebuild
  generalize c.task i = task at step internal external
  cases step with
  | begun _ attempt =>
      simp only [decide_true, if_true]
      omega
  | @rearmed trigger =>
      simp [external trigger rfl, TransportRecoverySnapshot.renew]
  | notified | waited | authRearmed => cases internal
  | finishedFailed | expired => simp [failAttempt_attempt]
  | moved idle => simp [idle]
  | _ => simp

/-- Until the next external input the generation a rearm made stays the last. -/
theorem generation_after {ok : RecoveryConfig → Nat × RecoveryAction → Prop}
    (orderly : ∀ c a, ok c a → Orderly c a) {acts : List (Nat × RecoveryAction)} {generation : Nat}
    (inv : Bounded c) (start : c.shared.automatic = true)
    (current : c.shared.recovery.generation = generation)
    (path : recoverySystem.Path ok c acts c') :
    Bounded c' ∧ (generation < c'.shared.recovery.generation ∨
      (generation = c'.shared.recovery.generation ∧ c'.shared.automatic = true)) := by
  refine path.invariant (I := fun d => Bounded d ∧ (generation < d.shared.recovery.generation ∨
    (generation = d.shared.recovery.generation ∧ d.shared.automatic = true))) ?_
    ⟨inv, Or.inr ⟨current.symm, start⟩⟩
  rintro d ⟨i, a⟩ d' ⟨inv, since⟩ meets taken
  have meets := orderly _ _ meets
  refine ⟨inv.step meets taken, ?_⟩
  have grows := generation_grows inv.recovering meets.1 taken
  rcases since with later | ⟨same, auto⟩
  · exact Or.inl (by omega)
  · obtain ⟨sh, t, step, rfl⟩ := inv.recovering.step_cases taken
    have succ := TransportRecoverySnapshot.wrappingSucc_of_lt meets.1
    have writes := step.writes
    generalize d.task i = task at writes
    cases writes with
    | checked equal => exact Or.inr ⟨by rw [equal]; exact same, by rw [equal]; exact auto⟩
    | storedNotify equal | storedRearm equal | storedAuth equal =>
        exact Or.inr ⟨by rw [equal]; exact same, by rw [equal]; exact auto⟩
    | notified generation' | rearmed generation' | authRearmed generation' =>
        exact Or.inl (by dsimp only; omega)
    | nothing generation' automatic =>
        exact Or.inr ⟨same.trans generation'.symm, automatic.trans auto⟩

end Bounded

/-- Along every orderly run, between two external inputs at most two generations
get their attempts: a generation is rearmed at most once, and one that a rearm made
is never rearmed. -/
theorem automatic_recovery_bounded {c : RecoveryConfig}
    (reached : recoverySystem.Reachable Orderly c) :
    (∀ acts d, recoverySystem.Path Internal c acts d →
      acts.countP startsRebuild ≤ 2 * TRANSPORT_RECOVERY_MAX_ATTEMPTS) ∧
    (∀ i c', Orderly c (i, .lock) → Rearms c i c' → ∀ acts d j d',
      recoverySystem.Path Orderly c' acts d → Orderly d (j, .lock) → Rearms d j d' →
      d.shared.recovery.generation ≠ c.shared.recovery.generation ∧
        d.shared.recovery.generation ≠ c'.shared.recovery.generation) := by
  have inv := Bounded.of_reachable reached
  constructor
  · intro acts d path
    have spent : acts.countP startsRebuild + rebuildBudget d.shared ≤ rebuildBudget c.shared :=
      path.countP_le (I := Bounded)
        (fun _ _ _ inv meets taken => inv.step meets.1 taken)
        (fun _ _ _ inv meets taken => inv.spend meets taken) inv
    have := rebuildBudget_le c.shared
    omega
  · intro i c' meets rearms acts d j d' path meets' again
    obtain ⟨_, automatic, generation⟩ := inv.rearms meets.1 rearms
    obtain ⟨inv', since⟩ := (inv.step meets rearms.1).generation_after (fun _ _ h => h) automatic
      rfl path
    obtain ⟨external, _⟩ := inv'.rearms meets'.1 again
    rcases since with later | ⟨_, auto⟩
    · omega
    · rw [external] at auto
      cases auto

/-- Two attempts of the monitor, both failed, up to the choice of a rearm. -/
def failedGeneration : List (Nat × RecoveryAction) :=
  [(0, .check), (0, .beginAttempt), (0, .mappings false), (0, .finishAttempt),
    (0, .check), (0, .beginAttempt), (0, .mappings false), (0, .finishAttempt), (0, .load)]

/-- The delayed rearm of the one timer, run by task `i` up to the recovery mutex. -/
def delayedRearm (i : Nat) : List (Nat × RecoveryAction) :=
  [(0, .insert), (i, .fireRearm 0), (i, .unschedule), (i, .load), (i, .load)]

def hostResumed : List (Nat × RecoveryAction) :=
  [(1, .notify .hostResume), (1, .store), (1, .lock)]

/-- A host resume whose generation fails, is rearmed, and fails again. -/
theorem automatic_recovery_bounded_exhausted :
    ∃ c c' d, recoverySystem.Reachable Orderly c ∧ Rearms c 2 c' ∧
      recoverySystem.Path Internal c' ((2, .store) :: failedGeneration) d ∧
      d.shared.recovery.state = .failed ∧ d.task 0 = .idle ∧
      failedGeneration.countP startsRebuild ≤ 2 * TRANSPORT_RECOVERY_MAX_ATTEMPTS := by
  obtain ⟨c, c', d, reached, rearms, reached', path, failed, stopped⟩ :
      ∃ c c' d, recoverySystem.Reachable Orderly c ∧ Rearms c 2 c' ∧
        recoverySystem.Reachable Orderly c' ∧
        recoverySystem.Path Internal c' ((2, .store) :: failedGeneration) d ∧
        d.shared.recovery.state = .failed ∧ d.task 0 = .idle :=
    ⟨_, _, _,
      System.reachable_of_replay (hostResumed ++ failedGeneration ++ delayedRearm 2) rfl,
      ⟨rfl, ⟨_, rfl⟩, by decide⟩,
      System.reachable_of_replay
        (hostResumed ++ failedGeneration ++ delayedRearm 2 ++ [(2, .lock)]) rfl,
      System.path_of_replay rfl, rfl, rfl⟩
  refine ⟨c, c', d, reached, rearms, path, failed, stopped, ?_⟩
  have bounded := (automatic_recovery_bounded reached').1 _ _ path
  simpa [List.countP_cons, startsRebuild] using bounded

/-- A rearm that is held up between the mutex and the marker: the generation it
made fails before it is marked, is rearmed, and a fifth rebuild starts with no
external input since the host resume. -/
theorem automatic_recovery_overrun :
    ∃ c acts d, recoverySystem.Reachable Unwrapped c ∧
      recoverySystem.Path (fun c a => Unwrapped c a ∧ isExternal c a = false) c acts d ∧
      acts.countP startsRebuild = 2 * TRANSPORT_RECOVERY_MAX_ATTEMPTS + 1 :=
  ⟨_, failedGeneration ++ delayedRearm 2 ++ [(2, .lock)] ++ failedGeneration ++ delayedRearm 3 ++
      [(3, .lock), (0, .check), (0, .beginAttempt)], _,
    System.reachable_of_replay hostResumed rfl, System.path_of_replay rfl, by decide⟩

end QuestVdWired.Host
