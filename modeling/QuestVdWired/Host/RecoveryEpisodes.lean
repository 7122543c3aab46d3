import Mathlib.Data.Multiset.Filter
import QuestVdWired.Host.RecoveryTasks

/-!
The recovery state machine over every interleaving. The key is the control
timeout: its timer carries only a generation and an attempt, and the attempt
counter restarts inside a generation. At most one timer of the current generation
is ever outstanding, and while one is, the machine is in the very episode that
armed it or has recovered from it; the monitor has no path back to AwaitingControl
within the generation before that timer fired.
-/

namespace QuestVdWired.Host

open Transition

namespace RecoveryTask

/-- The positions of the monitor. -/
def isMonitor : RecoveryTask → Bool
  | .idle | .checked | .rebuilding .. | .rebuilt .. | .arming _ => true
  | .scheduling _ monitor | .inserting _ monitor => monitor
  | _ => false

/-- The timer the monitor is about to spawn. -/
def pendingTimer : RecoveryTask → Multiset ControlTimer
  | .arming timer => {timer}
  | _ => 0

/-- The monitor is between finding recovery required and the end of the attempt. -/
def busy : RecoveryTask → Bool
  | .checked | .rebuilding .. | .rebuilt .. => true
  | _ => false

/-- The attempt the monitor works on. -/
def attempting : RecoveryTask → Option (Nat × Nat)
  | .rebuilding generation attempt _ | .rebuilt generation attempt _ _ =>
      some (generation, attempt)
  | _ => none

end RecoveryTask

/-- The control timers that have not fired. -/
def outstanding (sh : RecoveryShared) (monitor : RecoveryTask) : Multiset ControlTimer :=
  monitor.pendingTimer + sh.controlTimers

/-- Those of the current generation. -/
def liveTimers (sh : RecoveryShared) (monitor : RecoveryTask) : Multiset ControlTimer :=
  (outstanding sh monitor).filter fun t => t.generation = sh.recovery.generation

/-- The machine is in the episode that armed the timer, or recovered from it. -/
def InEpisode (sh : RecoveryShared) (t : ControlTimer) : Prop :=
  sh.recovery.state = .recovered ∨
    (sh.recovery.state = .awaitingControl ∧ sh.recovery.attempt = t.attempt ∧
      t.episode = some sh.episode)

structure Timed (sh : RecoveryShared) (monitor : RecoveryTask) : Prop where
  wf : sh.recovery.WellFormed
  started : monitor.busy = true → sh.recovery.state ≠ .idle
  attempting : ∀ generation attempt, monitor.attempting = some (generation, attempt) →
    generation ≤ sh.recovery.generation ∧ (generation = sh.recovery.generation →
      sh.recovery.state = .rebuildingMappings ∧ sh.recovery.attempt = attempt)
  old : ∀ t ∈ outstanding sh monitor, t.generation ≤ sh.recovery.generation
  live : liveTimers sh monitor = 0 ∨
    ∃ t, liveTimers sh monitor = {t} ∧ monitor.busy = false ∧ InEpisode sh t

/-- The generation stays below the width of its counter. -/
def Unwrapped (c : RecoveryConfig) (_ : Nat × RecoveryAction) : Prop :=
  c.shared.recovery.generation + 1 < 2 ^ 64

instance (c : RecoveryConfig) (a : Nat × RecoveryAction) : Decidable (Unwrapped c a) :=
  inferInstanceAs (Decidable (_ < _))

namespace Timed
variable {id : Nat} {sh sh' : RecoveryShared} {m m' t t' : RecoveryTask} {a : RecoveryAction}

theorem initial : Timed .initial .idle where
  wf := TransportRecoverySnapshot.wellFormed_initial
  started := by simp [RecoveryTask.busy]
  attempting := by simp [RecoveryTask.attempting]
  old := by simp [outstanding, RecoveryTask.pendingTimer, RecoveryShared.initial]
  live := Or.inl rfl

/-- In a new generation no timer is live. -/
theorem renewed (inv : Timed sh m) (wf : sh'.recovery.WellFormed)
    (started : sh'.recovery.state ≠ .idle)
    (generation : sh'.recovery.generation = sh.recovery.generation + 1)
    (timers : sh'.controlTimers = sh.controlTimers) : Timed sh' m where
  wf := wf
  started := fun _ => started
  attempting := by
    intro g a attempting
    have := (inv.attempting g a attempting).1
    exact ⟨by omega, by omega⟩
  old := by
    intro timer member
    have := inv.old timer (by simpa [outstanding, timers] using member)
    omega
  live := by
    refine Or.inl (Multiset.filter_eq_nil.mpr fun timer member => ?_)
    have := inv.old timer (by simpa [outstanding, timers] using member)
    omega

/-- Nothing the invariant speaks of changed. -/
theorem of_same (inv : Timed sh m) (recovery : sh'.recovery = sh.recovery)
    (timers : sh'.controlTimers = sh.controlTimers) (episode : sh'.episode = sh.episode)
    (pending : m'.pendingTimer = m.pendingTimer)
    (busy : m'.busy = true → m.busy = true ∨ sh.recovery.requiresRecovery = true)
    (attempting : ∀ p, m'.attempting = some p → m.attempting = some p) : Timed sh' m' where
  wf := recovery ▸ inv.wf
  started := by
    intro now
    rw [recovery]
    rcases busy now with before | required
    · exact inv.started before
    · intro idle
      simp [TransportRecoverySnapshot.requiresRecovery, idle] at required
  attempting := by
    intro g a now
    rw [recovery]
    exact inv.attempting g a (attempting _ now)
  old := by
    intro timer member
    rw [recovery]
    exact inv.old timer (by simpa [outstanding, timers, pending] using member)
  live := by
    have same : liveTimers sh' m' = liveTimers sh m := by
      simp [liveTimers, outstanding, timers, pending, recovery]
    rw [same]
    refine inv.live.imp_right ?_
    rintro ⟨timer, only, idle, inEpisode⟩
    refine ⟨timer, only, ?_, ?_⟩
    · cases now : m'.busy with
      | false => rfl
      | true =>
          -- A monitor that becomes busy has just found recovery required.
          rcases busy now with before | required
          · rw [idle] at before
            cases before
          · obtain ⟨awaiting, recovered⟩ :=
              TransportRecoverySnapshot.not_requiresRecovery_awaiting required
            rcases inEpisode with state | ⟨state, _⟩
            · exact absurd state recovered
            · exact absurd state awaiting
    · unfold InEpisode
      rw [recovery, episode]
      exact inEpisode

/-- A busy monitor has no live timers to disturb. -/
theorem no_live_of_busy (inv : Timed sh m) (busy : m.busy = true) : liveTimers sh m = 0 := by
  rcases inv.live with quiet | ⟨_, _, idle, _⟩
  · exact quiet
  · rw [busy] at idle
    cases idle

/-- The state moves within the generation while no timer is live. -/
theorem of_no_live (inv : Timed sh m) (quiet : liveTimers sh m = 0)
    (wf : sh'.recovery.WellFormed) (started : sh'.recovery.state ≠ .idle)
    (generation : sh'.recovery.generation = sh.recovery.generation)
    (timers : sh'.controlTimers = sh.controlTimers)
    (pending : m'.pendingTimer = m.pendingTimer)
    (attempting : ∀ g a, m'.attempting = some (g, a) →
      g ≤ sh'.recovery.generation ∧ (g = sh'.recovery.generation →
        sh'.recovery.state = .rebuildingMappings ∧ sh'.recovery.attempt = a)) :
    Timed sh' m' where
  wf := wf
  started := fun _ => started
  attempting := attempting
  old := by
    intro timer member
    rw [generation]
    exact inv.old timer (by simpa [outstanding, timers, pending] using member)
  live := by
    refine Or.inl ?_
    rw [← quiet]
    simp [liveTimers, outstanding, timers, pending, generation]

/-- A timer leaves the list. -/
theorem controlTimers_eraseIdx {n : Nat} {timer : ControlTimer}
    (armed : sh.controlTimers[n]? = some timer) :
    (sh.controlTimers : Multiset ControlTimer) =
      timer ::ₘ (sh.controlTimers.eraseIdx n : Multiset ControlTimer) := by
  obtain ⟨below, rfl⟩ := List.getElem?_eq_some_iff.mp armed
  exact (Multiset.coe_eq_coe.mpr (List.getElem_cons_eraseIdx_perm below)).symm

theorem finish_ok {attempt : Nat} {trigger : TransportRecoveryTrigger}
    (inv : Timed sh (.rebuilt sh.recovery.generation attempt trigger true)) :
    Timed
      { sh with
        recovery := { sh.recovery with state := .awaitingControl }
        episode := sh.episode + 1 }
      (.arming ⟨sh.recovery.generation, attempt, trigger, some (sh.episode + 1)⟩) := by
  obtain ⟨state, same⟩ := (inv.attempting _ _ rfl).2 rfl
  have quiet : Multiset.filter (fun t => t.generation = sh.recovery.generation)
      (sh.controlTimers : Multiset ControlTimer) = 0 := by
    simpa [liveTimers, outstanding, RecoveryTask.pendingTimer] using inv.no_live_of_busy rfl
  refine ⟨⟨inv.wf.attempt, fun _ => inv.wf.trigger (by simp [state])⟩, by simp,
    by simp [RecoveryTask.attempting], ?_,
    Or.inr ⟨⟨sh.recovery.generation, attempt, trigger, some (sh.episode + 1)⟩, ?_, rfl,
      Or.inr ⟨rfl, same, rfl⟩⟩⟩
  · intro timer member
    simp only [outstanding, RecoveryTask.pendingTimer, Multiset.mem_add,
      Multiset.mem_singleton] at member
    rcases member with rfl | armed
    · exact Nat.le_refl _
    · exact inv.old timer (by simpa [outstanding, RecoveryTask.pendingTimer] using armed)
  · simp only [liveTimers, outstanding, RecoveryTask.pendingTimer, Multiset.filter_add, quiet]
    simp

theorem finish_stale {generation attempt : Nat} {trigger : TransportRecoveryTrigger}
    (inv : Timed sh (.rebuilt generation attempt trigger true))
    (stale : sh.recovery.generation ≠ generation) :
    Timed sh (.arming ⟨generation, attempt, trigger, none⟩) := by
  have quiet := inv.no_live_of_busy rfl
  refine ⟨inv.wf, by simp [RecoveryTask.busy], by simp [RecoveryTask.attempting], ?_,
    Or.inl ?_⟩
  · intro timer member
    simp only [outstanding, RecoveryTask.pendingTimer, Multiset.mem_add,
      Multiset.mem_singleton] at member
    rcases member with rfl | armed
    · exact (inv.attempting _ _ rfl).1
    · exact inv.old timer (by simpa [outstanding, RecoveryTask.pendingTimer] using armed)
  · simp only [liveTimers, outstanding, RecoveryTask.pendingTimer, Multiset.filter_add,
      Multiset.filter_singleton, if_neg (Ne.symm stale)] at quiet ⊢
    simpa using quiet

theorem wellFormed_state (wf : sh.recovery.WellFormed) (live : sh.recovery.state ≠ .idle)
    (state : TransportRecoveryState) :
    TransportRecoverySnapshot.WellFormed { sh.recovery with state := state } :=
  ⟨wf.attempt, fun _ => wf.trigger live⟩

theorem wellFormed_failAttempt (wf : sh.recovery.WellFormed)
    (live : sh.recovery.state ≠ .idle) : sh.recovery.failAttempt.2.WellFormed := by
  rcases sh.recovery.failAttempt_cases with ⟨_, result⟩ | ⟨_, result⟩ <;>
    (rw [result]; exact wellFormed_state wf live _)

theorem failAttempt_generation (r : TransportRecoverySnapshot) :
    r.failAttempt.2.generation = r.generation := by
  rcases r.failAttempt_cases with ⟨_, result⟩ | ⟨_, result⟩ <;> rw [result]

theorem failAttempt_started (r : TransportRecoverySnapshot) :
    r.failAttempt.2.state ≠ .idle := by
  rcases r.failAttempt_cases with ⟨_, result⟩ | ⟨_, result⟩ <;> simp [result]

theorem monitor_step (inv : Timed sh m) (monitor : m.isMonitor = true)
    (step : RecoveryStep id sh a m sh' m') : Timed sh' m' := by
  cases step with
  | moved _ move =>
      cases move with
      | required required =>
          exact inv.of_same rfl rfl rfl rfl (fun _ => Or.inr required)
            (by simp [RecoveryTask.attempting])
      | mapped => exact inv.of_same rfl rfl rfl rfl (fun _ => Or.inl rfl) fun _ h => h
      | stayed | gaveUp | abandoned | unmarked =>
          exact inv.of_same rfl rfl rfl rfl (by simp [RecoveryTask.busy])
            (by simp [RecoveryTask.attempting])
      | @unscheduled _ timer fromMonitor | @duplicate timer fromMonitor =>
          cases fromMonitor with
          | false => cases monitor
          | true =>
              exact inv.of_same rfl rfl rfl rfl (by simp [RecoveryTask.resume, RecoveryTask.busy])
                (by simp [RecoveryTask.resume, RecoveryTask.attempting])
      | refused small =>
          rcases small with ⟨_, rfl | rfl | rfl⟩ | rfl | rfl <;> cases monitor
      | _ => cases monitor
  | completed awaiting =>
      refine ⟨wellFormed_state inv.wf (by simp [awaiting]) _, by simp,
        by simp [RecoveryTask.attempting], inv.old, ?_⟩
      exact inv.live.imp_right fun ⟨timer, only, _, _⟩ => ⟨timer, only, rfl, Or.inl rfl⟩
  | waited =>
      refine inv.of_no_live (inv.no_live_of_busy rfl) ?_ (by simp
        [TransportRecoverySnapshot.waitForDevice]) rfl rfl rfl (by simp [RecoveryTask.attempting])
      exact ⟨Nat.zero_le _, fun _ => inv.wf.trigger (inv.started rfl)⟩
  | begun state attempt =>
      refine inv.of_no_live (inv.no_live_of_busy rfl) ?_ (by simp) rfl rfl rfl ?_
      · refine ⟨attempt, fun _ => inv.wf.trigger ?_⟩
        rintro idle
        simp [idle] at state
      · rintro g a same
        cases same
        exact ⟨Nat.le_refl _, fun _ => ⟨rfl, rfl⟩⟩
  | finishedOk => exact inv.finish_ok
  | finishedStale stale => exact inv.finish_stale stale
  | finishedFailed onward =>
      have state := ((inv.attempting _ _ rfl).2 rfl).1
      refine inv.of_no_live (inv.no_live_of_busy rfl)
        (wellFormed_failAttempt inv.wf (by simp [state])) (failAttempt_started _)
        (failAttempt_generation _) rfl ?_ ?_
      · rcases onward with rfl | rfl <;> rfl
      · rcases onward with rfl | rfl <;> simp [RecoveryTask.attempting]
  | finishedFailedStale stale =>
      exact inv.of_same rfl rfl rfl rfl (by simp [RecoveryTask.busy])
        (by simp [RecoveryTask.attempting])
  | @armed timer =>
      have same : outstanding { sh with controlTimers := sh.controlTimers ++ [timer] } .idle =
          outstanding sh (.arming timer) := by
        simp [outstanding, RecoveryTask.pendingTimer, Multiset.add_comm, ← Multiset.coe_add]
      refine ⟨inv.wf, by simp [RecoveryTask.busy], by simp [RecoveryTask.attempting], ?_, ?_⟩
      · rw [same]
        exact inv.old
      · have live : liveTimers { sh with controlTimers := sh.controlTimers ++ [timer] } .idle =
            liveTimers sh (.arming timer) := by
          simp only [liveTimers, same]
        rw [live]
        exact inv.live
  | @inserted timer fromMonitor =>
      cases fromMonitor with
      | false => cases monitor
      | true =>
          exact inv.of_same rfl rfl rfl rfl (by simp [RecoveryTask.resume, RecoveryTask.busy])
            (by simp [RecoveryTask.resume, RecoveryTask.attempting])
  | _ => cases monitor

theorem busy_of_attempting {p : Nat × Nat} (attempting : m.attempting = some p) :
    m.busy = true := by
  cases m <;> simp_all [RecoveryTask.attempting, RecoveryTask.busy]

/-- A timer of the current generation that fires is the only live one. -/
theorem only_live (inv : Timed sh m) {n : Nat} {timer : ControlTimer}
    (armed : sh.controlTimers[n]? = some timer)
    (current : timer.generation = sh.recovery.generation) :
    m.busy = false ∧ InEpisode sh timer ∧
      liveTimers { sh with controlTimers := sh.controlTimers.eraseIdx n } m = 0 := by
  have live : liveTimers sh m =
      timer ::ₘ liveTimers { sh with controlTimers := sh.controlTimers.eraseIdx n } m := by
    simp only [liveTimers, outstanding, controlTimers_eraseIdx armed, Multiset.add_cons]
    exact Multiset.filter_cons_of_pos _ current
  rcases inv.live with quiet | ⟨t, only, idle, inEpisode⟩
  · rw [live] at quiet
    simp at quiet
  · rw [live] at only
    have rest : liveTimers { sh with controlTimers := sh.controlTimers.eraseIdx n } m = 0 := by
      have card := congrArg Multiset.card only
      simpa using card
    rw [rest] at only
    have same : timer = t := by simpa using only
    exact ⟨idle, same ▸ inEpisode, rest⟩

theorem fire_stale (inv : Timed sh m) {n : Nat} {timer : ControlTimer}
    (armed : sh.controlTimers[n]? = some timer) :
    Timed { sh with controlTimers := sh.controlTimers.eraseIdx n } m := by
  refine ⟨inv.wf, inv.started, inv.attempting, ?_, ?_⟩
  · intro t member
    refine inv.old t ?_
    simp only [outstanding, controlTimers_eraseIdx armed] at member ⊢
    rw [Multiset.add_cons]
    exact Multiset.mem_cons_of_mem member
  · by_cases current : timer.generation = sh.recovery.generation
    · exact Or.inl (inv.only_live armed current).2.2
    · have same : liveTimers { sh with controlTimers := sh.controlTimers.eraseIdx n } m =
          liveTimers sh m := by
        simp only [liveTimers, outstanding, controlTimers_eraseIdx armed, Multiset.add_cons]
        rw [Multiset.filter_cons_of_neg]
        exact current
      rw [same]
      exact inv.live

theorem other_step (inv : Timed sh m) (other : t.isMonitor = false)
    (below : sh.recovery.generation + 1 < 2 ^ 64) (step : RecoveryStep id sh a t sh' t') :
    Timed sh' m := by
  have succ := TransportRecoverySnapshot.wrappingSucc_of_lt below
  cases step with
  | moved => exact inv
  | expired armed generation attempt awaiting =>
      obtain ⟨idle, _, quiet⟩ := inv.only_live armed generation.symm
      refine (inv.fire_stale armed).of_no_live quiet
        (wellFormed_failAttempt inv.wf (by simp [awaiting])) (failAttempt_started _)
        (failAttempt_generation _) rfl rfl ?_
      intro g a attempting
      rw [busy_of_attempting attempting] at idle
      cases idle
  | expiredStale armed => exact inv.fire_stale armed
  | notified | rearmed =>
      exact inv.renewed (TransportRecoverySnapshot.wellFormed_renew _ _)
        (by simp [TransportRecoverySnapshot.renew]) succ rfl
  | authRearmed failed =>
      exact inv.renewed ⟨Nat.le_succ 1, fun _ => inv.wf.trigger (by simp [failed])⟩ (by simp)
        succ rfl
  | suppressed | elapsed | unscheduled | storedNotify | storedRearm | storedAuth | inserted =>
      exact ⟨inv.wf, inv.started, inv.attempting, inv.old, inv.live⟩
  | _ => cases other

end Timed

theorem RecoveryStep.isMonitor {id : Nat} {sh sh' : RecoveryShared} {t t' : RecoveryTask}
    {a : RecoveryAction} (step : RecoveryStep id sh a t sh' t') :
    t'.isMonitor = t.isMonitor := by
  cases step with
  | moved _ move =>
      cases move with
      | @unscheduled _ _ monitor | @duplicate _ monitor => cases monitor <;> rfl
      | refused small => rcases small with ⟨_, rfl | rfl | rfl⟩ | rfl | rfl <;> rfl
      | _ => rfl
  | @inserted _ monitor => cases monitor <;> rfl
  | finishedFailed onward | expired _ _ _ _ onward => rcases onward with rfl | rfl <;> rfl
  | _ => rfl

/-- The invariant of the recovery tasks. -/
structure Recovering (c : RecoveryConfig) : Prop where
  timed : Timed c.shared (c.task 0)
  monitor : (c.task 0).isMonitor = true
  others : ∀ i, i ≠ 0 → (c.task i).isMonitor = false

namespace Recovering
variable {c c' : RecoveryConfig} {i : Nat} {a : RecoveryAction}

theorem initial : Recovering recoverySystem.init where
  timed := Timed.initial
  monitor := rfl
  others := by
    intro i other
    simp [Tasks.system, recoveryTasks, other, RecoveryTask.isMonitor]

theorem step_cases (inv : Recovering c) (taken : recoverySystem.step (i, a) c = some c') :
    ∃ sh t, RecoveryStep i c.shared a (c.task i) sh t ∧
      c' = ⟨sh, Function.update c.task i t⟩ := by
  obtain ⟨sh, t, step, same⟩ := Tasks.system_step taken
  exact ⟨sh, t, RecoveryShared.step_cases inv.timed.wf step, same⟩

theorem step (inv : Recovering c) (below : Unwrapped c (i, a))
    (taken : recoverySystem.step (i, a) c = some c') : Recovering c' := by
  obtain ⟨sh, t, step, rfl⟩ := inv.step_cases taken
  by_cases zero : i = 0
  · subst zero
    refine ⟨?_, ?_, ?_⟩
    · simpa using inv.timed.monitor_step inv.monitor step
    · simpa using step.isMonitor.trans inv.monitor
    · intro j other
      simpa [other] using inv.others j other
  · refine ⟨?_, ?_, ?_⟩
    · simpa [Ne.symm zero] using inv.timed.other_step (inv.others i zero) below step
    · simpa [Ne.symm zero] using inv.monitor
    · intro j other
      by_cases mine : j = i
      · subst mine
        simpa using step.isMonitor.trans (inv.others j zero)
      · simpa [mine] using inv.others j other

theorem of_reachable {ok : RecoveryConfig → Nat × RecoveryAction → Prop}
    (below : ∀ c a, ok c a → Unwrapped c a) (h : recoverySystem.Reachable ok c) :
    Recovering c := by
  refine h.invariant initial ?_
  rintro c ⟨i, a⟩ c' inv meets taken
  exact inv.step (below _ _ meets) taken

end Recovering

/-- The steps that start a new generation: a notification, and a rearm that finds the machine
failed, in the generation it is for where it is a delayed one. -/
def Renews (c : RecoveryConfig) (i : Nat) (a : RecoveryAction) : Prop :=
  a = .lock ∧ ((∃ trigger, c.task i = .notified trigger) ∨
    c.shared.recovery.state = .failed ∧ (c.task i = .authLive ∨
      ∃ timer, c.task i = .rearmChecked timer ∧
        c.shared.recovery.generation = timer.generation))

/-- A rearm comes to the mutex while the runtime does not stop and its generation is not marked. -/
structure Proceeds (c c' : RecoveryConfig) (i : Nat) : Prop where
  live : ∀ timer, c.task i = .rearming timer → c.shared.stopping = false →
    c'.task i = .rearmLive timer
  unmarked : ∀ timer, c.task i = .rearmLive timer →
    c.shared.transportAutoRearmGeneration ≠ timer.generation → c'.task i = .rearmChecked timer
  authenticated : c.task i = .authenticating → c.shared.stopping = false → c'.task i = .authLive

section
variable {c c' : RecoveryConfig} {i : Nat} {a : RecoveryAction}

theorem renewed_generation (wf : c.shared.recovery.WellFormed) (renews : Renews c i a)
    (taken : recoverySystem.step (i, a) c = some c') :
    c'.shared.recovery.generation = wrappingSucc c.shared.recovery.generation := by
  obtain ⟨sh, t, step, rfl⟩ := Tasks.system_step taken
  obtain ⟨rfl, ⟨trigger, own⟩ | ⟨failed, own | ⟨timer, own, current⟩⟩⟩ := renews
  · rw [own] at step
    cases step
    rfl
  · obtain ⟨trigger, triggered⟩ :=
      Option.isSome_iff_exists.mp (wf.trigger (by rw [failed]; nofun))
    rw [own] at step
    simp only [recoveryTasks, recoveryStep, RecoveryShared.lock,
      TransportRecoverySnapshot.rearmAuthenticated, failed, ne_eq, not_true_eq_false, if_false,
      triggered] at step
    cases step
    rfl
  · rw [own] at step
    simp only [recoveryTasks, recoveryStep, RecoveryShared.lock,
      TransportRecoverySnapshot.rearmFailed, current, failed, ne_eq, not_true_eq_false, or_false,
      if_false] at step
    cases step
    rfl

theorem generation_step (inv : Recovering c) (below : Unwrapped c (i, a))
    (taken : recoverySystem.step (i, a) c = some c') :
    (Renews c i a ∧ c'.shared.recovery.generation = c.shared.recovery.generation + 1) ∨
      (¬ Renews c i a ∧ c'.shared.recovery.generation = c.shared.recovery.generation) := by
  have succ := TransportRecoverySnapshot.wrappingSucc_of_lt below
  by_cases renews : Renews c i a
  · exact .inl ⟨renews, (renewed_generation inv.timed.wf renews taken).trans succ⟩
  · refine .inr ⟨renews, ?_⟩
    obtain ⟨sh, t, step, rfl⟩ := inv.step_cases taken
    generalize own : c.task i = task at step
    cases step with
    | notified => exact absurd ⟨rfl, .inl ⟨_, own⟩⟩ renews
    | rearmed failed => exact absurd ⟨rfl, .inr ⟨failed, .inr ⟨_, own, rfl⟩⟩⟩ renews
    | authRearmed failed => exact absurd ⟨rfl, .inr ⟨failed, .inl own⟩⟩ renews
    | finishedFailed | expired => exact Timed.failAttempt_generation _
    | _ => rfl

theorem generation_grows (inv : Recovering c) (below : Unwrapped c (i, a))
    (taken : recoverySystem.step (i, a) c = some c') :
    c'.shared.recovery.generation = c.shared.recovery.generation ∨
      c'.shared.recovery.generation = c.shared.recovery.generation + 1 :=
  (generation_step inv below taken).symm.imp And.right And.right

theorem proceeds_step (taken : recoverySystem.step (i, a) c = some c') : Proceeds c c' i := by
  obtain ⟨sh, t, step, rfl⟩ := Tasks.system_step taken
  constructor
  · intro timer own live
    rw [own] at step
    cases a with
    | load =>
        change RecoveryShared.load c.shared (.rearming timer) = some (sh, t) at step
        rw [RecoveryShared.load, live] at step
        cases step
        exact Function.update_self ..
    | _ => cases step
  · intro timer own unmarked
    rw [own] at step
    cases a with
    | load =>
        change RecoveryShared.load c.shared (.rearmLive timer) = some (sh, t) at step
        rw [RecoveryShared.load, if_neg unmarked] at step
        cases step
        exact Function.update_self ..
    | _ => cases step
  · intro own live
    rw [own] at step
    cases a with
    | load =>
        change RecoveryShared.load c.shared .authenticating = some (sh, t) at step
        rw [RecoveryShared.load, live] at step
        cases step
        exact Function.update_self ..
    | _ => cases step

theorem recovered_step (inv : Recovering c)
    (taken : recoverySystem.step (i, a) c = some c')
    (after : c'.shared.recovery.state = .recovered)
    (before : c.shared.recovery.state ≠ .recovered) :
    c.shared.recovery.state = .awaitingControl := by
  obtain ⟨sh, t, step, rfl⟩ := inv.step_cases taken
  generalize own : c.task i = task at step
  cases step with
  | completed awaiting => exact awaiting
  | expired _ _ _ awaiting => exact awaiting
  | finishedFailed =>
      rcases c.shared.recovery.failAttempt_cases with ⟨_, result⟩ | ⟨_, result⟩ <;>
        simp [result] at after
  | waited | begun | finishedOk | notified | rearmed | authRearmed => cases after
  | _ => exact absurd after before

/-- The ghost that numbers episodes moves exactly when AwaitingControl is
entered. -/
theorem episode_step (inv : Recovering c)
    (taken : recoverySystem.step (i, a) c = some c') :
    c'.shared.episode = c.shared.episode + 1 ↔
      (c'.shared.recovery.state = .awaitingControl ∧
        c.shared.recovery.state ≠ .awaitingControl) := by
  obtain ⟨sh, t, step, rfl⟩ := inv.step_cases taken
  have attempting := inv.timed.attempting
  have zero : (c.task i).isMonitor = true → i = 0 := by
    intro monitor
    by_contra other
    rw [inv.others i other] at monitor
    cases monitor
  generalize own : c.task i = task at step
  cases step with
  | @finishedOk attempt trigger =>
      have first : i = 0 := zero (by rw [own]; rfl)
      subst first
      rw [own] at attempting
      have state := ((attempting _ _ rfl).2 rfl).1
      simp [state]
  | authRearmed failed => simp [failed]
  | completed awaiting => simp
  | waited => simp [TransportRecoverySnapshot.waitForDevice]
  | begun | notified | rearmed => simp [TransportRecoverySnapshot.renew]
  | finishedFailed | expired =>
      rcases c.shared.recovery.failAttempt_cases with ⟨_, result⟩ | ⟨_, result⟩ <;> simp [result]
  | _ => simp

/-- The control timeout acts only on the episode that armed it. -/
theorem timer_step (inv : Recovering c) {n : Nat} {timer : ControlTimer}
    (armed : c.shared.controlTimers[n]? = some timer)
    (taken : recoverySystem.step (i, .fireControl n) c = some c')
    (changed : c'.shared.recovery ≠ c.shared.recovery) :
    c.shared.recovery.state = .awaitingControl ∧
      timer.generation = c.shared.recovery.generation ∧
      timer.episode = some c.shared.episode := by
  obtain ⟨sh, t, step, rfl⟩ := inv.step_cases taken
  generalize own : c.task i = task at step
  cases step with
  | moved => exact absurd rfl changed
  | expiredStale => exact absurd rfl changed
  | expired armed' generation attempt awaiting =>
      cases armed.symm.trans armed'
      obtain ⟨_, inEpisode, _⟩ := inv.timed.only_live armed generation.symm
      refine ⟨awaiting, generation.symm, ?_⟩
      rcases inEpisode with recovered | ⟨_, _, same⟩
      · rw [awaiting] at recovered
        cases recovered
      · exact same

/-- The recovery machine, over every interleaving in which the generation does not
wrap. -/
theorem transport_recovery_machine (reached : recoverySystem.Reachable Unwrapped c) :
    c.shared.recovery.attempt ≤ TRANSPORT_RECOVERY_MAX_ATTEMPTS ∧
    (c.shared.recovery.state ≠ .idle → c.shared.recovery.trigger.isSome = true) ∧
    (c.shared.recovery.beginAttempt.1 = none →
      c.shared.recovery.beginAttempt.2 = c.shared.recovery) ∧
    (∀ generation, generation ≠ c.shared.recovery.generation →
      (∀ succeeded, c.shared.recovery.finishAttempt generation succeeded =
        (false, c.shared.recovery)) ∧
      (∀ attempt, c.shared.recovery.expireControl generation attempt =
        (none, c.shared.recovery))) ∧
    ∀ i a c', Unwrapped c (i, a) → recoverySystem.step (i, a) c = some c' →
      c.shared.recovery.generation ≤ c'.shared.recovery.generation ∧
      (Renews c i a ↔ c.shared.recovery.generation < c'.shared.recovery.generation) ∧
      Proceeds c c' i ∧
      (c'.shared.recovery.state = .recovered → c.shared.recovery.state ≠ .recovered →
        c.shared.recovery.state = .awaitingControl) ∧
      (c'.shared.episode = c.shared.episode + 1 ↔
        (c'.shared.recovery.state = .awaitingControl ∧
          c.shared.recovery.state ≠ .awaitingControl)) ∧
      (∀ n timer, a = .fireControl n → c.shared.controlTimers[n]? = some timer →
        c'.shared.recovery ≠ c.shared.recovery →
        c.shared.recovery.state = .awaitingControl ∧
          timer.generation = c.shared.recovery.generation ∧
          timer.episode = some c.shared.episode) := by
  have inv := Recovering.of_reachable (fun _ _ h => h) reached
  refine ⟨inv.timed.wf.attempt, inv.timed.wf.trigger, ?_, ?_, ?_⟩
  · rcases TransportRecoverySnapshot.beginAttempt_cases inv.timed.wf with
      refused | ⟨_, _, _, _, begun⟩
    · simp [refused]
    · simp [begun]
  · intro generation stale
    exact ⟨TransportRecoverySnapshot.finishAttempt_stale stale.symm,
      TransportRecoverySnapshot.expireControl_stale stale.symm⟩
  · intro i a c' below taken
    refine ⟨?_, ?_, proceeds_step taken, recovered_step inv taken, episode_step inv taken, ?_⟩
    · rcases generation_step inv below taken with ⟨_, next⟩ | ⟨_, same⟩
      · exact next ▸ Nat.le_succ _
      · exact Nat.le_of_eq same.symm
    · rcases generation_step inv below taken with ⟨renews, next⟩ | ⟨quiet, same⟩
      · exact iff_of_true renews (next ▸ Nat.lt_succ_self _)
      · exact iff_of_false quiet (same ▸ Nat.lt_irrefl _)
    · rintro n timer rfl armed changed
      exact timer_step inv armed taken changed

end

/-- A host resume, a rebuild that succeeds, and its control timeout armed. -/
def unansweredRebuild : List (Nat × RecoveryAction) :=
  [(1, .notify .hostResume), (1, .store), (1, .lock), (0, .check), (0, .beginAttempt),
    (0, .mappings true), (0, .finishAttempt), (0, .arm)]

/-- An unanswered rebuild is expired by its own timer. -/
theorem transport_recovery_machine_timeout :
    ∃ c c' timer, recoverySystem.Reachable Unwrapped c ∧
      c.shared.controlTimers[0]? = some timer ∧
      recoverySystem.step (2, .fireControl 0) c = some c' ∧
      c'.shared.recovery.state = .pending ∧ timer.episode = some c.shared.episode := by
  obtain ⟨c, c', timer, reached, armed, taken, pending, changed, below⟩ :
      ∃ c c' timer, recoverySystem.Reachable Unwrapped c ∧
        c.shared.controlTimers[0]? = some timer ∧
        recoverySystem.step (2, .fireControl 0) c = some c' ∧
        c'.shared.recovery.state = .pending ∧ c'.shared.recovery ≠ c.shared.recovery ∧
        Unwrapped c (2, .fireControl 0) :=
    ⟨_, _, _, System.reachable_of_replay unansweredRebuild rfl, rfl, rfl, rfl, by decide,
      by decide⟩
  obtain ⟨_, _, _, _, acts⟩ := transport_recovery_machine reached
  obtain ⟨_, _, _, _, _, expires⟩ := acts _ _ c' below taken
  exact ⟨c, c', timer, reached, armed, taken, pending, (expires 0 timer rfl armed changed).2.2⟩

end QuestVdWired.Host
