import QuestVdWired.Transition.System
import QuestVdWired.Host.TransportRecovery

/-!
The recovery operations as tasks that interleave between any two accesses to
shared memory: the recovery mutex, the atomic generation of the last automatic
rearm, the set of scheduled rearms, and the stop flag. Task 0 is the loop of the
health monitor; a delayed task waits in a list of timers until some task picks it
up, so timers fire in any order and after any delay.

A notification made by the monitor itself is here a task of its own, which only
adds interleavings.
-/

namespace QuestVdWired.Host

open Transition

/-- A spawned `TRANSPORT_RECOVERY_CONTROL_TIMEOUT` task. `episode` is a ghost:
the AwaitingControl episode its arming entered, if it entered one. -/
structure ControlTimer where
  generation : Nat
  attempt : Nat
  trigger : TransportRecoveryTrigger
  episode : Option Nat
  deriving DecidableEq, Repr

/-- A spawned `TRANSPORT_RECOVERY_REARM_DELAY` task. -/
structure RearmTimer where
  generation : Nat
  trigger : TransportRecoveryTrigger
  deriving DecidableEq, Repr

/-- What the recovery tasks share. `episode` counts the AwaitingControl episodes,
`automatic` tells whether `rearm_failed_transport` made the generation, and
`unsettled` lists the calls that have done one of their two writes, to the
generation and to its marker, and not yet the other; all three are ghosts. -/
structure RecoveryShared where
  recovery : TransportRecoverySnapshot
  transportAutoRearmGeneration : Nat
  transportRearmScheduled : List Nat
  stopping : Bool
  controlTimers : List ControlTimer
  rearmTimers : List RearmTimer
  episode : Nat
  automatic : Bool
  unsettled : List Nat

/-- Where a recovery task stands. -/
inductive RecoveryTask
  | vacant
  /-- the monitor, outside `recover_transport` -/
  | idle
  /-- the monitor found that recovery is required -/
  | checked
  /-- the monitor waits for the mappings to be reinstalled -/
  | rebuilding (generation attempt : Nat) (trigger : TransportRecoveryTrigger)
  /-- the mappings are done and the generation was still current -/
  | rebuilt (generation attempt : Nat) (trigger : TransportRecoveryTrigger)
      (succeeded : Bool)
  /-- the monitor is about to spawn the control timeout -/
  | arming (timer : ControlTimer)
  /-- about to load the marker in `schedule_transport_recovery_rearm_after` -/
  | scheduling (timer : RearmTimer) (monitor : Bool)
  /-- about to insert into the set of scheduled rearms -/
  | inserting (timer : RearmTimer) (monitor : Bool)
  /-- about to clear the marker in `notify_transport_recovery` -/
  | notifying (trigger : TransportRecoveryTrigger)
  /-- about to take the recovery mutex in `notify_transport_recovery` -/
  | notified (trigger : TransportRecoveryTrigger)
  /-- a delayed rearm, about to leave the set -/
  | elapsed (timer : RearmTimer)
  /-- about to load the stop flag in `rearm_failed_transport` -/
  | rearming (timer : RearmTimer)
  /-- about to load the marker in `rearm_failed_transport` -/
  | rearmLive (timer : RearmTimer)
  /-- about to take the recovery mutex in `rearm_failed_transport` -/
  | rearmChecked (timer : RearmTimer)
  /-- about to store the marker in `rearm_failed_transport` -/
  | rearmed (next : Nat)
  /-- about to load the stop flag in the authenticated rearm -/
  | authenticating
  /-- about to take the recovery mutex in the authenticated rearm -/
  | authLive
  /-- about to clear the marker in the authenticated rearm -/
  | authRearmed
  | done
  deriving DecidableEq

inductive RecoveryAction
  | complete | check | giveUp | waitForDevice | beginAttempt | beginRefused
  | mappings (succeeded : Bool) | finishAttempt | arm
  | notify (trigger : TransportRecoveryTrigger) | authenticate | suppress
  | fireControl (timer : Nat) | fireRearm (timer : Nat)
  | load | insert | unschedule | lock | store
  deriving DecidableEq

/-- Where `schedule_transport_recovery_rearm_after` returns to. -/
def RecoveryTask.resume (monitor : Bool) : RecoveryTask := if monitor then .idle else .done

namespace RecoveryShared

def finish (sh : RecoveryShared) (generation attempt : Nat) (trigger : TransportRecoveryTrigger)
    (succeeded : Bool) : RecoveryShared × RecoveryTask :=
  let result := sh.recovery.finishAttempt generation succeeded
  if succeeded then
    -- A stale generation still gets its timer, which then finds nothing to expire.
    if sh.recovery.generation = generation then
      ({ sh with recovery := result.2, episode := sh.episode + 1 },
        .arming ⟨generation, attempt, trigger, some (sh.episode + 1)⟩)
    else ({ sh with recovery := result.2 }, .arming ⟨generation, attempt, trigger, none⟩)
  else
    ({ sh with recovery := result.2 },
      if result.1 then .idle else .scheduling ⟨generation, trigger⟩ true)

def fireControl (sh : RecoveryShared) (timer : Nat) :
    Option (RecoveryShared × RecoveryTask) :=
  sh.controlTimers[timer]?.map fun t =>
    let result := sh.recovery.expireControl t.generation t.attempt
    ({ sh with recovery := result.2, controlTimers := sh.controlTimers.eraseIdx timer },
      if result.1 = some false then .scheduling ⟨t.generation, t.trigger⟩ false else .done)

def lock (id : Nat) (sh : RecoveryShared) :
    RecoveryTask → Option (RecoveryShared × RecoveryTask)
  | .notified trigger =>
      some ({ sh with
          recovery := sh.recovery.notify trigger
          automatic := false
          unsettled := sh.unsettled.erase id }, .done)
  | .rearmChecked timer =>
      match sh.recovery.rearmFailed timer.generation timer.trigger with
      | (none, recovery) => some ({ sh with recovery := recovery }, .done)
      | (some next, recovery) =>
          some ({ sh with
              recovery := recovery
              automatic := true
              unsettled := id :: sh.unsettled }, .rearmed next)
  | .authLive =>
      match sh.recovery.rearmAuthenticated with
      | (none, recovery) => some ({ sh with recovery := recovery }, .done)
      | (some _, recovery) =>
          some ({ sh with
              recovery := recovery
              automatic := false
              episode := sh.episode + 1
              unsettled := id :: sh.unsettled }, .authRearmed)
  | _ => none

def load (sh : RecoveryShared) : RecoveryTask → Option (RecoveryShared × RecoveryTask)
  | .scheduling timer monitor =>
      some (sh, if sh.transportAutoRearmGeneration = timer.generation then .resume monitor
        else .inserting timer monitor)
  | .rearming timer => some (sh, if sh.stopping then .done else .rearmLive timer)
  | .rearmLive timer =>
      some (sh, if sh.transportAutoRearmGeneration = timer.generation then .done
        else .rearmChecked timer)
  | .authenticating => some (sh, if sh.stopping then .done else .authLive)
  | _ => none

def store (id : Nat) (sh : RecoveryShared) :
    RecoveryTask → Option (RecoveryShared × RecoveryTask)
  | .notifying trigger =>
      some ({ sh with
          transportAutoRearmGeneration := 0
          unsettled := id :: sh.unsettled }, .notified trigger)
  | .rearmed next =>
      some ({ sh with
          transportAutoRearmGeneration := next
          unsettled := sh.unsettled.erase id }, .done)
  | .authRearmed =>
      some ({ sh with
          transportAutoRearmGeneration := 0
          unsettled := sh.unsettled.erase id }, .done)
  | _ => none

def insert (sh : RecoveryShared) (timer : RearmTimer) : RecoveryShared :=
  if timer.generation ∈ sh.transportRearmScheduled then sh
  else
    { sh with
      transportRearmScheduled := timer.generation :: sh.transportRearmScheduled
      rearmTimers := sh.rearmTimers ++ [timer] }

end RecoveryShared

open RecoveryShared in
def recoveryStep (id : Nat) (action : RecoveryAction) (sh : RecoveryShared)
    (task : RecoveryTask) : Option (RecoveryShared × RecoveryTask) :=
  match action, task with
  | .complete, .idle => some ({ sh with recovery := sh.recovery.complete.2 }, .idle)
  | .check, .idle => some (sh, if sh.recovery.requiresRecovery then .checked else .idle)
  | .giveUp, .checked => if sh.stopping then some (sh, .idle) else none
  | .waitForDevice, .checked =>
      some ({ sh with recovery := sh.recovery.waitForDevice }, .idle)
  | .beginAttempt, .checked =>
      match sh.recovery.beginAttempt with
      | (some (generation, attempt, trigger), recovery) =>
          some ({ sh with recovery := recovery }, .rebuilding generation attempt trigger)
      | (none, _) => none
  | .beginRefused, .checked =>
      match sh.recovery.beginAttempt with
      | (some _, _) => none
      | (none, recovery) => some ({ sh with recovery := recovery }, .idle)
  | .giveUp, .rebuilding _ _ _ => if sh.stopping then some (sh, .idle) else none
  | .mappings succeeded, .rebuilding generation attempt trigger =>
      some (sh, if sh.recovery.generation ≠ generation then .idle
        else .rebuilt generation attempt trigger succeeded)
  | .finishAttempt, .rebuilt generation attempt trigger succeeded =>
      some (sh.finish generation attempt trigger succeeded)
  | .arm, .arming timer => some ({ sh with controlTimers := sh.controlTimers ++ [timer] }, .idle)
  | .insert, .inserting timer monitor => some (sh.insert timer, .resume monitor)
  | .notify trigger, .vacant => some (sh, .notifying trigger)
  | .authenticate, .vacant => some (sh, .authenticating)
  | .suppress, .vacant => some ({ sh with stopping := true }, .done)
  | .fireControl timer, .vacant => sh.fireControl timer
  | .fireRearm timer, .vacant =>
      sh.rearmTimers[timer]?.map fun t =>
        ({ sh with rearmTimers := sh.rearmTimers.eraseIdx timer }, .elapsed t)
  | .unschedule, .elapsed timer =>
      some ({ sh with
          transportRearmScheduled := sh.transportRearmScheduled.erase timer.generation },
        .rearming timer)
  | .load, task => load sh task
  | .lock, task => lock id sh task
  | .store, task => store id sh task
  | _, _ => none

def RecoveryShared.initial : RecoveryShared :=
  { recovery := .initial, transportAutoRearmGeneration := 0, transportRearmScheduled := [],
    stopping := false, controlTimers := [], rearmTimers := [], episode := 0,
    automatic := false, unsettled := [] }

def recoveryTasks : Tasks Nat RecoveryShared RecoveryTask RecoveryAction where
  shared := .initial
  task := fun i => if i = 0 then .idle else .vacant
  step := recoveryStep

abbrev RecoveryConfig := Config Nat RecoveryShared RecoveryTask

abbrev recoverySystem : System RecoveryConfig (Nat × RecoveryAction) := recoveryTasks.system

/-- Moves that leave the shared state as it is. -/
inductive RecoveryMove (sh : RecoveryShared) : RecoveryAction → RecoveryTask → RecoveryTask → Prop
  | stayed {a : RecoveryAction} : RecoveryMove sh a .idle .idle
  | required (required : sh.recovery.requiresRecovery = true) :
      RecoveryMove sh .check .idle .checked
  | gaveUp {a : RecoveryAction} : RecoveryMove sh a .checked .idle
  | abandoned {a : RecoveryAction} {generation attempt : Nat}
      {trigger : TransportRecoveryTrigger} :
      RecoveryMove sh a (.rebuilding generation attempt trigger) .idle
  | mapped {attempt : Nat} {trigger : TransportRecoveryTrigger} {succeeded : Bool} :
      RecoveryMove sh (.mappings succeeded)
        (.rebuilding sh.recovery.generation attempt trigger)
        (.rebuilt sh.recovery.generation attempt trigger succeeded)
  | unscheduled {a : RecoveryAction} {timer : RearmTimer} {monitor : Bool} :
      RecoveryMove sh a (.scheduling timer monitor) (.resume monitor)
  | unmarked {timer : RearmTimer} {monitor : Bool} :
      RecoveryMove sh .load (.scheduling timer monitor) (.inserting timer monitor)
  | duplicate {timer : RearmTimer} {monitor : Bool} :
      RecoveryMove sh .insert (.inserting timer monitor) (.resume monitor)
  | notify {trigger : TransportRecoveryTrigger} :
      RecoveryMove sh (.notify trigger) .vacant (.notifying trigger)
  | authenticate : RecoveryMove sh .authenticate .vacant .authenticating
  | rearmLive {timer : RearmTimer} :
      RecoveryMove sh .load (.rearming timer) (.rearmLive timer)
  | rearmChecked {timer : RearmTimer}
      (unmarked : sh.transportAutoRearmGeneration ≠ timer.generation) :
      RecoveryMove sh .load (.rearmLive timer) (.rearmChecked timer)
  | authLive : RecoveryMove sh .load .authenticating .authLive
  | refused {a : RecoveryAction} {t : RecoveryTask}
      (small : (∃ timer, t = .rearming timer ∨ t = .rearmLive timer ∨ t = .rearmChecked timer) ∨
        t = .authenticating ∨ t = .authLive) : RecoveryMove sh a t .done

/-- The outcomes of a recovery task's step. -/
inductive RecoveryStep (id : Nat) (sh : RecoveryShared) :
    RecoveryAction → RecoveryTask → RecoveryShared → RecoveryTask → Prop
  | moved {a : RecoveryAction} {t t' : RecoveryTask} (idle : a ≠ .beginAttempt)
      (move : RecoveryMove sh a t t') :
      RecoveryStep id sh a t sh t'
  | completed (awaiting : sh.recovery.state = .awaitingControl) :
      RecoveryStep id sh .complete .idle
        { sh with recovery := { sh.recovery with state := .recovered } } .idle
  | waited :
      RecoveryStep id sh .waitForDevice .checked
        { sh with recovery := sh.recovery.waitForDevice } .idle
  | begun {trigger : TransportRecoveryTrigger}
      (state : sh.recovery.state ∈ [.pending, .waitingForDevice])
      (attempt : sh.recovery.attempt < TRANSPORT_RECOVERY_MAX_ATTEMPTS) :
      RecoveryStep id sh .beginAttempt .checked
        { sh with
          recovery := { sh.recovery with
            attempt := sh.recovery.attempt + 1
            state := .rebuildingMappings } }
        (.rebuilding sh.recovery.generation (sh.recovery.attempt + 1) trigger)
  | finishedOk {attempt : Nat} {trigger : TransportRecoveryTrigger} :
      RecoveryStep id sh .finishAttempt
        (.rebuilt sh.recovery.generation attempt trigger true)
        { sh with
          recovery := { sh.recovery with state := .awaitingControl }
          episode := sh.episode + 1 }
        (.arming ⟨sh.recovery.generation, attempt, trigger, some (sh.episode + 1)⟩)
  | finishedStale {generation attempt : Nat} {trigger : TransportRecoveryTrigger}
      (stale : sh.recovery.generation ≠ generation) :
      RecoveryStep id sh .finishAttempt (.rebuilt generation attempt trigger true) sh
        (.arming ⟨generation, attempt, trigger, none⟩)
  | finishedFailed {attempt : Nat} {trigger : TransportRecoveryTrigger} {t : RecoveryTask}
      (onward : t = .idle ∨ t = .scheduling ⟨sh.recovery.generation, trigger⟩ true) :
      RecoveryStep id sh .finishAttempt
        (.rebuilt sh.recovery.generation attempt trigger false)
        { sh with recovery := sh.recovery.failAttempt.2 } t
  | finishedFailedStale {generation attempt : Nat} {trigger : TransportRecoveryTrigger}
      (stale : sh.recovery.generation ≠ generation) :
      RecoveryStep id sh .finishAttempt (.rebuilt generation attempt trigger false) sh
        (.scheduling ⟨generation, trigger⟩ true)
  | armed {timer : ControlTimer} :
      RecoveryStep id sh .arm (.arming timer)
        { sh with controlTimers := sh.controlTimers ++ [timer] } .idle
  | inserted {timer : RearmTimer} {monitor : Bool} :
      RecoveryStep id sh .insert (.inserting timer monitor)
        { sh with
          transportRearmScheduled := timer.generation :: sh.transportRearmScheduled
          rearmTimers := sh.rearmTimers ++ [timer] } (.resume monitor)
  | suppressed : RecoveryStep id sh .suppress .vacant { sh with stopping := true } .done
  | expired {n : Nat} {timer : ControlTimer} {t : RecoveryTask}
      (armed : sh.controlTimers[n]? = some timer)
      (generation : sh.recovery.generation = timer.generation)
      (attempt : sh.recovery.attempt = timer.attempt)
      (awaiting : sh.recovery.state = .awaitingControl)
      (onward : t = .done ∨ t = .scheduling ⟨timer.generation, timer.trigger⟩ false) :
      RecoveryStep id sh (.fireControl n) .vacant
        { sh with
          recovery := sh.recovery.failAttempt.2
          controlTimers := sh.controlTimers.eraseIdx n } t
  | expiredStale {n : Nat} {timer : ControlTimer} (armed : sh.controlTimers[n]? = some timer) :
      RecoveryStep id sh (.fireControl n) .vacant
        { sh with controlTimers := sh.controlTimers.eraseIdx n } .done
  | elapsed {n : Nat} {timer : RearmTimer} (armed : sh.rearmTimers[n]? = some timer) :
      RecoveryStep id sh (.fireRearm n) .vacant
        { sh with rearmTimers := sh.rearmTimers.eraseIdx n } (.elapsed timer)
  | unscheduled {timer : RearmTimer} :
      RecoveryStep id sh .unschedule (.elapsed timer)
        { sh with
          transportRearmScheduled := sh.transportRearmScheduled.erase timer.generation }
        (.rearming timer)
  | notified {trigger : TransportRecoveryTrigger} :
      RecoveryStep id sh .lock (.notified trigger)
        { sh with
          recovery := sh.recovery.renew trigger
          automatic := false
          unsettled := sh.unsettled.erase id } .done
  | rearmed {trigger : TransportRecoveryTrigger} (failed : sh.recovery.state = .failed) :
      RecoveryStep id sh .lock (.rearmChecked ⟨sh.recovery.generation, trigger⟩)
        { sh with
          recovery := sh.recovery.renew trigger
          automatic := true
          unsettled := id :: sh.unsettled }
        (.rearmed (wrappingSucc sh.recovery.generation))
  | authRearmed (failed : sh.recovery.state = .failed) :
      RecoveryStep id sh .lock .authLive
        { sh with
          recovery := { sh.recovery with
            generation := wrappingSucc sh.recovery.generation
            attempt := 1
            state := .awaitingControl }
          automatic := false
          episode := sh.episode + 1
          unsettled := id :: sh.unsettled } .authRearmed
  | storedNotify {trigger : TransportRecoveryTrigger} :
      RecoveryStep id sh .store (.notifying trigger)
        { sh with transportAutoRearmGeneration := 0, unsettled := id :: sh.unsettled }
        (.notified trigger)
  | storedRearm {next : Nat} :
      RecoveryStep id sh .store (.rearmed next)
        { sh with
          transportAutoRearmGeneration := next
          unsettled := sh.unsettled.erase id } .done
  | storedAuth :
      RecoveryStep id sh .store .authRearmed
        { sh with
          transportAutoRearmGeneration := 0
          unsettled := sh.unsettled.erase id } .done

namespace RecoveryShared
variable {id : Nat} {sh sh' : RecoveryShared} {t t' : RecoveryTask}

theorem finish_step {generation attempt : Nat} {trigger : TransportRecoveryTrigger}
    {succeeded : Bool} (taken : sh.finish generation attempt trigger succeeded = (sh', t')) :
    RecoveryStep id sh .finishAttempt (.rebuilt generation attempt trigger succeeded) sh' t' := by
  unfold finish at taken
  by_cases current : sh.recovery.generation = generation
  · subst current
    cases succeeded with
    | true =>
        simp only [TransportRecoverySnapshot.finishAttempt, ne_eq, not_true_eq_false, if_false,
          if_true] at taken
        cases taken
        exact .finishedOk
    | false =>
        simp only [TransportRecoverySnapshot.finishAttempt, ne_eq, not_true_eq_false, if_false,
          Bool.false_eq_true] at taken
        cases taken
        refine .finishedFailed ?_
        split
        · exact Or.inl rfl
        · exact Or.inr rfl
  · rw [TransportRecoverySnapshot.finishAttempt_stale current] at taken
    cases succeeded with
    | true =>
        simp only [current, if_true, if_false] at taken
        cases taken
        exact .finishedStale current
    | false =>
        cases taken
        exact .finishedFailedStale current

theorem fireControl_step {n : Nat} (taken : sh.fireControl n = some (sh', t')) :
    RecoveryStep id sh (.fireControl n) .vacant sh' t' := by
  obtain ⟨timer, armed, same⟩ := Option.map_eq_some_iff.mp taken
  rcases sh.recovery.expireControl_cases timer.generation timer.attempt with
    refused | ⟨generation, attempt, awaiting, result⟩
  · simp only [refused, reduceCtorEq, if_false] at same
    cases same
    exact .expiredStale armed
  · simp only [result] at same
    cases same
    refine .expired armed generation attempt awaiting ?_
    split
    · exact Or.inr rfl
    · exact Or.inl rfl

theorem load_step (taken : sh.load t = some (sh', t')) : RecoveryStep id sh .load t sh' t' := by
  unfold load at taken
  split at taken
  · rename_i timer monitor
    by_cases marked : sh.transportAutoRearmGeneration = timer.generation
    · simp only [marked, if_true] at taken
      cases taken
      exact .moved (by simp) .unscheduled
    · simp only [marked, if_false] at taken
      cases taken
      exact .moved (by simp) .unmarked
  · rename_i timer
    by_cases stopping : sh.stopping = true
    · simp only [stopping, if_true] at taken
      cases taken
      exact .moved (by simp) (.refused (Or.inl ⟨timer, Or.inl rfl⟩))
    · simp only [stopping] at taken
      cases taken
      exact .moved (by simp) .rearmLive
  · rename_i timer
    by_cases marked : sh.transportAutoRearmGeneration = timer.generation
    · simp only [marked, if_true] at taken
      cases taken
      exact .moved (by simp) (.refused (Or.inl ⟨timer, Or.inr (Or.inl rfl)⟩))
    · simp only [marked, if_false] at taken
      cases taken
      exact .moved (by simp) (.rearmChecked marked)
  · by_cases stopping : sh.stopping = true
    · simp only [stopping, if_true] at taken
      cases taken
      exact .moved (by simp) (.refused (Or.inr (Or.inl rfl)))
    · simp only [stopping] at taken
      cases taken
      exact .moved (by simp) .authLive
  · cases taken

theorem lock_step (taken : lock id sh t = some (sh', t')) :
    RecoveryStep id sh .lock t sh' t' := by
  unfold lock at taken
  split at taken
  · cases taken
    exact .notified
  · rename_i timer
    rcases sh.recovery.rearmFailed_cases timer.generation timer.trigger with
      refused | ⟨generation, failed, result⟩
    · rw [refused] at taken
      cases taken
      exact .moved (by simp) (.refused (Or.inl ⟨timer, Or.inr (Or.inr rfl)⟩))
    · rw [result] at taken
      cases taken
      obtain ⟨g, trigger⟩ := timer
      cases generation
      exact .rearmed failed
  · rcases sh.recovery.rearmAuthenticated_cases with refused | ⟨failed, trigger, _, result⟩
    · rw [refused] at taken
      cases taken
      exact .moved (by simp) (.refused (Or.inr (Or.inr rfl)))
    · rw [result] at taken
      cases taken
      exact .authRearmed failed
  · cases taken

theorem store_step (taken : store id sh t = some (sh', t')) :
    RecoveryStep id sh .store t sh' t' := by
  unfold store at taken
  split at taken
  · cases taken
    exact .storedNotify
  · cases taken
    exact .storedRearm
  · cases taken
    exact .storedAuth
  · cases taken

/-- There are no other outcomes. -/
theorem step_cases {a : RecoveryAction} (wf : sh.recovery.WellFormed)
    (taken : recoveryStep id a sh t = some (sh', t')) : RecoveryStep id sh a t sh' t' := by
  unfold recoveryStep at taken
  split at taken
  · rcases sh.recovery.complete_cases with ⟨_, refused⟩ | ⟨awaiting, completed⟩
    · rw [refused] at taken
      cases taken
      exact .moved (by simp) .stayed
    · rw [completed] at taken
      cases taken
      exact .completed awaiting
  · by_cases required : sh.recovery.requiresRecovery = true
    · simp only [required, if_true] at taken
      cases taken
      exact .moved (by simp) (.required required)
    · simp only [required] at taken
      cases taken
      exact .moved (by simp) .stayed
  · split at taken
    · cases taken
      exact .moved (by simp) .gaveUp
    · cases taken
  · cases taken
    exact .waited
  · rcases TransportRecoverySnapshot.beginAttempt_cases wf with
      refused | ⟨state, attempt, trigger, _, begun⟩
    · rw [refused] at taken
      cases taken
    · rw [begun] at taken
      cases taken
      exact .begun state attempt
  · rcases TransportRecoverySnapshot.beginAttempt_cases wf with
      refused | ⟨state, attempt, trigger, _, begun⟩
    · rw [refused] at taken
      cases taken
      exact .moved (by simp) .gaveUp
    · rw [begun] at taken
      cases taken
  · split at taken
    · cases taken
      exact .moved (by simp) .abandoned
    · cases taken
  · rename_i succeeded generation attempt trigger
    by_cases current : sh.recovery.generation = generation
    · subst current
      simp only [ne_eq, not_true_eq_false, if_false] at taken
      cases taken
      exact .moved (by simp) .mapped
    · simp only [ne_eq, current, not_false_eq_true, if_true] at taken
      cases taken
      exact .moved (by simp) .abandoned
  · exact finish_step (Option.some.inj taken)
  · cases taken
    exact .armed
  · rename_i timer monitor
    have taken := Option.some.inj taken
    unfold insert at taken
    split at taken
    · cases taken
      exact .moved (by simp) .duplicate
    · cases taken
      exact .inserted
  · cases taken
    exact .moved (by simp) .notify
  · cases taken
    exact .moved (by simp) .authenticate
  · cases taken
    exact .suppressed
  · exact fireControl_step taken
  · obtain ⟨timer, armed, same⟩ := Option.map_eq_some_iff.mp taken
    cases same
    exact .elapsed armed
  · cases taken
    exact .unscheduled
  · exact load_step taken
  · exact lock_step taken
  · exact store_step taken
  · cases taken

end RecoveryShared

end QuestVdWired.Host
