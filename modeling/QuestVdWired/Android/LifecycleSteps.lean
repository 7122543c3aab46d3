import QuestVdWired.Android.SessionLifecycle

/-!
What a step of the service can do, said once: a thread only moves on, or it changes the shared
fields in one of a few ways.
-/

namespace QuestVdWired.Android.Lifecycle
open Transition

namespace Pc

/-- The session whose teardown the thread runs. -/
def tears : Pc → Option Nat
  | .tearing n | .closing n | .leaving n _ | .draining n _ | .acknowledging n _ => some n
  | _ => none

/-- The session whose teardown the thread is about to queue. -/
def launches : Pc → Option Nat
  | .stopped _ close => close
  | _ => none

/-- The generation for which the thread runs `startVpn`, up to the commit or the end of it. -/
def prepares : Pc → Option Nat
  | .foreground g | .establishing g | .committing g | .discarding g | .discardingAgain g => some g
  | _ => none

/-- In `startVpn` or `rejectStart`. -/
def starts : Pc → Bool
  | .rejecting | .finishing | .beginning | .foreground _ | .establishing _ | .committing _
  | .launching _ | .discarding _ | .discardingAgain _ => true
  | _ => false

/-- The session whose `engineStartLock` the thread holds. -/
def holds : Pc → Option Nat
  | .initializingChecked n | .initializingStart n | .suspendingLocked n | .resumingChecked n
  | .resumingStart n | .resumingReady n | .closing n | .leaving n _ => some n
  | _ => none

/-- The callbacks the thread is about to run. -/
def hand : Pc → List Callback
  | .stopped (some callback) _ => [callback]
  | .acknowledging _ callbacks => callbacks
  | _ => []

/-- The thread is about to register a callback of its session. -/
def brings : Pc → Option Nat
  | .stopping (some n) true => some n
  | _ => none

end Pc

/-- A thread moves on and changes nothing. -/
inductive Turn (t : Thread) (sh : Shared) : Pc → Pc → Prop
  | start {parses : Bool} (main : t = .main) :
      Turn t sh .idle (if parses then .beginning else .rejecting)
  | stop : Turn t sh .idle (.stopping none false)
  | frame {n : Nat} (own : t = .control n) (published : sh.published n = true) :
      Turn t sh .idle (.stopping (some n) true)
  | rejected : Turn t sh .rejecting .idle
  | rejects (empty : sh.active = none) (still : sh.teardownInProgress = false) :
      Turn t sh .rejecting .finishing
  | refuses : Turn t sh .beginning .idle
  | throws (empty : sh.active = none) (still : sh.teardownInProgress = false)
      (fails : sh.stopAcknowledgements.reset = none) : Turn t sh .beginning .threw
  | foreground {g : Nat} : Turn t sh (.foreground g) (.establishing g)
  | foregroundFails {g : Nat} : Turn t sh (.foreground g) (.failing g)
  | establishFails {g : Nat} : Turn t sh (.establishing g) (.failing g)
  | stale {g : Nat} (stale : sh.generationGate.isCurrent g = false ∨ sh.teardownInProgress = true) :
      Turn t sh (.committing g) (.discarding g)
  | fails {g : Nat} : Turn t sh (.failing g) (.stopping (some g) false)
  | failed {g : Nat} : Turn t sh (.failing g) .idle
  | untargeted {expected : Option Nat} {sendStopped : Bool} (off : sh.targets expected = false) :
      Turn t sh (.stopping expected sendStopped) (.stopped none none)
  | stopped : Turn t sh (.stopped none none) .idle
  | checked {n : Nat} (current : sh.isCurrent n = true) :
      Turn t sh (.initializingChecked n) (.initializingStart n)
  | ready {n : Nat} : Turn t sh (.awaitingReady n) (.checkingCurrent n)
  | unready {n : Nat} : Turn t sh (.awaitingReady n) (.failing n)
  | current {n : Nat} : Turn t sh (.checkingCurrent n) (.publishing n)
  | done {n : Nat} : Turn t sh (.checkingCurrent n) .idle
  | unpublished {n : Nat} : Turn t sh (.publishing n) .idle
  | resume {n : Nat} (current : sh.isCurrent n = true) :
      Turn t sh (.resumingChecked n) (.resumingStart n)

/-- A thread with `engineStartLock` leaves it. -/
inductive Leaves (n : Nat) : Pc → Pc → Prop
  | unstarted : Leaves n (.initializingChecked n) .idle
  | suspend : Leaves n (.suspendingLocked n) .idle
  | unresumed : Leaves n (.resumingChecked n) .idle
  | unstopped : Leaves n (.resumingStart n) .idle
  | resumed : Leaves n (.resumingReady n) .idle

inductive Enters (n : Nat) : Pc → Pc → Prop
  | start : Enters n (.initializing n) (.initializingChecked n)
  | suspend : Enters n (.suspending n) (.suspendingLocked n)
  | resume : Enters n (.resuming n) (.resumingChecked n)
  | teardown : Enters n (.tearing n) (.closing n)

def Job.isTeardown : Job → Bool
  | .teardown _ => true
  | _ => false

/-- The `stoppedUpTo` a targeted stop leaves. -/
def Shared.counted (sh : Shared) (expected : Option Nat) : Nat :=
  if expected = none ∨ sh.expectedIsCurrent expected then sh.generationGate.sequence
  else sh.stoppedUpTo

/-- The gate after a stop that found no session. -/
def Shared.invalidated (sh : Shared) : Option Nat → GenerationGate
  | some generation => sh.generationGate.invalidate generation
  | none => sh.generationGate

/-- A targeted stop, and the session it takes to close. -/
inductive Stops (t : Thread) (sh : Shared) (expected : Option Nat) : Shared → Option Nat → Prop
  | busy (closing : sh.teardownInProgress = true) :
      Stops t sh expected { sh with stoppedUpTo := sh.counted expected } none
  | empty (empty : sh.active = none) (still : sh.teardownInProgress = false) :
      Stops t sh expected
        { sh with
          stoppedUpTo := sh.counted expected
          generationGate := sh.invalidated expected
          vpnDescriptorOpen := false } none
  | closes {n : Nat} (active : sh.active = some n) (still : sh.teardownInProgress = false) :
      Stops t sh expected
        { sh with
          stoppedUpTo := sh.counted expected
          active := none
          generationGate := sh.generationGate.invalidate n
          teardownInProgress := true
          closingGeneration := n
          duty := .launching t } (some n)

theorem stops_stop {t : Thread} {sh : Shared} {expected : Option Nat} :
    Stops t sh expected (sh.stop t expected).1 (sh.stop t expected).2 := by
  simp only [Shared.stop]
  split
  · rename_i closing
    exact .busy closing
  · rename_i still
    split
    · rename_i active
      cases expected with
      | none => exact .empty active (by simpa using still)
      | some n => exact .empty active (by simpa using still)
    · rename_i active
      exact .closes active (by simpa using still)

inductive Move (t : Thread) (sh : Shared) : Pc → Shared → Pc → Prop
  | turns {pc pc' : Pc} (turn : Turn t sh pc pc') : Move t sh pc sh pc'
  | finishes : Move t sh .finishing { sh with vpnDescriptorOpen := false } .idle
  | begins {acknowledgements : StopAcknowledgements} (empty : sh.active = none)
      (still : sh.teardownInProgress = false)
      (reset : sh.stopAcknowledgements.reset = some acknowledgements) :
      Move t sh .beginning
        { sh with
          stopAcknowledgements := acknowledgements
          generationGate := sh.generationGate.begin }
        (.foreground (sh.generationGate.sequence + 1))
  | establishes {g : Nat} :
      Move t sh (.establishing g) (sh.describe g .established) (.committing g)
  | commits {g : Nat} (current : sh.generationGate.isCurrent g = true)
      (still : sh.teardownInProgress = false) :
      Move t sh (.committing g)
        { sh.describe g .committed with active := some g, vpnDescriptorOpen := true }
        (.launching g)
  | queues {pc : Pc} {job : Job} (plain : job.isTeardown = false)
      (idle : pc = .idle ∨ ∃ g, pc = .launching g) : Move t sh pc (sh.execute job) .idle
  | discards {g : Nat} : Move t sh (.discarding g) (sh.describe g .closed) .idle
  | discardFails {g : Nat} :
      Move t sh (.discarding g) (sh.describe g .failed) (.discardingAgain g)
  | discardsAgain {g : Nat} {descriptor : Descriptor}
      (closes : descriptor = .closed ∨ descriptor = .failed) :
      Move t sh (.discardingAgain g) (sh.describe g descriptor) (.failing g)
  | stops {expected : Option Nat} {sendStopped : Bool} {sh' : Shared} {close : Option Nat}
      (on : sh.targets expected = true)
      (plain : ∀ n, Pc.brings (.stopping expected sendStopped) ≠ some n)
      (stops : Stops t sh expected sh' close) :
      Move t sh (.stopping expected sendStopped) sh' (.stopped none close)
  | registers {n : Nat} {sh' : Shared} {close : Option Nat} (on : sh.targets (some n) = true)
      (stops : Stops t (sh.register t n).1 (some n) sh' close) :
      Move t sh (.stopping (some n) true) sh' (.stopped (sh.register t n).2 close)
  | runs {callback : Callback} {close : Option Nat} :
      Move t sh (.stopped (some callback) close) (sh.run callback) (.stopped none close)
  | launches {n : Nat} :
      Move t sh (.stopped none (some n)) { sh.execute (.teardown n) with duty := .queued } .idle
  | takes {job : Job} {jobs : List Job} (next : sh.jobs = job :: jobs)
      (plain : job.isTeardown = false) : Move t sh .idle { sh with jobs := jobs } job.begins
  | takesTeardown {n : Nat} {jobs : List Job} (next : sh.jobs = .teardown n :: jobs) :
      Move t sh .idle { sh with jobs := jobs, duty := .running t } (.tearing n)
  | enters {n : Nat} {pc pc' : Pc} (enters : Enters n pc pc') (free : sh.engineStartLock n = none) :
      Move t sh pc
        { sh with engineStartLock := Function.update sh.engineStartLock n (some t) } pc'
  | leaves {n : Nat} {pc pc' : Pc} (leaves : Leaves n pc pc') : Move t sh pc (sh.leave n) pc'
  | initializes {n : Nat} {pc' : Pc} (after : pc' = .awaitingReady n ∨ pc' = .failing n) :
      Move t sh (.initializingStart n) ((sh.startEngine n).leave n) pc'
  | resumes {n : Nat} : Move t sh (.resumingStart n) (sh.startEngine n) (.resumingReady n)
  | publishes {n : Nat} (current : sh.isCurrent n = true) :
      Move t sh (.publishing n) { sh with published := Function.update sh.published n true } .idle
  | closes {n : Nat} {ok : Bool} :
      Move t sh (.closing n)
        { sh.describe n (if ok then .closed else .failed) with vpnDescriptorOpen := !ok }
        (.leaving n ok)
  | tornDown {n : Nat} {ok : Bool} :
      Move t sh (.leaving n ok)
        { sh.leave n with tornDown := Function.update sh.tornDown n true } (.draining n ok)
  | drains {n : Nat} :
      Move t sh (.draining n true)
        ({ sh with stopAcknowledgements := sh.stopAcknowledgements.descriptorClosed.1 }.book
          sh.stopAcknowledgements.descriptorClosed.2 (.hand t))
        (.acknowledging n sh.stopAcknowledgements.descriptorClosed.2)
  | drops {n : Nat} {dropped : List Callback}
      (all : dropped = if sh.stopAcknowledgements.descriptorCloseFailed.waiters = [] then
        sh.stopAcknowledgements.waiters else []) :
      Move t sh (.draining n false)
        ({ sh with stopAcknowledgements := sh.stopAcknowledgements.descriptorCloseFailed }.book
          dropped .refused)
        (.acknowledging n [])
  | acknowledges {n : Nat} {callback : Callback} {callbacks : List Callback} :
      Move t sh (.acknowledging n (callback :: callbacks)) (sh.run callback)
        (.acknowledging n callbacks)
  | ends {n : Nat} : Move t sh (.acknowledging n []) sh.endTeardown .idle

theorem move_of_beginStart {t : Thread} {sh sh' : Shared} {pc' : Pc}
    (taken : sh.beginStart = (sh', pc')) : Move t sh .beginning sh' pc' := by
  unfold Shared.beginStart at taken
  split at taken
  · cases taken
    exact .turns .refuses
  · rename_i free
    obtain ⟨empty, still⟩ : sh.active = none ∧ sh.teardownInProgress = false := by
      simpa using free
    split at taken
    · rename_i fails
      cases taken
      exact .turns (.throws empty still fails)
    · rename_i reset
      cases taken
      exact .begins empty still reset

theorem move_of_commit {t : Thread} {g : Nat} {sh sh' : Shared} {pc' : Pc}
    (taken : sh.commit g = (sh', pc')) : Move t sh (.committing g) sh' pc' := by
  unfold Shared.commit at taken
  split at taken
  · rename_i free
    obtain ⟨current, still⟩ : sh.generationGate.isCurrent g = true ∧
        sh.teardownInProgress = false := by
      simpa using free
    cases taken
    exact .commits current still
  · rename_i stale
    cases taken
    refine .turns (.stale ?_)
    cases current : sh.generationGate.isCurrent g with
    | false => exact .inl rfl
    | true => exact .inr (by simpa [current] using stale)

theorem move_of_requestStop {t : Thread} {expected : Option Nat} {sendStopped : Bool}
    {sh sh' : Shared} {pc' : Pc} (taken : sh.requestStop t expected sendStopped = (sh', pc')) :
    Move t sh (.stopping expected sendStopped) sh' pc' := by
  unfold Shared.requestStop at taken
  split at taken
  · rename_i on
    split at taken
    · cases taken
      exact .registers on stops_stop
    · rename_i plain
      cases taken
      refine .stops on (fun n brings => ?_) stops_stop
      cases expected with
      | none => cases brings
      | some m =>
          cases sendStopped with
          | false => cases brings
          | true => exact plain m rfl rfl
  · rename_i off
    cases taken
    exact .turns (.untargeted (by simpa using off))

theorem exists_of_enter {t : Thread} {n : Nat} {pc : Pc} {sh sh' : Shared} {pc' : Pc}
    (taken : (sh.enter t n).map (·, pc) = some (sh', pc')) :
    sh.engineStartLock n = none ∧ pc' = pc ∧
      sh' = { sh with engineStartLock := Function.update sh.engineStartLock n (some t) } := by
  unfold Shared.enter at taken
  split at taken
  · rename_i free
    cases taken
    exact ⟨free, rfl, rfl⟩
  · cases taken

theorem move_of_proceed {t : Thread} {ok : Bool} {sh sh' : Shared} {pc pc' : Pc}
    (taken : proceed t ok sh pc = some (sh', pc')) : Move t sh pc sh' pc' := by
  cases pc with
  | idle => cases taken
  | threw => cases taken
  | rejecting =>
      cases taken
      split
      · rename_i mayFinish
        obtain ⟨empty, still⟩ : sh.active = none ∧ sh.teardownInProgress = false := by
          simpa [canFinishRejectedStart] using mayFinish
        exact .turns (.rejects empty still)
      · exact .turns .rejected
  | finishing =>
      cases taken
      exact .finishes
  | beginning => exact move_of_beginStart (Option.some.inj taken)
  | foreground g =>
      cases taken
      cases ok with
      | true => exact .turns .foreground
      | false => exact .turns .foregroundFails
  | establishing g =>
      cases ok with
      | true =>
          cases taken
          exact .establishes
      | false =>
          cases taken
          exact .turns .establishFails
  | committing g => exact move_of_commit (Option.some.inj taken)
  | launching g =>
      cases taken
      exact .queues rfl (.inr ⟨g, rfl⟩)
  | discarding g =>
      cases ok with
      | true =>
          cases taken
          exact .discards
      | false =>
          cases taken
          exact .discardFails
  | discardingAgain g =>
      cases taken
      refine .discardsAgain ?_
      cases ok with
      | true => exact .inl rfl
      | false => exact .inr rfl
  | failing g =>
      cases taken
      split
      · exact .turns .fails
      · exact .turns .failed
  | stopping expected sendStopped => exact move_of_requestStop (Option.some.inj taken)
  | stopped runAcknowledgement resourcesToClose =>
      cases runAcknowledgement with
      | some callback =>
          cases taken
          exact .runs
      | none =>
          cases resourcesToClose with
          | some n =>
              cases taken
              exact .launches
          | none =>
              cases taken
              exact .turns .stopped
  | initializing n =>
      obtain ⟨free, rfl, rfl⟩ := exists_of_enter taken
      exact .enters .start free
  | initializingChecked n =>
      simp only [proceed, Option.some.injEq] at taken
      split at taken
      · rename_i current
        cases taken
        exact .turns (.checked current)
      · cases taken
        exact .leaves .unstarted
  | initializingStart n =>
      cases taken
      refine .initializes ?_
      cases ok with
      | true => exact .inl rfl
      | false => exact .inr rfl
  | awaitingReady n =>
      cases taken
      cases ok with
      | true => exact .turns .ready
      | false => exact .turns .unready
  | checkingCurrent n =>
      cases taken
      split
      · exact .turns .current
      · exact .turns .done
  | publishing n =>
      simp only [proceed, Option.some.injEq] at taken
      split at taken
      · rename_i current
        cases taken
        exact .publishes current
      · cases taken
        exact .turns .unpublished
  | suspending n =>
      obtain ⟨free, rfl, rfl⟩ := exists_of_enter taken
      exact .enters .suspend free
  | suspendingLocked n =>
      cases taken
      exact .leaves .suspend
  | resuming n =>
      obtain ⟨free, rfl, rfl⟩ := exists_of_enter taken
      exact .enters .resume free
  | resumingChecked n =>
      simp only [proceed, Option.some.injEq] at taken
      split at taken
      · rename_i awake
        cases taken
        exact .turns (.resume (by simp_all))
      · cases taken
        exact .leaves .unresumed
  | resumingStart n =>
      cases ok with
      | true =>
          cases taken
          exact .resumes
      | false =>
          cases taken
          exact .leaves .unstopped
  | resumingReady n =>
      cases taken
      exact .leaves .resumed
  | tearing n =>
      obtain ⟨free, rfl, rfl⟩ := exists_of_enter taken
      exact .enters .teardown free
  | closing n =>
      cases taken
      exact .closes
  | leaving n closed =>
      cases taken
      exact .tornDown
  | draining n closed =>
      cases closed with
      | true =>
          cases taken
          exact .drains
      | false =>
          cases taken
          exact .drops rfl
  | acknowledging n callbacks =>
      cases callbacks with
      | nil =>
          cases taken
          exact .ends
      | cons callback callbacks =>
          cases taken
          exact .acknowledges

theorem move_of_step {t : Thread} {a : Action} {sh sh' : Shared} {pc pc' : Pc}
    (taken : step t a sh pc = some (sh', pc')) : Move t sh pc sh' pc' := by
  unfold step at taken
  split at taken
  · cases taken
    exact .turns (.start rfl)
  · cases taken
    exact .turns .stop
  · cases taken
    exact .turns .stop
  · split at taken
    · rename_i published
      cases taken
      exact .turns (.frame rfl published)
    · cases taken
  · split at taken
    · cases taken
    · rename_i job jobs next
      cases job with
      | teardown n =>
          cases taken
          exact .takesTeardown next
      | _ =>
          cases taken
          exact .takes next rfl
  · rename_i wakes _ _
    cases taken
    refine .queues ?_ (.inl rfl)
    split <;> rfl
  · exact move_of_proceed taken
  · cases taken

end QuestVdWired.Android.Lifecycle
