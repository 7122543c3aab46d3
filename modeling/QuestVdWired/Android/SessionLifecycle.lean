import QuestVdWired.Transition.System

/-!
Starts, stops and teardowns of `VdLinkVpnService`, over any number of sessions: `startVpn` on
the main thread, `requestStop` from any thread, and the jobs of the two lifecycle workers. A
block under `lifecycleLock` is one step; `engineStartLock` is held over several. A session is
named by its generation. Whether the headset sleeps, and what Android, the native engine and
the descriptor answer, are choices of the run.
-/

namespace QuestVdWired.Android.Lifecycle
open Transition

inductive Thread
  | main
  | worker (second : Bool)
  | control (session : Nat)
  | binder (call : Nat)
  deriving DecidableEq, Repr

/-- `GenerationGate`; 0 is no generation. -/
structure GenerationGate where
  sequence : Nat
  current : Nat
  deriving DecidableEq, Repr

namespace GenerationGate

/-- A `Long`, which goes on at 1. -/
def next (value : Nat) : Nat := if value = 2 ^ 63 - 1 then 1 else value + 1

/-- Of a sequence that has not come to `Long.MAX_VALUE`, see `begin_eq`. -/
def begin (g : GenerationGate) : GenerationGate := ⟨g.sequence + 1, g.sequence + 1⟩

def isCurrent (g : GenerationGate) (generation : Nat) : Bool :=
  generation ≠ 0 && g.current = generation

def invalidate (g : GenerationGate) (generation : Nat) : GenerationGate :=
  if g.isCurrent generation then { g with current := 0 } else g

end GenerationGate

/-- The `sendStopped` of a STOP frame that a session received. -/
structure Callback where
  session : Nat
  id : Nat
  deriving DecidableEq, Repr

inductive DescriptorState
  | opened | closed | failed
  deriving DecidableEq, Repr

inductive Registration
  | queued | runNow | rejected
  deriving DecidableEq, Repr

structure StopAcknowledgements where
  descriptorState : DescriptorState
  waiters : List Callback
  deriving DecidableEq, Repr

namespace StopAcknowledgements

/-- `none` where the check throws. -/
def reset (a : StopAcknowledgements) : Option StopAcknowledgements :=
  if a.waiters = [] then some { a with descriptorState := .opened } else none

def register (a : StopAcknowledgements) (waiter : Callback) : StopAcknowledgements × Registration :=
  match a.descriptorState with
  | .opened => ({ a with waiters := a.waiters ++ [waiter] }, .queued)
  | .closed => (a, .runNow)
  | .failed => (a, .rejected)

def descriptorClosed (a : StopAcknowledgements) : StopAcknowledgements × List Callback :=
  if a.descriptorState ≠ .opened then (a, []) else (⟨.closed, []⟩, a.waiters)

def descriptorCloseFailed (a : StopAcknowledgements) : StopAcknowledgements :=
  if a.descriptorState = .opened then ⟨.failed, []⟩ else a

end StopAcknowledgements

inductive Job
  | initializeNativeEngine (session : Nat)
  | suspendNativeEngine (session : Nat)
  | resumeNativeEngine (session : Nat)
  | teardown (session : Nat)
  deriving DecidableEq, Repr

/-- The VPN descriptor of a session: `failed` is open with a `close` that threw. -/
inductive Descriptor
  | absent | established | committed | closed | failed
  deriving DecidableEq, Repr

/-- Who has the teardown to do. -/
inductive Duty
  | nobody
  | launching (thread : Thread)
  | queued
  | running (thread : Thread)
  deriving DecidableEq, Repr

inductive Place
  | waiting
  | hand (thread : Thread)
  | ran
  | refused
  deriving DecidableEq, Repr

/-- A call of `NativeTunnel.start`, with what held of its session then. -/
structure EngineStart where
  session : Nat
  descriptor : Descriptor
  tornDown : Bool
  deriving DecidableEq, Repr

/-- The descriptors belong to Android. From `duty` on the fields are ghosts: who has the
teardown to do, where each registered callback is, the callbacks run so far, the starts of the
native engine, which sessions' teardowns have left `engineStartLock`, and the last generation
begun when a stop last targeted everything or the current generation. -/
structure Shared where
  generationGate : GenerationGate
  active : Option Nat
  teardownInProgress : Bool
  closingGeneration : Nat
  stopAcknowledgements : StopAcknowledgements
  vpnDescriptorOpen : Bool
  published : Nat → Bool
  engineStartLock : Nat → Option Thread
  jobs : List Job
  descriptor : Nat → Descriptor
  duty : Duty
  callbacks : Nat
  ledger : Callback → Option Place
  ran : List Callback
  starts : List EngineStart
  tornDown : Nat → Bool
  stoppedUpTo : Nat

/-- Where a thread stands. -/
inductive Pc
  | idle
  /-- `rejectStart`, before its check -/
  | rejecting
  /-- `finishWithoutResources` -/
  | finishing
  /-- `startVpn`: before its first block, and what follows for its generation -/
  | beginning
  | foreground (generation : Nat)
  | establishing (generation : Nat)
  | committing (generation : Nat)
  | launching (generation : Nat)
  | discarding (generation : Nat)
  | discardingAgain (generation : Nat)
  /-- `failGeneration`, before its check -/
  | failing (generation : Nat)
  /-- `requestStop`, before its block -/
  | stopping (expectedGeneration : Option Nat) (sendStopped : Bool)
  /-- `requestStop`, after its block -/
  | stopped (runAcknowledgement : Option Callback) (resourcesToClose : Option Nat)
  /-- `initializeNativeEngine` -/
  | initializing (session : Nat)
  | initializingChecked (session : Nat)
  | initializingStart (session : Nat)
  | awaitingReady (session : Nat)
  | checkingCurrent (session : Nat)
  | publishing (session : Nat)
  /-- `suspendNativeEngine` -/
  | suspending (session : Nat)
  | suspendingLocked (session : Nat)
  /-- the queued resume -/
  | resuming (session : Nat)
  | resumingChecked (session : Nat)
  | resumingStart (session : Nat)
  | resumingReady (session : Nat)
  /-- `teardown` -/
  | tearing (session : Nat)
  | closing (session : Nat)
  | leaving (session : Nat) (descriptorClosed : Bool)
  | draining (session : Nat) (descriptorClosed : Bool)
  | acknowledging (session : Nat) (callbacks : List Callback)
  /-- the check of `reset` threw -/
  | threw
  deriving DecidableEq, Repr

def stopTargetsGeneration (expectedGeneration activeGeneration : Option Nat)
    (teardownInProgress : Bool) (closingGeneration : Nat) (expectedIsCurrent : Bool) : Bool :=
  expectedGeneration = none || expectedIsCurrent || activeGeneration = expectedGeneration ||
    (teardownInProgress && some closingGeneration = expectedGeneration)

def canFinishRejectedStart (hasActiveResources teardownInProgress : Bool) : Bool :=
  !hasActiveResources && !teardownInProgress

namespace Shared
variable (sh : Shared)

def expectedIsCurrent (expected : Option Nat) : Bool :=
  match expected with
  | some generation => sh.generationGate.isCurrent generation
  | none => false

def targets (expected : Option Nat) : Bool :=
  stopTargetsGeneration expected sh.active sh.teardownInProgress sh.closingGeneration
    (sh.expectedIsCurrent expected)

def isCurrent (session : Nat) : Bool :=
  sh.generationGate.isCurrent session && sh.active = some session

def execute (job : Job) : Shared := { sh with jobs := sh.jobs ++ [job] }

def describe (session : Nat) (descriptor : Descriptor) : Shared :=
  { sh with descriptor := Function.update sh.descriptor session descriptor }

def book (callbacks : List Callback) (place : Place) : Shared :=
  { sh with
    ledger := fun callback => if callback ∈ callbacks then some place else sh.ledger callback }

/-- `stopAcknowledgements.register`, and what is to be run now. -/
def register (thread : Thread) (session : Nat) : Shared × Option Callback :=
  let callback : Callback := ⟨session, sh.callbacks⟩
  let sh := { sh with callbacks := sh.callbacks + 1 }
  match sh.stopAcknowledgements.register callback with
  | (acknowledgements, .queued) =>
      ({ sh with stopAcknowledgements := acknowledgements }.book [callback] .waiting, none)
  | (acknowledgements, .runNow) =>
      ({ sh with stopAcknowledgements := acknowledgements }.book [callback] (.hand thread),
        some callback)
  | (acknowledgements, .rejected) =>
      ({ sh with stopAcknowledgements := acknowledgements }.book [callback] .refused, none)

/-- A targeted stop, once its callback is registered. -/
def stop (thread : Thread) (expected : Option Nat) : Shared × Option Nat :=
  let sh := { sh with
    stoppedUpTo := if expected = none ∨ sh.expectedIsCurrent expected then
      sh.generationGate.sequence else sh.stoppedUpTo }
  if sh.teardownInProgress then (sh, none)
  else
    match sh.active with
    | none =>
        ({ sh with
          generationGate := match expected with
            | some generation => sh.generationGate.invalidate generation
            | none => sh.generationGate
          vpnDescriptorOpen := false }, none)
    | some session =>
        ({ sh with
          active := none
          generationGate := sh.generationGate.invalidate session
          teardownInProgress := true
          closingGeneration := session
          duty := .launching thread }, some session)

/-- The block of `requestStop`. Only a control thread brings a callback, for its session. -/
def requestStop (thread : Thread) (expected : Option Nat) (sendStopped : Bool) : Shared × Pc :=
  if sh.targets expected then
    match expected, sendStopped with
    | some session, true =>
        let (sh, runAcknowledgement) := sh.register thread session
        let (sh, resourcesToClose) := sh.stop thread expected
        (sh, .stopped runAcknowledgement resourcesToClose)
    | _, _ =>
        let (sh, resourcesToClose) := sh.stop thread expected
        (sh, .stopped none resourcesToClose)
  else (sh, .stopped none none)

/-- `invokeAcknowledgement`; what the callback throws is caught. -/
def run (callback : Callback) : Shared :=
  { sh.book [callback] .ran with ran := sh.ran ++ [callback] }

/-- The first block of `startVpn`. -/
def beginStart : Shared × Pc :=
  if sh.active.isSome || sh.teardownInProgress then (sh, .idle)
  else
    match sh.stopAcknowledgements.reset with
    | none => (sh, .threw)
    | some acknowledgements =>
        ({ sh with
          stopAcknowledgements := acknowledgements
          generationGate := sh.generationGate.begin }, .foreground sh.generationGate.begin.current)

/-- The block that accepts the established descriptor. -/
def commit (generation : Nat) : Shared × Pc :=
  if sh.generationGate.isCurrent generation && !sh.teardownInProgress then
    ({ sh.describe generation .committed with
      active := some generation, vpnDescriptorOpen := true }, .launching generation)
  else (sh, .discarding generation)

def enter (thread : Thread) (session : Nat) : Option Shared :=
  match sh.engineStartLock session with
  | none =>
      some { sh with
        engineStartLock := Function.update sh.engineStartLock session (some thread) }
  | some _ => none

def leave (session : Nat) : Shared :=
  { sh with engineStartLock := Function.update sh.engineStartLock session none }

def startEngine (session : Nat) : Shared :=
  { sh with
    starts := sh.starts ++ [⟨session, sh.descriptor session, sh.tornDown session⟩] }

/-- The drained callbacks are in the hand of the thread that runs them; a failed close drops
them. -/
def drain (thread : Thread) (session : Nat) (descriptorClosed : Bool) : Shared × Pc :=
  if descriptorClosed then
    let (acknowledgements, callbacks) := sh.stopAcknowledgements.descriptorClosed
    ({ sh with stopAcknowledgements := acknowledgements }.book callbacks (.hand thread),
      .acknowledging session callbacks)
  else
    let acknowledgements := sh.stopAcknowledgements.descriptorCloseFailed
    let dropped := if acknowledgements.waiters = [] then sh.stopAcknowledgements.waiters else []
    ({ sh with stopAcknowledgements := acknowledgements }.book dropped .refused,
      .acknowledging session [])

/-- The last block of `teardown`. -/
def endTeardown : Shared :=
  { sh with teardownInProgress := false, closingGeneration := 0, duty := .nobody }

end Shared

def Job.begins : Job → Pc
  | .initializeNativeEngine session => .initializing session
  | .suspendNativeEngine session => .suspending session
  | .resumeNativeEngine session => .resuming session
  | .teardown session => .tearing session

inductive Action
  /-- ACTION_START, with parameters that parse or not -/
  | startCommand (parses : Bool)
  /-- ACTION_STOP, `onDestroy` and, on a binder thread, `onRevoke` -/
  | stopCommand
  /-- a STOP frame on a control thread -/
  | stopFrame
  /-- a worker takes the next job -/
  | take
  /-- the screen or the control lane queue a job of the sleeping engine -/
  | schedule (session : Nat) (wakes : Bool)
  /-- the next step, where something may succeed or not -/
  | go (succeeds : Bool)
  deriving DecidableEq, Repr

/-- The next step of a thread. -/
def proceed (thread : Thread) (ok : Bool) (sh : Shared) : Pc → Option (Shared × Pc)
  | .idle | .threw => none
  | .rejecting =>
      some (sh, if canFinishRejectedStart sh.active.isSome sh.teardownInProgress then .finishing
        else .idle)
  | .finishing => some ({ sh with vpnDescriptorOpen := false }, .idle)
  | .beginning => some sh.beginStart
  | .foreground g => some (sh, if ok then .establishing g else .failing g)
  | .establishing g =>
      some (if ok then (sh.describe g .established, .committing g) else (sh, .failing g))
  | .committing g => some (sh.commit g)
  | .launching g => some (sh.execute (.initializeNativeEngine g), .idle)
  | .discarding g =>
      some (if ok then (sh.describe g .closed, .idle)
        else (sh.describe g .failed, .discardingAgain g))
  | .discardingAgain g => some (sh.describe g (if ok then .closed else .failed), .failing g)
  | .failing g =>
      some (sh, if sh.generationGate.isCurrent g then .stopping (some g) false else .idle)
  | .stopping expected sendStopped => some (sh.requestStop thread expected sendStopped)
  | .stopped (some callback) close => some (sh.run callback, .stopped none close)
  | .stopped none (some n) => some ({ sh.execute (.teardown n) with duty := .queued }, .idle)
  | .stopped none none => some (sh, .idle)
  | .initializing n => (sh.enter thread n).map (·, .initializingChecked n)
  | .initializingChecked n =>
      some (if sh.isCurrent n then (sh, .initializingStart n) else (sh.leave n, .idle))
  | .initializingStart n =>
      some ((sh.startEngine n).leave n, if ok then .awaitingReady n else .failing n)
  | .awaitingReady n => some (sh, if ok then .checkingCurrent n else .failing n)
  | .checkingCurrent n => some (sh, if sh.isCurrent n then .publishing n else .idle)
  | .publishing n =>
      some (if sh.isCurrent n then
          ({ sh with published := Function.update sh.published n true }, .idle)
        else (sh, .idle))
  | .suspending n => (sh.enter thread n).map (·, .suspendingLocked n)
  | .suspendingLocked n => some (sh.leave n, .idle)
  | .resuming n => (sh.enter thread n).map (·, .resumingChecked n)
  | .resumingChecked n =>
      -- awake, and the engine suspended?
      some (if sh.isCurrent n && ok then (sh, .resumingStart n) else (sh.leave n, .idle))
  | .resumingStart n =>
      -- the engine may not stop, and is then not started
      some (if ok then (sh.startEngine n, .resumingReady n) else (sh.leave n, .idle))
  | .resumingReady n => some (sh.leave n, .idle)
  | .tearing n => (sh.enter thread n).map (·, .closing n)
  | .closing n =>
      some ({ sh.describe n (if ok then .closed else .failed) with vpnDescriptorOpen := !ok },
        .leaving n ok)
  | .leaving n closed =>
      some ({ sh.leave n with tornDown := Function.update sh.tornDown n true }, .draining n closed)
  | .draining n closed => some (sh.drain thread n closed)
  | .acknowledging n (callback :: callbacks) =>
      some (sh.run callback, .acknowledging n callbacks)
  | .acknowledging _ [] => some (sh.endTeardown, .idle)

def step (thread : Thread) (action : Action) (sh : Shared) (pc : Pc) : Option (Shared × Pc) :=
  match action, pc, thread with
  | .startCommand parses, .idle, .main => some (sh, if parses then .beginning else .rejecting)
  | .stopCommand, .idle, .main => some (sh, .stopping none false)
  | .stopCommand, .idle, .binder _ => some (sh, .stopping none false)
  | .stopFrame, .idle, .control n =>
      if sh.published n then some (sh, .stopping (some n) true) else none
  | .take, .idle, .worker second =>
      match sh.jobs with
      | [] => none
      | job :: jobs =>
          let sh := { sh with jobs := jobs }
          some (match job with
            | .teardown _ => ({ sh with duty := .running (.worker second) }, job.begins)
            | _ => (sh, job.begins))
  | .schedule n wakes, .idle, _ =>
      some (sh.execute (if wakes then .resumeNativeEngine n else .suspendNativeEngine n), .idle)
  | .go ok, pc, thread => proceed thread ok sh pc
  | _, _, _ => none

/-- A service that was just created. -/
def Shared.created : Shared where
  generationGate := ⟨0, 0⟩
  active := none
  teardownInProgress := false
  closingGeneration := 0
  stopAcknowledgements := ⟨.opened, []⟩
  vpnDescriptorOpen := false
  published _ := false
  engineStartLock _ := none
  jobs := []
  descriptor _ := .absent
  duty := .nobody
  callbacks := 0
  ledger _ := none
  ran := []
  starts := []
  tornDown _ := false
  stoppedUpTo := 0

def lifecycle : Tasks Thread Shared Pc Action where
  shared := .created
  task _ := .idle
  step := step

end QuestVdWired.Android.Lifecycle
