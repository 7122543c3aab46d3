import QuestVdWired.Transition.System

/-!
Sleep and wake of one active session of `VdLinkVpnService`: `setScreenSuspended` on the main
thread, `onControlReady` and `onControlTransportLost` on the control thread, and the three tasks
of the native engine on two workers. Every access to a flag is a step of its own;
`lifecycleLock` and `engineStartLock` are held over several. Native calls succeed, except that
`awaitReady` fails for an engine that was stopped before it was ready.
-/

namespace QuestVdWired.Android.Sleep
open Transition

inductive Thread
  | main
  | control
  | worker (second : Bool)
  deriving DecidableEq, Repr

inductive Job
  | initializeNativeEngine
  | suspendNativeEngine
  | resumeNativeEngine
  | teardown
  deriving DecidableEq, Repr

/-- The engine of a token; `aborted` was stopped before it was ready. -/
inductive Engine
  | absent | starting | ready | stopped | aborted
  deriving DecidableEq, Repr

/-- The session's flags, its tunnel's `token`, the engines of all tokens, its descriptor, and what
waits to be run. `failed` is a session that `failGeneration` has ended. -/
structure Shared where
  screenSuspended : Bool
  control : Bool
  paused : Bool
  engineSuspended : Bool
  engineResumeQueued : Bool
  transportEngineReset : Bool
  lifecycleLock : Option Thread
  engineStartLock : Option Thread
  token : Nat
  generation : Nat
  engine : Nat → Engine
  vpnInterfaceOpen : Bool
  jobs : List Job
  posted : Nat
  failed : Bool

/-- Where a call of `queueNativeEngineResume` or `onControlReady` came from. -/
inductive Caller
  | screen | posted | transportLost | connected | restarted
  deriving DecidableEq, Repr

inductive Pc
  | idle
  /-- `setScreenSuspended(true)`: the engine, the supervisor, the task -/
  | sleeping
  | pausing
  | suspendJob
  /-- `setScreenSuspended(false)`: which of the two, and the supervisor -/
  | waking
  | unpausing
  /-- `queueNativeEngineResume`: the flag, the task -/
  | queueing (caller : Caller)
  | pushing (caller : Caller)
  /-- `onControlReady`: its checks, and the reset it asks for -/
  | connected (caller : Caller)
  | connectedAwake (caller : Caller)
  | connectedReady (caller : Caller)
  | connectedReset (caller : Caller)
  | connectedSuspends (caller : Caller)
  /-- `onControlTransportLost`, once the reset is required -/
  | losing
  /-- `initializeNativeEngine` -/
  | starting
  | startingChecked
  | startingTunnel
  | awaiting
  | awaitingReady (token : Nat)
  | checking
  | publishing
  | published
  | suspends
  | suspendsJob
  /-- `suspendNativeEngine` -/
  | suspending
  | suspendingChecked
  | suspendingRead
  | stopping
  | stopped
  /-- the queued resume: its checks, the restart, the flags -/
  | resuming
  | resumingChecked
  | resumingAwake
  | resumingRead
  | restartStop
  | restartStopped
  | restartStart
  | restartReady
  | restarted
  | completing
  | resumed (completedTransportReset : Bool)
  /-- its `finally` -/
  | finalizing
  | finalRead
  | finalChecked
  | finalAwake
  | finalPost
  /-- `teardown` -/
  | tearing
  | closing
  deriving DecidableEq, Repr

namespace Shared
variable (sh : Shared)

def execute (job : Job) : Shared := { sh with jobs := sh.jobs ++ [job] }

def unlock : Shared := { sh with lifecycleLock := none }

def leave : Shared := { sh with engineStartLock := none }

/-- A look under `lifecycleLock`. -/
def look {α : Type} (result : α) : Option α :=
  if sh.lifecycleLock = none then some result else none

def isCurrent : Bool := !sh.failed

/-- `supervisor.suspend()` and `supervisor.resume()`, where there is one. -/
def pause (paused : Bool) : Shared := if sh.control then { sh with paused := paused } else sh

def setEngine (token : Nat) (engine : Engine) : Shared :=
  { sh with engine := Function.update sh.engine token engine }

def start : Shared :=
  { sh.setEngine (sh.generation + 1) .starting with
    token := sh.generation + 1, generation := sh.generation + 1 }

def requestStop : Shared :=
  if sh.token = 0 then sh
  else
    match sh.engine sh.token with
    | .starting => sh.setEngine sh.token .aborted
    | .ready => sh.setEngine sh.token .stopped
    | _ => sh

/-- The stop it requests leaves the session to its teardown. -/
def failGeneration : Shared := { sh.execute .teardown with failed := true }

end Shared

/-- What follows a call. -/
def Caller.done (sh : Shared) : Caller → Shared × Pc
  | .screen => (sh.unlock, .idle)
  | .posted | .transportLost | .connected => (sh, .idle)
  | .restarted => (sh, .finalizing)

def Job.begins : Job → Pc
  | .initializeNativeEngine => .starting
  | .suspendNativeEngine => .suspending
  | .resumeNativeEngine => .resuming
  | .teardown => .tearing

def enter (thread : Thread) (sh : Shared) (pc : Pc) : Option (Shared × Pc) :=
  if sh.engineStartLock = none then some ({ sh with engineStartLock := some thread }, pc) else none

/-- The next step of a thread; `ok` is what `isRecoveryReady` says. -/
def proceed (thread : Thread) (ok : Bool) (sh : Shared) : Pc → Option (Shared × Pc)
  | .idle => none
  | .sleeping => some ({ sh with engineSuspended := true }, .pausing)
  | .pausing => some ((sh.pause true).unlock, .suspendJob)
  | .suspendJob => some (sh.execute .suspendNativeEngine, .idle)
  | .waking => some (sh, if sh.engineSuspended then .queueing .screen else .unpausing)
  | .unpausing => some ((sh.pause false).unlock, .idle)
  | .queueing caller =>
      some (if sh.engineResumeQueued then caller.done sh
        else ({ sh with engineResumeQueued := true }, .pushing caller))
  | .pushing caller => some (caller.done (sh.execute .resumeNativeEngine))
  | .connected caller =>
      sh.look (if sh.isCurrent && sh.control then (sh, .connectedAwake caller) else caller.done sh)
  | .connectedAwake caller =>
      some (if sh.screenSuspended then caller.done sh else (sh, .connectedReady caller))
  | .connectedReady caller => some (if ok then (sh, .connectedReset caller) else caller.done sh)
  | .connectedReset caller =>
      some (if sh.transportEngineReset then (sh, .connectedSuspends caller) else caller.done sh)
  | .connectedSuspends caller => some ({ sh with engineSuspended := true }, .queueing caller)
  | .losing =>
      some ({ sh with engineSuspended := true }.unlock,
        if sh.screenSuspended then .idle else .queueing .transportLost)
  | .starting => enter thread sh .startingChecked
  | .startingChecked =>
      sh.look (if sh.isCurrent then (sh, .startingTunnel) else (sh.leave, .idle))
  | .startingTunnel =>
      some (if sh.token ≠ 0 then (sh.leave.failGeneration, .idle) else (sh.start.leave, .awaiting))
  | .awaiting =>
      some (if sh.token = 0 then (sh.failGeneration, .idle) else (sh, .awaitingReady sh.token))
  | .awaitingReady token =>
      match sh.engine token with
      | .ready | .stopped => some (sh, .checking)
      | .aborted => some (sh.failGeneration, .idle)
      | .absent | .starting => none
  | .checking => sh.look (sh, if sh.isCurrent then .publishing else .idle)
  | .publishing =>
      -- `supervisor.start(screenSuspended.get())`
      sh.look (if sh.isCurrent then
          ({ sh with control := true, paused := sh.screenSuspended }, .published)
        else (sh, .idle))
  | .published => some (sh, if sh.screenSuspended then .suspends else .idle)
  | .suspends => some ({ sh with engineSuspended := true }, .suspendsJob)
  | .suspendsJob => some (sh.execute .suspendNativeEngine, .idle)
  | .suspending => enter thread sh .suspendingChecked
  | .suspendingChecked =>
      sh.look (if sh.isCurrent then (sh, .suspendingRead) else (sh.leave, .idle))
  | .suspendingRead => some (if sh.engineSuspended then (sh, .stopping) else (sh.leave, .idle))
  | .stopping => some (sh.requestStop, .stopped)
  | .stopped => some ({ sh with token := 0 }.leave, .idle)
  | .resuming => enter thread sh .resumingChecked
  | .resumingChecked =>
      sh.look (if sh.isCurrent then (sh, .resumingAwake) else (sh.leave, .finalizing))
  | .resumingAwake =>
      some (if sh.screenSuspended then (sh.leave, .finalizing) else (sh, .resumingRead))
  | .resumingRead =>
      some (if sh.engineSuspended then (sh, .restartStop) else (sh.leave, .finalizing))
  | .restartStop => some (sh.requestStop, .restartStopped)
  | .restartStopped => some ({ sh with token := 0 }, .restartStart)
  | .restartStart => some (sh.start, .restartReady)
  | .restartReady => if sh.engine sh.token = .ready then some (sh.leave, .restarted) else none
  | .restarted =>
      sh.look (if sh.isCurrent && !sh.screenSuspended then
          ({ sh with engineSuspended := false, lifecycleLock := some thread }, .completing)
        else (sh, .finalizing))
  | .completing =>
      some ({ sh with transportEngineReset := false }, .resumed sh.transportEngineReset)
  | .resumed completedTransportReset =>
      some ((sh.pause false).unlock,
        if completedTransportReset && sh.control then .connected .restarted else .finalizing)
  | .finalizing => some ({ sh with engineResumeQueued := false }, .finalRead)
  | .finalRead => some (sh, if sh.engineSuspended then .finalChecked else .idle)
  | .finalChecked => sh.look (sh, if sh.isCurrent then .finalAwake else .idle)
  | .finalAwake => some (sh, if sh.screenSuspended then .idle else .finalPost)
  | .finalPost => some ({ sh with posted := sh.posted + 1 }, .idle)
  | .tearing => enter thread sh .closing
  | .closing => some ({ sh with token := 0, vpnInterfaceOpen := false }.leave, .idle)

inductive Action
  /-- the display or a broadcast tells the main thread -/
  | screen (suspended : Bool)
  /-- the main thread runs a posted resume -/
  | runPosted
  /-- the supervisor's thread calls its listener -/
  | controlConnected
  | controlTransportLost
  /-- a worker takes the next task -/
  | take
  /-- an engine becomes ready, wherever the main thread stands -/
  | engineReady (token : Nat)
  | go (ok : Bool)
  deriving DecidableEq, Repr

def step (thread : Thread) (action : Action) (sh : Shared) (pc : Pc) : Option (Shared × Pc) :=
  match action, pc, thread with
  | .screen suspended, .idle, .main =>
      sh.look (if sh.screenSuspended = suspended then (sh, .idle)
        else
          let sh := { sh with screenSuspended := suspended }
          -- without a session there is nothing else to do
          if sh.isCurrent then
            ({ sh with lifecycleLock := some thread }, if suspended then .sleeping else .waking)
          else (sh, .idle))
  | .runPosted, .idle, .main =>
      if 0 < sh.posted then some ({ sh with posted := sh.posted - 1 }, .queueing .posted) else none
  | .controlConnected, .idle, .control =>
      if sh.control then some (sh, .connected .connected) else none
  | .controlTransportLost, .idle, .control =>
      if sh.control then
        sh.look (if sh.isCurrent && !sh.transportEngineReset then
            ({ sh with transportEngineReset := true, lifecycleLock := some thread }, .losing)
          else (sh, .idle))
      else none
  | .take, .idle, .worker _ =>
      match sh.jobs with
      | [] => none
      | job :: jobs => some ({ sh with jobs := jobs }, job.begins)
  | .engineReady token, pc, .main =>
      if sh.engine token = .starting then some (sh.setEngine token .ready, pc) else none
  | .go ok, pc, thread => proceed thread ok sh pc
  | _, _, _ => none

/-- A session that was just committed, with the headset asleep or awake. -/
def Shared.committed (screenSuspended : Bool) : Shared where
  screenSuspended := screenSuspended
  control := false
  paused := false
  engineSuspended := false
  engineResumeQueued := false
  transportEngineReset := false
  lifecycleLock := none
  engineStartLock := none
  token := 0
  generation := 0
  engine _ := .absent
  vpnInterfaceOpen := true
  jobs := [.initializeNativeEngine]
  posted := 0
  failed := false

def session (screenSuspended : Bool) : Tasks Thread Shared Pc Action where
  shared := .committed screenSuspended
  task _ := .idle
  step := step

end QuestVdWired.Android.Sleep
