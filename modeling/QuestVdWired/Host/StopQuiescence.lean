import QuestVdWired.Host.AdbTransactions
import QuestVdWired.Host.RecoveryFreshness

/-!
A stop quiesces the monitor. Over the runtime stand the operation mutex, the blocking tasks the
monitor waits for, cut at their commands, and the stops. A task is due from the step that decides
on it, so that a stop may come between the look at the flag and the task; it runs its commands one
after the other and is done before the monitor goes on. A stop takes the mutex only to give it
back, so that its drain is one step.
-/

namespace QuestVdWired.Host
open Transition Oracle Asking

/-- A command that only looks. -/
def AdbQuery.reads : AdbQuery → Bool
  | .execute ("-d" :: "get-state" :: _) _ => true
  | .execute ("-d" :: "reverse" :: "--list" :: _) _ => true
  | .execute ("-d" :: "shell" :: "dumpsys" :: _) _ => true
  | .polls => true
  | _ => false

namespace MonitorPc

/-- The monitor waits for a blocking task. -/
def isTask : MonitorPc → Bool
  | confirming _ _ | rebuilding _ _ _ _ | probing _ _ _ | repairing _ _ _ | verifying _ _
  | sleepProbing _ _ _ | headsetProbing | restartStatus | restartStep _ | restartStart => true
  | _ => false

/-- The task only looks. -/
def looks : MonitorPc → Bool
  | confirming _ _ | probing _ _ _ | verifying _ _ | sleepProbing _ _ _ | headsetProbing
  | restartStatus | restartStep .verifyClosed => true
  | _ => false

/-- The monitor holds the operation mutex. -/
def locked : MonitorPc → Bool
  | rebuilding _ _ _ _ | resetting _ _ _ _ _ | probing _ _ _ | repairing _ _ _ | verifying _ _
  | sleepProbing _ _ _ | restartStatus | restartStep _ | restartReset _ | restartStart => true
  | _ => false

/-- The `transport_lost` of `record_loss`, which is made with the mutex and without. -/
def loses : MonitorPc → Bool
  | losing _ _ _ => true
  | _ => false

/-- What the blocking tasks there run. -/
def tasks (c : AdbController) (sessionId : SessionId) (allTraffic : Bool) :
    MonitorPc → List (Adb Unit)
  | confirming _ _ => [do let _ ← c.deviceState]
  | rebuilding _ _ _ _ | restartStep .mappings => [do let _ ← c.reinstallMappings]
  | probing _ _ _ | verifying _ _ => [do let _ ← c.mappingHealth]
  | repairing _ _ _ => REVERSE_MAPPINGS.map fun mapping => do let _ ← c.addMapping mapping
  | sleepProbing _ _ _ | restartStatus => [do let _ ← c.androidStatusQuick]
  | headsetProbing => [do let _ ← c.headsetAwakeQuick]
  | restartStep .forceStop => [do let _ ← c.forceStopAndroid]
  | restartStep .verifyClosed => [do let _ ← c.verifyVpnClosed]
  | restartStart => [do let _ ← c.sendStartIntent sessionId allTraffic]
  | _ => []

/-- The commands a task there may start. -/
def asks (pc : MonitorPc) (q : AdbQuery) : Bool := pc.isTask && (!pc.looks || q.reads)

end MonitorPc

inductive TaskPhase
  | due
  | running (task : Nat) (inFlight : Option AdbQuery)
  | done
  deriving DecidableEq

inductive StopPhase
  | idle | begun | drained
  deriving DecidableEq

/-- A command that was executed, with the stop flag and whether a stop was drained when it was
started. -/
structure Executed where
  task : Nat
  query : AdbQuery
  suppressed : Bool
  drained : Bool
  deriving DecidableEq

/-- `operation` is the mutex, held by the monitor. `tasks` counts the blocking tasks. The last
two are ghosts: a stop is drained, and the commands. -/
structure StopConfig where
  runtime : RuntimeConfig
  phase : TaskPhase
  operation : Bool
  tasks : Nat
  stops : Nat → StopPhase
  drained : Bool
  executed : List Executed

inductive StopAction
  | control (task : Nat) (action : ControlAction)
  | monitor (call : Nat) (action : MonitorAction)
  | hostResume (call : Nat)
  | fireControl (timer : Nat)
  | fireRearm (timer : Nat)
  | fireGrace (timer : Nat)
  | fireNotify
  | spawn
  | start (q : AdbQuery)
  | finish
  | done
  | beginSuppressRepairs (stop : Nat)
  | drainRepairs (stop : Nat)

namespace StopConfig
variable (s : StopConfig)

def pc : MonitorPc := s.runtime.monitor.pc

def log (task : Nat) (q : AdbQuery) : StopConfig :=
  { s with executed := s.executed ++ [⟨task, q, s.runtime.env.stopping, s.drained⟩] }

/-- A step of the runtime that is not the monitor's. -/
def aside (action : RuntimeAction) : Option StopConfig :=
  (s.runtime.step action).map fun runtime => { s with runtime := runtime }

/-- The monitor goes on behind its task, and takes and leaves the mutex on the way. -/
def goesOn (runtime : RuntimeConfig) : StopConfig :=
  { s with
    runtime := runtime
    phase := .due
    operation := runtime.monitor.pc.locked || (runtime.monitor.pc.loses && s.operation) }

def monitorStep (call : Nat) (action : MonitorAction) : Option StopConfig :=
  if s.pc.isTask ∧ s.phase ≠ .done then none
  else (s.runtime.step (.monitor call action)).map s.goesOn

/-- A command in flight is one that the stop finds executed. -/
def beginStop (stop : Nat) : Option StopConfig :=
  if s.stops stop ≠ .idle then none
  else
    (s.runtime.step .suppressRepairs).map fun runtime =>
      let s := { s with runtime := runtime, stops := Function.update s.stops stop .begun }
      match s.phase with
      | .running task (some q) => s.log task q
      | _ => s

def step : StopAction → StopConfig → Option StopConfig
  | .control task action, s => s.aside (.control task action)
  | .monitor call action, s => s.monitorStep call action
  | .hostResume call, s => s.aside (.hostResume call)
  | .fireControl timer, s => s.aside (.fireControl timer)
  | .fireRearm timer, s => s.aside (.fireRearm timer)
  | .fireGrace timer, s => s.aside (.fireGrace timer)
  | .fireNotify, s => s.aside .fireNotify
  | .spawn, s =>
      if s.pc.isTask ∧ s.phase = .due then
        some { s with phase := .running s.tasks none, tasks := s.tasks + 1 }
      else none
  | .start q, s =>
      match s.phase with
      | .running task none =>
          if s.pc.asks q then some ({ s with phase := .running task (some q) }.log task q) else none
      | _ => none
  | .finish, s =>
      match s.phase with
      | .running task (some _) => some { s with phase := .running task none }
      | _ => none
  | .done, s =>
      match s.phase with
      | .running _ none => some { s with phase := .done }
      | _ => none
  | .beginSuppressRepairs stop, s => s.beginStop stop
  | .drainRepairs stop, s =>
      if s.stops stop = .begun ∧ s.operation = false then
        some { s with stops := Function.update s.stops stop .drained, drained := true }
      else none

end StopConfig

def stopSystem (session : SessionId) : System StopConfig StopAction where
  init := ⟨.initial session, .due, false, 0, fun _ => .idle, false, []⟩
  step := StopConfig.step

/-- Behind a drain nothing that changes the headset or its mappings is started or in flight, and
all commands since a stop began are those of one blocking task. -/
structure Quiescent (s : StopConfig) : Prop where
  begun : ∀ stop, s.stops stop ≠ .idle → s.runtime.env.stopping = true
  drained : ∀ stop, s.stops stop = .drained → s.drained = true
  started : ∀ x ∈ s.executed, x.drained = true → x.query.reads = true
  inFlight : s.drained = true → ∀ task q, s.phase = .running task (some q) → q.reads = true
  oneTask : ∀ x ∈ s.executed, ∀ y ∈ s.executed, x.suppressed = true → y.suppressed = true →
    x.task = y.task

/-- A program that only looks. -/
def Looks {α : Type} (m : Adb α) : Prop := Ensures m fun l _ => ∀ call ∈ l, call.1.reads = true

namespace Looks
variable {α β : Type} {m : Adb α} {f : α → Adb β}

theorem pure (a : α) : Looks (Pure.pure a : Adb α) := ensures_pure nofun

theorem bind (first : Looks m) (next : ∀ a, Looks (f a)) : Looks (m >>= f) :=
  Ensures.bind first fun _ a only =>
    (next a).mono fun _ _ more => List.forall_mem_append.mpr ⟨only, more⟩

theorem runCheckedWith {args : List String} {limit : Nat}
    (reads : (AdbQuery.execute args limit).reads = true) :
    Looks (AdbController.runCheckedWith args limit) := by
  refine (AdbController.runCheckedWith_spec args limit).mono ?_
  rintro _ _ ⟨a, rfl, -⟩
  exact List.forall_mem_singleton.mpr reads

theorem pollVpn (c : AdbController) : Looks c.pollVpn :=
  (runCheckedWith rfl).bind fun _ => .pure _

theorem verifyVpnClosed (c : AdbController) : Looks c.verifyVpnClosed := by
  have loop (ahead : Nat) : Looks (c.verifyLoop ahead) := by
    induction ahead with
    | zero =>
        refine (pollVpn c).bind fun r => ?_
        split <;> exact .pure _
    | succ ahead ih =>
        refine (pollVpn c).bind fun r => ?_
        split
        · exact .pure _
        · exact .pure _
        · exact ih
  refine ensures_ask_bind fun ahead => (loop ahead).mono fun l _ only => ?_
  exact List.forall_mem_cons.mpr ⟨rfl, only⟩

end Looks

/-- The tasks ask what is said of them. -/
theorem MonitorPc.tasks_ask (c : AdbController) (sessionId : SessionId) (allTraffic : Bool)
    (pc : MonitorPc) : ∀ program ∈ pc.tasks c sessionId allTraffic,
      Ensures program fun l _ => ∀ call ∈ l, pc.asks call.1 = true := by
  -- what looks asks nothing else, and the others may ask anything
  have looks {pc : MonitorPc} {α : Type} {m : Adb α} (task : pc.isTask = true) (h : Looks m) :
      Ensures (do let _ ← m) fun l (_ : Unit) => ∀ call ∈ l, pc.asks call.1 = true := by
    refine (h.bind fun _ => .pure ()).mono fun l _ only call member => ?_
    simp [MonitorPc.asks, task, only call member]
  have changes {pc : MonitorPc} {α : Type} {m : Adb α} {P : List AdbCall → α → Prop}
      (free : pc.isTask = true ∧ pc.looks = false) (h : Ensures m P) :
      Ensures (do let _ ← m) fun l (_ : Unit) => ∀ call ∈ l, pc.asks call.1 = true := by
    refine h.returns fun l _ _ call member => ?_
    simp [MonitorPc.asks, free]
  have checked {args : List String} {limit : Nat} {α : Type} {g : AdbOutput → α}
      (reads : (AdbQuery.execute args limit).reads = true) :
      Looks (do return (← AdbController.runCheckedWith args limit).map g) :=
    (Looks.runCheckedWith reads).bind fun _ => .pure _
  intro program member
  cases pc with
  | confirming =>
      rw [List.mem_singleton.mp member]
      exact looks rfl (checked rfl)
  | rebuilding =>
      rw [List.mem_singleton.mp member]
      exact changes ⟨rfl, rfl⟩ AdbController.reinstallMappings_spec
  | probing | verifying =>
      rw [List.mem_singleton.mp member]
      exact looks rfl (checked rfl)
  | repairing =>
      obtain ⟨mapping, _, rfl⟩ := List.mem_map.mp member
      exact changes ⟨rfl, rfl⟩ (AdbController.runUnit_spec _ _)
  | sleepProbing | restartStatus =>
      rw [List.mem_singleton.mp member]
      exact looks rfl (checked rfl)
  | headsetProbing =>
      rw [List.mem_singleton.mp member]
      exact looks rfl (checked rfl)
  | restartStep phase =>
      cases phase with
      | forceStop =>
          rw [List.mem_singleton.mp member]
          exact changes ⟨rfl, rfl⟩ (AdbController.runUnit_spec _ _)
      | verifyClosed =>
          rw [List.mem_singleton.mp member]
          exact looks rfl (Looks.verifyVpnClosed c)
      | mappings =>
          rw [List.mem_singleton.mp member]
          exact changes ⟨rfl, rfl⟩ AdbController.reinstallMappings_spec
  | restartStart =>
      rw [List.mem_singleton.mp member]
      exact changes ⟨rfl, rfl⟩ (AdbController.runUnit_spec _ _)
  | _ => cases member

/-! Nothing but a stop moves the flag. -/

namespace HostEnv
variable (e : HostEnv)

@[simp] theorem relayGate_stopping (event : RelayEvent) :
    (e.relayGate event).stopping = e.stopping := rfl

@[simp] theorem updateStatus_stopping (active deviceAvailable mappingsHealthy : Bool)
    (lastError : Option String) :
    (e.updateStatus active deviceAvailable mappingsHealthy lastError).stopping = e.stopping := rfl

@[simp] theorem recordMappingProbe_stopping (durationUs : Nat) :
    (e.recordMappingProbe durationUs).stopping = e.stopping := rfl

@[simp] theorem notifyLater_stopping : e.notifyLater.stopping = e.stopping := rfl

@[simp] theorem scheduleTransportRecoveryRearm_stopping (generation : Nat)
    (trigger : TransportRecoveryTrigger) :
    (e.scheduleTransportRecoveryRearm generation trigger).stopping = e.stopping :=
  congrArg HostView.stopping (e.scheduleTransportRecoveryRearm_view generation trigger)

@[simp] theorem notifyUsbReconnectedIfNeeded_stopping :
    e.notifyUsbReconnectedIfNeeded.stopping = e.stopping := by
  rcases e.notifyUsbReconnectedIfNeeded_view with same | same <;>
    exact congrArg HostView.stopping same

@[simp] theorem finishTransportRecoveryAttempt_stopping (generation : Nat) (succeeded : Bool) :
    (e.finishTransportRecoveryAttempt generation succeeded).2.stopping = e.stopping := by
  unfold finishTransportRecoveryAttempt
  split <;> rfl

@[simp] theorem retryAuthenticatedReconcileIfNeeded_stopping :
    e.retryAuthenticatedReconcileIfNeeded.stopping = e.stopping := by
  unfold retryAuthenticatedReconcileIfNeeded
  split <;> rfl

theorem completeAuthenticatedTransportRecovery_stopping :
    e.completeAuthenticatedTransportRecovery.2.stopping = e.stopping := by
  unfold completeAuthenticatedTransportRecovery
  split <;> rfl

@[simp] theorem takeAuthenticated_stopping :
    (Monitor.takeAuthenticated e).2.2.stopping = e.stopping := by
  unfold Monitor.takeAuthenticated
  split
  · exact completeAuthenticatedTransportRecovery_stopping _
  · rfl

theorem observe_stopping (snapshot : StateSnapshot) :
    (e.observe snapshot).stopping = e.stopping := by
  by_cases connected : snapshot.state = .connected
  · rcases e.observe_connected_view connected with same | ⟨_, _, _, _, same⟩ <;>
      exact congrArg HostView.stopping same
  · obtain ⟨_, _, same⟩ := e.observe_other_view connected
    exact congrArg HostView.stopping same

end HostEnv

/-- No task is due there, and none follows while the flag is up. -/
def MonitorPc.calm (pc : MonitorPc) : Prop := pc.isTask = false ∧ pc ≠ .supervising

def Segment.Calm (segment : Segment) : Prop := segment.monitor.pc.calm

namespace Monitor
variable {m : Monitor} {e : HostEnv} {lifecycle : HostState} {call : Nat}

theorem loopEnd_calm : (m.loopEnd e).Calm := by
  unfold loopEnd
  split <;> exact ⟨rfl, nofun⟩

theorem superviseAndroid_calm (stopping : e.stopping = true) : (m.superviseAndroid e).Calm := by
  unfold superviseAndroid
  rw [if_pos stopping]
  exact loopEnd_calm

theorem proceed_calm (stopping : e.stopping = true) (next : MonitorTask) :
    (m.proceed e next).Calm := by
  cases next with
  | updates => exact ⟨rfl, nofun⟩
  | tick => exact superviseAndroid_calm stopping
  | changed => exact loopEnd_calm

theorem recordLoss_calm {deviceAvailable : Bool} {category : String} {waiting : MonitorPc}
    {onward : Segment} (waits : waiting.calm) (onwards : onward.Calm) :
    (m.recordLoss e deviceAvailable category waiting onward).Calm := by
  unfold recordLoss
  split
  · exact onwards
  · exact waits

theorem reconcile_calm {deviceAvailable forced : Bool} {next : MonitorTask}  :
    (m.reconcile e deviceAvailable forced next).Calm := by
  unfold reconcile
  split <;> exact ⟨rfl, nofun⟩

theorem recoverTransport_calm (stopping : e.stopping = true) {deviceAvailable : Bool}
    {next : MonitorTask} {segment : Segment}
    (recovers : m.recoverTransport e deviceAvailable next = some segment) : segment.Calm := by
  unfold recoverTransport at recovers
  split at recovers
  · cases recovers
  · cases recovers
    exact proceed_calm stopping next

/-- A recovery, or what else is done. -/
theorem recovers_calm (stopping : e.stopping = true) {deviceAvailable : Bool}
    {next : MonitorTask} {otherwise : Segment} (calm : otherwise.Calm) :
    ((m.recoverTransport e deviceAvailable next).getD otherwise).Calm := by
  cases recovers : m.recoverTransport e deviceAvailable next with
  | none => exact calm
  | some segment => exact recoverTransport_calm stopping recovers

theorem onUpdate_calm (stopping : e.stopping = true) {available : Bool} {rest : List Bool} :
    (m.onUpdate e available rest).Calm := by
  have still : (if available then e.notifyUsbReconnectedIfNeeded else e).stopping = true := by
    split <;> simpa using stopping
  unfold onUpdate
  dsimp only
  generalize (if available then e.notifyUsbReconnectedIfNeeded else e) = e' at still ⊢
  split
  · exact ⟨rfl, nofun⟩
  · exact recovers_calm ((HostEnv.takeAuthenticated_stopping e').trans still) reconcile_calm

theorem onTick_calm (stopping : e.stopping = true) : (m.onTick e).Calm := by
  unfold onTick
  dsimp only
  have still := (HostEnv.takeAuthenticated_stopping e).trans stopping
  split
  · exact superviseAndroid_calm still
  · refine recovers_calm still ?_
    split
    · exact reconcile_calm
    · exact superviseAndroid_calm still

theorem onTrackLost_calm {category : String} :
    (m.onTrackLost e call category lifecycle).Calm := by
  unfold onTrackLost
  split
  · exact recordLoss_calm ⟨rfl, nofun⟩ ⟨rfl, nofun⟩
  · exact ⟨rfl, nofun⟩

theorem onReconcile_calm {deviceAvailable forced : Bool} {next : MonitorTask} :
    (m.onReconcile e call deviceAvailable forced next lifecycle).Calm := by
  unfold onReconcile
  split
  · split <;> exact ⟨rfl, nofun⟩
  · split
    · exact recordLoss_calm ⟨rfl, nofun⟩ ⟨rfl, nofun⟩
    · exact ⟨rfl, nofun⟩

theorem repairFailed_calm {forced : Bool} {next : MonitorTask} :
    (m.repairFailed e call forced next).Calm :=
  recordLoss_calm ⟨rfl, nofun⟩ ⟨rfl, nofun⟩

theorem repair_calm (stopping : e.stopping = true) {missing : Nat} {forced : Bool}
    {next : MonitorTask} : (m.repair e missing forced next).Calm := by
  unfold repair
  rw [if_pos stopping]
  exact ⟨rfl, nofun⟩

theorem onRepair_calm (stopping : e.stopping = true) {missing : Nat} {forced succeeded : Bool}
    {next : MonitorTask} : (m.onRepair e call missing forced next succeeded).Calm := by
  unfold onRepair
  split
  · exact repair_calm stopping
  · exact ⟨rfl, nofun⟩

theorem onProbe_calm (stopping : e.stopping = true) {forced : Bool} {next : MonitorTask}
    {durationUs : Nat} {probe : MappingProbe} :
    (m.onProbe e call lifecycle forced next durationUs probe).Calm := by
  cases probe with
  | healthy =>
      simp only [onProbe]
      split
      · unfold reconcileAndroidSleep
        rw [if_pos (by simpa using stopping)]
        exact ⟨rfl, nofun⟩
      · exact ⟨rfl, nofun⟩
  | missing others => exact repair_calm (e := e.recordMappingProbe durationUs) stopping
  | failed => exact recordLoss_calm ⟨rfl, nofun⟩ ⟨rfl, nofun⟩
  | workerFailed => exact recordLoss_calm ⟨rfl, nofun⟩ ⟨rfl, nofun⟩

theorem onRebuilt_calm (stopping : e.stopping = true) {generation attempt : Nat}
    {trigger : TransportRecoveryTrigger} {next : MonitorTask} {succeeded : Bool} :
    (m.onRebuilt e call generation attempt trigger next succeeded).Calm := by
  unfold onRebuilt
  split
  · exact proceed_calm stopping next
  · split
    · exact ⟨rfl, nofun⟩
    · unfold rebuildFailed
      refine proceed_calm ?_ next
      split <;> simpa using stopping

theorem restartStep_calm (stopping : e.stopping = true) {pc : MonitorPc} :
    (m.restartStep e pc).Calm := by
  unfold restartStep
  rw [if_pos stopping]
  exact loopEnd_calm

theorem onRestartStep_calm (stopping : e.stopping = true) {phase : RestartPhase}
    {succeeded : Bool} : (m.onRestartStep e call succeeded phase).Calm := by
  cases phase with
  | forceStop =>
      simp only [onRestartStep]
      split
      · exact restartStep_calm stopping
      · exact loopEnd_calm
  | verifyClosed =>
      simp only [onRestartStep]
      split
      · exact restartStep_calm stopping
      · exact loopEnd_calm
  | mappings =>
      simp only [onRestartStep]
      split
      · exact ⟨rfl, nofun⟩
      · exact loopEnd_calm

theorem onHeadset_calm {awake : Bool} {now : Instant} : (m.onHeadset e awake now).Calm := by
  unfold onHeadset
  dsimp only
  split
  · exact ⟨rfl, nofun⟩
  · exact loopEnd_calm

theorem onSupervise_calm {now : Instant} :
    (m.onSupervise e lifecycle now).Calm ∨
      (m.onSupervise e lifecycle now).monitor.pc = .headsetProbing := by
  unfold onSupervise
  split
  · exact .inl loopEnd_calm
  · split
    · exact .inl loopEnd_calm
    · dsimp only
      split
      · exact .inr rfl
      · exact .inl loopEnd_calm

theorem onChanged_calm (stopping : e.stopping = true) : (m.onChanged e).Calm := by
  unfold onChanged
  dsimp only
  rw [if_pos stopping]
  exact ⟨rfl, nofun⟩

/-- While the flag is up the monitor comes to no task, but for the look at the headset that was
decided on before. -/
theorem step_calm {calls : Nat → Option (Option Nat)} {action : MonitorAction} {segment : Segment}
    (stopping : e.stopping = true)
    (taken : m.step e lifecycle call calls action = some segment) :
    segment.Calm ∨ (m.pc = .supervising ∧ segment.monitor.pc = .headsetProbing) := by
  unfold step at taken
  split at taken
  · rw [if_pos stopping] at taken
    cases taken
    exact .inl ⟨rfl, nofun⟩
  · rw [if_pos stopping] at taken
    cases taken
    exact .inl ⟨rfl, nofun⟩
  · split at taken
    · cases taken
      exact .inl ⟨rfl, nofun⟩
    · cases taken
      exact .inl ⟨rfl, nofun⟩
  · cases taken
    exact .inl onTrackLost_calm
  · obtain ⟨_, _, rfl⟩ := Option.map_eq_some_iff.mp taken
    exact .inl ⟨rfl, nofun⟩
  · split at taken
    · cases taken
    · cases taken
      exact .inl ⟨rfl, nofun⟩
  · cases taken
    exact .inl (onTick_calm stopping)
  · split at taken
    · cases taken
      exact .inl (onChanged_calm stopping)
    · cases taken
  · cases taken
    exact .inl ⟨rfl, nofun⟩
  · rw [if_pos stopping] at taken
    cases taken
    exact .inl ⟨rfl, nofun⟩
  · cases taken
    exact .inl loopEnd_calm
  · cases taken
    exact .inl (onUpdate_calm stopping)
  · rw [if_pos stopping] at taken
    cases taken
    exact .inl (proceed_calm stopping _)
  · cases taken
    exact .inl (onRebuilt_calm stopping)
  · obtain ⟨_, _, rfl⟩ := Option.map_eq_some_iff.mp taken
    refine .inl (proceed_calm ?_ _)
    simpa using stopping
  · cases taken
    exact .inl onReconcile_calm
  · rw [if_pos stopping] at taken
    cases taken
    exact .inl ⟨rfl, nofun⟩
  · cases taken
    exact .inl (onProbe_calm stopping)
  · cases taken
    exact .inl (onRepair_calm stopping)
  · cases taken
    split
    · exact .inl ⟨rfl, nofun⟩
    · exact .inl repairFailed_calm
  · obtain ⟨_, _, rfl⟩ := Option.map_eq_some_iff.mp taken
    exact .inl ⟨rfl, nofun⟩
  · cases taken
    exact .inl ⟨rfl, nofun⟩
  · cases taken
    refine .inl (proceed_calm ?_ _)
    split <;> simpa using stopping
  · rename_i pc
    cases taken
    rcases onSupervise_calm with calm | looks
    · exact .inl calm
    · exact .inr ⟨pc, looks⟩
  · cases taken
    exact .inl onHeadset_calm
  · rw [if_pos stopping] at taken
    cases taken
    exact .inl loopEnd_calm
  · cases taken
    exact .inl (restartStep_calm (by simpa using stopping))
  · cases taken
    exact .inl (onRestartStep_calm stopping)
  · obtain ⟨_, _, rfl⟩ := Option.map_eq_some_iff.mp taken
    exact .inl (restartStep_calm (by simpa using stopping))
  · cases taken
    split <;> exact .inl loopEnd_calm
  · cases taken

end Monitor
section
variable {m : Monitor} {e e' : HostEnv} {c c' : RuntimeConfig} {a : RuntimeAction}

theorem MonitorStep.stopping {lifecycle : HostState} {calls : Nat → Option (Option Nat)}
    {call : Nat} {action : MonitorAction} {pc : MonitorPc} {made : Option ControlAction}
    (step : MonitorStep m e lifecycle calls call action e' pc made) : e'.stopping = e.stopping := by
  cases step with
  | confirming => rfl
  | moved view | confirmed _ view | trackLost view | reported view | lost _ _ view
  | recorded _ _ _ view | repeated view | unavailable _ view | healed view | slept _ _ view
  | retried _ _ view | completed _ _ _ _ view | recovers _ _ _ _ view | reconciles _ _ view
  | rebuildFailed _ view | resets view | reset _ _ _ _ _ view | restartLost _ _ view =>
      exact congrArg HostView.stopping view

theorem EnvStep.stopping (step : EnvStep e e') (before : e.stopping = true) :
    e'.stopping = true := by
  cases step with
  | silent view | expired _ view | rearmed _ view =>
      exact (congrArg HostView.stopping view).trans before
  | suppressed view => exact congrArg HostView.stopping view
  | grace _ _ view =>
      rcases view with view | ⟨_, view⟩ <;> exact (congrArg HostView.stopping view).trans before

theorem RuntimeStep.stopping (step : RuntimeStep c a c') (before : c.env.stopping = true) :
    c'.env.stopping = true := by
  cases step with
  | control _ step =>
      cases step.reports with
      | silent env =>
          rcases env with same | same | ⟨snapshot, _, same⟩
          · exact (congrArg HostEnv.stopping same).trans before
          · exact (congrArg HostEnv.stopping same).trans before
          · exact (congrArg HostEnv.stopping same).trans
              ((HostEnv.observe_stopping _ _).trans before)
      | reported _ _ env =>
          exact (congrArg HostEnv.stopping env).trans ((HostEnv.observe_stopping _ _).trans before)
      | woken _ _ _ _ env => exact (congrArg HostEnv.stopping env).trans before
  | monitor step => exact step.stopping.trans before
  | calls step => exact step.stopping.trans before
  | resumed => exact before
  | env step => exact step.stopping before

/-- The monitor moves in its own steps only. -/
theorem RuntimeStep.monitor_eq (step : RuntimeStep c a c')
    (other : ∀ call action, a ≠ .monitor call action) : c'.monitor = c.monitor := by
  cases step with
  | monitor => exact absurd rfl (other _ _)
  | calls => exact absurd rfl (other _ _)
  | control => rfl
  | resumed => rfl
  | env => rfl

/-- A step of the monitor in the runtime. -/
theorem RuntimeConfig.step_calm {call : Nat} {action : MonitorAction}
    (stopping : c.env.stopping = true) (taken : c.step (.monitor call action) = some c') :
    c'.monitor.pc.calm ∨
      (c.monitor.pc = .supervising ∧ c'.monitor.pc = .headsetProbing) := by
  obtain ⟨segment, stepped, performed⟩ := Option.bind_eq_some_iff.mp taken
  have same : c'.monitor = segment.monitor := by
    unfold RuntimeConfig.perform at performed
    dsimp only at performed
    split at performed
    · cases performed
      rfl
    · obtain ⟨_, _, rfl⟩ := Option.map_eq_some_iff.mp performed
      rfl
  rw [same]
  exact Monitor.step_calm stopping stepped

end

namespace StopConfig
variable {s s' : StopConfig}

/-- Where the flag is up and commands of the task were executed: it is the one that runs, or no
other comes. -/
def Spent (s : StopConfig) (task : Nat) : Prop :=
  match s.phase with
  | .running running _ => running = task
  | .done => True
  | .due => s.pc.calm

structure Inv (s : StopConfig) : Prop where
  lock : s.pc.locked = true → s.operation = true
  phase : s.pc.isTask = false → s.phase = .due
  asked : ∀ task q, s.phase = .running task (some q) → s.pc.asks q = true
  begun : ∀ stop, s.stops stop ≠ .idle → s.runtime.env.stopping = true
  known : ∀ stop, s.stops stop = .drained → s.drained = true
  drained : s.drained = true →
    s.runtime.env.stopping = true ∧ (s.pc.isTask = true → s.pc.looks = true)
  suppressed : ∀ x ∈ s.executed, x.suppressed = true →
    s.runtime.env.stopping = true ∧ s.Spent x.task
  started : ∀ x ∈ s.executed, x.drained = true → x.query.reads = true
  oneTask : ∀ x ∈ s.executed, ∀ y ∈ s.executed, x.suppressed = true → y.suppressed = true →
    x.task = y.task

theorem Inv.reads (h : Inv s) (drained : s.drained = true) {q : AdbQuery}
    (asks : s.pc.asks q = true) : q.reads = true := by
  obtain ⟨task, free⟩ := Bool.and_eq_true_iff.mp asks
  simpa [(h.drained drained).2 task] using free

theorem Inv.quiescent (h : Inv s) : Quiescent s where
  begun := h.begun
  drained := h.known
  started := h.started
  inFlight drained _ _ running := h.reads drained (h.asked _ _ running)
  oneTask := h.oneTask

/-- A step that leaves the monitor and its task. -/
theorem Inv.aside (h : Inv s) {runtime : RuntimeConfig} (same : runtime.monitor = s.runtime.monitor)
    (stopping : s.runtime.env.stopping = true → runtime.env.stopping = true) :
    Inv { s with runtime := runtime } := by
  have pc : ({ s with runtime := runtime } : StopConfig).pc = s.pc := congrArg Monitor.pc same
  have spent {task : Nat} (was : s.Spent task) :
      ({ s with runtime := runtime } : StopConfig).Spent task := by
    unfold Spent at was ⊢
    rwa [pc]
  refine ⟨?_, ?_, ?_, fun stop busy => stopping (h.begun stop busy), h.known, ?_, ?_, h.started,
    h.oneTask⟩
  · rw [pc]
    exact h.lock
  · rw [pc]
    exact h.phase
  · rw [pc]
    exact h.asked
  · intro drained
    rw [pc]
    exact ⟨stopping (h.drained drained).1, (h.drained drained).2⟩
  · intro x member suppressed
    obtain ⟨before, was⟩ := h.suppressed x member suppressed
    exact ⟨stopping before, spent was⟩

theorem Inv.monitor (h : Inv s) {call : Nat} {action : MonitorAction} {runtime : RuntimeConfig}
    (taken : s.runtime.step (.monitor call action) = some runtime) : Inv (s.goesOn runtime) := by
  have stopping := (RuntimeConfig.step_cases taken).stopping
  refine ⟨?_, fun _ => rfl, nofun, fun stop busy => stopping (h.begun stop busy), h.known, ?_, ?_,
    h.started, h.oneTask⟩
  · intro locked
    have there : runtime.monitor.pc.locked = true := locked
    simp [goesOn, there]
  · intro drained
    have before := (h.drained drained).1
    refine ⟨stopping before, fun task => ?_⟩
    have there : runtime.monitor.pc.isTask = true := task
    rcases RuntimeConfig.step_calm before taken with ⟨calm, _⟩ | ⟨_, probes⟩
    · rw [there] at calm
      cases calm
    · have : (s.goesOn runtime).pc = .headsetProbing := probes
      rw [this]
      rfl
  · intro x member suppressed
    obtain ⟨before, spent⟩ := h.suppressed x member suppressed
    refine ⟨stopping before, ?_⟩
    rcases RuntimeConfig.step_calm before taken with calm | ⟨was, _⟩
    · exact calm
    · -- the look at the headset is decided on where no command can have been executed
      have due := h.phase (show s.pc.isTask = false by rw [show s.pc = _ from was]; rfl)
      simp only [Spent, due] at spent
      exact absurd was spent.2

/-- A command is added, of the task that runs. -/
theorem Inv.log (h : Inv s) {task : Nat} {q : AdbQuery} {inFlight : Option AdbQuery}
    (running : s.phase = .running task inFlight) (asks : s.pc.asks q = true) :
    Inv (s.log task q) := by
  have here {x : Executed} (member : x ∈ (s.log task q).executed) :
      x ∈ s.executed ∨ x = ⟨task, q, s.runtime.env.stopping, s.drained⟩ := by
    simpa [StopConfig.log] using member
  have mine {x : Executed} (member : x ∈ s.executed) (suppressed : x.suppressed = true) :
      x.task = task := by
    have spent := (h.suppressed x member suppressed).2
    simp only [Spent, running] at spent
    exact spent.symm
  refine ⟨h.lock, h.phase, h.asked, h.begun, h.known, h.drained, ?_, ?_, ?_⟩
  · intro x member suppressed
    rcases here member with old | rfl
    · exact h.suppressed x old suppressed
    · refine ⟨suppressed, ?_⟩
      have same : (s.log task q).phase = .running task inFlight := running
      simp only [Spent, same]
  · intro x member drained
    rcases here member with old | rfl
    · exact h.started x old drained
    · exact h.reads drained asks
  · intro x member y member' suppressed suppressed'
    rcases here member with old | rfl
    · rcases here member' with old' | rfl
      · exact h.oneTask x old y old' suppressed suppressed'
      · exact mine old suppressed
    · rcases here member' with old' | rfl
      · exact (mine old' suppressed').symm
      · rfl

/-- The task the monitor waits for goes on. -/
theorem Inv.phased (h : Inv s) {phase : TaskPhase} {tasks : Nat} (task : s.pc.isTask = true)
    (asked : ∀ task q, phase = .running task (some q) → s.pc.asks q = true)
    (spent : ∀ x ∈ s.executed, x.suppressed = true →
      ({ s with phase := phase, tasks := tasks } : StopConfig).Spent x.task) :
    Inv { s with phase := phase, tasks := tasks } where
  lock := h.lock
  phase idle := by
    have idle' : s.pc.isTask = false := idle
    rw [task] at idle'
    cases idle'
  asked := asked
  begun := h.begun
  known := h.known
  drained := h.drained
  suppressed x member suppressed :=
    ⟨(h.suppressed x member suppressed).1, spent x member suppressed⟩
  started := h.started
  oneTask := h.oneTask

/-- A task runs where the monitor waits for one. -/
theorem Inv.task (h : Inv s) {task : Nat} {inFlight : Option AdbQuery}
    (running : s.phase = .running task inFlight) : s.pc.isTask = true := by
  cases waits : s.pc.isTask with
  | true => rfl
  | false => cases running.symm.trans (h.phase waits)

theorem Inv.spawn (h : Inv s) (task : s.pc.isTask = true) (due : s.phase = .due) :
    Inv { s with phase := .running s.tasks none, tasks := s.tasks + 1 } := by
  refine h.phased task nofun fun x member suppressed => ?_
  have spent := (h.suppressed x member suppressed).2
  simp only [Spent, due] at spent
  rw [spent.1] at task
  cases task

theorem Inv.begin (h : Inv s) {stop : Nat} {runtime : RuntimeConfig}
    (taken : s.runtime.step .suppressRepairs = some runtime) :
    Inv { s with runtime := runtime, stops := Function.update s.stops stop .begun } := by
  have same := (RuntimeConfig.step_cases taken).monitor_eq nofun
  have stopping : runtime.env.stopping = true := by
    cases taken
    rfl
  have moved := h.aside same fun _ => stopping
  refine ⟨moved.lock, moved.phase, moved.asked, fun _ _ => stopping, ?_, moved.drained,
    moved.suppressed, moved.started, moved.oneTask⟩
  intro other drained
  by_cases own : other = stop
  · subst own
    simp at drained
  · simp only [Function.update_of_ne own] at drained
    exact h.known other drained

theorem looks_of_unlocked {pc : MonitorPc} (unlocked : pc.locked = false)
    (task : pc.isTask = true) : pc.looks = true := by
  cases pc <;> first | rfl | (cases task; done) | cases unlocked

theorem Inv.drain (h : Inv s) {stop : Nat} (begun : s.stops stop = .begun)
    (free : s.operation = false) :
    Inv { s with stops := Function.update s.stops stop .drained, drained := true } := by
  have stopping := h.begun stop (by rw [begun]; nofun)
  have unlocked : s.pc.locked = false := by
    cases locked : s.pc.locked with
    | false => rfl
    | true => cases free.symm.trans (h.lock locked)
  exact ⟨h.lock, h.phase, h.asked, fun _ _ => stopping, fun _ _ => rfl,
    fun _ => ⟨stopping, looks_of_unlocked unlocked⟩, h.suppressed, h.started, h.oneTask⟩

/-- The steps beside the monitor's. -/
theorem Inv.aside_step (h : Inv s) {action : RuntimeAction} (taken : s.aside action = some s')
    (other : ∀ call a, action ≠ .monitor call a) : Inv s' := by
  obtain ⟨runtime, stepped, rfl⟩ := Option.map_eq_some_iff.mp taken
  have step := RuntimeConfig.step_cases stepped
  exact h.aside (step.monitor_eq other) step.stopping

theorem Inv.step (h : Inv s) {action : StopAction} (taken : s.step action = some s') : Inv s' := by
  cases action with
  | control => exact h.aside_step taken nofun
  | hostResume => exact h.aside_step taken nofun
  | fireControl => exact h.aside_step taken nofun
  | fireRearm => exact h.aside_step taken nofun
  | fireGrace => exact h.aside_step taken nofun
  | fireNotify => exact h.aside_step taken nofun
  | monitor call action =>
      simp only [StopConfig.step, monitorStep] at taken
      split at taken
      · cases taken
      · obtain ⟨runtime, stepped, rfl⟩ := Option.map_eq_some_iff.mp taken
        exact h.monitor stepped
  | spawn =>
      simp only [StopConfig.step] at taken
      split at taken
      · rename_i due
        cases taken
        exact h.spawn due.1 due.2
      · cases taken
  | start q =>
      simp only [StopConfig.step] at taken
      split at taken
      · rename_i task running
        split at taken
        · rename_i asks
          cases taken
          refine Inv.log (h.phased (h.task running) ?_ ?_) rfl asks
          · rintro _ _ ⟨⟩
            exact asks
          · intro x member suppressed
            have spent := (h.suppressed x member suppressed).2
            simpa only [Spent, running] using spent
        · cases taken
      · cases taken
  | finish =>
      simp only [StopConfig.step] at taken
      split at taken
      · rename_i task _ running
        cases taken
        refine h.phased (h.task running) nofun fun x member suppressed => ?_
        have spent := (h.suppressed x member suppressed).2
        simpa only [Spent, running] using spent
      · cases taken
  | done =>
      simp only [StopConfig.step] at taken
      split at taken
      · rename_i running
        cases taken
        exact h.phased (h.task running) nofun fun _ _ _ => trivial
      · cases taken
  | beginSuppressRepairs stop =>
      simp only [StopConfig.step, beginStop] at taken
      split at taken
      · cases taken
      · obtain ⟨runtime, stepped, rfl⟩ := Option.map_eq_some_iff.mp taken
        have begun := @Inv.begin s h stop _ stepped
        split
        · rename_i running
          exact begun.log running (begun.asked _ _ running)
        · exact begun
  | drainRepairs stop =>
      simp only [StopConfig.step] at taken
      split at taken
      · rename_i free
        cases taken
        exact h.drain free.1 free.2
      · cases taken

end StopConfig

theorem quiescent_of_reachable {session : SessionId} {s : StopConfig}
    (reached : (stopSystem session).Reachable Free s) : Quiescent s := by
  refine (reached.invariant (I := StopConfig.Inv) ?_
    fun _ _ _ inv _ taken => inv.step taken).quiescent
  refine ⟨nofun, fun _ => rfl, nofun, ?_, nofun, nofun, nofun, nofun, nofun⟩
  intro stop busy
  exact absurd rfl busy

/-- A stop that comes while a mapping is added. -/
def Schedule.stoppedRepair : List StopAction :=
  (connect 0 ++ started 0).map (fun (i, action) => .control i action) ++
    [.monitor 4 .spawned, .monitor 4 (.read [true]), .monitor 4 .update, .monitor 4 (.lifecycle 0),
      .monitor 4 (.operation 0), .spawn, .start (.execute reverseListArgs 3), .finish, .done,
      .monitor 4 (.health (.missing 1) 5), .spawn,
      .start (.execute (addMappingArgs ⟨SOCKS_PORT, SOCKS_PORT⟩) 3), .beginSuppressRepairs 7,
      .finish, .done, .monitor 4 (.command true), .drainRepairs 7, .monitor 4 .resume]

theorem quiescent_stoppedRepair :
    ∃ s, (stopSystem Schedule.session).Reachable Free s ∧ s.drained = true ∧
      s.executed.map Executed.suppressed = [false, false, true] ∧ Quiescent s := by
  have run : ∃ s, (stopSystem Schedule.session).Reachable Free s ∧ s.drained = true ∧
      s.executed.map Executed.suppressed = [false, false, true] :=
    ⟨_, System.reachable_of_replay Schedule.stoppedRepair rfl, rfl, rfl⟩
  obtain ⟨s, reached, drained, executed⟩ := run
  exact ⟨s, reached, drained, executed, quiescent_of_reachable reached⟩

end QuestVdWired.Host
