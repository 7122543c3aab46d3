import QuestVdWired.Host.AdbMonitor

/-!
The control server, the loop of the health monitor, its timers and the admin
commands as one system. The monitor is cut at its awaits: a step runs from one
await to the next, and what it waits for (an ADB command, a track-devices update,
a mutex, a control call) is chosen by the action or read off the control tasks.
Its `transport_lost` and `reset_transport` calls are tasks of the control server
that it waits for.

Between two updates of one read, and between a reconciliation and the retry that
may follow it, the model has a step of its own where the source runs on; this only
adds interleavings. The operation mutex is contended by a stop alone, which takes it
to wait for the command in flight, so acquiring it is a step that is always enabled.
-/

namespace QuestVdWired.Host

open Transition

/-- Where the monitor goes on after a recovery or a reconciliation. -/
inductive MonitorTask
  | updates (rest : List Bool)
  | tick
  | changed
  deriving DecidableEq

/-- The ADB steps of `restart_android` before its reset. -/
inductive RestartPhase
  | forceStop | verifyClosed | mappings
  deriving DecidableEq

/-- Where the monitor waits. -/
inductive MonitorPc
  /-- about to spawn track-devices -/
  | spawning
  /-- for the device state, after an update that could not be decoded -/
  | confirming (previous : AdbMonitorSnapshot) (category : String)
  /-- for the lifecycle, after the tracker failed -/
  | trackLost (category : String)
  /-- for `transport_lost`, after the tracker failed -/
  | trackLosing (call : Nat) (category : String)
  /-- in `sleep_or_stop` -/
  | backingOff
  | selecting
  /-- with track-devices updates in hand -/
  | updating (rest : List Bool)
  /-- for the operation mutex in `recover_transport` -/
  | recovering (generation attempt : Nat) (trigger : TransportRecoveryTrigger)
      (next : MonitorTask)
  /-- for the mappings to be reinstalled -/
  | rebuilding (generation attempt : Nat) (trigger : TransportRecoveryTrigger)
      (next : MonitorTask)
  /-- for the `reset_transport` of a successful rebuild -/
  | resetting (call generation attempt : Nat) (trigger : TransportRecoveryTrigger)
      (next : MonitorTask)
  /-- for the lifecycle in `reconcile` -/
  | reconciling (deviceAvailable forced : Bool) (next : MonitorTask)
  /-- for the operation mutex in `reconcile` -/
  | admitted (lifecycle : HostState) (forced : Bool) (next : MonitorTask)
  /-- for the mapping health -/
  | probing (lifecycle : HostState) (forced : Bool) (next : MonitorTask)
  /-- for a missing mapping to be added, with so many left after it -/
  | repairing (missing : Nat) (forced : Bool) (next : MonitorTask)
  /-- for the mapping health after a repair -/
  | verifying (forced : Bool) (next : MonitorTask)
  /-- for the `transport_lost` of `record_loss` -/
  | losing (call : Nat) (forced : Bool) (next : MonitorTask)
  /-- for the Android status in `reconcile_android_sleep` -/
  | sleepProbing (epoch : Nat) (forced : Bool) (next : MonitorTask)
  /-- `reconcile` has returned -/
  | reconciled (forced : Bool) (next : MonitorTask)
  /-- for the lifecycle in `supervise_android` -/
  | supervising
  | headsetProbing
  /-- for the operation mutex in `restart_android` -/
  | restarting
  /-- for the Android status in `restart_android` -/
  | restartStatus
  | restartStep (phase : RestartPhase)
  /-- for the `reset_transport` of a restart -/
  | restartReset (call : Nat)
  /-- for the start intent -/
  | restartStart
  | returned
  deriving DecidableEq

structure Monitor where
  pc : MonitorPc
  deviceAvailable : Option Bool

inductive MappingProbe
  | healthy
  | missing (others : Nat)
  | failed
  | workerFailed
  deriving DecidableEq

/-- The steps of the monitor. The payload is what its environment decides. -/
inductive MonitorAction
  | spawned
  | spawnFailed (category : String)
  | deviceState (confirmed : Bool)
  | lifecycle (now : Instant)
  | called
  | backedOff (notified : Bool)
  | tick
  | changed
  | read (updates : List Bool)
  | trackFailed (category : String)
  | update
  | operation (now : Instant)
  | command (succeeded : Bool)
  | health (probe : MappingProbe) (durationUs : Nat)
  | androidStatus (suspended : Bool)
  | headset (awake : Bool) (now : Instant)
  | resume
  deriving DecidableEq

/-- What a step of the monitor leaves behind, and the control call it makes. -/
structure Segment where
  env : HostEnv
  monitor : Monitor
  call : Option ControlAction

def cachedDeviceIsAvailable (deviceAvailable : Option Bool) : Bool := deviceAvailable = some true

def shouldReconcileOnHealthyTick (forced : Bool) (deviceAvailable : Option Bool)
    (mappingsHealthy : Bool) : Bool :=
  forced || (cachedDeviceIsAvailable deviceAvailable && !mappingsHealthy)

def HostState.isActive (state : HostState) : Bool := state ∈ [.connected, .degraded]

namespace Monitor

def goto (m : Monitor) (e : HostEnv) (pc : MonitorPc) : Segment := ⟨e, { m with pc := pc }, none⟩

/-- The end of an iteration of the select loop. -/
def loopEnd (m : Monitor) (e : HostEnv) : Segment :=
  m.goto e (if e.stopping then .returned else .selecting)

def superviseAndroid (m : Monitor) (e : HostEnv) : Segment :=
  if e.stopping then m.loopEnd e else m.goto e .supervising

def proceed (m : Monitor) (e : HostEnv) : MonitorTask → Segment
  | .updates rest => m.goto e (.updating rest)
  | .tick => m.superviseAndroid e
  | .changed => m.loopEnd e

/-- The status already says what `record_loss` is about to record. -/
def lossRecorded (e : HostEnv) (deviceAvailable : Bool) (category : String) : Bool :=
  e.status = e.nextStatus true deviceAvailable false (some category)

/-- `record_loss`, waiting for its call at `waiting`; what follows it at once if the
loss was recorded before is `onward`. -/
def recordLoss (m : Monitor) (e : HostEnv) (deviceAvailable : Bool) (category : String)
    (waiting : MonitorPc) (onward : Segment) : Segment :=
  if lossRecorded e deviceAvailable category then onward
  else
    ⟨e.updateStatus true deviceAvailable false (some category), { m with pc := waiting },
      some (.transportLost ("ADB carrier unavailable (" ++ category ++ ")"))⟩

/-- `track_failed`, once the device is not confirmed. -/
def trackLost (m : Monitor) (e : HostEnv) (category : String) : Segment :=
  m.goto ((e.updateStatus false false false (some category)).relayGate
    .carrierLostAwaitingRecovery) (.trackLost category)

def trackFailed (m : Monitor) (e : HostEnv) (category : String) : Segment :=
  if category = "track_decode_failed" then m.goto e (.confirming e.snapshot category)
  else m.trackLost e category

/-- The end of `track_failed`. -/
def trackReported (m : Monitor) (e : HostEnv) (category : String) : Segment :=
  m.goto (e.updateStatus false false false (some category)) .backingOff

def onTrackLost (m : Monitor) (e : HostEnv) (call : Nat) (category : String)
    (lifecycle : HostState) : Segment :=
  if lifecycle.isActive then
    let e := e.noteUsbDisconnected
    m.recordLoss e false category (.trackLosing call category) (m.trackReported e category)
  else m.trackReported e category

/-- `reconcile`, up to the lifecycle. -/
def reconcile (m : Monitor) (e : HostEnv) (deviceAvailable forced : Bool) (next : MonitorTask) :
    Segment :=
  if e.stopping then m.goto e (.reconciled forced next)
  else m.goto e (.reconciling deviceAvailable forced next)

def onReconcile (m : Monitor) (e : HostEnv) (call : Nat) (deviceAvailable forced : Bool)
    (next : MonitorTask) (lifecycle : HostState) : Segment :=
  if deviceAvailable then
    if lifecycle.isActive then m.goto e (.admitted lifecycle forced next)
    else m.goto (e.updateStatus true true false none) (.reconciled forced next)
  else if lifecycle.isActive then
    let e := e.noteUsbDisconnected.relayGate .carrierLostAwaitingRecovery
    m.recordLoss e false "device_unavailable" (.losing call forced next)
      (m.goto e (.reconciled forced next))
  else
    m.goto ((e.relayGate .carrierLostAwaitingRecovery).updateStatus true false false
      (some "device_unavailable")) (.reconciled forced next)

/-- `reconcile_android_sleep`, up to the Android status. -/
def reconcileAndroidSleep (m : Monitor) (e : HostEnv) (forced : Bool) (next : MonitorTask) :
    Segment :=
  if e.stopping then m.goto e (.reconciled forced next)
  else
    match e.relay.controller.pendingControlEpoch with
    | none => m.goto e (.reconciled forced next)
    | some epoch => m.goto e (.sleepProbing epoch forced next)

def repaired (m : Monitor) (e : HostEnv) (forced : Bool) (next : MonitorTask) : Segment :=
  m.goto (({ e with
    reconnectGeneration := wrappingSucc e.reconnectGeneration
    }.updateStatus true true true none).relayGate .carrierHealthy) (.reconciled forced next)

def repairFailed (m : Monitor) (e : HostEnv) (call : Nat) (forced : Bool) (next : MonitorTask) :
    Segment :=
  let e := e.relayGate .carrierLost
  m.recordLoss e true "mapping_repair_failed" (.losing call forced next)
    (m.goto e (.reconciled forced next))

/-- The repair loop, with so many mappings still missing. -/
def repair (m : Monitor) (e : HostEnv) (missing : Nat) (forced : Bool) (next : MonitorTask) :
    Segment :=
  if e.stopping then m.goto e (.reconciled forced next)
  else
    match missing with
    | 0 => m.goto e (.verifying forced next)
    | missing + 1 => m.goto e (.repairing missing forced next)

def onRepair (m : Monitor) (e : HostEnv) (call missing : Nat) (forced : Bool)
    (next : MonitorTask) (succeeded : Bool) : Segment :=
  if succeeded then m.repair e missing forced next
  else if e.stopping then m.goto e (.reconciled forced next)
  else m.repairFailed e call forced next

def onProbe (m : Monitor) (e : HostEnv) (call : Nat) (lifecycle : HostState) (forced : Bool)
    (next : MonitorTask) (durationUs : Nat) : MappingProbe → Segment
  | .healthy =>
      let e := ((e.recordMappingProbe durationUs).updateStatus true true true none).relayGate
        .carrierHealthy
      if lifecycle = .degraded then m.reconcileAndroidSleep e forced next
      else m.goto e (.reconciled forced next)
  | .missing others => m.repair (e.recordMappingProbe durationUs) (others + 1) forced next
  | .failed =>
      let e := e.recordMappingProbe durationUs
      m.recordLoss e false "mapping_probe_failed" (.losing call forced next)
        (m.goto e (.reconciled forced next))
  | .workerFailed =>
      let e := e.recordMappingProbe durationUs
      m.recordLoss e false "mapping_probe_worker_failed" (.losing call forced next)
        (m.goto e (.reconciled forced next))

/-- `recover_transport`, up to the operation mutex; `none` when there is nothing to
recover. -/
def recoverTransport (m : Monitor) (e : HostEnv) (deviceAvailable : Bool) (next : MonitorTask) :
    Option Segment :=
  if ¬ e.transportRequiresRecovery then none
  else if e.stopping then some (m.proceed e next)
  else if ¬ deviceAvailable then
    some (m.proceed ((e.relayGate .carrierLostAwaitingRecovery).waitForRecoveryDevice.updateStatus
      true false false (some "transport_recovery_waiting_for_device")) next)
  else
    match e.beginTransportRecoveryAttempt with
    | (none, e) => some (m.proceed e next)
    | (some (generation, attempt, trigger), e) =>
        some (m.goto ((e.relayGate .carrierLostAwaitingRecovery).updateStatus true true false
          (some "transport_recovery_rebuilding")) (.recovering generation attempt trigger next))

def rebuildFailed (m : Monitor) (e : HostEnv) (generation : Nat)
    (trigger : TransportRecoveryTrigger) (next : MonitorTask) : Segment :=
  let finished := (e.relayGate .carrierLost).finishTransportRecoveryAttempt generation false
  let e := finished.2.updateStatus true true false
    (some (if finished.1 then "transport_recovery_retry" else "transport_recovery_failed"))
  m.proceed (if finished.1 then e.notifyLater
    else e.scheduleTransportRecoveryRearm generation trigger) next

def onRebuilt (m : Monitor) (e : HostEnv) (call generation attempt : Nat)
    (trigger : TransportRecoveryTrigger) (next : MonitorTask) (succeeded : Bool) : Segment :=
  if e.transportRecovery.generation ≠ generation then m.proceed e next
  else if succeeded then
    ⟨e.relayGate .controlInactiveAwaitingRecovery,
      { m with pc := .resetting call generation attempt trigger next },
      some (.resetTransport TRANSPORT_RECOVERY_REASON)⟩
  else m.rebuildFailed e generation trigger next

/-- The reset of a successful rebuild returned; `mark` is the connection
generation at its signal. -/
def onReset (m : Monitor) (e : HostEnv) (generation attempt : Nat)
    (trigger : TransportRecoveryTrigger) (next : MonitorTask) (mark : Option Nat) : Segment :=
  let e := { e with reconnectGeneration := wrappingSucc e.reconnectGeneration }
  let e := (e.finishTransportRecoveryAttempt generation true).2
  let e := (e.updateStatus true true true none).relayGate .carrierHealthy
  m.proceed
    { e with
      controlTimers := e.controlTimers ++ [(generation, attempt, trigger)]
      since := e.reports
      rebuilt := generation
      mark := mark } next

/-- The flag of an authenticated connection, taken, and whether it completed a
recovery. -/
def takeAuthenticated (e : HostEnv) : Bool × Bool × HostEnv :=
  let taken := { e with authenticatedReconcile := false }
  if e.authenticatedReconcile then
    (true, taken.completeAuthenticatedTransportRecovery)
  else (false, false, taken)

/-- The next update of a read. -/
def onUpdate (m : Monitor) (e : HostEnv) (available : Bool) (rest : List Bool) : Segment :=
  let m := { m with deviceAvailable := some available }
  let (forced, completed, e) :=
    takeAuthenticated (if available then e.notifyUsbReconnectedIfNeeded else e)
  if completed then m.goto e (.updating rest)
  else
    (m.recoverTransport e available (.updates rest)).getD
      (m.reconcile e (available || forced) forced (.updates rest))

def onTick (m : Monitor) (e : HostEnv) : Segment :=
  let (forced, completed, e) := takeAuthenticated e
  if completed then m.superviseAndroid e
  else
    (m.recoverTransport e (cachedDeviceIsAvailable m.deviceAvailable) .tick).getD
      (if shouldReconcileOnHealthyTick forced m.deviceAvailable e.snapshot.mappingsHealthy then
        m.reconcile e true forced .tick
      else m.superviseAndroid e)

def onChanged (m : Monitor) (e : HostEnv) : Segment :=
  let e := { e with changed := false }
  if e.stopping then m.goto e .returned
  else
    let (forced, completed, e) := takeAuthenticated e
    if completed then m.loopEnd e
    else
      (m.recoverTransport e (cachedDeviceIsAvailable m.deviceAvailable) .changed).getD
        (if forced || cachedDeviceIsAvailable m.deviceAvailable then
          m.reconcile e true forced .changed
        else m.loopEnd e)

def onSupervise (m : Monitor) (e : HostEnv) (lifecycle : HostState) (now : Instant) : Segment :=
  if lifecycle = .connected then m.loopEnd (e.updateAndroidLiveness .connected)
  else if lifecycle ≠ .degraded ∨ ¬ cachedDeviceIsAvailable m.deviceAvailable ∨
      e.transportRecovery.state ∈
        [.pending, .waitingForDevice, .rebuildingMappings, .awaitingControl] then
    m.loopEnd (e.updateAndroidLiveness .ineligible)
  else
    let e := e.updateAndroidLiveness (·.silent now)
    if e.androidLiveness.probeDue now then m.goto e .headsetProbing else m.loopEnd e

def onHeadset (m : Monitor) (e : HostEnv) (awake : Bool) (now : Instant) : Segment :=
  let e := e.updateAndroidLiveness (·.observed awake now)
  if e.androidLiveness.restartDue now then m.goto e .restarting else m.loopEnd e

/-- `android_restart_step`, up to its command. -/
def restartStep (m : Monitor) (e : HostEnv) (pc : MonitorPc) : Segment :=
  if e.stopping then m.loopEnd e else m.goto e pc

def restartFailed (m : Monitor) (e : HostEnv) : Segment :=
  m.loopEnd (e.updateStatus true true false (some "android_restart_failed"))

def onRestartStep (m : Monitor) (e : HostEnv) (call : Nat) (succeeded : Bool) :
    RestartPhase → Segment
  | .forceStop =>
      if succeeded then m.restartStep e (.restartStep .verifyClosed) else m.restartFailed e
  | .verifyClosed =>
      if succeeded then m.restartStep e (.restartStep .mappings) else m.restartFailed e
  | .mappings =>
      if succeeded then
        ⟨e.relayGate .controlInactiveAwaitingRecovery, { m with pc := .restartReset call },
          some (.resetTransport TRANSPORT_RECOVERY_REASON)⟩
      else m.restartFailed e

/-- A step of the monitor. `call` is the task its next control call will be, and
`calls` tells of a call it waits for whether it has returned, and its mark. -/
def step (m : Monitor) (e : HostEnv) (lifecycle : HostState) (call : Nat)
    (calls : Nat → Option (Option Nat)) (action : MonitorAction) : Option Segment :=
  match action, m.pc with
  | .spawned, .spawning =>
      if e.stopping then some (m.goto e .returned)
      else
        some ⟨e.updateStatus true e.snapshot.deviceAvailable e.snapshot.mappingsHealthy none,
          ⟨.selecting, none⟩, none⟩
  | .spawnFailed category, .spawning =>
      if e.stopping then some (m.goto e .returned) else some (m.trackFailed e category)
  | .deviceState confirmed, .confirming previous category =>
      if confirmed then
        some (m.goto (e.updateStatus false true
          (previous.deviceAvailable && previous.mappingsHealthy) (some category)) .backingOff)
      else some (m.trackLost e category)
  | .lifecycle _, .trackLost category => some (m.onTrackLost e call category lifecycle)
  | .called, .trackLosing waiting category =>
      (calls waiting).map fun _ => m.trackReported e category
  | .backedOff notified, .backingOff =>
      if notified ∧ ¬ e.changed then none
      else
        some (m.goto { e with changed := e.changed && !notified }
          (if e.stopping then .returned else .spawning))
  | .tick, .selecting => some (m.onTick e)
  | .changed, .selecting => if e.changed then some (m.onChanged e) else none
  | .read updates, .selecting => some (m.goto e (.updating updates))
  | .trackFailed category, .selecting =>
      if e.stopping then some (m.goto e .returned) else some (m.trackFailed e category)
  | .update, .updating [] => some (m.loopEnd e)
  | .update, .updating (available :: rest) => some (m.onUpdate e available rest)
  | .operation _, .recovering generation attempt trigger next =>
      some (if e.stopping then m.proceed e next
        else m.goto e (.rebuilding generation attempt trigger next))
  | .command succeeded, .rebuilding generation attempt trigger next =>
      some (m.onRebuilt e call generation attempt trigger next succeeded)
  | .called, .resetting waiting generation attempt trigger next =>
      (calls waiting).map fun mark => m.onReset e generation attempt trigger next mark
  | .lifecycle _, .reconciling deviceAvailable forced next =>
      some (m.onReconcile e call deviceAvailable forced next lifecycle)
  | .operation _, .admitted lifecycle forced next =>
      some (m.goto e (if e.stopping then .reconciled forced next
        else .probing lifecycle forced next))
  | .health probe durationUs, .probing lifecycle forced next =>
      some (m.onProbe e call lifecycle forced next durationUs probe)
  | .command succeeded, .repairing missing forced next =>
      some (m.onRepair e call missing forced next succeeded)
  | .command healthy, .verifying forced next =>
      some (if healthy then m.repaired e forced next else m.repairFailed e call forced next)
  | .called, .losing waiting forced next =>
      (calls waiting).map fun _ => m.goto e (.reconciled forced next)
  | .androidStatus suspended, .sleepProbing epoch forced next =>
      some (m.goto (if suspended then e.relayGate (.screenSuspendedIfEpoch epoch) else e)
        (.reconciled forced next))
  | .resume, .reconciled forced next =>
      some (m.proceed (if forced then e.retryAuthenticatedReconcileIfNeeded else e) next)
  | .lifecycle now, .supervising => some (m.onSupervise e lifecycle now)
  | .headset awake now, .headsetProbing => some (m.onHeadset e awake now)
  | .operation now, .restarting =>
      some (if e.stopping then m.loopEnd e
        else m.goto (e.updateAndroidLiveness (·.restarted now)) .restartStatus)
  | .androidStatus _, .restartStatus =>
      some (m.restartStep (e.relayGate .carrierLostAwaitingRecovery) (.restartStep .forceStop))
  | .command succeeded, .restartStep phase => some (m.onRestartStep e call succeeded phase)
  | .called, .restartReset waiting =>
      (calls waiting).map fun _ =>
        m.restartStep ((e.updateStatus true true true none).relayGate .carrierHealthy)
          .restartStart
  | .command succeeded, .restartStart =>
      some (if succeeded then m.loopEnd e else m.restartFailed e)
  | _, _ => none

end Monitor

namespace HostEnv

/-- The control timeout of a rebuild elapsed. -/
def fireControl (e : HostEnv) (timer : Nat) : Option HostEnv :=
  e.controlTimers[timer]?.map fun (generation, attempt, trigger) =>
    let e := { e with controlTimers := e.controlTimers.eraseIdx timer }
    match e.expireTransportRecoveryControl generation attempt with
    | (none, e) => e
    | (some retry, e) =>
        let e := e.relayGate .carrierLost
        if retry then e else e.scheduleTransportRecoveryRearm generation trigger

/-- The delay of a scheduled rearm elapsed. -/
def fireRearm (e : HostEnv) (timer : Nat) : Option HostEnv :=
  e.rearmTimers[timer]?.map fun (generation, trigger) =>
    { e with
      rearmTimers := e.rearmTimers.eraseIdx timer
      transportRearmScheduled := e.transportRearmScheduled.erase generation
    }.rearmFailedTransport generation trigger

/-- A grace timer of the relay controller elapsed. -/
def fireGrace (e : HostEnv) (timer : Nat) : Option HostEnv :=
  (RelayTimeline.step (.graceElapsed timer) e.relay).map fun relay => { e with relay := relay }

/-- A spawned task calls `notify_one`. -/
def fireNotify (e : HostEnv) : Option HostEnv :=
  if e.notifies = 0 then none else some { e with notifies := e.notifies - 1 }.notifyOne

end HostEnv

structure RuntimeConfig where
  control : ControlConfig HostEnv
  monitor : Monitor

inductive RuntimeAction
  | control (task : Nat) (action : ControlAction)
  | monitor (call : Nat) (action : MonitorAction)
  | hostResume (call : Nat)
  | suppressRepairs
  | fireControl (timer : Nat)
  | fireRearm (timer : Nat)
  | fireGrace (timer : Nat)
  | fireNotify

/-- Only the monitor and the admin server call the control handle. -/
def ControlAction.isCall : ControlAction → Bool
  | .transportLost _ | .resetTransport _ => true
  | _ => false

namespace RuntimeConfig

def env (c : RuntimeConfig) : HostEnv := c.control.shared.env

def withEnv (c : RuntimeConfig) (e : HostEnv) : RuntimeConfig :=
  { c with control := ⟨{ c.control.shared with env := e }, c.control.task⟩ }

/-- A step of the control server. -/
def controlStep (c : RuntimeConfig) (task : Nat) (action : ControlAction) :
    Option RuntimeConfig :=
  (Host.controlStep hostObservers task action c.control.shared (c.control.task task)).map
    fun (shared, t) =>
      { c with control := ⟨shared, Function.update c.control.task task t⟩ }

/-- Of a control call, whether it has returned, and its mark. -/
def callReturned (c : RuntimeConfig) (call : Nat) : Option (Option Nat) :=
  match c.control.task call with
  | .call ⟨.returned _, _, mark⟩ => some mark
  | _ => none

/-- The outcome of a segment, with its control call as a new task. -/
def perform (c : RuntimeConfig) (call : Nat) (segment : Segment) : Option RuntimeConfig :=
  let c := { c.withEnv segment.env with monitor := segment.monitor }
  match segment.call with
  | none => some c
  | some action => c.controlStep call action

def step : RuntimeAction → RuntimeConfig → Option RuntimeConfig
  | .control task action, c => if action.isCall then none else c.controlStep task action
  | .monitor call action, c =>
      (c.monitor.step c.env c.control.shared.machine.state call c.callReturned action).bind
        (c.perform call)
  | .hostResume call, c =>
      if c.control.shared.machine.state.isActive then
        (c.withEnv c.env.notifyHostResume).controlStep call
          (.resetTransport TRANSPORT_RECOVERY_REASON)
      else none
  | .suppressRepairs, c =>
      -- `notify_waiters` reaches the monitor only while it waits for the permit.
      some (c.withEnv { c.env.beginSuppressRepairs with
        changed := c.env.changed || c.monitor.pc = .selecting || c.monitor.pc = .backingOff })
  | .fireControl timer, c => (c.env.fireControl timer).map c.withEnv
  | .fireRearm timer, c => (c.env.fireRearm timer).map c.withEnv
  | .fireGrace timer, c => (c.env.fireGrace timer).map c.withEnv
  | .fireNotify, c => c.env.fireNotify.map c.withEnv

def initial (session : SessionId) : RuntimeConfig where
  control := ⟨.initial hostObservers session .initial, fun _ => .vacant⟩
  monitor := ⟨.spawning, none⟩

end RuntimeConfig

/-- The host daemon from the moment its control server listens. -/
def runtimeSystem (session : SessionId) : System RuntimeConfig RuntimeAction :=
  ⟨.initial session, RuntimeConfig.step⟩

/-! Schedule fragments of the runtime, for the concrete runs beside the theorems. -/

namespace Schedule

/-- The steps of the control server as steps of the runtime. -/
def control (actions : List (Nat × ControlAction)) : List RuntimeAction :=
  actions.map fun (i, action) => .control i action

/-- Steps of the monitor that make no control call. Tasks 0 and 1 are handlers, 2 is the
reset of a host resume and 3 that of a rebuild. -/
def monitor (actions : List MonitorAction) : List RuntimeAction :=
  actions.map fun action => .monitor 4 action

/-- A call of the control handle, from its signal to its return. -/
def callThrough (k : Nat) : List RuntimeAction :=
  control [(k, .call .signal), (k, .call .lockPublication), (k, .call .lockState),
    (k, .call .observe)]

/-- Connected over a healthy carrier, with the monitor in its loop. -/
def serving : List RuntimeAction :=
  control (connect 0 ++ started 0) ++
    monitor [.spawned, .read [true], .update, .lifecycle 0, .operation 0, .health .healthy 5,
      .resume, .update]

/-- The handler of a signalled connection leaves, and a new connection is up. -/
def reconnected : List RuntimeAction :=
  control (run 0 [.pollCancel, .lockState 0] ++ publish 0 ++ connect 1 ++ started 1)

/-- The host resumed, and the mappings are being rebuilt. -/
def rebuilding : List RuntimeAction :=
  serving ++ [.hostResume 2] ++ callThrough 2 ++ monitor [.changed, .operation 0]

/-- The rebuild succeeds and its reset returns. -/
def rebuilt : List RuntimeAction :=
  [.monitor 3 (.command true)] ++ callThrough 3 ++ monitor [.called]

end Schedule

end QuestVdWired.Host
