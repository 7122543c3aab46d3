import QuestVdWired.Host.ControlServer
import QuestVdWired.Host.TransportRecovery

/-!
What the health monitor shares with the observers of the control server and with
its timers: its flags and counters, the recovery state, the status record and the
relay controller. Each method is one function of this record; the methods hold no
lock across an await, so a call between two awaits is one step.

The durations that only space out timers are not modelled: a spawned timer waits
in a list until it fires. Diagnostics and the state store are not modelled.
-/

namespace QuestVdWired.Host

def TRANSPORT_RECOVERY_REASON : String := "rebuilding the wired transport generation"

def ANDROID_LIVENESS_GRACE : Nat := 10 * 10 ^ 9
def ANDROID_LIVENESS_AWAKE_PROBE_INTERVAL : Nat := 5 * 10 ^ 9
def ANDROID_LIVENESS_ASLEEP_PROBE_INTERVAL : Nat := 15 * 10 ^ 9
def ANDROID_RESTART_INITIAL_BACKOFF : Nat := 60 * 10 ^ 9
def ANDROID_RESTART_MAX_BACKOFF : Nat := 300 * 10 ^ 9

def androidRestartBackoff (restarts : Nat) : Nat :=
  min (ANDROID_RESTART_INITIAL_BACKOFF * 2 ^ min (restarts - 1) 8) ANDROID_RESTART_MAX_BACKOFF

/-- Whether an awake headset has stopped answering the control lane. -/
structure AndroidLiveness where
  silentSince : Option Instant
  awakeSince : Option Instant
  nextProbeAt : Option Instant
  nextRestartAt : Option Instant
  restarts : Nat
  deriving DecidableEq, Repr

namespace AndroidLiveness

/-- `AndroidLiveness::default`. -/
def initial : AndroidLiveness := ⟨none, none, none, none, 0⟩

def connected (_ : AndroidLiveness) : AndroidLiveness := initial

def ineligible (l : AndroidLiveness) : AndroidLiveness :=
  { l with silentSince := none, awakeSince := none, nextProbeAt := none }

def silent (l : AndroidLiveness) (now : Instant) : AndroidLiveness :=
  { l with silentSince := some (l.silentSince.getD now) }

def probeDue (l : AndroidLiveness) (now : Instant) : Bool :=
  l.nextProbeAt.all fun due => due ≤ now

def observed (l : AndroidLiveness) (awake : Bool) (now : Instant) : AndroidLiveness :=
  { l with
    awakeSince := if awake then some (l.awakeSince.getD now) else none
    nextProbeAt := some (now + if awake then ANDROID_LIVENESS_AWAKE_PROBE_INTERVAL
      else ANDROID_LIVENESS_ASLEEP_PROBE_INTERVAL) }

def restartDue (l : AndroidLiveness) (now : Instant) : Bool :=
  (l.silentSince.any fun since => ANDROID_LIVENESS_GRACE ≤ now - since) &&
    (l.awakeSince.any fun since => ANDROID_LIVENESS_GRACE ≤ now - since) &&
    l.nextRestartAt.all fun due => due ≤ now

def restarted (l : AndroidLiveness) (now : Instant) : AndroidLiveness :=
  let restarts := min (l.restarts + 1) (2 ^ 32 - 1)
  { silentSince := some now
    awakeSince := none
    nextProbeAt := some (now + ANDROID_LIVENESS_AWAKE_PROBE_INTERVAL)
    nextRestartAt := some (now + androidRestartBackoff restarts)
    restarts := restarts }

end AndroidLiveness

structure AdbMonitorSnapshot where
  active : Bool
  repairSuppressed : Bool
  deviceAvailable : Bool
  mappingsHealthy : Bool
  reconnectGeneration : Nat
  mappingProbeCount : Nat
  mappingProbeLastUs : Nat
  mappingProbeMaxUs : Nat
  transportRecovery : TransportRecoverySnapshot
  lastError : Option String
  deriving DecidableEq

/-- `AdbMonitorSnapshot::default`. -/
def AdbMonitorSnapshot.initial : AdbMonitorSnapshot :=
  ⟨false, false, false, false, 0, 0, 0, 0, .initial, none⟩

/-- The record says that the carrier is there and healthy. -/
def AdbMonitorSnapshot.healthy (s : AdbMonitorSnapshot) : Bool :=
  s.deviceAvailable && s.mappingsHealthy

/-- The shared fields of `AdbHealthMonitor`, with the relay controller. `changed`
is the permit of the `Notify`, `notifies` counts the spawned tasks that will call
`notify_one`, and the two lists are the spawned recovery timers.

The last four fields are ghosts. `reports` counts the Connected reports and the
wakes; `since` is its value when the reset of the last successful rebuild
returned, or before the report that rearmed a failed recovery; `rebuilt` is the
recovery generation of that rebuild, or the rearmed one; `mark` is the connection
generation at the signal of that reset. -/
structure HostEnv where
  relay : RelayTimeline
  stopping : Bool
  authenticatedReconcile : Bool
  reconnectGeneration : Nat
  mappingProbeCount : Nat
  mappingProbeLastUs : Nat
  mappingProbeMaxUs : Nat
  transportRecovery : TransportRecoverySnapshot
  transportAutoRearmGeneration : Nat
  transportRearmScheduled : List Nat
  usbReconnectPending : Bool
  androidLiveness : AndroidLiveness
  status : AdbMonitorSnapshot
  changed : Bool
  notifies : Nat
  controlTimers : List (Nat × Nat × TransportRecoveryTrigger)
  rearmTimers : List (Nat × TransportRecoveryTrigger)
  reports : Nat
  since : Nat
  rebuilt : Nat
  mark : Option Nat

namespace HostEnv

def initial : HostEnv :=
  { relay := .initial, stopping := false, authenticatedReconcile := false,
    reconnectGeneration := 0, mappingProbeCount := 0, mappingProbeLastUs := 0,
    mappingProbeMaxUs := 0, transportRecovery := .initial, transportAutoRearmGeneration := 0,
    transportRearmScheduled := [], usbReconnectPending := false, androidLiveness := .initial,
    status := .initial, changed := false, notifies := 0, controlTimers := [],
    rearmTimers := [], reports := 0, since := 0, rebuilt := 0, mark := none }

def eligibility (e : HostEnv) : RelayEligibility := e.relay.controller.eligibility

/-- A method of the relay controller. -/
def relayGate (e : HostEnv) (event : RelayEvent) : HostEnv :=
  { e with relay := (RelayTimeline.step event e.relay).getD e.relay }

/-- `notify_one`. -/
def notifyOne (e : HostEnv) : HostEnv := { e with changed := true }

/-- A task is spawned that will call `notify_one`. -/
def notifyLater (e : HostEnv) : HostEnv := { e with notifies := e.notifies + 1 }

def snapshot (e : HostEnv) : AdbMonitorSnapshot :=
  { e.status with
    repairSuppressed := e.stopping
    reconnectGeneration := e.reconnectGeneration
    mappingProbeCount := e.mappingProbeCount
    mappingProbeLastUs := e.mappingProbeLastUs
    mappingProbeMaxUs := e.mappingProbeMaxUs
    transportRecovery := e.transportRecovery }

def transportRequiresRecovery (e : HostEnv) : Bool := e.transportRecovery.requiresRecovery

def syncTransportRecoveryStatus (e : HostEnv) (lastError : Option String) : HostEnv :=
  { e with status := { e.status with
      transportRecovery := e.transportRecovery
      lastError := lastError
      mappingsHealthy := e.status.mappingsHealthy && !e.transportRecovery.requiresRecovery } }

/-- The record `update_status` writes. -/
def nextStatus (e : HostEnv) (active deviceAvailable mappingsHealthy : Bool)
    (lastError : Option String) : AdbMonitorSnapshot :=
  { active := active
    repairSuppressed := e.stopping
    deviceAvailable := deviceAvailable
    mappingsHealthy := mappingsHealthy
    reconnectGeneration := e.reconnectGeneration
    mappingProbeCount := e.mappingProbeCount
    mappingProbeLastUs := e.mappingProbeLastUs
    mappingProbeMaxUs := e.mappingProbeMaxUs
    transportRecovery := e.transportRecovery
    lastError := lastError }

def updateStatus (e : HostEnv) (active deviceAvailable mappingsHealthy : Bool)
    (lastError : Option String) : HostEnv :=
  { e with status := e.nextStatus active deviceAvailable mappingsHealthy lastError }

def notifyTransportRecovery (e : HostEnv) (trigger : TransportRecoveryTrigger) : HostEnv :=
  ({ e with
      transportAutoRearmGeneration := 0
      transportRecovery := e.transportRecovery.notify trigger
    }.syncTransportRecoveryStatus (some "transport_recovery_pending")).notifyOne

def notifyHostResume (e : HostEnv) : HostEnv :=
  { e with usbReconnectPending := false }.notifyTransportRecovery .hostResume

def rearmFailedTransport (e : HostEnv) (generation : Nat) (trigger : TransportRecoveryTrigger) :
    HostEnv :=
  if e.stopping ∨ e.transportAutoRearmGeneration = generation then e
  else
    match e.transportRecovery.rearmFailed generation trigger with
    | (none, _) => e
    | (some next, recovery) =>
        ({ e with
            transportRecovery := recovery
            transportAutoRearmGeneration := next
          }.syncTransportRecoveryStatus (some "transport_recovery_rearmed")).notifyOne

/-- The result tells whether a failed recovery was rearmed. -/
def rearmFailedTransportFromAuthenticatedControl (e : HostEnv) : Bool × HostEnv :=
  if e.stopping then (false, e)
  else
    match e.transportRecovery.rearmAuthenticated with
    | (none, _) => (false, e)
    | (some _, recovery) =>
        (true,
          ({ e with
              transportRecovery := recovery
              transportAutoRearmGeneration := 0
              since := e.reports
              rebuilt := recovery.generation
              mark := none
            }.updateStatus true true true
              (some "transport_recovery_authenticated_rearm")).notifyOne)

def scheduleTransportRecoveryRearm (e : HostEnv) (generation : Nat)
    (trigger : TransportRecoveryTrigger) : HostEnv :=
  if e.transportAutoRearmGeneration = generation ∨ generation ∈ e.transportRearmScheduled then e
  else
    { e with
      transportRearmScheduled := generation :: e.transportRearmScheduled
      rearmTimers := e.rearmTimers ++ [(generation, trigger)] }

def waitForRecoveryDevice (e : HostEnv) : HostEnv :=
  { e with
    transportRecovery := e.transportRecovery.waitForDevice
  }.syncTransportRecoveryStatus (some "transport_recovery_waiting_for_device")

def beginTransportRecoveryAttempt (e : HostEnv) :
    Option (Nat × Nat × TransportRecoveryTrigger) × HostEnv :=
  match e.transportRecovery.beginAttempt with
  | (none, recovery) => (none, { e with transportRecovery := recovery })
  | (some attempt, recovery) =>
      (some attempt,
        { e with transportRecovery := recovery }.syncTransportRecoveryStatus
          (some "transport_recovery_rebuilding"))

def finishTransportRecoveryAttempt (e : HostEnv) (generation : Nat) (succeeded : Bool) :
    Bool × HostEnv :=
  if e.transportRecovery.generation ≠ generation then (false, e)
  else
    let result := e.transportRecovery.finishAttempt generation succeeded
    (result.1,
      { e with transportRecovery := result.2 }.syncTransportRecoveryStatus
        (if succeeded then none
          else some (if result.1 then "transport_recovery_retry"
            else "transport_recovery_failed")))

def completeAuthenticatedTransportRecovery (e : HostEnv) : Bool × HostEnv :=
  match e.transportRecovery.complete with
  | (false, recovery) => (false, { e with transportRecovery := recovery })
  | (true, recovery) =>
      (true, { e with transportRecovery := recovery }.syncTransportRecoveryStatus none)

def expireTransportRecoveryControl (e : HostEnv) (generation attempt : Nat) :
    Option Bool × HostEnv :=
  match e.transportRecovery.expireControl generation attempt with
  | (none, recovery) => (none, { e with transportRecovery := recovery })
  | (some retry, recovery) =>
      let e := { e with transportRecovery := recovery }.syncTransportRecoveryStatus
        (some (if retry then "transport_recovery_control_retry"
          else "transport_recovery_control_failed"))
      (some retry, if retry then e.notifyOne else e)

def noteUsbDisconnected (e : HostEnv) : HostEnv :=
  if e.transportRecovery.trigger ≠ some .hostResume ∨ ¬ e.transportRequiresRecovery then
    { e with usbReconnectPending := true }
  else e

def notifyUsbReconnectedIfNeeded (e : HostEnv) : HostEnv :=
  if e.usbReconnectPending then
    { e with usbReconnectPending := false }.notifyTransportRecovery .usbReconnect
  else e

def recordMappingProbe (e : HostEnv) (durationUs : Nat) : HostEnv :=
  { e with
    mappingProbeCount := wrappingSucc e.mappingProbeCount
    mappingProbeLastUs := durationUs
    mappingProbeMaxUs := max e.mappingProbeMaxUs durationUs }

def beginSuppressRepairs (e : HostEnv) : HostEnv :=
  { e with
    stopping := true
    status := { e.status with active := false, repairSuppressed := true } }

def notifyStateChange (e : HostEnv) : HostEnv := e.notifyOne

def notifyAuthenticatedConnection (e : HostEnv) : HostEnv :=
  { e with authenticatedReconcile := true, reports := e.reports + 1 }.notifyOne

def retryAuthenticatedReconcileIfNeeded (e : HostEnv) : HostEnv :=
  if e.stopping ∨ e.snapshot.mappingsHealthy then e
  else { e with authenticatedReconcile := true }.notifyLater

def updateAndroidLiveness (e : HostEnv) (transition : AndroidLiveness → AndroidLiveness) :
    HostEnv :=
  { e with androidLiveness := transition e.androidLiveness }

def updateRelayGate (e : HostEnv) (snapshot : StateSnapshot) : HostEnv :=
  match snapshot.state with
  | .connected => e.relayGate .controlConnected
  | .degraded =>
      if snapshot.reason = some TRANSPORT_RECOVERY_REASON then
        e.relayGate .carrierLostAwaitingRecovery
      else if snapshot.reason = some CONTROL_TRANSPORT_LOST_REASON then
        e.relayGate .controlDegraded
      else e
  | .stopped | .stopping | .error => e.relayGate .controlInactive
  | .preparing => e

/-- The state observer that `HostRuntime::run` installs. -/
def observe (e : HostEnv) (snapshot : StateSnapshot) : HostEnv :=
  let e := e.updateRelayGate snapshot
  if snapshot.state = .connected then
    let rearmed := e.rearmFailedTransportFromAuthenticatedControl
    (if rearmed.1 then rearmed.2.relayGate .carrierHealthy
      else rearmed.2).notifyAuthenticatedConnection
  else e.notifyStateChange

end HostEnv

/-- The observers that `HostRuntime::run` installs. -/
def hostObservers : Observers HostEnv where
  state := fun snapshot e => e.observe snapshot
  suspend := fun e => e.relayGate .screenSuspended
  wake := fun e => (e.relayGate .authenticatedWake).notifyAuthenticatedConnection

end QuestVdWired.Host
