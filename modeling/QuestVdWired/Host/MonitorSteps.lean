import QuestVdWired.Host.HostRuntime

/-!
What a step of the monitor can do, as far as the carrier, the recovery and the
authentication flag are concerned. `HostEnv.view` is that part of the shared state,
each method of the monitor has one lemma about it, and `MonitorStep` lists the
outcomes of a step in these terms; the inversion theorem says that there are no
others.
-/

namespace QuestVdWired.Host

open Transition

/-- The part of the shared state that decides over the relay and the recovery. -/
structure HostView where
  stopping : Bool
  authenticatedReconcile : Bool
  recovery : TransportRecoverySnapshot
  healthy : Bool
  carrierHealthy : Bool
  controlAuthenticated : Bool
  reports : Nat
  since : Nat
  rebuilt : Nat
  mark : Option Nat

namespace HostEnv

def view (e : HostEnv) : HostView where
  stopping := e.stopping
  authenticatedReconcile := e.authenticatedReconcile
  recovery := e.transportRecovery
  healthy := e.status.healthy
  carrierHealthy := e.eligibility.carrierHealthy
  controlAuthenticated := e.eligibility.controlAuthenticated
  reports := e.reports
  since := e.since
  rebuilt := e.rebuilt
  mark := e.mark

variable (e : HostEnv)

@[simp] theorem notifyOne_view : e.notifyOne.view = e.view := rfl

@[simp] theorem notifyLater_view : e.notifyLater.view = e.view := rfl

@[simp] theorem updateAndroidLiveness_view (transition : AndroidLiveness → AndroidLiveness) :
    (e.updateAndroidLiveness transition).view = e.view := rfl

@[simp] theorem recordMappingProbe_view (durationUs : Nat) :
    (e.recordMappingProbe durationUs).view = e.view := rfl

@[simp] theorem noteUsbDisconnected_view : e.noteUsbDisconnected.view = e.view := by
  unfold noteUsbDisconnected
  split <;> rfl

@[simp] theorem scheduleTransportRecoveryRearm_view (generation : Nat)
    (trigger : TransportRecoveryTrigger) :
    (e.scheduleTransportRecoveryRearm generation trigger).view = e.view := by
  unfold scheduleTransportRecoveryRearm
  split <;> rfl

@[simp] theorem updateStatus_view (active deviceAvailable mappingsHealthy : Bool)
    (lastError : Option String) :
    (e.updateStatus active deviceAvailable mappingsHealthy lastError).view =
      { e.view with healthy := deviceAvailable && mappingsHealthy } := rfl

@[simp] theorem syncTransportRecoveryStatus_view (lastError : Option String) :
    (e.syncTransportRecoveryStatus lastError).view =
      { e.view with healthy := e.view.healthy && !e.view.recovery.requiresRecovery } := by
  simp [syncTransportRecoveryStatus, view, AdbMonitorSnapshot.healthy, Bool.and_assoc,
    eligibility]

@[simp] theorem notifyTransportRecovery_view (trigger : TransportRecoveryTrigger) :
    (e.notifyTransportRecovery trigger).view =
      { e.view with recovery := e.view.recovery.notify trigger, healthy := false } := by
  simp only [notifyTransportRecovery, notifyOne_view, syncTransportRecoveryStatus_view]
  simp [view, TransportRecoverySnapshot.notify, TransportRecoverySnapshot.renew,
    TransportRecoverySnapshot.requiresRecovery, eligibility]

@[simp] theorem notifyHostResume_view :
    e.notifyHostResume.view =
      { e.view with recovery := e.view.recovery.notify .hostResume, healthy := false } := by
  simp only [notifyHostResume, notifyTransportRecovery_view]
  rfl

theorem notifyUsbReconnectedIfNeeded_view :
    e.notifyUsbReconnectedIfNeeded.view = e.view ∨
      e.notifyUsbReconnectedIfNeeded.view =
        { e.view with recovery := e.view.recovery.notify .usbReconnect, healthy := false } := by
  unfold notifyUsbReconnectedIfNeeded
  split
  · simp only [notifyTransportRecovery_view]
    exact Or.inr rfl
  · exact Or.inl rfl

theorem rearmFailedTransport_view (generation : Nat) (trigger : TransportRecoveryTrigger) :
    (e.rearmFailedTransport generation trigger).view = e.view ∨
      (e.view.recovery.state = .failed ∧
        (e.rearmFailedTransport generation trigger).view =
          { e.view with recovery := e.view.recovery.renew trigger, healthy := false }) := by
  unfold rearmFailedTransport
  split
  · exact Or.inl rfl
  · rcases e.transportRecovery.rearmFailed_cases generation trigger with
      refused | ⟨_, failed, result⟩
    · rw [refused]
      exact Or.inl rfl
    · rw [result]
      refine Or.inr ⟨failed, ?_⟩
      simp only [notifyOne_view, syncTransportRecoveryStatus_view]
      simp [view, TransportRecoverySnapshot.renew, TransportRecoverySnapshot.requiresRecovery,
        eligibility]

@[simp] theorem waitForRecoveryDevice_view :
    e.waitForRecoveryDevice.view =
      { e.view with recovery := e.view.recovery.waitForDevice, healthy := false } := by
  simp only [waitForRecoveryDevice, syncTransportRecoveryStatus_view]
  simp [view, TransportRecoverySnapshot.waitForDevice,
    TransportRecoverySnapshot.requiresRecovery, eligibility]

@[simp] theorem carrierLost_view :
    (e.relayGate .carrierLost).view =
      { e.view with carrierHealthy := false, controlAuthenticated := false } := rfl

@[simp] theorem carrierLostAwaitingRecovery_view :
    (e.relayGate .carrierLostAwaitingRecovery).view =
      { e.view with carrierHealthy := false, controlAuthenticated := false } := rfl

@[simp] theorem carrierHealthy_view :
    (e.relayGate .carrierHealthy).view = { e.view with carrierHealthy := true } := rfl

@[simp] theorem controlInactiveAwaitingRecovery_view :
    (e.relayGate .controlInactiveAwaitingRecovery).view =
      { e.view with controlAuthenticated := false } := rfl

theorem screenSuspendedIfEpoch_view (epoch : Nat) :
    (e.relayGate (.screenSuspendedIfEpoch epoch)).view = e.view ∨
      (e.eligibility.controlEpoch = epoch ∧
        (e.relayGate (.screenSuspendedIfEpoch epoch)).view =
          { e.view with controlAuthenticated := false }) := by
  by_cases refused : e.relay.controller.eligibility.controlEpoch ≠ epoch ∨
      ¬ e.relay.controller.eligibility.controlAuthenticated
  · have same : e.relay.controller.screenSuspendedIfEpoch epoch = (e.relay.controller, false) :=
      if_pos refused
    left
    simp [relayGate, view, eligibility, RelayTimeline.step, RelayTimeline.next, same]
  · have moved : e.relay.controller.screenSuspendedIfEpoch epoch =
        (e.relay.controller.screenSuspended, true) := if_neg refused
    refine Or.inr ⟨Classical.not_not.mp (not_or.mp refused).1, ?_⟩
    simp [relayGate, view, eligibility, RelayTimeline.step, RelayTimeline.next, moved,
      RelayGateController.screenSuspended, RelayGateController.withdraw]

/-- An attempt is begun only from a state that requires recovery, and leaves one. -/
theorem beginTransportRecoveryAttempt_view
    (required : e.view.recovery.requiresRecovery = true) :
    ∃ recovery healthy, recovery.requiresRecovery = true ∧
      recovery.trigger = e.view.recovery.trigger ∧
      e.beginTransportRecoveryAttempt.2.view =
        { e.view with recovery := recovery, healthy := healthy } ∧
      (e.beginTransportRecoveryAttempt.1.isSome = true →
        recovery.state = .rebuildingMappings) := by
  have required : e.transportRecovery.requiresRecovery = true := required
  unfold beginTransportRecoveryAttempt
  unfold TransportRecoverySnapshot.beginAttempt
  split
  · rename_i recovery refused
    split at refused
    · cases refused
      exact ⟨_, _, required, rfl, rfl, by simp⟩
    · simp only [Prod.mk.injEq] at refused
      obtain ⟨_, rfl⟩ := refused
      refine ⟨{ e.transportRecovery with attempt := _, state := .rebuildingMappings }, _, rfl,
        rfl, rfl, by simp⟩
  · rename_i attempt recovery begun
    split at begun
    · cases begun
    · simp only [Prod.mk.injEq] at begun
      obtain ⟨_, rfl⟩ := begun
      simp only [syncTransportRecoveryStatus_view]
      exact ⟨{ e.transportRecovery with attempt := _, state := .rebuildingMappings }, _, rfl,
        rfl, rfl, fun _ => rfl⟩

theorem finishSucceeded_view (generation : Nat) :
    (e.finishTransportRecoveryAttempt generation true).2.view = e.view ∨
      (e.view.recovery.generation = generation ∧
        (e.finishTransportRecoveryAttempt generation true).2.view =
          { e.view with recovery := { e.view.recovery with state := .awaitingControl } }) := by
  unfold finishTransportRecoveryAttempt
  split
  · exact Or.inl rfl
  · rename_i current
    refine Or.inr ⟨Classical.not_not.mp current, ?_⟩
    simp only [TransportRecoverySnapshot.finishAttempt, current, if_false, if_true,
      syncTransportRecoveryStatus_view]
    simp [view, TransportRecoverySnapshot.requiresRecovery, eligibility]

theorem failAttempt_requiresRecovery (r : TransportRecoverySnapshot) :
    r.failAttempt.2.requiresRecovery = true ∧
      (r.failAttempt.2.state = .pending ∨ r.failAttempt.2.state = .failed) := by
  rcases r.failAttempt_cases with ⟨_, result⟩ | ⟨_, result⟩ <;>
    simp [result, TransportRecoverySnapshot.requiresRecovery]

theorem finishFailed_view {generation : Nat}
    (current : e.transportRecovery.generation = generation) :
    (e.finishTransportRecoveryAttempt generation false).2.view =
      { e.view with recovery := e.view.recovery.failAttempt.2, healthy := false } := by
  unfold finishTransportRecoveryAttempt
  simp only [current, ne_eq, not_true_eq_false, if_false,
    TransportRecoverySnapshot.finishAttempt, Bool.false_eq_true, syncTransportRecoveryStatus_view]
  have required := (failAttempt_requiresRecovery e.transportRecovery).1
  simp [view, required, eligibility]

theorem completeAuthenticatedTransportRecovery_view :
    (e.completeAuthenticatedTransportRecovery.1 = false ∧
        (e.view.recovery.state ≠ .awaitingControl ∨ e.view.recovery.trigger = none) ∧
        e.completeAuthenticatedTransportRecovery.2.view = e.view) ∨
      (e.view.recovery.state = .awaitingControl ∧
        e.completeAuthenticatedTransportRecovery.1 = true ∧
        e.completeAuthenticatedTransportRecovery.2.view =
          { e.view with recovery := { e.view.recovery with state := .recovered } }) := by
  unfold completeAuthenticatedTransportRecovery
  rcases e.transportRecovery.complete_cases with ⟨why, refused⟩ | ⟨awaiting, completed⟩
  · rw [refused]
    exact Or.inl ⟨rfl, why, rfl⟩
  · rw [completed]
    refine Or.inr ⟨awaiting, rfl, ?_⟩
    simp only [syncTransportRecoveryStatus_view]
    simp [view, TransportRecoverySnapshot.requiresRecovery, eligibility]

theorem expireTransportRecoveryControl_view (generation attempt : Nat) :
    (e.expireTransportRecoveryControl generation attempt).1 = none ∧
        (e.expireTransportRecoveryControl generation attempt).2.view = e.view ∨
      (e.view.recovery.state = .awaitingControl ∧
        (e.expireTransportRecoveryControl generation attempt).1.isSome = true ∧
        (e.expireTransportRecoveryControl generation attempt).2.view =
          { e.view with recovery := e.view.recovery.failAttempt.2, healthy := false }) := by
  unfold expireTransportRecoveryControl
  rcases e.transportRecovery.expireControl_cases generation attempt with
    refused | ⟨_, _, awaiting, expired⟩
  · rw [refused]
    exact Or.inl ⟨rfl, rfl⟩
  · rw [expired]
    refine Or.inr ⟨awaiting, rfl, ?_⟩
    have required := (failAttempt_requiresRecovery e.transportRecovery).1
    dsimp only
    split <;>
      (simp only [notifyOne_view, syncTransportRecoveryStatus_view]
       simp [view, required, eligibility])

theorem retryAuthenticatedReconcileIfNeeded_view :
    e.retryAuthenticatedReconcileIfNeeded.view = e.view ∨
      e.retryAuthenticatedReconcileIfNeeded.view =
        { e.view with authenticatedReconcile := true } := by
  unfold retryAuthenticatedReconcileIfNeeded
  split
  · exact Or.inl rfl
  · exact Or.inr rfl

/-- A Connected report: the lane is authenticated and the flag raised, and a failed
recovery may be rearmed. -/
theorem observe_connected_view {snapshot : StateSnapshot}
    (connected : snapshot.state = .connected) :
    (e.observe snapshot).view =
        { e.view with
          controlAuthenticated := true
          authenticatedReconcile := true
          reports := e.view.reports + 1 } ∨
      (e.view.recovery.state = .failed ∧
        ∃ recovery : TransportRecoverySnapshot, recovery.state = .awaitingControl ∧
          recovery.trigger.isSome = true ∧
          (e.observe snapshot).view =
            { e.view with
              controlAuthenticated := true
              authenticatedReconcile := true
              recovery := recovery
              healthy := true
              carrierHealthy := true
              reports := e.view.reports + 1
              since := e.view.reports
              rebuilt := recovery.generation
              mark := none }) := by
  unfold observe rearmFailedTransportFromAuthenticatedControl
  simp only [updateRelayGate, connected, if_true]
  split
  · exact Or.inl rfl
  · rcases e.transportRecovery.rearmAuthenticated_cases with
      refused | ⟨failed, trigger, known, result⟩
    · have same : (e.relayGate .controlConnected).transportRecovery.rearmAuthenticated =
          (none, e.transportRecovery) := refused
      rw [same]
      exact Or.inl rfl
    · have same : (e.relayGate .controlConnected).transportRecovery.rearmAuthenticated = _ :=
        result
      rw [same]
      refine Or.inr ⟨failed, { e.transportRecovery with
        generation := wrappingSucc e.transportRecovery.generation
        attempt := 1
        state := .awaitingControl }, rfl, ?_, rfl⟩
      exact congrArg Option.isSome known

/-- Any other report leaves everything but the relay alone. -/
theorem observe_other_view {snapshot : StateSnapshot} (other : snapshot.state ≠ .connected) :
    ∃ carrier authenticated, (e.observe snapshot).view =
      { e.view with carrierHealthy := carrier, controlAuthenticated := authenticated } := by
  unfold observe
  simp only [other, if_false]
  unfold updateRelayGate
  split
  · exact ⟨_, _, rfl⟩
  · split
    · exact ⟨_, _, rfl⟩
    · split <;> exact ⟨_, _, rfl⟩
  · exact ⟨_, _, rfl⟩
  · exact ⟨_, _, rfl⟩
  · exact ⟨_, _, rfl⟩
  · exact ⟨_, _, rfl⟩

theorem suspend_view :
    (hostObservers.suspend e).view = { e.view with controlAuthenticated := false } := rfl

theorem wake_view :
    (hostObservers.wake e).view =
      { e.view with authenticatedReconcile := true, reports := e.view.reports + 1 } := rfl

end HostEnv

namespace Monitor
variable (e : HostEnv)

theorem takeAuthenticated_view {forced completed : Bool} {e' : HostEnv}
    (taken : takeAuthenticated e = (forced, completed, e')) :
    forced = e.view.authenticatedReconcile ∧
      ((completed = false ∧ (forced = true → e.view.recovery.state ≠ .awaitingControl ∨
            e.view.recovery.trigger = none) ∧
          e'.view = { e.view with authenticatedReconcile := false }) ∨
        (completed = true ∧ forced = true ∧ e.view.recovery.state = .awaitingControl ∧
          e'.view = { e.view with
            authenticatedReconcile := false
            recovery := { e.view.recovery with state := .recovered } })) := by
  unfold takeAuthenticated at taken
  cases raised : e.authenticatedReconcile with
  | false =>
      simp only [raised] at taken
      cases taken
      exact ⟨raised.symm, Or.inl ⟨rfl, by simp, rfl⟩⟩
  | true =>
      simp only [raised, if_true, Prod.mk.injEq] at taken
      obtain ⟨rfl, result⟩ := taken
      refine ⟨raised.symm, ?_⟩
      have cases := HostEnv.completeAuthenticatedTransportRecovery_view
        { e with authenticatedReconcile := false }
      rw [result] at cases
      rcases cases with ⟨refused, why, same⟩ | ⟨awaiting, done, same⟩
      · exact Or.inl ⟨refused, fun _ => why, same⟩
      · exact Or.inr ⟨done, rfl, awaiting, same⟩

end Monitor

namespace MonitorPc

/-- The monitor is on its way to bring the carrier flag and the status together. -/
def repairs : MonitorPc → Bool
  | .reconciling true _ _ | .admitted .. | .probing .. | .repairing .. | .verifying ..
  | .restartStep _ | .restartReset _ => true
  | _ => false

/-- The monitor works on a recovery attempt. -/
def rebuilds : MonitorPc → Bool
  | .recovering .. | .rebuilding .. | .resetting .. => true
  | _ => false

/-- The monitor waits for the reset of a successful rebuild. -/
def resets : MonitorPc → Bool
  | .resetting .. => true
  | _ => false

/-- The monitor is in a reconciliation that a flag forced. -/
def forced : MonitorPc → Bool
  | .reconciling _ forced _ | .admitted _ forced _ | .probing _ forced _
  | .repairing _ forced _ | .verifying forced _ | .losing _ forced _
  | .sleepProbing _ forced _ | .reconciled forced _ => forced
  | _ => false

/-- The tracker failed and the lifecycle is not read yet. -/
def losesTrack : MonitorPc → Bool
  | .trackLost _ => true
  | _ => false

/-- The status the monitor will restore if the device is confirmed is healthy. -/
def presumes : MonitorPc → Bool
  | .confirming previous _ => previous.healthy
  | _ => false

end MonitorPc

namespace Monitor

/-- The step completes an authenticated recovery. -/
def completes (m : Monitor) (e : HostEnv) : MonitorAction → Bool
  | .tick => m.pc = .selecting && (takeAuthenticated e).2.1
  | .changed => m.pc = .selecting && (takeAuthenticated e).2.1
  | .update =>
      match m.pc with
      | .updating (available :: _) =>
          (takeAuthenticated (if available then e.notifyUsbReconnectedIfNeeded else e)).2.1
      | _ => false
  | _ => false

/-- The step has withdrawn the carrier and finds the loss recorded that it is about
to record. -/
def repeatsLoss (m : Monitor) (e : HostEnv) (lifecycle : HostState) : MonitorAction → Bool
  | .lifecycle _ =>
      lifecycle.isActive &&
        match m.pc with
        | .trackLost category => lossRecorded e false category
        | .reconciling false _ _ => lossRecorded e false "device_unavailable"
        | _ => false
  | .command false =>
      match m.pc with
      | .repairing .. | .verifying .. => lossRecorded e true "mapping_repair_failed"
      | _ => false
  | _ => false

end Monitor

/-- The outcomes of a step of the monitor. Where the source looks at the stop flag,
the outcome says what holds while it is not set. -/
inductive MonitorStep (m : Monitor) (e : HostEnv) (lifecycle : HostState)
    (calls : Nat → Option (Option Nat)) (call : Nat) (action : MonitorAction) :
    HostEnv → MonitorPc → Option ControlAction → Prop
  | moved {e' : HostEnv} {pc : MonitorPc} (view : e'.view = e.view)
      (keeps : e.view.stopping = true ∨
        ((m.pc.repairs = true → pc.repairs = true) ∧ m.pc.losesTrack = false))
      (forced : pc.forced = true → m.pc.forced = true)
      (rebuilds : pc.rebuilds = true → m.pc.rebuilds = true)
      (plain : pc.resets = false ∧ pc.presumes = false) :
      MonitorStep m e lifecycle calls call action e' pc none
  | confirming {previous : AdbMonitorSnapshot} {category : String}
      (plain : m.pc.repairs = false ∧ m.pc.losesTrack = false)
      (same : previous.healthy = e.view.healthy) :
      MonitorStep m e lifecycle calls call action e (.confirming previous category) none
  | confirmed {e' : HostEnv} {previous : AdbMonitorSnapshot} {category : String}
      (pc : m.pc = .confirming previous category)
      (view : e'.view = { e.view with healthy := previous.healthy }) :
      MonitorStep m e lifecycle calls call action e' .backingOff none
  | trackLost {e' : HostEnv} {category : String}
      (view : e'.view = { e.view with
        healthy := false
        carrierHealthy := false
        controlAuthenticated := false }) :
      MonitorStep m e lifecycle calls call action e' (.trackLost category) none
  | reported {e' : HostEnv} {pc : MonitorPc}
      (view : e'.view = { e.view with healthy := false })
      (lost : m.pc.losesTrack = false ∨ lifecycle.isActive = false ∨
        m.repeatsLoss e lifecycle action = true)
      (forced : pc.forced = true → m.pc.forced = true)
      (plain : pc.rebuilds = false ∧ pc.resets = false ∧ pc.presumes = false) :
      MonitorStep m e lifecycle calls call action e' pc none
  | lost {e' : HostEnv} {pc : MonitorPc} {reason : String} (carrier authenticated : Bool)
      (view : e'.view = { e.view with
        healthy := false
        carrierHealthy := carrier
        controlAuthenticated := authenticated })
      (forced : pc.forced = true → m.pc.forced = true) (plain : pc.rebuilds = false) :
      MonitorStep m e lifecycle calls call action e' pc (some (.transportLost reason))
  | recorded {e' : HostEnv} {pc : MonitorPc} (carrier authenticated : Bool)
      (repeats : m.repeatsLoss e lifecycle action = true)
      (view : e'.view = { e.view with
        carrierHealthy := carrier
        controlAuthenticated := authenticated })
      (forced : pc.forced = true → m.pc.forced = true) (plain : pc.rebuilds = false) :
      MonitorStep m e lifecycle calls call action e' pc none
  | repeated {e' : HostEnv} {pc : MonitorPc} (view : e'.view = e.view)
      (unhealthy : e.view.healthy = false) (track : m.pc.losesTrack = false)
      (forced : pc.forced = true → m.pc.forced = true)
      (plain : pc.rebuilds = false ∧ pc.resets = false ∧ pc.presumes = false) :
      MonitorStep m e lifecycle calls call action e' pc none
  | unavailable {e' : HostEnv} {pc : MonitorPc} (inactive : lifecycle.isActive = false)
      (view : e'.view = { e.view with
        healthy := false
        carrierHealthy := false
        controlAuthenticated := false })
      (forced : pc.forced = true → m.pc.forced = true) (plain : pc.rebuilds = false) :
      MonitorStep m e lifecycle calls call action e' pc none
  | healed {e' : HostEnv} {pc : MonitorPc}
      (view : e'.view = { e.view with healthy := true, carrierHealthy := true })
      (plain : m.pc.resets = false ∧ m.pc.losesTrack = false)
      (forced : pc.forced = true → m.pc.forced = true)
      (settled : pc.rebuilds = false ∧ pc.resets = false) :
      MonitorStep m e lifecycle calls call action e' pc none
  | slept {e' : HostEnv} {epoch : Nat} {forced : Bool} {next : MonitorTask}
      (pc : m.pc = .sleepProbing epoch forced next)
      (current : e.eligibility.controlEpoch = epoch)
      (view : e'.view = { e.view with controlAuthenticated := false }) :
      MonitorStep m e lifecycle calls call action e' (.reconciled forced next) none
  | retried {e' : HostEnv} {pc : MonitorPc} (was : m.pc.forced = true)
      (plain : m.pc.losesTrack = false)
      (view : e'.view = { e.view with authenticatedReconcile := true })
      (settled : pc.forced = false ∧ pc.rebuilds = false ∧ pc.resets = false ∧
        pc.presumes = false) :
      MonitorStep m e lifecycle calls call action e' pc none
  | completed {e' : HostEnv} {pc : MonitorPc} (completes : m.completes e action = true)
      (raised : e.view.authenticatedReconcile = true)
      (awaiting : e.view.recovery.state = .awaitingControl)
      (plain : m.pc.losesTrack = false)
      (view : e'.view = { e.view with
        authenticatedReconcile := false
        recovery := { e.view.recovery with state := .recovered } })
      (settled : pc.forced = false ∧ pc.rebuilds = false ∧ pc.resets = false ∧
        pc.presumes = false) :
      MonitorStep m e lifecycle calls call action e' pc none
  | recovers {e' : HostEnv} {pc : MonitorPc} {recovery : TransportRecoverySnapshot}
      (healthy carrier authenticated : Bool)
      (required : recovery.requiresRecovery = true)
      (view : e'.view = { e.view with
        authenticatedReconcile := false
        recovery := recovery
        healthy := healthy
        carrierHealthy := carrier
        controlAuthenticated := authenticated })
      (trigger : (e.view.recovery.state ≠ .idle → e.view.recovery.trigger.isSome = true) →
        recovery.trigger.isSome = true)
      (rebuilds : pc.rebuilds = true → recovery.state = .rebuildingMappings)
      (plain : pc.forced = false ∧ pc.resets = false) :
      MonitorStep m e lifecycle calls call action e' pc none
  | reconciles {e' : HostEnv} {pc : MonitorPc}
      (idle : e.view.recovery.requiresRecovery = false)
      (plain : m.pc.repairs = false ∧ m.pc.losesTrack = false)
      (view : e'.view = { e.view with authenticatedReconcile := false })
      (taken : e.view.stopping = true ∨ e.view.authenticatedReconcile = false ∨
        pc.repairs = true)
      (forced : pc.forced = true → e.view.recovery.state ≠ .awaitingControl ∨
        e.view.recovery.trigger = none)
      (settled : pc.rebuilds = false ∧ pc.resets = false ∧ pc.presumes = false) :
      MonitorStep m e lifecycle calls call action e' pc none
  | rebuildFailed {e' : HostEnv} {pc : MonitorPc} (was : m.pc.rebuilds = true)
      (view : e'.view = { e.view with
        recovery := e.view.recovery.failAttempt.2
        healthy := false
        carrierHealthy := false
        controlAuthenticated := false })
      (settled : pc.forced = false ∧ pc.rebuilds = false ∧ pc.resets = false) :
      MonitorStep m e lifecycle calls call action e' pc none
  | resets {e' : HostEnv} {pc : MonitorPc}
      (view : e'.view = { e.view with controlAuthenticated := false })
      (forced : pc.forced = false)
      (rebuilds : pc.rebuilds = true → m.pc.rebuilds = true)
      (waits : pc.resets = true →
        ∃ generation attempt trigger next, pc = .resetting call generation attempt trigger next) :
      MonitorStep m e lifecycle calls call action e' pc
        (some (.resetTransport TRANSPORT_RECOVERY_REASON))
  | reset {e' : HostEnv} {pc : MonitorPc} {waiting generation attempt : Nat}
      {trigger : TransportRecoveryTrigger} {next : MonitorTask} {mark : Option Nat}
      (was : m.pc = .resetting waiting generation attempt trigger next)
      (taken : action = .called) (returned : calls waiting = some mark)
      (state : TransportRecoveryState)
      (finished : state = e.view.recovery.state ∨
        (state = .awaitingControl ∧ e.view.recovery.generation = generation))
      (view : e'.view = { e.view with
        recovery := { e.view.recovery with state := state }
        healthy := true
        carrierHealthy := true
        since := e.view.reports
        rebuilt := generation
        mark := mark })
      (settled : pc.forced = false ∧ pc.rebuilds = false ∧ pc.resets = false) :
      MonitorStep m e lifecycle calls call action e' pc none
  | restartLost {e' : HostEnv} {pc : MonitorPc} {suspended : Bool}
      (was : m.pc = .restartStatus) (taken : action = .androidStatus suspended)
      (view : e'.view = { e.view with carrierHealthy := false, controlAuthenticated := false })
      (keeps : e.view.stopping = true ∨ pc.repairs = true)
      (settled : pc.forced = false ∧ pc.rebuilds = false ∧ pc.resets = false ∧
        pc.presumes = false) :
      MonitorStep m e lifecycle calls call action e' pc none

/-- The monitor goes back to its loop with `e` as it is. -/
structure Segment.Rests (segment : Segment) (e : HostEnv) : Prop where
  env : segment.env = e
  call : segment.call = none
  forced : segment.monitor.pc.forced = false
  rebuilds : segment.monitor.pc.rebuilds = false
  resets : segment.monitor.pc.resets = false
  presumes : segment.monitor.pc.presumes = false

namespace Monitor
variable {m m' : Monitor} {e e' : HostEnv} {lifecycle : HostState}
  {calls : Nat → Option (Option Nat)} {call : Nat} {action : MonitorAction}

theorem loopEnd_rests : (m.loopEnd e).Rests e := by
  unfold loopEnd
  constructor <;> (try rfl) <;> (simp only [goto]; split <;> rfl)

theorem superviseAndroid_rests : (m.superviseAndroid e).Rests e := by
  unfold superviseAndroid
  split
  · exact loopEnd_rests
  · constructor <;> rfl

theorem proceed_rests (next : MonitorTask) : (m.proceed e next).Rests e := by
  cases next with
  | updates rest => constructor <;> rfl
  | tick => exact superviseAndroid_rests
  | changed => exact loopEnd_rests

/-- A segment, by what it leaves behind. -/
def Steps (m : Monitor) (e : HostEnv) (lifecycle : HostState)
    (calls : Nat → Option (Option Nat)) (call : Nat) (action : MonitorAction)
    (segment : Segment) : Prop :=
  MonitorStep m e lifecycle calls call action segment.env segment.monitor.pc segment.call

theorem steps_of_rests {segment : Segment} (rests : segment.Rests e')
    (step : MonitorStep m e lifecycle calls call action e' segment.monitor.pc none) :
    m.Steps e lifecycle calls call action segment := by
  unfold Steps
  rw [rests.env, rests.call]
  exact step

/-- Back to the loop without a trace. -/
theorem moved_of_rests {segment : Segment} (rests : segment.Rests e')
    (view : e'.view = e.view)
    (keeps : e.view.stopping = true ∨ (m.pc.repairs = false ∧ m.pc.losesTrack = false)) :
    m.Steps e lifecycle calls call action segment := by
  refine steps_of_rests rests (.moved view ?_ (by simp [rests.forced]) (by simp [rests.rebuilds])
    ⟨rests.resets, rests.presumes⟩)
  refine keeps.imp_right fun ⟨repairs, loses⟩ => ⟨by simp [repairs], loses⟩

theorem reported_of_rests {segment : Segment} (rests : segment.Rests e')
    (view : e'.view = { e.view with healthy := false }) (loses : m.pc.losesTrack = false) :
    m.Steps e lifecycle calls call action segment :=
  steps_of_rests rests (.reported view (Or.inl loses) (by simp [rests.forced])
    ⟨rests.rebuilds, rests.resets, rests.presumes⟩)

theorem recordLoss_steps {deviceAvailable : Bool} {category : String} {waiting : MonitorPc}
    {onward : Segment} (carrier authenticated : Bool)
    (view : e'.view = { e.view with
      carrierHealthy := carrier
      controlAuthenticated := authenticated })
    (forced : waiting.forced = true → m.pc.forced = true) (plain : waiting.rebuilds = false)
    (unchanged : lossRecorded e' deviceAvailable category = true →
      m.Steps e lifecycle calls call action onward) :
    m.Steps e lifecycle calls call action
      (m'.recordLoss e' deviceAvailable category waiting onward) := by
  unfold recordLoss
  split
  · exact unchanged ‹_›
  · refine .lost carrier authenticated ?_ forced plain
    rw [HostEnv.updateStatus_view, view]
    simp

theorem lossRecorded_relayGate (event : RelayEvent) (deviceAvailable : Bool)
    (category : String) :
    lossRecorded (e.relayGate event) deviceAvailable category =
      lossRecorded e deviceAvailable category := rfl

theorem healthy_of_lossRecorded {deviceAvailable : Bool} {category : String}
    (recorded : lossRecorded e deviceAvailable category = true) : e.view.healthy = false := by
  have same := of_decide_eq_true recorded
  simp [HostEnv.view, same, AdbMonitorSnapshot.healthy, HostEnv.nextStatus]

theorem lossRecorded_noteUsbDisconnected (deviceAvailable : Bool) (category : String) :
    lossRecorded e.noteUsbDisconnected deviceAvailable category =
      lossRecorded e deviceAvailable category := by
  unfold HostEnv.noteUsbDisconnected
  split <;> rfl

theorem trackFailed_steps {category : String}
    (plain : m.pc.repairs = false ∧ m.pc.losesTrack = false) :
    m.Steps e lifecycle calls call action (m.trackFailed e category) := by
  unfold trackFailed
  split
  · exact .confirming plain rfl
  · exact .trackLost (by simp [trackLost, goto])

theorem onTrackLost_steps {category : String} {now : Instant} (pc : m.pc = .trackLost category) :
    m.Steps e lifecycle calls call (.lifecycle now)
      (m.onTrackLost e call category lifecycle) := by
  unfold onTrackLost
  split
  · rename_i active
    refine recordLoss_steps e.view.carrierHealthy e.view.controlAuthenticated (by simp)
      (by simp [MonitorPc.forced]) rfl ?_
    intro recorded
    rw [lossRecorded_noteUsbDisconnected] at recorded
    refine .reported (by simp [trackReported, goto]) (Or.inr (Or.inr ?_))
      (by simp [trackReported, goto, MonitorPc.forced]) ⟨rfl, rfl, rfl⟩
    simp [repeatsLoss, pc, active, recorded]
  · rename_i inactive
    exact .reported (by simp [trackReported, goto]) (Or.inr (Or.inl (by simpa using inactive)))
      (by simp [trackReported, goto, MonitorPc.forced]) ⟨rfl, rfl, rfl⟩

theorem onReconcile_steps {deviceAvailable forced : Bool} {next : MonitorTask} {now : Instant}
    (pc : m.pc = .reconciling deviceAvailable forced next) :
    m.Steps e lifecycle calls call (.lifecycle now)
      (m.onReconcile e call deviceAvailable forced next lifecycle) := by
  unfold onReconcile
  cases deviceAvailable with
  | true =>
      simp only [if_true]
      split
      · exact .moved rfl (Or.inr ⟨fun _ => rfl, by rw [pc]; rfl⟩)
          (by simp [pc, goto, MonitorPc.forced]) (by simp [goto, MonitorPc.rebuilds]) ⟨rfl, rfl⟩
      · exact .reported (by simp [goto]) (Or.inl (by rw [pc]; rfl))
          (by simp [pc, goto, MonitorPc.forced]) ⟨rfl, rfl, rfl⟩
  | false =>
      simp only [Bool.false_eq_true, if_false]
      split
      · rename_i active
        refine recordLoss_steps false false (by simp) (by simp [pc, MonitorPc.forced]) rfl ?_
        intro recorded
        rw [lossRecorded_relayGate, lossRecorded_noteUsbDisconnected] at recorded
        refine .recorded false false ?_ (by simp [goto]) (by simp [pc, goto, MonitorPc.forced]) rfl
        simp [repeatsLoss, pc, active, recorded]
      · rename_i inactive
        exact .unavailable (by simpa using inactive) (by simp [goto])
          (by simp [pc, goto, MonitorPc.forced]) rfl

theorem repairFailed_steps {forced : Bool} {next : MonitorTask} (own : m.pc.forced = forced)
    (repairing : (∃ missing, m.pc = .repairing missing forced next) ∨
      m.pc = .verifying forced next) :
    m.Steps e lifecycle calls call (.command false) (m.repairFailed e call forced next) := by
  refine recordLoss_steps false false (by simp) (fun h => own.trans h) rfl ?_
  intro recorded
  rw [lossRecorded_relayGate] at recorded
  refine .recorded false false ?_ (by simp [goto]) (fun h => own.trans h) rfl
  rcases repairing with ⟨_, pc⟩ | pc <;> simp [repeatsLoss, pc, recorded]

theorem repair_steps {missing : Nat} {forced : Bool} {next : MonitorTask}
    (own : m.pc.forced = forced) (track : m.pc.losesTrack = false) (view : e'.view = e.view) :
    m.Steps e lifecycle calls call action (m.repair e' missing forced next) := by
  have same : e'.stopping = e.stopping := congrArg HostView.stopping view
  unfold repair
  split
  · rename_i stopping
    exact .moved view (Or.inl (same.symm.trans stopping)) (fun h => own.trans h)
      (by simp [goto, MonitorPc.rebuilds]) ⟨rfl, rfl⟩
  · cases missing with
    | zero =>
        exact .moved view (Or.inr ⟨fun _ => rfl, track⟩) (fun h => own.trans h)
          (by simp [goto, MonitorPc.rebuilds]) ⟨rfl, rfl⟩
    | succ missing =>
        exact .moved view (Or.inr ⟨fun _ => rfl, track⟩) (fun h => own.trans h)
          (by simp [goto, MonitorPc.rebuilds]) ⟨rfl, rfl⟩

theorem onRepair_steps {missing : Nat} {forced : Bool} {next : MonitorTask} {succeeded : Bool}
    (pc : m.pc = .repairing missing forced next) :
    m.Steps e lifecycle calls call (.command succeeded)
      (m.onRepair e call missing forced next succeeded) := by
  have own : m.pc.forced = forced := by rw [pc]; rfl
  have track : m.pc.losesTrack = false := by rw [pc]; rfl
  unfold onRepair
  cases succeeded with
  | true => exact repair_steps own track rfl
  | false =>
      simp only [Bool.false_eq_true, if_false]
      split
      · rename_i stopping
        exact .moved rfl (Or.inl stopping) (fun h => own.trans h)
          (by simp [goto, MonitorPc.rebuilds]) ⟨rfl, rfl⟩
      · exact repairFailed_steps own (Or.inl ⟨missing, pc⟩)

theorem reconcileAndroidSleep_steps {forced : Bool} {next : MonitorTask}
    (own : m.pc.forced = forced) (plain : m.pc.resets = false ∧ m.pc.losesTrack = false)
    (view : e'.view = { e.view with healthy := true, carrierHealthy := true }) :
    m.Steps e lifecycle calls call action (m.reconcileAndroidSleep e' forced next) := by
  unfold reconcileAndroidSleep
  split
  · exact .healed view plain (fun h => own.trans h) ⟨rfl, rfl⟩
  · split
    · exact .healed view plain (fun h => own.trans h) ⟨rfl, rfl⟩
    · exact .healed view plain (fun h => own.trans h) ⟨rfl, rfl⟩

theorem onProbe_steps {probe : MappingProbe} {durationUs : Nat} {seen : HostState}
    {forced : Bool} {next : MonitorTask} (pc : m.pc = .probing seen forced next) :
    m.Steps e lifecycle calls call (.health probe durationUs)
      (m.onProbe e call seen forced next durationUs probe) := by
  have own : m.pc.forced = forced := by rw [pc]; rfl
  have track : m.pc.losesTrack = false := by rw [pc]; rfl
  have resets : m.pc.resets = false := by rw [pc]; rfl
  cases probe with
  | healthy =>
      unfold onProbe
      dsimp only
      split
      · exact reconcileAndroidSleep_steps own ⟨resets, track⟩ (by simp)
      · exact .healed (by simp [goto]) ⟨resets, track⟩ (fun h => own.trans h)
          ⟨rfl, rfl⟩
  | missing others => exact repair_steps own track (by simp)
  | failed | workerFailed =>
      refine recordLoss_steps e.view.carrierHealthy e.view.controlAuthenticated (by simp)
        (fun h => own.trans h) rfl ?_
      intro recorded
      have unhealthy := healthy_of_lossRecorded recorded
      rw [HostEnv.recordMappingProbe_view] at unhealthy
      exact .repeated (by simp [goto]) unhealthy track
        (fun h => own.trans h) ⟨rfl, rfl, rfl⟩

theorem rebuildFailed_steps {generation : Nat} {trigger : TransportRecoveryTrigger}
    {next : MonitorTask} (was : m.pc.rebuilds = true)
    (current : e.transportRecovery.generation = generation) :
    m.Steps e lifecycle calls call action (m.rebuildFailed e generation trigger next) := by
  have finished : ((e.relayGate .carrierLost).finishTransportRecoveryAttempt generation
      false).2.view = { e.view with
        recovery := e.view.recovery.failAttempt.2
        healthy := false
        carrierHealthy := false
        controlAuthenticated := false } := by
    rw [HostEnv.finishFailed_view (e.relayGate .carrierLost) current]
    simp
  unfold rebuildFailed
  refine steps_of_rests (proceed_rests next) (.rebuildFailed was ?_
    ⟨(proceed_rests next).forced, (proceed_rests next).rebuilds, (proceed_rests next).resets⟩)
  split
  · rw [HostEnv.notifyLater_view, HostEnv.updateStatus_view, finished]
    simp
  · rw [HostEnv.scheduleTransportRecoveryRearm_view, HostEnv.updateStatus_view, finished]
    simp

theorem onRebuilt_steps {generation attempt : Nat} {trigger : TransportRecoveryTrigger}
    {next : MonitorTask} {succeeded : Bool}
    (pc : m.pc = .rebuilding generation attempt trigger next) :
    m.Steps e lifecycle calls call (.command succeeded)
      (m.onRebuilt e call generation attempt trigger next succeeded) := by
  unfold onRebuilt
  split
  · exact moved_of_rests (proceed_rests next) rfl (Or.inr ⟨by rw [pc]; rfl, by rw [pc]; rfl⟩)
  · rename_i current
    have current := Classical.not_not.mp current
    cases succeeded with
    | true =>
        exact .resets (by simp) rfl (fun _ => by rw [pc]; rfl) fun _ => ⟨_, _, _, _, rfl⟩
    | false => exact rebuildFailed_steps (by rw [pc]; rfl) current

theorem onReset_steps {waiting generation attempt : Nat} {trigger : TransportRecoveryTrigger}
    {next : MonitorTask} {mark : Option Nat}
    (pc : m.pc = .resetting waiting generation attempt trigger next)
    (returned : calls waiting = some mark) :
    m.Steps e lifecycle calls call .called
      (m.onReset e generation attempt trigger next mark) := by
  unfold onReset
  dsimp only
  generalize counted : ({ e with
    reconnectGeneration := wrappingSucc e.reconnectGeneration } : HostEnv) = e₁
  have same : e₁.view = e.view := by rw [← counted]; rfl
  rcases HostEnv.finishSucceeded_view e₁ generation with stale | ⟨current, finished⟩
  · refine steps_of_rests (proceed_rests next) (.reset pc rfl returned e.view.recovery.state
      (Or.inl rfl) ?_
      ⟨(proceed_rests next).forced, (proceed_rests next).rebuilds, (proceed_rests next).resets⟩)
    show { (HostEnv.relayGate (HostEnv.updateStatus _ _ _ _ _) _).view with
      since := (e₁.finishTransportRecoveryAttempt generation true).2.view.reports
      rebuilt := generation
      mark := mark } = _
    rw [HostEnv.carrierHealthy_view, HostEnv.updateStatus_view, stale, same]
    simp
  · refine steps_of_rests (proceed_rests next) (.reset pc rfl returned .awaitingControl
      (Or.inr ⟨rfl, same ▸ current⟩) ?_
      ⟨(proceed_rests next).forced, (proceed_rests next).rebuilds, (proceed_rests next).resets⟩)
    show { (HostEnv.relayGate (HostEnv.updateStatus _ _ _ _ _) _).view with
      since := (e₁.finishTransportRecoveryAttempt generation true).2.view.reports
      rebuilt := generation
      mark := mark } = _
    rw [HostEnv.carrierHealthy_view, HostEnv.updateStatus_view, finished, same]
    simp

theorem not_idle_of_requiresRecovery {r : TransportRecoverySnapshot}
    (required : r.requiresRecovery = true) : r.state ≠ .idle := by
  intro idle
  simp [TransportRecoverySnapshot.requiresRecovery, idle] at required

/-- `recover_transport`, once the flag is taken and a reconnect has been noted. -/
theorem recoverTransport_steps {deviceAvailable : Bool} {next : MonitorTask}
    {segment : Segment} {recovery : TransportRecoverySnapshot} {healthy : Bool}
    (view : e'.view = { e.view with
      authenticatedReconcile := false
      recovery := recovery
      healthy := healthy })
    (trigger : (e.view.recovery.state ≠ .idle → e.view.recovery.trigger.isSome = true) →
      recovery.state ≠ .idle → recovery.trigger.isSome = true)
    (taken : m'.recoverTransport e' deviceAvailable next = some segment) :
    m.Steps e lifecycle calls call action segment := by
  have same : e'.view.recovery = recovery := by rw [view]
  have rests : ∀ e, (m'.proceed e next).Rests e := fun _ => proceed_rests next
  unfold recoverTransport at taken
  split at taken
  · cases taken
  · rename_i required
    have required : e'.transportRequiresRecovery = true := by simpa using required
    have required : e'.view.recovery.requiresRecovery = true := required
    have required' : recovery.requiresRecovery = true := same ▸ required
    have trigger := fun wf => trigger wf (not_idle_of_requiresRecovery required')
    split at taken
    · cases taken
      exact steps_of_rests (rests e') (.recovers healthy e.view.carrierHealthy
        e.view.controlAuthenticated required' (by rw [view]) trigger
        (by simp [(rests e').rebuilds]) ⟨(rests e').forced, (rests e').resets⟩)
    · split at taken
      · cases taken
        refine steps_of_rests (rests _) (@MonitorStep.recovers _ _ _ _ _ _ _ _
          recovery.waitForDevice false false false rfl ?_ trigger
          (by simp [(rests _).rebuilds]) ⟨(rests _).forced, (rests _).resets⟩)
        simp [view]
      · obtain ⟨begun, healthy', requires, kept, after, rebuilding⟩ :=
          HostEnv.beginTransportRecoveryAttempt_view e' required
        have kept : begun.trigger = recovery.trigger := kept.trans (by rw [same])
        split at taken
        · rename_i e₁ refused
          cases taken
          rw [refused] at after
          exact steps_of_rests (rests _) (.recovers healthy' e.view.carrierHealthy
            e.view.controlAuthenticated requires (by rw [after, view])
            (fun wf => kept ▸ trigger wf) (by simp [(rests _).rebuilds])
            ⟨(rests _).forced, (rests _).resets⟩)
        · rename_i generation attempt why e₁ found
          cases taken
          rw [found] at after rebuilding
          refine .recovers false false false requires ?_ (fun wf => kept ▸ trigger wf)
            (fun _ => rebuilding rfl) ⟨rfl, rfl⟩
          simp [goto, after, view]

theorem recoverTransport_none {deviceAvailable : Bool} {next : MonitorTask}
    (taken : m.recoverTransport e deviceAvailable next = none) :
    e.view.recovery.requiresRecovery = false := by
  unfold recoverTransport at taken
  split at taken
  · rename_i idle
    have idle : e.transportRequiresRecovery = false := by simpa using idle
    exact idle
  · split at taken
    · cases taken
    · split at taken
      · cases taken
      · split at taken <;> cases taken

/-- What follows once the flag is taken, nothing was completed and there is nothing
to recover. -/
theorem reconcile_steps {deviceAvailable forced : Bool} {next : MonitorTask}
    (plain : m.pc.repairs = false ∧ m.pc.losesTrack = false)
    (idle : e.view.recovery.requiresRecovery = false)
    (view : e'.view = { e.view with authenticatedReconcile := false })
    (raised : forced = e.view.authenticatedReconcile)
    (refused : forced = true → e.view.recovery.state ≠ .awaitingControl ∨
      e.view.recovery.trigger = none)
    (available : forced = true → deviceAvailable = true) :
    m.Steps e lifecycle calls call action (m'.reconcile e' deviceAvailable forced next) := by
  have same : e'.stopping = e.stopping := congrArg HostView.stopping view
  unfold reconcile
  split
  · rename_i stopping
    exact .reconciles idle plain view (Or.inl (same.symm.trans stopping)) refused ⟨rfl, rfl, rfl⟩
  · refine .reconciles idle plain view (Or.inr ?_) refused ⟨rfl, rfl, rfl⟩
    cases forced with
    | false => exact Or.inl raised.symm
    | true =>
        rw [available rfl]
        exact Or.inr rfl

theorem rest_steps {segment : Segment}
    (plain : m.pc.repairs = false ∧ m.pc.losesTrack = false)
    (idle : e.view.recovery.requiresRecovery = false)
    (view : e'.view = { e.view with authenticatedReconcile := false })
    (lowered : e.view.authenticatedReconcile = false) (rests : segment.Rests e') :
    m.Steps e lifecycle calls call action segment :=
  steps_of_rests rests (.reconciles idle plain view (Or.inr (Or.inl lowered))
    (by simp [rests.forced]) ⟨rests.rebuilds, rests.resets, rests.presumes⟩)

theorem completed_of_rests {segment : Segment} (completes : m.completes e action = true)
    (raised : e.view.authenticatedReconcile = true)
    (awaiting : e.view.recovery.state = .awaitingControl) (track : m.pc.losesTrack = false)
    (view : e'.view = { e.view with
      authenticatedReconcile := false
      recovery := { e.view.recovery with state := .recovered } })
    (rests : segment.Rests e') : m.Steps e lifecycle calls call action segment :=
  steps_of_rests rests (.completed completes raised awaiting track view
    ⟨rests.forced, rests.rebuilds, rests.resets, rests.presumes⟩)

theorem onTick_steps (pc : m.pc = .selecting) :
    m.Steps e lifecycle calls call .tick (m.onTick e) := by
  have plain : m.pc.repairs = false ∧ m.pc.losesTrack = false := by rw [pc]; exact ⟨rfl, rfl⟩
  unfold onTick
  generalize took : takeAuthenticated e = result
  obtain ⟨forced, completed, e'⟩ := result
  obtain ⟨raised, ⟨rfl, refused, view⟩ | ⟨rfl, rfl, awaiting, view⟩⟩ :=
    takeAuthenticated_view e took
  · simp only [Bool.false_eq_true, if_false]
    generalize recovers : m.recoverTransport e' _ _ = recovered
    cases recovered with
    | some segment => exact recoverTransport_steps view (fun wf => wf) recovers
    | none =>
        have idle := recoverTransport_none recovers
        rw [view] at idle
        simp only [Option.getD_none]
        split
        · exact reconcile_steps plain idle view raised refused fun _ => rfl
        · rename_i unforced
          refine rest_steps plain idle view ?_ superviseAndroid_rests
          rw [← raised]
          cases forced with
          | false => rfl
          | true => simp [shouldReconcileOnHealthyTick] at unforced
  · exact completed_of_rests (by simp [completes, pc, took]) raised.symm awaiting plain.2 view
      superviseAndroid_rests

theorem takeAuthenticated_changed :
    (takeAuthenticated { e with changed := false }).2.1 = (takeAuthenticated e).2.1 := by
  unfold takeAuthenticated HostEnv.completeAuthenticatedTransportRecovery
  cases e.authenticatedReconcile with
  | false => rfl
  | true =>
      dsimp only
      rcases e.transportRecovery.complete with ⟨completed, recovery⟩
      cases completed <;> rfl

theorem onChanged_steps (pc : m.pc = .selecting) :
    m.Steps e lifecycle calls call .changed (m.onChanged e) := by
  have plain : m.pc.repairs = false ∧ m.pc.losesTrack = false := by rw [pc]; exact ⟨rfl, rfl⟩
  unfold onChanged
  dsimp only
  split
  · rename_i stopping
    exact .moved rfl (Or.inl stopping) (by simp [goto, MonitorPc.forced])
      (by simp [goto, MonitorPc.rebuilds]) ⟨rfl, rfl⟩
  · generalize took : takeAuthenticated { e with changed := false } = result
    obtain ⟨forced, completed, e'⟩ := result
    have same : (takeAuthenticated e).2.1 = completed := by
      rw [← takeAuthenticated_changed, took]
    obtain ⟨raised, ⟨rfl, refused, view⟩ | ⟨rfl, rfl, awaiting, view⟩⟩ :=
      takeAuthenticated_view _ took
    · have view : e'.view = { e.view with authenticatedReconcile := false } := view
      simp only [Bool.false_eq_true, if_false]
      generalize recovers : m.recoverTransport e' _ _ = recovered
      cases recovered with
      | some segment => exact recoverTransport_steps view (fun wf => wf) recovers
      | none =>
          have idle := recoverTransport_none recovers
          rw [view] at idle
          simp only [Option.getD_none]
          split
          · exact reconcile_steps plain idle view raised refused fun _ => rfl
          · rename_i unforced
            refine rest_steps plain idle view ?_ loopEnd_rests
            simp only [Bool.or_eq_true, not_or] at unforced
            exact raised.symm.trans (by simpa using unforced.1)
    · exact completed_of_rests (by simp [completes, pc, same]) raised.symm awaiting plain.2 view
        loopEnd_rests

theorem onUpdate_steps {available : Bool} {rest : List Bool}
    (pc : m.pc = .updating (available :: rest)) :
    m.Steps e lifecycle calls call .update (m.onUpdate e available rest) := by
  have plain : m.pc.repairs = false ∧ m.pc.losesTrack = false := by rw [pc]; exact ⟨rfl, rfl⟩
  unfold onUpdate
  dsimp only
  generalize took : takeAuthenticated (if available then e.notifyUsbReconnectedIfNeeded else e) =
    result
  obtain ⟨forced, completed, e'⟩ := result
  have completes : m.completes e .update = completed := by
    simp [completes, pc, took]
  have cases := takeAuthenticated_view _ took
  have noted : (if available then e.notifyUsbReconnectedIfNeeded else e).view = e.view ∨
      (if available then e.notifyUsbReconnectedIfNeeded else e).view =
        { e.view with recovery := e.view.recovery.notify .usbReconnect, healthy := false } := by
    cases available with
    | false => exact Or.inl rfl
    | true => exact e.notifyUsbReconnectedIfNeeded_view
  generalize (if available then e.notifyUsbReconnectedIfNeeded else e) = e₀ at cases noted
  rcases noted with same | pending
  · rw [same] at cases
    obtain ⟨raised, ⟨rfl, refused, view⟩ | ⟨rfl, rfl, awaiting, view⟩⟩ := cases
    · simp only [Bool.false_eq_true, if_false]
      generalize recovers : ({ m with deviceAvailable := some available } : Monitor).recoverTransport
        e' _ _ = recovered
      cases recovered with
      | some segment => exact recoverTransport_steps view (fun wf => wf) recovers
      | none =>
          have idle := recoverTransport_none recovers
          rw [view] at idle
          simp only [Option.getD_none]
          exact reconcile_steps plain idle view raised refused fun h => by simp [h]
    · simp only [if_true]
      exact .completed completes raised.symm awaiting plain.2 view ⟨rfl, rfl, rfl, rfl⟩
  · -- A reconnect was pending: there is a new generation to recover.
    rw [pending] at cases
    obtain ⟨raised, ⟨rfl, refused, view⟩ | ⟨rfl, rfl, awaiting, view⟩⟩ := cases
    · simp only [Bool.false_eq_true, if_false]
      generalize recovers : ({ m with deviceAvailable := some available } : Monitor).recoverTransport
        e' _ _ = recovered
      cases recovered with
      | some segment => exact recoverTransport_steps view (fun _ _ => rfl) recovers
      | none =>
          have idle := recoverTransport_none recovers
          rw [view] at idle
          cases idle
    · cases awaiting

theorem onSupervise_steps {now : Instant} (pc : m.pc = .supervising) :
    m.Steps e lifecycle calls call action (m.onSupervise e lifecycle now) := by
  have plain : m.pc.repairs = false ∧ m.pc.losesTrack = false := by rw [pc]; exact ⟨rfl, rfl⟩
  unfold onSupervise
  split
  · exact moved_of_rests loopEnd_rests (by simp) (Or.inr plain)
  · split
    · exact moved_of_rests loopEnd_rests (by simp) (Or.inr plain)
    · dsimp only
      split
      · exact .moved rfl (Or.inr ⟨by simp [plain], plain.2⟩) (by simp [goto, MonitorPc.forced])
          (by simp [goto, MonitorPc.rebuilds]) ⟨rfl, rfl⟩
      · exact moved_of_rests loopEnd_rests (by simp) (Or.inr plain)

theorem onHeadset_steps {awake : Bool} {now : Instant} (pc : m.pc = .headsetProbing) :
    m.Steps e lifecycle calls call action (m.onHeadset e awake now) := by
  have plain : m.pc.repairs = false ∧ m.pc.losesTrack = false := by rw [pc]; exact ⟨rfl, rfl⟩
  unfold onHeadset
  dsimp only
  split
  · exact .moved rfl (Or.inr ⟨by simp [plain], plain.2⟩) (by simp [goto, MonitorPc.forced])
      (by simp [goto, MonitorPc.rebuilds]) ⟨rfl, rfl⟩
  · exact moved_of_rests loopEnd_rests (by simp) (Or.inr plain)

/-- A command of `restart_android` that is not refused for a stop. -/
theorem restartStep_moved {pc : MonitorPc} (track : m.pc.losesTrack = false)
    (repairs : pc.repairs = true) (rebuilds : pc.rebuilds = false)
    (plain : pc.forced = false ∧ pc.resets = false ∧ pc.presumes = false) :
    m.Steps e lifecycle calls call action (m.restartStep e pc) := by
  unfold restartStep
  split
  · rename_i stopping
    exact moved_of_rests loopEnd_rests rfl (Or.inl stopping)
  · exact .moved rfl (Or.inr ⟨fun _ => repairs, track⟩) (by simp [goto, plain])
      (by simp [goto, rebuilds]) plain.2

theorem onRestartStep_steps {phase : RestartPhase} {succeeded : Bool}
    (pc : m.pc = .restartStep phase) :
    m.Steps e lifecycle calls call action (m.onRestartStep e call succeeded phase) := by
  have track : m.pc.losesTrack = false := by rw [pc]; rfl
  have failed : m.Steps e lifecycle calls call action (m.restartFailed e) :=
    reported_of_rests loopEnd_rests (by simp) track
  unfold onRestartStep
  cases phase with
  | forceStop | verifyClosed =>
      dsimp only
      split
      · exact restartStep_moved track rfl rfl ⟨rfl, rfl, rfl⟩
      · exact failed
  | mappings =>
      dsimp only
      split
      · exact .resets (by simp) rfl (by simp [MonitorPc.rebuilds]) (by simp [MonitorPc.resets])
      · exact failed

theorem restartLost_steps {suspended : Bool} (pc : m.pc = .restartStatus) :
    m.Steps e lifecycle calls call (.androidStatus suspended)
      (m.restartStep (e.relayGate .carrierLostAwaitingRecovery) (.restartStep .forceStop)) := by
  unfold restartStep
  split
  · rename_i stopping
    refine steps_of_rests loopEnd_rests (.restartLost pc rfl (by simp) (Or.inl stopping) ?_)
    exact ⟨loopEnd_rests.forced, loopEnd_rests.rebuilds, loopEnd_rests.resets,
      loopEnd_rests.presumes⟩
  · exact .restartLost pc rfl (by simp [goto]) (Or.inr rfl) ⟨rfl, rfl, rfl, rfl⟩

theorem restarted_steps {waiting : Nat} (pc : m.pc = .restartReset waiting) :
    m.Steps e lifecycle calls call action
      (m.restartStep ((e.updateStatus true true true none).relayGate .carrierHealthy)
        .restartStart) := by
  have plain : m.pc.resets = false ∧ m.pc.losesTrack = false := by rw [pc]; exact ⟨rfl, rfl⟩
  unfold restartStep
  split
  · exact steps_of_rests loopEnd_rests (.healed (by simp) plain (by simp [loopEnd_rests.forced])
      ⟨loopEnd_rests.rebuilds, loopEnd_rests.resets⟩)
  · exact .healed (by simp [goto]) plain (by simp [goto, MonitorPc.forced]) ⟨rfl, rfl⟩

theorem resume_steps {forced : Bool} {next : MonitorTask} (pc : m.pc = .reconciled forced next) :
    m.Steps e lifecycle calls call action
      (m.proceed (if forced then e.retryAuthenticatedReconcileIfNeeded else e) next) := by
  have plain : m.pc.repairs = false ∧ m.pc.losesTrack = false := by rw [pc]; exact ⟨rfl, rfl⟩
  cases forced with
  | false => exact moved_of_rests (proceed_rests next) rfl (Or.inr plain)
  | true =>
      simp only [if_true]
      rcases e.retryAuthenticatedReconcileIfNeeded_view with same | raised
      · exact moved_of_rests (proceed_rests next) same (Or.inr plain)
      · have rests := @proceed_rests m e.retryAuthenticatedReconcileIfNeeded next
        exact steps_of_rests rests (.retried (by rw [pc]; rfl) plain.2 raised
          ⟨rests.forced, rests.rebuilds, rests.resets, rests.presumes⟩)

theorem slept_steps {suspended forced : Bool} {epoch : Nat} {next : MonitorTask}
    (pc : m.pc = .sleepProbing epoch forced next) :
    m.Steps e lifecycle calls call action
      (m.goto (if suspended then e.relayGate (.screenSuspendedIfEpoch epoch) else e)
        (.reconciled forced next)) := by
  have own : m.pc.forced = forced := by rw [pc]; rfl
  have moved : ∀ e' : HostEnv, e'.view = e.view →
      m.Steps e lifecycle calls call action (m.goto e' (.reconciled forced next)) :=
    fun e' view => .moved view (Or.inr ⟨by simp [pc, MonitorPc.repairs], by rw [pc]; rfl⟩)
      (fun h => own.trans h) (by simp [goto, MonitorPc.rebuilds]) ⟨rfl, rfl⟩
  cases suspended with
  | false => exact moved e rfl
  | true =>
      simp only [if_true]
      rcases e.screenSuspendedIfEpoch_view epoch with same | ⟨current, asleep⟩
      · exact moved _ same
      · exact .slept pc current asleep

/-- There are no other outcomes. -/
theorem step_cases {segment : Segment}
    (taken : m.step e lifecycle call calls action = some segment) :
    m.Steps e lifecycle calls call action segment := by
  -- A move between two positions that carry no duty.
  have goes : ∀ {pc : MonitorPc} {e' : HostEnv}, e'.view = e.view →
      m.pc.repairs = false ∧ m.pc.losesTrack = false → (pc.forced = true → m.pc.forced = true) →
      pc.rebuilds = false → pc.resets = false ∧ pc.presumes = false →
      m.Steps e lifecycle calls call action (m.goto e' pc) := by
    intro pc e' view plain forced rebuilds harmless
    exact .moved view (Or.inr ⟨by simp [plain], plain.2⟩) forced (by simp [goto, rebuilds]) harmless
  unfold step at taken
  split at taken
  · rename_i pc
    split at taken
    · cases taken
      exact goes rfl (by rw [pc]; exact ⟨rfl, rfl⟩) (by simp [MonitorPc.forced]) rfl ⟨rfl, rfl⟩
    · cases taken
      exact .moved rfl (Or.inr ⟨by simp [pc, MonitorPc.repairs], by rw [pc]; rfl⟩)
        (by simp [MonitorPc.forced]) (by simp [MonitorPc.rebuilds]) ⟨rfl, rfl⟩
  · rename_i pc
    split at taken
    · cases taken
      exact goes rfl (by rw [pc]; exact ⟨rfl, rfl⟩) (by simp [MonitorPc.forced]) rfl ⟨rfl, rfl⟩
    · cases taken
      exact trackFailed_steps (by rw [pc]; exact ⟨rfl, rfl⟩)
  · rename_i pc
    split at taken
    · cases taken
      exact .confirmed pc (by simp [goto, AdbMonitorSnapshot.healthy])
    · cases taken
      exact .trackLost (by simp [trackLost, goto])
  · rename_i pc
    cases taken
    exact onTrackLost_steps pc
  · rename_i pc
    obtain ⟨_, _, rfl⟩ := Option.map_eq_some_iff.mp taken
    exact .reported (by simp [trackReported, goto]) (Or.inl (by rw [pc]; rfl))
      (by simp [trackReported, goto, MonitorPc.forced]) ⟨rfl, rfl, rfl⟩
  · rename_i pc
    split at taken
    · cases taken
    · cases taken
      split <;> exact goes rfl (by rw [pc]; exact ⟨rfl, rfl⟩) (by simp [MonitorPc.forced]) rfl
        ⟨rfl, rfl⟩
  · rename_i pc
    cases taken
    exact onTick_steps pc
  · rename_i pc
    split at taken
    · cases taken
      exact onChanged_steps pc
    · cases taken
  · rename_i pc
    cases taken
    exact goes rfl (by rw [pc]; exact ⟨rfl, rfl⟩) (by simp [MonitorPc.forced]) rfl ⟨rfl, rfl⟩
  · rename_i pc
    split at taken
    · cases taken
      exact goes rfl (by rw [pc]; exact ⟨rfl, rfl⟩) (by simp [MonitorPc.forced]) rfl ⟨rfl, rfl⟩
    · cases taken
      exact trackFailed_steps (by rw [pc]; exact ⟨rfl, rfl⟩)
  · rename_i pc
    cases taken
    exact moved_of_rests loopEnd_rests rfl (Or.inr (by rw [pc]; exact ⟨rfl, rfl⟩))
  · rename_i pc
    cases taken
    exact onUpdate_steps pc
  · rename_i pc
    cases taken
    split
    · rename_i stopping
      exact moved_of_rests (proceed_rests _) rfl (Or.inl stopping)
    · exact .moved rfl (Or.inr ⟨by simp [pc, MonitorPc.repairs], by rw [pc]; rfl⟩)
        (by simp [goto, MonitorPc.forced]) (fun _ => by rw [pc]; rfl) ⟨rfl, rfl⟩
  · rename_i pc
    cases taken
    exact onRebuilt_steps pc
  · rename_i pc
    obtain ⟨_, returned, rfl⟩ := Option.map_eq_some_iff.mp taken
    exact onReset_steps pc returned
  · rename_i pc
    cases taken
    exact onReconcile_steps pc
  · rename_i pc
    cases taken
    by_cases stopping : e.stopping = true
    · simp only [stopping, if_true]
      exact .moved rfl (Or.inl stopping) (by simp [pc, goto, MonitorPc.forced])
        (by simp [goto, MonitorPc.rebuilds]) ⟨rfl, rfl⟩
    · simp only [stopping]
      exact .moved rfl (Or.inr ⟨fun _ => rfl, by rw [pc]; rfl⟩)
        (by simp [pc, goto, MonitorPc.forced]) (by simp [goto, MonitorPc.rebuilds]) ⟨rfl, rfl⟩
  · rename_i pc
    cases taken
    exact onProbe_steps pc
  · rename_i pc
    cases taken
    exact onRepair_steps pc
  · rename_i healthy _ _ pc
    cases taken
    cases healthy with
    | true =>
        refine .healed ?_ (by rw [pc]; exact ⟨rfl, rfl⟩)
          (by simp [pc, repaired, goto, MonitorPc.forced]) ⟨rfl, rfl⟩
        show (HostEnv.relayGate (HostEnv.updateStatus _ _ _ _ _) _).view = _
        rw [HostEnv.carrierHealthy_view, HostEnv.updateStatus_view]
        rfl
    | false => exact repairFailed_steps (by rw [pc]; rfl) (Or.inr pc)
  · rename_i pc
    obtain ⟨_, _, rfl⟩ := Option.map_eq_some_iff.mp taken
    exact goes rfl (by rw [pc]; exact ⟨rfl, rfl⟩) (by simp [pc, MonitorPc.forced]) rfl ⟨rfl, rfl⟩
  · rename_i pc
    cases taken
    exact slept_steps pc
  · rename_i pc
    cases taken
    exact resume_steps pc
  · rename_i pc
    cases taken
    exact onSupervise_steps pc
  · rename_i pc
    cases taken
    exact onHeadset_steps pc
  · rename_i pc
    cases taken
    split
    · rename_i stopping
      exact moved_of_rests loopEnd_rests rfl (Or.inl stopping)
    · exact goes rfl (by rw [pc]; exact ⟨rfl, rfl⟩) (by simp [MonitorPc.forced]) rfl ⟨rfl, rfl⟩
  · rename_i pc
    cases taken
    exact restartLost_steps pc
  · rename_i pc
    cases taken
    exact onRestartStep_steps pc
  · rename_i pc
    obtain ⟨_, _, rfl⟩ := Option.map_eq_some_iff.mp taken
    exact restarted_steps pc
  · rename_i pc
    cases taken
    split
    · exact moved_of_rests loopEnd_rests rfl (Or.inr (by rw [pc]; exact ⟨rfl, rfl⟩))
    · exact reported_of_rests loopEnd_rests (by simp) (by rw [pc]; rfl)
  · cases taken

end Monitor

end QuestVdWired.Host
