import QuestVdWired.Host.MonitorSteps
import QuestVdWired.Host.ControlCleanup

/-!
What a step of the runtime can do: a step of the control server with the observers
of the host, a segment of the monitor, which may start a control call, or a method
that a timer or an admin command runs.
-/

namespace QuestVdWired.Host

open Transition

/-- Events of the relay controller after which no loss is newly pending and no
grace timer newly armed. -/
def RelayEvent.quiet : RelayEvent → Bool
  | .controlDegraded => false
  | _ => true

/-- The relay controller stays or takes one quiet step. -/
def RelayMoves (s s' : RelayTimeline) : Prop :=
  s' = s ∨ ∃ event, event.quiet = true ∧ RelayTimeline.step event s = some s'

namespace HostEnv
variable (e : HostEnv)

@[simp] theorem noteUsbDisconnected_relay : e.noteUsbDisconnected.relay = e.relay := by
  unfold noteUsbDisconnected
  split <;> rfl

@[simp] theorem notifyUsbReconnectedIfNeeded_relay :
    e.notifyUsbReconnectedIfNeeded.relay = e.relay := by
  unfold notifyUsbReconnectedIfNeeded
  split <;> rfl

@[simp] theorem scheduleTransportRecoveryRearm_relay (generation : Nat)
    (trigger : TransportRecoveryTrigger) :
    (e.scheduleTransportRecoveryRearm generation trigger).relay = e.relay := by
  unfold scheduleTransportRecoveryRearm
  split <;> rfl

@[simp] theorem rearmFailedTransport_relay (generation : Nat)
    (trigger : TransportRecoveryTrigger) :
    (e.rearmFailedTransport generation trigger).relay = e.relay := by
  unfold rearmFailedTransport
  split
  · rfl
  · split <;> rfl

@[simp] theorem beginTransportRecoveryAttempt_relay :
    e.beginTransportRecoveryAttempt.2.relay = e.relay := by
  unfold beginTransportRecoveryAttempt
  split <;> rfl

@[simp] theorem finishTransportRecoveryAttempt_relay (generation : Nat) (succeeded : Bool) :
    (e.finishTransportRecoveryAttempt generation succeeded).2.relay = e.relay := by
  unfold finishTransportRecoveryAttempt
  split <;> rfl

@[simp] theorem completeAuthenticatedTransportRecovery_relay :
    e.completeAuthenticatedTransportRecovery.2.relay = e.relay := by
  unfold completeAuthenticatedTransportRecovery
  split <;> rfl

@[simp] theorem expireTransportRecoveryControl_relay (generation attempt : Nat) :
    (e.expireTransportRecoveryControl generation attempt).2.relay = e.relay := by
  unfold expireTransportRecoveryControl
  split
  · rfl
  · dsimp only
    split <;> rfl

@[simp] theorem retryAuthenticatedReconcileIfNeeded_relay :
    e.retryAuthenticatedReconcileIfNeeded.relay = e.relay := by
  unfold retryAuthenticatedReconcileIfNeeded
  split <;> rfl

@[simp] theorem takeAuthenticated_relay :
    (Monitor.takeAuthenticated e).2.2.relay = e.relay := by
  unfold Monitor.takeAuthenticated
  dsimp only
  split
  · exact completeAuthenticatedTransportRecovery_relay _
  · rfl

/-- A method of the relay controller other than a degradation. -/
theorem relayGate_moves (event : RelayEvent) (quiet : event.quiet = true) :
    RelayMoves e.relay (e.relayGate event).relay := by
  unfold relayGate
  cases taken : RelayTimeline.step event e.relay with
  | none => exact Or.inl rfl
  | some s => exact Or.inr ⟨event, quiet, taken⟩

end HostEnv

/-- The relay controller over a segment, and what a sleep probe has in hand. -/
structure Segment.Relayed (segment : Segment) (e : HostEnv) : Prop where
  moves : RelayMoves e.relay segment.env.relay
  sleeping : ∀ epoch forced next, segment.monitor.pc = .sleepProbing epoch forced next →
    segment.env.relay.controller.pendingControlEpoch = some epoch

namespace Monitor
variable {m m' : Monitor} {e e' : HostEnv} {lifecycle : HostState}
  {calls : Nat → Option (Option Nat)} {call : Nat} {action : MonitorAction}

theorem goto_relayed {pc : MonitorPc} (moves : RelayMoves e.relay e'.relay)
    (awake : ∀ epoch forced next, pc ≠ .sleepProbing epoch forced next) :
    (m.goto e' pc).Relayed e where
  moves := moves
  sleeping := fun epoch forced next at_ => absurd at_ (awake epoch forced next)

theorem loopEnd_relayed (moves : RelayMoves e.relay e'.relay) : (m.loopEnd e').Relayed e := by
  unfold loopEnd
  refine goto_relayed moves fun _ _ _ => ?_
  split <;> simp

theorem superviseAndroid_relayed (moves : RelayMoves e.relay e'.relay) :
    (m.superviseAndroid e').Relayed e := by
  unfold superviseAndroid
  split
  · exact loopEnd_relayed moves
  · exact goto_relayed moves (by simp)

theorem proceed_relayed (moves : RelayMoves e.relay e'.relay) (next : MonitorTask) :
    (m.proceed e' next).Relayed e := by
  cases next with
  | updates rest => exact goto_relayed moves (by simp)
  | tick => exact superviseAndroid_relayed moves
  | changed => exact loopEnd_relayed moves

theorem recordLoss_relayed {deviceAvailable : Bool} {category : String} {waiting : MonitorPc}
    {onward : Segment} (moves : RelayMoves e.relay e'.relay)
    (awake : ∀ epoch forced next, waiting ≠ .sleepProbing epoch forced next)
    (unchanged : onward.Relayed e) :
    (m.recordLoss e' deviceAvailable category waiting onward).Relayed e := by
  unfold recordLoss
  split
  · exact unchanged
  · exact ⟨moves, fun epoch forced next at_ => absurd at_ (awake epoch forced next)⟩

theorem trackLost_relayed {category : String} : (m.trackLost e category).Relayed e :=
  goto_relayed (HostEnv.relayGate_moves (e.updateStatus _ _ _ _) _ rfl) (by simp)

theorem trackFailed_relayed {category : String} : (m.trackFailed e category).Relayed e := by
  unfold trackFailed
  split
  · exact goto_relayed (Or.inl rfl) (by simp)
  · exact trackLost_relayed

theorem onTrackLost_relayed {category : String} :
    (m.onTrackLost e call category lifecycle).Relayed e := by
  unfold onTrackLost
  split
  · refine recordLoss_relayed (Or.inl (by simp)) (by simp) ?_
    exact goto_relayed (Or.inl (by simp [HostEnv.updateStatus])) (by simp)
  · exact goto_relayed (Or.inl rfl) (by simp)

theorem reconcile_relayed {deviceAvailable forced : Bool} {next : MonitorTask}
    (moves : RelayMoves e.relay e'.relay) :
    (m.reconcile e' deviceAvailable forced next).Relayed e := by
  unfold reconcile
  split <;> exact goto_relayed moves (by simp)

theorem onReconcile_relayed {deviceAvailable forced : Bool} {next : MonitorTask} :
    (m.onReconcile e call deviceAvailable forced next lifecycle).Relayed e := by
  have lost : RelayMoves e.relay
      (e.noteUsbDisconnected.relayGate .carrierLostAwaitingRecovery).relay := by
    have moves := HostEnv.relayGate_moves e.noteUsbDisconnected .carrierLostAwaitingRecovery rfl
    rwa [HostEnv.noteUsbDisconnected_relay] at moves
  unfold onReconcile
  split
  · split <;> exact goto_relayed (Or.inl rfl) (by simp)
  · split
    · exact recordLoss_relayed lost (by simp) (goto_relayed lost (by simp))
    · exact goto_relayed (e.relayGate_moves .carrierLostAwaitingRecovery rfl) (by simp)

theorem repairFailed_relayed {forced : Bool} {next : MonitorTask} :
    (m.repairFailed e call forced next).Relayed e :=
  recordLoss_relayed (e.relayGate_moves .carrierLost rfl) (by simp)
    (goto_relayed (e.relayGate_moves .carrierLost rfl) (by simp))

theorem repair_relayed {missing : Nat} {forced : Bool} {next : MonitorTask}
    (moves : RelayMoves e.relay e'.relay) : (m.repair e' missing forced next).Relayed e := by
  unfold repair
  split
  · exact goto_relayed moves (by simp)
  · cases missing <;> exact goto_relayed moves (by simp)

theorem onRepair_relayed {missing : Nat} {forced : Bool} {next : MonitorTask}
    {succeeded : Bool} : (m.onRepair e call missing forced next succeeded).Relayed e := by
  unfold onRepair
  split
  · exact repair_relayed (Or.inl rfl)
  · split
    · exact goto_relayed (Or.inl rfl) (by simp)
    · exact repairFailed_relayed

theorem onProbe_relayed {probe : MappingProbe} {durationUs : Nat} {seen : HostState}
    {forced : Bool} {next : MonitorTask} :
    (m.onProbe e call seen forced next durationUs probe).Relayed e := by
  cases probe with
  | healthy =>
      have healed : RelayMoves e.relay
          (((e.recordMappingProbe durationUs).updateStatus true true true none).relayGate
            .carrierHealthy).relay := HostEnv.relayGate_moves _ _ rfl
      unfold onProbe
      dsimp only
      split
      · unfold reconcileAndroidSleep
        split
        · exact goto_relayed healed (by simp)
        · split
          · exact goto_relayed healed (by simp)
          · rename_i epoch pending
            refine ⟨healed, ?_⟩
            intro epoch' forced' next' at_
            cases at_
            exact pending
      · exact goto_relayed healed (by simp)
  | missing others =>
      have same : RelayMoves e.relay (e.recordMappingProbe durationUs).relay := Or.inl rfl
      unfold onProbe
      exact repair_relayed same
  | failed | workerFailed =>
      exact recordLoss_relayed (Or.inl rfl) (by simp) (goto_relayed (Or.inl rfl) (by simp))

theorem recoverTransport_relayed {deviceAvailable : Bool} {next : MonitorTask}
    {segment : Segment} (same : e'.relay = e.relay)
    (taken : m.recoverTransport e' deviceAvailable next = some segment) : segment.Relayed e := by
  have lost : ∀ e₁ : HostEnv, e₁.relay = e.relay →
      RelayMoves e.relay (e₁.relayGate .carrierLostAwaitingRecovery).relay := by
    intro e₁ same
    rw [← same]
    exact e₁.relayGate_moves _ rfl
  unfold recoverTransport at taken
  split at taken
  · cases taken
  · split at taken
    · cases taken
      exact proceed_relayed (Or.inl same) next
    · split at taken
      · cases taken
        refine proceed_relayed ?_ next
        exact lost e' same
      · have begun := e'.beginTransportRecoveryAttempt_relay.trans same
        split at taken
        · rename_i e₁ refused
          cases taken
          rw [refused] at begun
          exact proceed_relayed (Or.inl begun) next
        · rename_i generation attempt trigger e₁ found
          cases taken
          rw [found] at begun
          exact goto_relayed (lost e₁ begun) (by simp)

theorem onRebuilt_relayed {generation attempt : Nat} {trigger : TransportRecoveryTrigger}
    {next : MonitorTask} {succeeded : Bool} :
    (m.onRebuilt e call generation attempt trigger next succeeded).Relayed e := by
  unfold onRebuilt
  split
  · exact proceed_relayed (Or.inl rfl) next
  · split
    · exact ⟨e.relayGate_moves _ rfl, by simp⟩
    · unfold rebuildFailed
      refine proceed_relayed ?_ next
      have lost := e.relayGate_moves .carrierLost rfl
      rw [← HostEnv.finishTransportRecoveryAttempt_relay (e.relayGate .carrierLost) generation
        false] at lost
      split
      · exact lost
      · rw [HostEnv.scheduleTransportRecoveryRearm_relay]
        exact lost

theorem onReset_relayed {generation attempt : Nat} {trigger : TransportRecoveryTrigger}
    {next : MonitorTask} {mark : Option Nat} :
    (m.onReset e generation attempt trigger next mark).Relayed e := by
  unfold onReset
  dsimp only
  refine proceed_relayed ?_ next
  generalize counted : ({ e with
    reconnectGeneration := wrappingSucc e.reconnectGeneration } : HostEnv) = e₁
  have same : e.relay = (e₁.finishTransportRecoveryAttempt generation true).2.relay := by
    rw [HostEnv.finishTransportRecoveryAttempt_relay, ← counted]
  rw [same]
  exact HostEnv.relayGate_moves (HostEnv.updateStatus _ _ _ _ _) .carrierHealthy rfl

theorem onTick_relayed : (m.onTick e).Relayed e := by
  unfold onTick
  have same := e.takeAuthenticated_relay
  generalize takeAuthenticated e = result at same
  obtain ⟨forced, completed, e'⟩ := result
  dsimp only at same ⊢
  split
  · exact superviseAndroid_relayed (Or.inl same)
  · generalize recovers : m.recoverTransport e' _ _ = recovered
    cases recovered with
    | some segment => exact recoverTransport_relayed same recovers
    | none =>
        simp only [Option.getD_none]
        split
        · exact reconcile_relayed (Or.inl same)
        · exact superviseAndroid_relayed (Or.inl same)

theorem onChanged_relayed : (m.onChanged e).Relayed e := by
  unfold onChanged
  dsimp only
  split
  · exact goto_relayed (Or.inl rfl) (by simp)
  · have same := HostEnv.takeAuthenticated_relay { e with changed := false }
    generalize takeAuthenticated { e with changed := false } = result at same
    obtain ⟨forced, completed, e'⟩ := result
    dsimp only at same ⊢
    split
    · exact loopEnd_relayed (Or.inl same)
    · generalize recovers : m.recoverTransport e' _ _ = recovered
      cases recovered with
      | some segment => exact recoverTransport_relayed same recovers
      | none =>
          simp only [Option.getD_none]
          split
          · exact reconcile_relayed (Or.inl same)
          · exact loopEnd_relayed (Or.inl same)

theorem onUpdate_relayed {available : Bool} {rest : List Bool} :
    (m.onUpdate e available rest).Relayed e := by
  unfold onUpdate
  dsimp only
  have noted : (if available then e.notifyUsbReconnectedIfNeeded else e).relay = e.relay := by
    split
    · exact e.notifyUsbReconnectedIfNeeded_relay
    · rfl
  have same := (HostEnv.takeAuthenticated_relay
    (if available then e.notifyUsbReconnectedIfNeeded else e)).trans noted
  generalize takeAuthenticated (if available then e.notifyUsbReconnectedIfNeeded else e) =
    result at same
  obtain ⟨forced, completed, e'⟩ := result
  dsimp only at same ⊢
  split
  · exact goto_relayed (Or.inl same) (by simp)
  · generalize recovers : ({ m with deviceAvailable := some available } : Monitor).recoverTransport
      e' _ _ = recovered
    cases recovered with
    | some segment => exact recoverTransport_relayed same recovers
    | none => exact reconcile_relayed (Or.inl same)

theorem onSupervise_relayed {now : Instant} : (m.onSupervise e lifecycle now).Relayed e := by
  unfold onSupervise
  split
  · exact loopEnd_relayed (Or.inl rfl)
  · split
    · exact loopEnd_relayed (Or.inl rfl)
    · dsimp only
      split
      · exact goto_relayed (Or.inl rfl) (by simp)
      · exact loopEnd_relayed (Or.inl rfl)

theorem restartStep_relayed {pc : MonitorPc} (moves : RelayMoves e.relay e'.relay)
    (awake : ∀ epoch forced next, pc ≠ .sleepProbing epoch forced next) :
    (m.restartStep e' pc).Relayed e := by
  unfold restartStep
  split
  · exact loopEnd_relayed moves
  · exact goto_relayed moves awake

theorem onRestartStep_relayed {phase : RestartPhase} {succeeded : Bool} :
    (m.onRestartStep e call succeeded phase).Relayed e := by
  have failed : (m.restartFailed e).Relayed e := loopEnd_relayed (Or.inl rfl)
  unfold onRestartStep
  cases phase with
  | forceStop | verifyClosed =>
      dsimp only
      split
      · exact restartStep_relayed (Or.inl rfl) (by simp)
      · exact failed
  | mappings =>
      dsimp only
      split
      · exact ⟨e.relayGate_moves _ rfl, by simp⟩
      · exact failed

theorem step_relayed {segment : Segment}
    (taken : m.step e lifecycle call calls action = some segment) : segment.Relayed e := by
  have goes : ∀ {pc : MonitorPc} {e' : HostEnv}, e'.relay = e.relay →
      (∀ epoch forced next, pc ≠ .sleepProbing epoch forced next) →
      (m.goto e' pc).Relayed e := fun same awake => goto_relayed (Or.inl same) awake
  unfold step at taken
  split at taken
  · split at taken
    · cases taken
      exact goes rfl (by simp)
    · cases taken
      exact ⟨Or.inl rfl, by simp⟩
  · split at taken
    · cases taken
      exact goes rfl (by simp)
    · cases taken
      exact trackFailed_relayed
  · split at taken
    · cases taken
      exact goes rfl (by simp)
    · cases taken
      exact trackLost_relayed
  · cases taken
    exact onTrackLost_relayed
  · obtain ⟨_, _, rfl⟩ := Option.map_eq_some_iff.mp taken
    exact goes rfl (by simp)
  · split at taken
    · cases taken
    · cases taken
      split <;> exact goes rfl (by simp)
  · cases taken
    exact onTick_relayed
  · split at taken
    · cases taken
      exact onChanged_relayed
    · cases taken
  · cases taken
    exact goes rfl (by simp)
  · split at taken
    · cases taken
      exact goes rfl (by simp)
    · cases taken
      exact trackFailed_relayed
  · cases taken
    exact loopEnd_relayed (Or.inl rfl)
  · cases taken
    exact onUpdate_relayed
  · cases taken
    split
    · exact proceed_relayed (Or.inl rfl) _
    · exact goes rfl (by simp)
  · cases taken
    exact onRebuilt_relayed
  · obtain ⟨_, _, rfl⟩ := Option.map_eq_some_iff.mp taken
    exact onReset_relayed
  · cases taken
    exact onReconcile_relayed
  · cases taken
    split <;> exact goes rfl (by simp)
  · cases taken
    exact onProbe_relayed
  · cases taken
    exact onRepair_relayed
  · cases taken
    split
    · unfold repaired
      refine goto_relayed ?_ (by simp)
      exact e.relayGate_moves .carrierHealthy rfl
    · exact repairFailed_relayed
  · obtain ⟨_, _, rfl⟩ := Option.map_eq_some_iff.mp taken
    exact goes rfl (by simp)
  · cases taken
    split
    · exact goto_relayed (e.relayGate_moves _ rfl) (by simp)
    · exact goes rfl (by simp)
  · cases taken
    refine proceed_relayed (Or.inl ?_) _
    split
    · exact e.retryAuthenticatedReconcileIfNeeded_relay
    · rfl
  · cases taken
    exact onSupervise_relayed
  · cases taken
    unfold onHeadset
    dsimp only
    split
    · exact goes rfl (by simp)
    · exact loopEnd_relayed (Or.inl rfl)
  · cases taken
    split
    · exact loopEnd_relayed (Or.inl rfl)
    · exact goes rfl (by simp)
  · cases taken
    exact restartStep_relayed (e.relayGate_moves _ rfl) (by simp)
  · cases taken
    exact onRestartStep_relayed
  · obtain ⟨_, _, rfl⟩ := Option.map_eq_some_iff.mp taken
    exact restartStep_relayed
      (HostEnv.relayGate_moves (e.updateStatus true true true none) .carrierHealthy rfl) (by simp)
  · cases taken
    split
    · exact loopEnd_relayed (Or.inl rfl)
    · exact loopEnd_relayed (Or.inl rfl)
  · cases taken

end Monitor

/-- What a timer, or a stop, does to the shared state. -/
inductive EnvStep (e : HostEnv) : HostEnv → Prop
  | silent {e' : HostEnv} (view : e'.view = e.view) (relay : e'.relay = e.relay) : EnvStep e e'
  | suppressed {e' : HostEnv} (view : e'.view = { e.view with stopping := true })
      (relay : e'.relay = e.relay) : EnvStep e e'
  | expired {e' : HostEnv} (awaiting : e.view.recovery.state = .awaitingControl)
      (view : e'.view = { e.view with
        recovery := e.view.recovery.failAttempt.2
        healthy := false
        carrierHealthy := false
        controlAuthenticated := false })
      (relay : RelayMoves e.relay e'.relay) : EnvStep e e'
  | rearmed {e' : HostEnv} {trigger : TransportRecoveryTrigger}
      (failed : e.view.recovery.state = .failed)
      (view : e'.view = { e.view with
        recovery := e.view.recovery.renew trigger
        healthy := false })
      (relay : e'.relay = e.relay) : EnvStep e e'
  | grace {e' : HostEnv} {timer : Nat} {t : GraceTimer}
      (armed : e.relay.timers[timer]? = some t)
      (relay : RelayTimeline.step (.graceElapsed timer) e.relay = some e'.relay)
      (view : e'.view = e.view ∨ (e.eligibility.controlEpoch = t.epoch ∧
        e'.view = { e.view with controlAuthenticated := false })) : EnvStep e e'

namespace HostEnv
variable {e e' : HostEnv}

theorem fireControl_step {timer : Nat} (fired : e.fireControl timer = some e') :
    EnvStep e e' := by
  obtain ⟨⟨generation, attempt, trigger⟩, _, same⟩ := Option.map_eq_some_iff.mp fired
  clear fired
  dsimp only at same
  generalize erased :
    ({ e with controlTimers := e.controlTimers.eraseIdx timer } : HostEnv) = e₁ at same
  have view : e₁.view = e.view := by rw [← erased]; rfl
  have relay : e₁.relay = e.relay := by rw [← erased]
  have relay' := (e₁.expireTransportRecoveryControl_relay generation attempt).trans relay
  rcases e₁.expireTransportRecoveryControl_view generation attempt with
    ⟨refused, after⟩ | ⟨awaiting, found, after⟩
  · generalize e₁.expireTransportRecoveryControl generation attempt = result at *
    obtain ⟨retry, e₂⟩ := result
    cases refused
    cases same
    exact .silent (after.trans view) relay'
  · generalize e₁.expireTransportRecoveryControl generation attempt = result at *
    obtain ⟨retry, e₂⟩ := result
    obtain ⟨retry, rfl⟩ := Option.isSome_iff_exists.mp found
    dsimp only at after relay' same
    rw [view] at after awaiting
    have lost : (e₂.relayGate .carrierLost).view = { e.view with
        recovery := e.view.recovery.failAttempt.2
        healthy := false
        carrierHealthy := false
        controlAuthenticated := false } := by
      rw [carrierLost_view, after]
    have moves : RelayMoves e.relay (e₂.relayGate .carrierLost).relay :=
      relay' ▸ e₂.relayGate_moves .carrierLost rfl
    subst same
    split
    · exact .expired awaiting lost moves
    · refine .expired awaiting ?_ ?_
      · rw [scheduleTransportRecoveryRearm_view, lost]
      · rw [scheduleTransportRecoveryRearm_relay]
        exact moves

theorem fireRearm_step {timer : Nat} (fired : e.fireRearm timer = some e') : EnvStep e e' := by
  obtain ⟨⟨generation, trigger⟩, _, rfl⟩ := Option.map_eq_some_iff.mp fired
  dsimp only
  generalize erased : ({ e with
    rearmTimers := e.rearmTimers.eraseIdx timer
    transportRearmScheduled := e.transportRearmScheduled.erase generation } : HostEnv) = e₁
  have view : e₁.view = e.view := by rw [← erased]; rfl
  have relay : e₁.relay = e.relay := by rw [← erased]
  have relay' := (e₁.rearmFailedTransport_relay generation trigger).trans relay
  rcases e₁.rearmFailedTransport_view generation trigger with same | ⟨failed, after⟩
  · exact .silent (same.trans view) relay'
  · rw [view] at failed after
    exact .rearmed failed after relay'

theorem fireGrace_step {timer : Nat} (fired : e.fireGrace timer = some e') : EnvStep e e' := by
  obtain ⟨relay, moved, rfl⟩ := Option.map_eq_some_iff.mp fired
  cases armed : e.relay.timers[timer]? with
  | none => simp [RelayTimeline.step, RelayTimeline.next, armed] at moved
  | some t =>
      refine .grace armed moved ?_
      simp only [RelayTimeline.step, RelayTimeline.next, armed, Option.map_some,
        Option.some.injEq] at moved
      subst moved
      by_cases refused : e.relay.controller.eligibility.controlEpoch ≠ t.epoch ∨
          ¬ e.relay.controller.eligibility.controlAuthenticated ∨
          e.relay.controller.eligibility.screenSuspended
      · have same : e.relay.controller.controlInactiveIfEpoch t.epoch =
            (e.relay.controller, false) := if_pos refused
        left
        simp [view, eligibility, RelayGateController.expireControlLoss, same]
      · have moved : e.relay.controller.controlInactiveIfEpoch t.epoch =
            (e.relay.controller.withdraw e.relay.controller.eligibility.carrierHealthy
              e.relay.controller.eligibility.screenSuspended
              (e.relay.controller.gate.setEnabled false), true) := if_neg refused
        refine Or.inr ⟨Classical.not_not.mp (not_or.mp refused).1, ?_⟩
        simp [view, eligibility, RelayGateController.expireControlLoss, moved,
          RelayGateController.withdraw]

theorem fireNotify_step (fired : e.fireNotify = some e') : EnvStep e e' := by
  unfold fireNotify at fired
  split at fired
  · cases fired
  · cases fired
    exact .silent rfl rfl

end HostEnv

/-- A call the moment it is made. -/
def Call.fresh (r : Call) : Prop := (r.pc = .publication ∨ r.pc = .signal) ∧ r.mark = none

/-- The outcomes of a step of the runtime. -/
inductive RuntimeStep (c : RuntimeConfig) : RuntimeAction → RuntimeConfig → Prop
  | control {i : Nat} {a : ControlAction} {sh : ControlShared HostEnv} {t : ControlTask}
      (own : a.isCall = false)
      (step : ControlStep hostObservers i c.control.shared a (c.control.task i) sh t) :
      RuntimeStep c (.control i a) ⟨⟨sh, Function.update c.control.task i t⟩, c.monitor⟩
  | monitor {call : Nat} {action : MonitorAction} {segment : Segment}
      (step : MonitorStep c.monitor c.env c.control.shared.machine.state c.callReturned call
        action segment.env segment.monitor.pc none)
      (relayed : segment.Relayed c.env) :
      RuntimeStep c (.monitor call action) { c.withEnv segment.env with monitor := segment.monitor }
  | calls {call : Nat} {action : MonitorAction} {segment : Segment} {a : ControlAction} {r : Call}
      (step : MonitorStep c.monitor c.env c.control.shared.machine.state c.callReturned call
        action segment.env segment.monitor.pc (some a))
      (relayed : segment.Relayed c.env) (vacant : c.control.task call = .vacant)
      (fresh : r.fresh) :
      RuntimeStep c (.monitor call action)
        ⟨⟨{ c.control.shared with env := segment.env },
          Function.update c.control.task call (.call r)⟩, segment.monitor⟩
  | resumed {call : Nat} {r : Call} (vacant : c.control.task call = .vacant) (fresh : r.fresh) :
      RuntimeStep c (.hostResume call)
        ⟨⟨{ c.control.shared with env := c.env.notifyHostResume },
          Function.update c.control.task call (.call r)⟩, c.monitor⟩
  | env {a : RuntimeAction} {e : HostEnv} (step : EnvStep c.env e) :
      RuntimeStep c a (c.withEnv e)

theorem MonitorStep.isCall {m : Monitor} {e e' : HostEnv} {lifecycle : HostState}
    {calls : Nat → Option (Option Nat)} {call : Nat} {action : MonitorAction} {pc : MonitorPc}
    {a : ControlAction} (step : MonitorStep m e lifecycle calls call action e' pc (some a)) :
    a.isCall = true := by
  cases step <;> rfl

namespace RuntimeConfig
variable {c c' : RuntimeConfig}

/-- The call of a segment finds its task vacant. -/
theorem controlStep_call {call : Nat} {a : ControlAction} (isCall : a.isCall = true)
    (taken : c.controlStep call a = some c') :
    c.control.task call = .vacant ∧ ∃ r : Call, r.fresh ∧
      c' = ⟨⟨c.control.shared, Function.update c.control.task call (.call r)⟩, c.monitor⟩ := by
  obtain ⟨⟨sh, t⟩, step, rfl⟩ := Option.map_eq_some_iff.mp taken
  generalize own : c.control.task call = task at step
  cases controlStep_cases step with
  | transportLost => exact ⟨rfl, _, ⟨Or.inl rfl, rfl⟩, rfl⟩
  | resetTransport => exact ⟨rfl, _, ⟨Or.inr rfl, rfl⟩, rfl⟩
  | _ => cases isCall

theorem step_cases {a : RuntimeAction} (taken : step a c = some c') : RuntimeStep c a c' := by
  unfold step at taken
  split at taken
  · split at taken
    · cases taken
    · rename_i own
      obtain ⟨⟨sh, t⟩, step, rfl⟩ := Option.map_eq_some_iff.mp taken
      exact .control (by simpa using own) (controlStep_cases step)
  · obtain ⟨segment, stepped, performed⟩ := Option.bind_eq_some_iff.mp taken
    have steps := Monitor.step_cases stepped
    have relayed := Monitor.step_relayed stepped
    unfold Monitor.Steps at steps
    unfold perform at performed
    cases spawns : segment.call with
    | none =>
        simp only [spawns] at performed
        cases performed
        rw [spawns] at steps
        exact .monitor steps relayed
    | some a =>
        simp only [spawns] at performed
        rw [spawns] at steps
        obtain ⟨vacant, r, fresh, rfl⟩ := controlStep_call steps.isCall performed
        exact .calls steps relayed vacant fresh
  · split at taken
    · obtain ⟨vacant, r, fresh, rfl⟩ := controlStep_call rfl taken
      exact .resumed vacant fresh
    · cases taken
  · cases taken
    exact .env (.suppressed rfl rfl)
  · obtain ⟨e, fired, rfl⟩ := Option.map_eq_some_iff.mp taken
    exact .env (HostEnv.fireControl_step fired)
  · obtain ⟨e, fired, rfl⟩ := Option.map_eq_some_iff.mp taken
    exact .env (HostEnv.fireRearm_step fired)
  · obtain ⟨e, fired, rfl⟩ := Option.map_eq_some_iff.mp taken
    exact .env (HostEnv.fireGrace_step fired)
  · obtain ⟨e, fired, rfl⟩ := Option.map_eq_some_iff.mp taken
    exact .env (HostEnv.fireNotify_step fired)

end RuntimeConfig

end QuestVdWired.Host
