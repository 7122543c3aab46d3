import QuestVdWired.Host.RuntimeSteps

/-!
Service of the relay while the lifecycle is Connected. The carrier flag and the
authentication of the relay controller follow reports, losses and repairs that arrive
from several sides, and whoever withdraws one of them has a duty: the recovery, a
forced reconciliation, a call that degrades the lifecycle, or a grace period that a
Connected report ends. The invariant names these duties; in a quiescent state none is
left, so the relay is open.

Four steps shirk: a forced flag that completes a recovery takes no look at the carrier,
a restart of the Android side withdraws the authentication of a lane that may have come
back, a loss found recorded is not reported although the relay was closed for it, and a
handler whose echo cannot be written does not publish the lifecycle it changed.
-/

namespace QuestVdWired.Host

open Transition

section
variable {ε : Type}

/-- The handler is on its way to a publication. -/
def HandlerPc.announces : HandlerPc → Bool
  | .publish _ | .publishing _ | .write _ (.echoed true) => true
  | _ => false

def CallPc.announces : CallPc → Bool
  | .signal | .publication | .lock => true
  | _ => false

def ControlTask.announces : ControlTask → Bool
  | .handler h => h.pc.announces
  | .call r => r.pc.announces
  | _ => false

/-- The handler of a changed lifecycle leaves by `?` instead of publishing it. -/
def Handler.dropsEcho (sh : ControlShared ε) (h : Handler) (a : HandlerAction) : Bool :=
  match h.pc with
  | .write _ (.echoed true) => h.escapes sh a
  | _ => false

/-- A step of the control server, by what becomes of the lifecycle that was observed
last. -/
inductive ServiceStep (obs : Observers ε) (sh : ControlShared ε) (t : ControlTask)
    (sh' : ControlShared ε) (t' : ControlTask) : Prop
  | announced (announces : t'.announces = true)
      (env : sh'.env = sh.env ∨ sh'.env = obs.suspend sh.env ∨ sh'.env = obs.wake sh.env)
      (observed : sh'.observed = sh.observed)
  | taken {holder author : Nat}
      (held : sh'.publication = some ⟨holder, some sh'.machine.snapshot, author⟩)
      (env : sh'.env = sh.env) (observed : sh'.observed = sh.observed)
  | observed {holder author : Nat} {snapshot : StateSnapshot}
      (held : sh.publication = some ⟨holder, some snapshot, author⟩)
      (free : sh'.publication = none) (env : sh'.env = obs.state snapshot sh.env)
      (observed : sh'.observed = snapshot) (machine : sh'.machine = sh.machine)
      (plain : t.announces = false)
  | idle (publication : sh'.publication = sh.publication) (env : sh'.env = sh.env)
      (observed : sh'.observed = sh.observed) (state : sh'.machine.state = sh.machine.state)
      (plain : t.announces = false)

theorem HandlerStep.service {obs : Observers ε} {id : Nat} {sh sh' : ControlShared ε}
    {h h' : Handler} {a : HandlerAction} (step : HandlerStep obs id sh h a sh' h')
    (kept : h.dropsEcho sh a = false) :
    ServiceStep obs sh (.handler h) sh' (.handler h') := by
  have plain : ∀ {pc : HandlerPc}, h.pc = pc → pc.announces = false →
      (ControlTask.handler h).announces = false := fun at_ silent => by
    simp [ControlTask.announces, at_, silent]
  cases step with
  | moved quiet =>
      cases quiet with
      | startIgnored | writtenChange => exact .announced rfl (Or.inl rfl) rfl
      | _ => exact .idle rfl rfl rfl rfl (plain ‹h.pc = _› rfl)
  | escaped how pc =>
      refine .idle rfl rfl rfl rfl ?_
      rcases pc with ⟨out, next, pc⟩ | pc | ⟨f, pc, _⟩
      · refine plain pc ?_
        cases next with
        | loop | readMode => rfl
        | echoed changed =>
            cases changed with
            | false => rfl
            | true =>
                rcases how with escapes | ⟨_, _, _, other, _⟩
                · simp [Handler.dropsEcho, pc, escapes] at kept
                · cases pc.symm.trans other
      · exact plain pc rfl
      · exact plain pc rfl
  | ticked pc current same => exact .idle rfl rfl rfl same (plain pc rfl)
  | startedPlain | missed | stopped | peerFailed | stopBegun | deadlineFailed | abandoned | lost
  | publicationLocked => exact .announced rfl (Or.inl rfl) rfl
  | startedWake => exact .announced rfl (Or.inr (Or.inr rfl)) rfl
  | suspended => exact .announced rfl (Or.inr (Or.inl rfl)) rfl
  | @beat now f machine pc current type moves =>
      by_cases changed : sh.machine.state = machine.state
      · exact .idle rfl rfl rfl changed.symm (plain pc rfl)
      · refine .announced ?_ (Or.inl rfl) rfl
        simp [ControlTask.announces, Handler.goto, changed, HandlerPc.announces]
  | snapshotTaken => exact .taken rfl rfl rfl
  | observed pc seen | finished pc seen =>
      obtain ⟨_, _, _, held, rfl⟩ := observe_cases seen
      exact .observed held rfl rfl rfl rfl (plain pc rfl)
  | _ => exact .idle rfl rfl rfl rfl (plain ‹h.pc = _› rfl)

/-- The step is one of those by which a handler shirks its publication. -/
def dropsEcho (c : ControlConfig ε) (i : Nat) (a : ControlAction) : Bool :=
  match a, c.task i with
  | .handler action, .handler h => h.dropsEcho c.shared action
  | _, _ => false

theorem ControlStep.service {obs : Observers ε} {c : ControlConfig ε} {i : Nat}
    {sh : ControlShared ε} {a : ControlAction} {t : ControlTask}
    (step : ControlStep obs i c.shared a (c.task i) sh t) (kept : dropsEcho c i a = false) :
    ServiceStep obs c.shared (c.task i) sh t := by
  generalize own : c.task i = task at step
  cases step with
  | accept | requestStop => exact .idle rfl rfl rfl rfl rfl
  | transportLost | resetTransport => exact .announced rfl (Or.inl rfl) rfl
  | handler step => exact step.service (by simpa [dropsEcho, own] using kept)
  | call step =>
      cases step with
      | signalled | locked => exact .announced rfl (Or.inl rfl) rfl
      | degraded => exact .taken rfl rfl rfl
      | observed pc seen =>
          obtain ⟨_, _, _, held, rfl⟩ := observe_cases seen
          exact .observed held rfl rfl rfl rfl
            (by simp [ControlTask.announces, pc, CallPc.announces])
  | request step => cases step <;> exact .idle rfl rfl rfl rfl rfl

/-- Somebody is on the way to a publication, or what was read last is what the machine
says. -/
def Announced (c : ControlConfig ε) : Prop :=
  (∃ i, (c.task i).announces = true) ∨ c.shared.latest.state = c.shared.machine.state

/-- The last report said Connected, and nothing is on the way to another. -/
structure Settled (c : ControlConfig ε) : Prop where
  connected : c.shared.observed.state = .connected
  silent : ∀ i, (c.task i).announces = false
  free : c.shared.publication.bind Publication.snapshot = none

theorem Announced.connected {c : ControlConfig ε} (inv : Announced c) (settled : Settled c) :
    c.shared.machine.state = .connected := by
  rcases inv with ⟨i, announces⟩ | same
  · rw [settled.silent i] at announces
    cases announces
  · rw [← same, ControlShared.latest, settled.free]
    exact settled.connected

section
variable {obs : Observers ε} {c : ControlConfig ε} {i : Nat} {sh : ControlShared ε}
  {t : ControlTask}

theorem announces_update (announces : t.announces = true) :
    ∃ k, (Function.update c.task i t k).announces = true :=
  ⟨i, by simpa using announces⟩

theorem Announced.step (inv : Announced c) (step : ServiceStep obs c.shared (c.task i) sh t) :
    Announced (⟨sh, Function.update c.task i t⟩ : ControlConfig ε) := by
  have others : (c.task i).announces = false → (∃ k, (c.task k).announces = true) →
      ∃ k, (Function.update c.task i t k).announces = true := by
    rintro plain ⟨k, announces⟩
    have other : k ≠ i := by
      rintro rfl
      rw [plain] at announces
      cases announces
    exact ⟨k, by simpa [other] using announces⟩
  cases step with
  | announced announces => exact Or.inl (announces_update announces)
  | taken held =>
      right
      show sh.latest.state = sh.machine.state
      simp [ControlShared.latest, held, StateMachine.snapshot]
  | observed held free env seen machine plain =>
      refine inv.imp (others plain) fun same => ?_
      show sh.latest.state = sh.machine.state
      simpa [ControlShared.latest, held, free, seen, machine] using same
  | idle publication env seen state plain =>
      refine inv.imp (others plain) fun same => ?_
      show sh.latest.state = sh.machine.state
      simpa [ControlShared.latest, publication, seen, state] using same

/-- What is settled after a step was settled before it, with the same environment, or
the step handed over a Connected snapshot. -/
theorem Settled.before (settled : Settled (⟨sh, Function.update c.task i t⟩ : ControlConfig ε))
    (step : ServiceStep obs c.shared (c.task i) sh t) :
    (Settled c ∧ sh.env = c.shared.env) ∨
      ∃ snapshot : StateSnapshot, snapshot.state = .connected ∧
        sh.env = obs.state snapshot c.shared.env := by
  cases step with
  | announced announces =>
      have silent := settled.silent i
      simp only [Function.update_self, announces] at silent
      cases silent
  | taken held =>
      have free : sh.publication.bind Publication.snapshot = none := settled.free
      simp [held] at free
  | observed held free env seen =>
      have connected : sh.observed.state = .connected := settled.connected
      exact Or.inr ⟨_, seen ▸ connected, env⟩
  | idle publication env seen state plain =>
      refine Or.inl ⟨⟨seen ▸ settled.connected, fun k => ?_, publication ▸ settled.free⟩, env⟩
      by_cases mine : k = i
      · exact mine ▸ plain
      · simpa [mine] using settled.silent k

end
end

namespace RelayTimeline

theorem step_bumps {s s' : RelayTimeline} {event : RelayEvent}
    (taken : step event s = some s') : s.bumps ≤ s'.bumps ∧ s'.bumps ≤ s.bumps + 1 := by
  obtain ⟨c, _, rfl⟩ := Option.map_eq_some_iff.mp taken
  dsimp only
  split <;> omega

/-- A quiet event arms no timer and leaves no new loss pending. -/
theorem step_quiet {s s' : RelayTimeline} {event : RelayEvent} (quiet : event.quiet = true)
    (taken : step event s = some s') :
    (∀ t ∈ s'.timers, t ∈ s.timers) ∧
      (s'.controller.eligibility.controlLossPending = true →
        s.controller.eligibility.controlLossPending = true) := by
  obtain ⟨c, next, rfl⟩ := Option.map_eq_some_iff.mp taken
  have inactive : ∀ epoch,
      (s.controller.controlInactiveIfEpoch epoch).1.eligibility.controlLossPending = true →
        s.controller.eligibility.controlLossPending = true := by
    intro epoch
    unfold RelayGateController.controlInactiveIfEpoch
    split
    · exact id
    · intro pending
      cases pending
  cases event with
  | controlDegraded => cases quiet
  | screenSuspendedIfEpoch epoch =>
      cases next
      refine ⟨fun t member => member, ?_⟩
      unfold RelayGateController.screenSuspendedIfEpoch
      split
      · exact id
      · intro pending
        cases pending
  | expireControlLoss epoch | controlInactiveIfEpoch epoch =>
      cases next
      exact ⟨fun t member => member, inactive epoch⟩
  | graceElapsed timer =>
      obtain ⟨t, _, rfl⟩ := Option.map_eq_some_iff.mp next
      exact ⟨fun _ member => List.mem_of_mem_eraseIdx member, inactive t.epoch⟩
  | carrierHealthy =>
      cases next
      exact ⟨fun _ member => member, id⟩
  | _ =>
      cases next
      exact ⟨fun _ member => member, fun pending => by cases pending⟩

end RelayTimeline

/-- What the relay controller keeps against the last report: a grace timer, or a sleep
probe, whose epoch is still the current one was started after a report that did not say
Connected. -/
structure Punctual (s : RelayTimeline) (reported : HostState) (pc : MonitorPc) : Prop where
  counted : s.Counted
  bounded : s.bumps < 2 ^ 64
  loss : reported = .connected → s.controller.eligibility.controlLossPending = false
  timers : ∀ t ∈ s.timers, t.armedAt = s.bumps → reported ≠ .connected
  sleep : ∀ epoch forced next, pc = .sleepProbing epoch forced next →
    epoch ≤ s.bumps ∧ (epoch = s.bumps → reported ≠ .connected)

namespace Punctual
variable {s s' : RelayTimeline} {reported : HostState} {pc pc' : MonitorPc}

theorem current (inv : Punctual s reported pc) :
    s.controller.eligibility.controlEpoch = s.bumps := by
  rw [inv.counted.epoch, Nat.mod_eq_of_lt inv.bounded]

/-- A timer that acts after a Connected report is none: its epoch is past. -/
theorem timer_stale (inv : Punctual s .connected pc) {t : GraceTimer} (armed : t ∈ s.timers) :
    s.controller.eligibility.controlEpoch ≠ t.epoch := by
  intro same
  obtain ⟨epoch, past⟩ := inv.counted.armed t armed
  have bounded := inv.bounded
  rw [inv.current, epoch, Nat.mod_eq_of_lt (by omega)] at same
  exact inv.timers t armed same.symm rfl

theorem sleep_stale (inv : Punctual s .connected pc) {epoch : Nat} {forced : Bool}
    {next : MonitorTask} (at_ : pc = .sleepProbing epoch forced next) :
    s.controller.eligibility.controlEpoch ≠ epoch := by
  intro same
  rw [inv.current] at same
  exact (inv.sleep epoch forced next at_).2 same.symm rfl

/-- The relay controller takes at most one quiet step, and a sleep probe starts only
while a loss is pending. -/
theorem moves (inv : Punctual s reported pc) (moved : RelayMoves s s')
    (room : s'.bumps < 2 ^ 64)
    (sleeping : ∀ epoch forced next, pc' = .sleepProbing epoch forced next →
      pc = .sleepProbing epoch forced next ∨
        s'.controller.pendingControlEpoch = some epoch) :
    Punctual s' reported pc' := by
  have grown : s.bumps ≤ s'.bumps ∧ s'.bumps ≤ s.bumps + 1 := by
    rcases moved with rfl | ⟨event, _, taken⟩
    · omega
    · exact RelayTimeline.step_bumps taken
  have kept : (∀ t ∈ s'.timers, t ∈ s.timers) ∧
      (s'.controller.eligibility.controlLossPending = true →
        s.controller.eligibility.controlLossPending = true) := by
    rcases moved with rfl | ⟨event, quiet, taken⟩
    · exact ⟨fun _ member => member, id⟩
    · exact RelayTimeline.step_quiet quiet taken
  have counted : s'.Counted := by
    rcases moved with rfl | ⟨event, _, taken⟩
    · exact inv.counted
    · exact RelayTimeline.counted_step inv.counted taken
  have loss : reported = .connected →
      s'.controller.eligibility.controlLossPending = false := by
    intro connected
    by_contra pending
    have before := kept.2 (by simpa using pending)
    rw [inv.loss connected] at before
    cases before
  refine ⟨counted, by omega, loss, ?_, ?_⟩
  · intro t member now
    have past := (inv.counted.armed t (kept.1 t member)).2
    exact inv.timers t (kept.1 t member) (by omega)
  · intro epoch forced next at_
    rcases sleeping epoch forced next at_ with before | pending
    · obtain ⟨past, stale⟩ := inv.sleep epoch forced next before
      exact ⟨by omega, fun now => stale (by omega)⟩
    · unfold RelayGateController.pendingControlEpoch at pending
      split at pending
      · rename_i live
        have same := counted.epoch
        rw [Nat.mod_eq_of_lt (by omega)] at same
        have epoch_eq := Option.some.inj pending
        refine ⟨by omega, fun _ connected => ?_⟩
        rw [loss connected] at live
        cases live.2
      · cases pending

/-- Another report than Connected. -/
theorem report_other {other : HostState} (inv : Punctual s reported pc)
    (moved : s' = s ∨ ∃ event, RelayTimeline.step event s = some s')
    (room : s.bumps + 1 < 2 ^ 64) (lost : other ≠ .connected) : Punctual s' other pc := by
  have grown : s.bumps ≤ s'.bumps ∧ s'.bumps ≤ s.bumps + 1 := by
    rcases moved with rfl | ⟨event, taken⟩
    · omega
    · exact RelayTimeline.step_bumps taken
  have counted : s'.Counted := by
    rcases moved with rfl | ⟨event, taken⟩
    · exact inv.counted
    · exact RelayTimeline.counted_step inv.counted taken
  refine ⟨counted, by omega, fun h => absurd h lost, fun _ _ _ => lost, ?_⟩
  intro epoch forced next at_
  have past := (inv.sleep epoch forced next at_).1
  exact ⟨by omega, fun _ => lost⟩

/-- A Connected report makes every timer and every sleep probe stale. -/
theorem report_connected (inv : Punctual s reported pc) (room : s.bumps + 1 < 2 ^ 64)
    (taken : RelayTimeline.step .controlConnected s = some s') :
    Punctual s' .connected pc := by
  have bumped := RelayTimeline.bumps_of_supersedes (by simp [RelayTimeline.supersedes]) taken
  have counted := RelayTimeline.counted_step inv.counted taken
  cases taken
  refine ⟨counted, by omega, fun _ => rfl, ?_, ?_⟩
  · intro t member now
    have past := (inv.counted.armed t member).2
    omega
  · intro epoch forced next at_
    have past := (inv.sleep epoch forced next at_).1
    exact ⟨by omega, fun now => by omega⟩

end Punctual

theorem RelayMoves.bumps {s s' : RelayTimeline} (moved : RelayMoves s s') :
    s'.bumps ≤ s.bumps + 1 := by
  rcases moved with rfl | ⟨event, _, taken⟩
  · omega
  · exact (RelayTimeline.step_bumps taken).2

namespace HostEnv
variable (e : HostEnv)

theorem relayGate_step (event : RelayEvent) :
    (e.relayGate event).relay = e.relay ∨
      ∃ cause, RelayTimeline.step cause e.relay = some (e.relayGate event).relay := by
  unfold relayGate
  cases taken : RelayTimeline.step event e.relay with
  | none => exact Or.inl rfl
  | some s => exact Or.inr ⟨event, by simp [taken]⟩

theorem observe_other_relay {snapshot : StateSnapshot} (other : snapshot.state ≠ .connected) :
    (e.observe snapshot).relay = e.relay ∨
      ∃ event, RelayTimeline.step event e.relay = some (e.observe snapshot).relay := by
  have same : (e.observe snapshot).relay = (e.updateRelayGate snapshot).relay := by
    simp only [observe, other, if_false]
    rfl
  rw [same]
  unfold updateRelayGate
  split
  · exact absurd ‹_› other
  · split
    · exact e.relayGate_step _
    · split
      · exact e.relayGate_step _
      · exact Or.inl rfl
  · exact e.relayGate_step _
  · exact e.relayGate_step _
  · exact e.relayGate_step _
  · exact Or.inl rfl

/-- A Connected report reaches the relay as such; rearming a failed recovery also tells
it that the carrier is healthy. -/
theorem observe_connected_relay {snapshot : StateSnapshot}
    (connected : snapshot.state = .connected) :
    ∃ s, RelayTimeline.step .controlConnected e.relay = some s ∧
      ((e.observe snapshot).relay = s ∨
        RelayTimeline.step .carrierHealthy s = some (e.observe snapshot).relay) := by
  refine ⟨(e.relayGate .controlConnected).relay, rfl, ?_⟩
  unfold observe rearmFailedTransportFromAuthenticatedControl
  simp only [updateRelayGate, connected, if_true]
  split
  · exact Or.inl rfl
  · split
    · exact Or.inl rfl
    · exact Or.inr rfl

end HostEnv

theorem RelayTimeline.carrierHealthy_bumps {s s' : RelayTimeline}
    (taken : step .carrierHealthy s = some s') : s'.bumps = s.bumps := by
  cases taken
  simp [RelayGateController.carrierHealthy]

theorem Punctual.observe {e : HostEnv} {reported : HostState} {pc : MonitorPc}
    (inv : Punctual e.relay reported pc) (room : e.relay.bumps + 1 < 2 ^ 64)
    (snapshot : StateSnapshot) : Punctual (e.observe snapshot).relay snapshot.state pc := by
  by_cases connected : snapshot.state = .connected
  · rw [connected]
    obtain ⟨s, taken, same | healed⟩ := e.observe_connected_relay connected
    · rw [same]
      exact inv.report_connected room taken
    · have reported := inv.report_connected room taken
      refine reported.moves (Or.inr ⟨_, rfl, healed⟩) ?_ fun _ _ _ at_ => Or.inl at_
      rw [RelayTimeline.carrierHealthy_bumps healed]
      exact reported.bounded
  · exact inv.report_other (e.observe_other_relay connected) room connected

/-- The duties left for what the relay lacks. -/
structure Attended (v : HostView) (pc : MonitorPc) : Prop where
  carrier : v.stopping = true ∨ v.carrierHealthy = true ∨
    (v.healthy = false ∧ pc.presumes = false) ∨ v.recovery.requiresRecovery = true ∨
    v.authenticatedReconcile = true ∨ pc.repairs = true
  lane : v.stopping = true ∨ v.controlAuthenticated = true ∨
    (v.recovery.requiresRecovery = true ∧ pc.resets = false) ∨ pc.losesTrack = true

namespace Attended
variable {v : HostView} {pc pc' : MonitorPc}

/-- A step of the monitor that makes no control call, while the lifecycle is Connected
and none of the shirking steps is taken. -/
theorem monitor_step {m : Monitor} {e e' : HostEnv} {calls : Nat → Option (Option Nat)}
    {call : Nat} {action : MonitorAction} (inv : Attended e.view m.pc)
    (step : MonitorStep m e .connected calls call action e' pc' none)
    (served : m.completes e action = true →
      e.view.carrierHealthy = true ∨ e.view.healthy = false)
    (restarts : ∀ suspended, action = .androidStatus suspended → m.pc ≠ .restartStatus)
    (reports : m.repeatsLoss e .connected action = false)
    (awake : ∀ epoch forced next, m.pc = .sleepProbing epoch forced next →
      e.eligibility.controlEpoch ≠ epoch) :
    Attended e'.view pc' := by
  obtain ⟨carrier, lane⟩ := inv
  cases step with
  | moved view keeps _ _ plain =>
      clear served restarts reports awake
      rw [view]
      rcases keeps with stopping | ⟨repairs, track⟩
      · exact ⟨Or.inl stopping, Or.inl stopping⟩
      · constructor
        · rw [plain.2]
          rcases carrier with h | h | h | h | h | h <;> simp_all
        · rw [plain.1]
          rcases lane with h | h | h | h <;> simp_all
  | confirming plain same =>
      clear served restarts reports awake
      constructor
      · rcases carrier with h | h | h | h | h | h <;> simp_all [MonitorPc.presumes]
      · rcases lane with h | h | h | h <;> simp_all [MonitorPc.resets]
  | confirmed pc view =>
      clear served restarts reports awake
      rw [view]
      constructor
      · rcases carrier with h | h | h | h | h | h <;>
          simp_all [MonitorPc.presumes, MonitorPc.repairs]
      · rcases lane with h | h | h | h <;> simp_all [MonitorPc.resets, MonitorPc.losesTrack]
  | trackLost view =>
      rw [view]
      exact ⟨by simp [MonitorPc.presumes], by simp [MonitorPc.losesTrack]⟩
  | reported view lost _ plain =>
      rw [view]
      have track : m.pc.losesTrack = false := by
        rcases lost with track | inactive | repeats
        · exact track
        · cases inactive
        · rw [reports] at repeats
          cases repeats
      refine ⟨by simp [plain], ?_⟩
      rcases lane with h | h | h | h <;> simp_all
  | recorded _ _ repeats =>
      rw [reports] at repeats
      cases repeats
  | repeated view unhealthy track _ plain =>
      clear served restarts reports awake
      rw [view]
      refine ⟨by simp [plain, unhealthy], ?_⟩
      rcases lane with h | h | h | h <;> simp_all
  | unavailable inactive => cases inactive
  | healed view plain _ settled =>
      clear served restarts reports awake
      rw [view]
      refine ⟨by simp, ?_⟩
      rcases lane with h | h | h | h <;> simp_all
  | slept pc current => exact absurd current (awake _ _ _ pc)
  | retried _ plain view settled =>
      clear served restarts reports awake
      rw [view]
      refine ⟨by simp, ?_⟩
      rcases lane with h | h | h | h <;> simp_all
  | completed completes _ awaiting plain view settled =>
      rw [view]
      constructor
      · rcases served completes with h | h <;> simp [h, settled]
      · rcases lane with h | h | h | h <;>
          simp_all [TransportRecoverySnapshot.requiresRecovery]
  | recovers _ _ _ required view _ _ plain =>
      rw [view]
      exact ⟨by simp [required], by simp [required, plain]⟩
  | reconciles idle plain view taken _ settled =>
      clear served restarts reports awake
      rw [view]
      constructor
      · rcases carrier with h | h | h | h | h | h <;> rcases taken with k | k | k <;> simp_all
      · rcases lane with h | h | h | h <;> simp_all
  | rebuildFailed _ view settled =>
      rw [view]
      have required := (HostEnv.failAttempt_requiresRecovery e.view.recovery).1
      exact ⟨by simp [required], by simp [required, settled]⟩
  | reset was _ _ state _ view settled =>
      rw [view]
      refine ⟨by simp, ?_⟩
      rcases lane with h | h | h | h
      · exact Or.inl h
      · exact Or.inr (Or.inl h)
      · simp [was, MonitorPc.resets] at h
      · simp [was, MonitorPc.losesTrack] at h
  | restartLost was taken => exact absurd was (restarts _ taken)

theorem env_step {e e' : HostEnv} (inv : Attended e.view pc) (step : EnvStep e e')
    (punctual : Punctual e.relay .connected pc)
    (rebuilds : pc.rebuilds = true → e.view.recovery.state ∈ [.rebuildingMappings, .pending]) :
    Attended e'.view pc := by
  have idle : e.view.recovery.state ∉ [.rebuildingMappings, .pending] → pc.resets = false := by
    intro other
    by_contra h
    refine other (rebuilds ?_)
    cases pc <;> simp_all [MonitorPc.resets, MonitorPc.rebuilds]
  cases step with
  | silent view =>
      rw [view]
      exact inv
  | suppressed view =>
      rw [view]
      exact ⟨Or.inl rfl, Or.inl rfl⟩
  | expired awaiting view =>
      rw [view]
      have required := (HostEnv.failAttempt_requiresRecovery e.view.recovery).1
      exact ⟨by simp [required], by simp [required, idle (by simp [awaiting])]⟩
  | rearmed failed view =>
      rw [view]
      exact ⟨by simp [TransportRecoverySnapshot.renew, TransportRecoverySnapshot.requiresRecovery],
        by simp [TransportRecoverySnapshot.renew, TransportRecoverySnapshot.requiresRecovery,
          idle (by simp [failed])]⟩
  | grace armed _ view =>
      rcases view with same | ⟨current, _⟩
      · rw [same]
        exact inv
      · exact absurd current (punctual.timer_stale (List.mem_of_getElem? armed))

/-- A Connected report attends to everything at once. -/
theorem observe {snapshot : StateSnapshot} (e : HostEnv)
    (connected : snapshot.state = .connected) : Attended (e.observe snapshot).view pc := by
  rcases e.observe_connected_view connected with view | ⟨_, _, _, _, view⟩ <;> rw [view] <;>
    exact ⟨by simp, by simp⟩

end Attended

theorem MonitorStep.rebuilding {m : Monitor} {e e' : HostEnv} {lifecycle : HostState}
    {calls : Nat → Option (Option Nat)} {call : Nat} {action : MonitorAction} {pc : MonitorPc}
    {spawned : Option ControlAction}
    (step : MonitorStep m e lifecycle calls call action e' pc spawned)
    (before : m.pc.rebuilds = true → e.view.recovery.state ∈ [.rebuildingMappings, .pending])
    (rebuilds : pc.rebuilds = true) :
    e'.view.recovery.state ∈ [.rebuildingMappings, .pending] := by
  cases step with
  | moved view _ _ kept =>
      rw [view]
      exact before (kept rebuilds)
  | resets view _ kept =>
      rw [view]
      exact before (kept rebuilds)
  | recovers _ _ _ _ view _ begun =>
      rw [view]
      simp [begun rebuilds]
  | confirming | confirmed | trackLost | slept => cases rebuilds
  | lost _ _ _ _ plain | recorded _ _ _ _ _ plain | unavailable _ _ _ plain =>
      cases plain.symm.trans rebuilds
  | reported _ _ _ plain | repeated _ _ _ _ plain => cases plain.1.symm.trans rebuilds
  | healed _ _ _ settled | reconciles _ _ _ _ _ settled => cases settled.1.symm.trans rebuilds
  | retried _ _ _ settled | completed _ _ _ _ _ settled | rebuildFailed _ _ settled
  | reset _ _ _ _ _ _ settled | restartLost _ _ _ _ settled =>
      cases settled.2.1.symm.trans rebuilds

/-- A step that shirks a duty of the relay while the lifecycle is Connected. -/
def shirks (c : RuntimeConfig) : RuntimeAction → Bool
  | .control i action => dropsEcho c.control i action
  | .monitor _ action =>
      c.control.shared.machine.state = .connected &&
        (c.monitor.completes c.env action && c.env.status.healthy &&
            !c.env.eligibility.carrierHealthy ||
          c.monitor.repeatsLoss c.env .connected action ||
          match action, c.monitor.pc with
          | .androidStatus _, .restartStatus => true
          | _, _ => false)
  | _ => false

/-- No duty is shirked, and the relay epoch does not run through its 64 bits. -/
def Dutiful (c : RuntimeConfig) (a : RuntimeAction) : Prop :=
  shirks c a = false ∧ c.env.relay.bumps + 1 < 2 ^ 64

instance (c : RuntimeConfig) (a : RuntimeAction) : Decidable (Dutiful c a) :=
  inferInstanceAs (Decidable (_ ∧ _))

/-- What the runtime keeps in such runs. -/
structure Serviced (c : RuntimeConfig) : Prop where
  announced : Announced c.control
  punctual : Punctual c.env.relay c.control.shared.observed.state c.monitor.pc
  rebuilds : c.monitor.pc.rebuilds = true →
    c.env.view.recovery.state ∈ [.rebuildingMappings, .pending]
  attended : Settled c.control → Attended c.env.view c.monitor.pc


theorem EnvStep.relayMoves {e e' : HostEnv} (step : EnvStep e e') :
    RelayMoves e.relay e'.relay := by
  cases step with
  | silent _ relay | suppressed _ relay | rearmed _ _ relay => exact Or.inl relay
  | expired _ _ relay => exact relay
  | grace _ relay => exact Or.inr ⟨_, rfl, relay⟩

theorem EnvStep.rebuilding {e e' : HostEnv} (step : EnvStep e e')
    (before : e.view.recovery.state ∈ [.rebuildingMappings, .pending]) :
    e'.view.recovery.state ∈ [.rebuildingMappings, .pending] := by
  cases step with
  | silent view | suppressed view =>
      rw [view]
      exact before
  | expired awaiting view => simp [awaiting] at before
  | rearmed failed view => simp [failed] at before
  | grace _ _ view =>
      rcases view with same | ⟨_, moved⟩
      · rw [same]
        exact before
      · rw [moved]
        exact before

theorem Call.fresh.announces {r : Call} (fresh : r.fresh) :
    (ControlTask.call r).announces = true := by
  rcases fresh.1 with pc | pc <;> simp [ControlTask.announces, pc, CallPc.announces]

namespace Serviced
variable {c c' : RuntimeConfig}

theorem initial (session : SessionId) : Serviced (.initial session) where
  announced := Or.inr rfl
  punctual := by
    show Punctual .initial .preparing .spawning
    constructor
    · exact RelayTimeline.counted_initial
    · decide
    · simp
    · simp
    · simp
  rebuilds := fun rebuilds => by cases rebuilds
  attended := fun settled => by cases settled.connected

/-- What a step of the control server does to the relay and the recovery. -/
theorem service (inv : Serviced c) (room : c.env.relay.bumps + 1 < 2 ^ 64) {i : Nat}
    {sh : ControlShared HostEnv} {t : ControlTask}
    (step : ServiceStep hostObservers c.control.shared (c.control.task i) sh t) :
    Punctual sh.env.relay sh.observed.state c.monitor.pc ∧
      (c.monitor.pc.rebuilds = true →
        sh.env.view.recovery.state ∈ [.rebuildingMappings, .pending]) := by
  have quiet : ∀ event : RelayEvent, event.quiet = true →
      Punctual (c.env.relayGate event).relay c.control.shared.observed.state c.monitor.pc := by
    intro event silent
    have moves := c.env.relayGate_moves event silent
    have bumps := moves.bumps
    exact inv.punctual.moves moves (by omega) fun _ _ _ at_ => Or.inl at_
  cases step with
  | announced _ env seen =>
      rw [seen]
      rcases env with same | suspended | woken
      · rw [same]
        exact ⟨inv.punctual, inv.rebuilds⟩
      · rw [suspended, HostEnv.suspend_view]
        exact ⟨quiet _ rfl, inv.rebuilds⟩
      · rw [woken, HostEnv.wake_view]
        exact ⟨quiet .authenticatedWake rfl, inv.rebuilds⟩
  | taken _ env seen =>
      rw [env, seen]
      exact ⟨inv.punctual, inv.rebuilds⟩
  | idle _ env seen =>
      rw [env, seen]
      exact ⟨inv.punctual, inv.rebuilds⟩
  | @observed _ _ snapshot _ _ env seen =>
      have env : sh.env = c.env.observe snapshot := env
      rw [env, seen]
      refine ⟨inv.punctual.observe room snapshot, fun rebuilds => ?_⟩
      have before := inv.rebuilds rebuilds
      by_cases connected : snapshot.state = .connected
      · rcases c.env.observe_connected_view connected with view | ⟨failed, _⟩
        · rw [view]
          exact before
        · simp [failed] at before
      · obtain ⟨_, _, view⟩ := c.env.observe_other_view connected
        rw [view]
        exact before

theorem step {a : RuntimeAction} (inv : Serviced c) (meets : Dutiful c a)
    (taken : RuntimeConfig.step a c = some c') : Serviced c' := by
  obtain ⟨duty, room⟩ := meets
  cases RuntimeConfig.step_cases taken with
  | @control i action sh t own step =>
      have service := step.service duty
      obtain ⟨punctual, rebuilds⟩ := inv.service room service
      refine ⟨inv.announced.step service, punctual, rebuilds, fun settled => ?_⟩
      rcases settled.before service with ⟨before, env⟩ | ⟨snapshot, connected, env⟩
      · show Attended sh.env.view c.monitor.pc
        rw [env]
        exact inv.attended before
      · show Attended sh.env.view c.monitor.pc
        rw [env]
        exact .observe c.env connected
  | @monitor call action segment step relayed =>
      have small : segment.env.relay.bumps < 2 ^ 64 := by
        have bumps := relayed.moves.bumps
        omega
      refine ⟨inv.announced, ?_, step.rebuilding inv.rebuilds, fun settled => ?_⟩
      · refine inv.punctual.moves relayed.moves small fun epoch forced next at_ => ?_
        exact Or.inr (relayed.sleeping epoch forced next at_)
      · have settled : Settled c.control := ⟨settled.connected, settled.silent, settled.free⟩
        have connected := inv.announced.connected settled
        have punctual := inv.punctual
        rw [settled.connected] at punctual
        rw [connected] at step
        simp only [shirks, connected, decide_true, Bool.true_and, Bool.or_eq_false_iff] at duty
        obtain ⟨⟨served, reports⟩, restarts⟩ := duty
        refine (inv.attended settled).monitor_step step ?_ ?_ reports
          fun _ _ _ at_ => punctual.sleep_stale at_
        · intro completes
          by_contra lost
          simp only [not_or, Bool.not_eq_true, Bool.not_eq_false] at lost
          have carrier : c.env.eligibility.carrierHealthy = false := lost.1
          have healthy : c.env.status.healthy = true := lost.2
          simp [completes, carrier, healthy] at served
        · rintro suspended rfl at_
          simp [at_] at restarts
  | @calls call action segment spawned r step relayed vacant fresh =>
      have small : segment.env.relay.bumps < 2 ^ 64 := by
        have bumps := relayed.moves.bumps
        omega
      refine ⟨Or.inl (announces_update fresh.announces), ?_, step.rebuilding inv.rebuilds,
        fun settled => ?_⟩
      · refine inv.punctual.moves relayed.moves small fun epoch forced next at_ => ?_
        exact Or.inr (relayed.sleeping epoch forced next at_)
      · have silent := settled.silent call
        simp only [Function.update_self, fresh.announces] at silent
        cases silent
  | @resumed call r vacant fresh =>
      refine ⟨Or.inl (announces_update fresh.announces), inv.punctual, fun _ => ?_,
        fun settled => ?_⟩
      · show c.env.notifyHostResume.view.recovery.state ∈ _
        rw [HostEnv.notifyHostResume_view]
        simp [TransportRecoverySnapshot.notify, TransportRecoverySnapshot.renew]
      · have silent := settled.silent call
        simp only [Function.update_self, fresh.announces] at silent
        cases silent
  | @env _ e step =>
      have small : e.relay.bumps < 2 ^ 64 := by
        have bumps := step.relayMoves.bumps
        omega
      refine ⟨inv.announced, ?_, fun rebuilds => step.rebuilding (inv.rebuilds rebuilds),
        fun settled => ?_⟩
      · exact inv.punctual.moves step.relayMoves small fun _ _ _ at_ => Or.inl at_
      · have settled : Settled c.control := ⟨settled.connected, settled.silent, settled.free⟩
        have punctual := inv.punctual
        rw [settled.connected] at punctual
        exact (inv.attended settled).env_step step punctual inv.rebuilds

theorem of_reachable {session : SessionId}
    (h : (runtimeSystem session).Reachable Dutiful c) : Serviced c :=
  h.invariant (initial session) fun _ _ _ inv meets taken => inv.step meets taken

end Serviced

/-- The task waits for its peer, or is done. -/
def ControlTask.atRest : ControlTask → Bool
  | .vacant | .request _ => true
  | .handler h =>
      match h.pc with
      | .hello | .select | .polling | .returned _ => true
      | _ => false
  | .call r =>
      match r.pc with
      | .returned _ => true
      | _ => false

/-- No handler step, publication or monitor operation is in progress, no notification is
undelivered, and repairs are not suppressed. -/
structure RuntimeConfig.Quiescent (c : RuntimeConfig) : Prop where
  tasks : ∀ i, (c.control.task i).atRest = true
  publication : c.control.shared.publication = none
  monitor : c.monitor.pc = .selecting
  notified : c.env.changed = false ∧ c.env.notifies = 0
  flag : c.env.authenticatedReconcile = false
  repairs : c.env.stopping = false

section
variable {session : SessionId} {c : RuntimeConfig}

end

/-- The task an action is about, if it is about one. -/
def RuntimeAction.task : RuntimeAction → Option Nat
  | .control i _ | .monitor i _ | .hostResume i => some i
  | _ => none

/-- Only the tasks of a schedule can be busy after it. -/
theorem RuntimeConfig.task_of_untouched {ok : RuntimeConfig → RuntimeAction → Prop}
    {session : SessionId} {c : RuntimeConfig} {acts : List RuntimeAction} {i : Nat}
    (path : (runtimeSystem session).Path ok (runtimeSystem session).init acts c)
    (untouched : some i ∉ acts.map RuntimeAction.task) : c.control.task i = .vacant := by
  induction path with
  | nil => rfl
  | @snoc acts t u a before meets taken ih =>
      simp only [List.map_append, List.mem_append, not_or, List.map_cons, List.map_nil,
        List.mem_singleton] at untouched
      have idle := ih untouched.1
      have other := untouched.2
      cases RuntimeConfig.step_cases taken with
      | control | calls | resumed =>
          have other : i ≠ _ := fun same => other (congrArg some same)
          simpa [other] using idle
      | monitor | env => exact idle

namespace Schedule

end Schedule

end QuestVdWired.Host
