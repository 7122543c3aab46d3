import QuestVdWired.Host.StateMachine
import QuestVdWired.Transition.System

/-!
Runs of the lifecycle machine: any sequence of its nine operations from `new`. What
the fields say of each other holds in every state reached, `Stopped` is entered only
through `stopped`, and a headset that reported sleep stays asleep until it is started,
stopped or failed.
-/

namespace QuestVdWired.Host

open Transition

/-- A call of one of the operations. -/
inductive LifecycleOp
  | beginStart (session : SessionId)
  | peerStarted (session : SessionId) (now : Instant)
  | heartbeat (session : SessionId) (now : Instant)
  | tick (now : Instant)
  | transportLost (reason : String)
  | peerSuspended (session : SessionId)
  | beginStop
  | stopped
  | fail (reason : String)
  deriving DecidableEq

namespace StateMachine

/-- The result of an operation; the three without a guard always succeed. -/
def apply (m : StateMachine) : LifecycleOp → Result
  | .beginStart session => m.beginStart session
  | .peerStarted session now => m.peerStarted session now
  | .heartbeat session now => m.heartbeat session now
  | .tick now => (.ok (), m.tick now)
  | .transportLost reason => (.ok (), m.transportLost reason)
  | .peerSuspended session => m.peerSuspended session
  | .beginStop => m.beginStop
  | .stopped => m.stopped
  | .fail reason => (.ok (), m.fail reason)

/-- A caller that goes on whatever an operation returns. -/
def lifecycle : System StateMachine LifecycleOp :=
  ⟨new, fun op m => some (m.apply op).2⟩

theorem beginStart_ok {m m' : StateMachine} {session : SessionId} {u : Unit}
    (h : m.beginStart session = (.ok u, m')) :
    m.state ∈ [.stopped, .error] ∧
      m' = { state := .preparing, sessionId := some session, lastHeartbeat := none,
             missedHeartbeats := 0, reason := none } := by
  unfold beginStart at h
  split at h
  · cases h
  · rename_i hstate
    cases h
    exact ⟨requireState_ok hstate, rfl⟩

/-- A refused operation leaves every field as it was. -/
theorem apply_refused {m : StateMachine} {op : LifecycleOp} {e : TransitionError}
    (refused : (m.apply op).1 = .error e) : (m.apply op).2 = m := by
  cases op with
  | beginStart session => exact (Guarded.beginStart session).refused refused
  | peerStarted session now => exact (Guarded.peerStarted session now).refused refused
  | heartbeat session now => exact (Guarded.heartbeat session now).refused refused
  | peerSuspended session => exact (Guarded.peerSuspended session).refused refused
  | beginStop => exact Guarded.beginStop.refused refused
  | stopped => exact Guarded.stopped.refused refused
  | tick | transportLost | fail => cases refused

/-- An operation of a peer of another session is refused. -/
theorem requireSession_stale {m : StateMachine} {session : SessionId}
    (stale : m.sessionId ≠ some session) :
    m.requireSession session = .error (.sessionMismatch m.sessionId session) := by
  unfold requireSession
  cases known : m.sessionId with
  | none => rfl
  | some expected =>
      have other : expected ≠ session := by
        rintro rfl
        exact stale known
      simp [other]

/-- The outcomes of an operation. -/
inductive LifecycleStep (m : StateMachine) : LifecycleOp → StateMachine → Prop
  | refused {op : LifecycleOp} {e : TransitionError} (why : (m.apply op).1 = .error e) :
      LifecycleStep m op m
  | begun {session : SessionId} (state : m.state ∈ [.stopped, .error]) :
      LifecycleStep m (.beginStart session)
        { state := .preparing, sessionId := some session, lastHeartbeat := none,
          missedHeartbeats := 0, reason := none }
  | started {session : SessionId} {now : Instant} (known : m.sessionId = some session)
      (state : m.state ∈ [.preparing, .connected, .degraded])
      (ok : (m.apply (.peerStarted session now)).1 = .ok ()) :
      LifecycleStep m (.peerStarted session now)
        { m with
          state := .connected
          lastHeartbeat := some now
          missedHeartbeats := 0
          reason := none }
  | beaten {session : SessionId} {now : Instant} (known : m.sessionId = some session)
      (state : m.state ∈ [.connected, .degraded])
      (awake : ¬ (m.state = .degraded ∧ m.reason = some HEADSET_SUSPENDED_REASON)) :
      LifecycleStep m (.heartbeat session now)
        { m with
          state := .connected
          lastHeartbeat := some now
          missedHeartbeats := 0
          reason := none }
  | dozed {session : SessionId} {now : Instant} (known : m.sessionId = some session)
      (state : m.state = .degraded) :
      LifecycleStep m (.heartbeat session now)
        { m with lastHeartbeat := some now, missedHeartbeats := 0 }
  | ticked {now : Instant} {missed : Nat}
      (few : m.state = .connected → m.lastHeartbeat.isSome = true →
        missed < HEARTBEAT_MISS_LIMIT) :
      LifecycleStep m (.tick now) { m with missedHeartbeats := missed }
  | missed {now : Instant} {missed : Nat} (state : m.state = .connected) :
      LifecycleStep m (.tick now)
        { m with
          missedHeartbeats := missed
          state := .degraded
          reason := some HEARTBEAT_MISSED_REASON }
  | lost {reason : String} (state : m.state ∈ [.preparing, .connected, .degraded])
      (awake : ¬ (m.state = .degraded ∧ m.reason = some HEADSET_SUSPENDED_REASON)) :
      LifecycleStep m (.transportLost reason)
        { m with state := .degraded, reason := some reason }
  | deaf {reason : String} : LifecycleStep m (.transportLost reason) m
  | suspended {session : SessionId} (known : m.sessionId = some session)
      (state : m.state ∈ [.connected, .degraded]) :
      LifecycleStep m (.peerSuspended session)
        { m with
          state := .degraded
          lastHeartbeat := none
          missedHeartbeats := 0
          reason := some HEADSET_SUSPENDED_REASON }
  | stopping (ok : (m.apply .beginStop).1 = .ok ()) :
      LifecycleStep m .beginStop { m with state := .stopping, reason := none }
  | stopped (state : m.state = .stopping) : LifecycleStep m .stopped new
  | failed {reason : String} : LifecycleStep m (.fail reason) (m.fail reason)

theorem heartbeat_awake {m m' : StateMachine} {session : SessionId} {now : Instant} {u : Unit}
    (h : m.heartbeat session now = (.ok u, m'))
    (awake : ¬ (m.state = .degraded ∧ m.reason = some HEADSET_SUSPENDED_REASON)) :
    m.state ∈ [.connected, .degraded] ∧
      m' = { m with
        state := .connected
        lastHeartbeat := some now
        missedHeartbeats := 0
        reason := none } := by
  obtain ⟨_, ⟨degraded, asleep, _⟩ | same⟩ := heartbeat_ok h
  · exact absurd ⟨degraded, asleep⟩ awake
  · exact same

theorem tick_step (m : StateMachine) (now : Instant) :
    LifecycleStep m (.tick now) (m.tick now) := by
  unfold tick
  split
  · rename_i other
    exact .ticked fun connected => absurd connected other
  · rename_i connected
    have connected : m.state = .connected := Classical.not_not.mp connected
    split
    · rename_i silent
      refine .ticked fun _ known => ?_
      rw [silent] at known
      cases known
    · dsimp only
      split
      · exact .missed connected
      · rename_i few
        exact .ticked fun _ _ => Nat.not_le.mp few

theorem transportLost_step (m : StateMachine) (reason : String) :
    LifecycleStep m (.transportLost reason) (m.transportLost reason) := by
  unfold transportLost
  split
  · rename_i live
    refine .lost ?_ fun asleep => ?_
    · rcases live with h | h <;> simp [h]
    · rcases live with h | h <;> simp [h] at asleep
  · split
    · rename_i degraded
      have same : ({ m with reason := some reason } : StateMachine) =
          { m with state := .degraded, reason := some reason } := by
        rw [← degraded.1]
      rw [same]
      exact .lost (by simp [degraded.1]) fun asleep => degraded.2 asleep.2
    · exact .deaf

/-- There are no other outcomes. -/
theorem apply_step (m : StateMachine) (op : LifecycleOp) : LifecycleStep m op (m.apply op).2 := by
  cases verdict : (m.apply op).1 with
  | error e =>
      rw [apply_refused verdict]
      exact .refused verdict
  | ok u =>
      have whole : m.apply op = (.ok u, (m.apply op).2) := by rw [← verdict]
      cases op with
      | beginStart session =>
          obtain ⟨state, same⟩ := beginStart_ok whole
          rw [same]
          exact .begun state
      | peerStarted session now =>
          obtain ⟨known, state, same⟩ := peerStarted_ok whole
          rw [same]
          exact .started known state verdict
      | heartbeat session now =>
          obtain ⟨known, _⟩ := heartbeat_ok whole
          by_cases asleep : m.state = .degraded ∧ m.reason = some HEADSET_SUSPENDED_REASON
          · have same : m.apply (.heartbeat session now) =
                (.ok (), { m with lastHeartbeat := some now, missedHeartbeats := 0 }) := by
              simp [apply, heartbeat, requireSession, known, asleep]
            rw [same]
            exact .dozed known asleep.1
          · obtain ⟨state, same⟩ := heartbeat_awake whole asleep
            rw [same]
            exact .beaten known state asleep
      | tick now => exact m.tick_step now
      | transportLost reason => exact m.transportLost_step reason
      | peerSuspended session =>
          obtain ⟨known, state, same⟩ := peerSuspended_ok whole
          rw [same]
          exact .suspended known state
      | beginStop =>
          obtain ⟨_, same⟩ := beginStop_ok whole
          rw [same]
          exact .stopping verdict
      | stopped =>
          obtain ⟨state, same⟩ := stopped_ok whole
          rw [same]
          exact .stopped state
      | fail reason => exact .failed

/-- What the fields say of each other. -/
structure Coherent (m : StateMachine) : Prop where
  stopped : m.state = .stopped → m.sessionId = none
  session : m.state ∈ [.preparing, .connected, .degraded] → m.sessionId.isSome = true
  alive : m.state = .connected →
    m.lastHeartbeat.isSome = true ∧ m.missedHeartbeats < HEARTBEAT_MISS_LIMIT

theorem coherent_step {m m' : StateMachine} {op : LifecycleOp} (inv : Coherent m)
    (step : LifecycleStep m op m') : Coherent m' := by
  cases step with
  | refused | deaf => exact inv
  | begun => exact ⟨by simp, by simp, by simp⟩
  | started known | beaten known =>
      exact ⟨by simp, by simp [known], by simp [HEARTBEAT_MISS_LIMIT]⟩
  | dozed known state => exact ⟨inv.stopped, inv.session, by simp [state]⟩
  | ticked few =>
      refine ⟨inv.stopped, inv.session, fun connected => ?_⟩
      have known := (inv.alive connected).1
      exact ⟨known, few connected known⟩
  | missed state =>
      have known := inv.session (by simp [state])
      exact ⟨by simp, fun _ => known, by simp⟩
  | lost state =>
      have known := inv.session state
      exact ⟨by simp, fun _ => known, by simp⟩
  | suspended known => exact ⟨by simp, by simp [known], by simp⟩
  | stopping => exact ⟨by simp, by simp, by simp⟩
  | stopped => exact ⟨fun _ => rfl, by simp [new], by simp [new]⟩
  | failed => exact ⟨by simp [fail], by simp [fail], by simp [fail]⟩

theorem coherent_of_reachable {m : StateMachine} (h : lifecycle.Reachable Free m) :
    Coherent m := by
  refine h.invariant ⟨fun _ => rfl, by simp [lifecycle, new], by simp [lifecycle, new]⟩ ?_
  rintro m op m' inv _ taken
  cases taken
  exact coherent_step inv (m.apply_step op)

/-- The headset reported that it is asleep. -/
def Asleep (m : StateMachine) : Prop :=
  m.state = .degraded ∧ m.reason = some HEADSET_SUSPENDED_REASON

/-- The operation wakes, stops or fails the session. -/
def rouses (m : StateMachine) : LifecycleOp → Bool
  | .peerStarted session now => (m.peerStarted session now).1.toBool
  | .beginStop => m.beginStop.1.toBool
  | .fail _ => true
  | _ => false

def Undisturbed (m : StateMachine) (op : LifecycleOp) : Prop := m.rouses op = false

instance (m : StateMachine) (op : LifecycleOp) : Decidable (Undisturbed m op) :=
  inferInstanceAs (Decidable (_ = _))

theorem asleep_step {m m' : StateMachine} {op : LifecycleOp} (asleep : Asleep m)
    (undisturbed : Undisturbed m op) (step : LifecycleStep m op m') : Asleep m' := by
  obtain ⟨degraded, reason⟩ := asleep
  cases step with
  | refused | deaf | ticked | dozed => exact ⟨degraded, reason⟩
  | begun state => simp [degraded] at state
  | started _ _ ok =>
      have ok : (m.peerStarted _ _).1 = .ok () := ok
      simp [Undisturbed, rouses, ok, Except.toBool] at undisturbed
  | beaten _ _ awake | lost _ awake => exact absurd ⟨degraded, reason⟩ awake
  | missed state => cases degraded.symm.trans state
  | suspended => exact ⟨rfl, rfl⟩
  | stopping ok =>
      have ok : m.beginStop.1 = .ok () := ok
      simp [Undisturbed, rouses, ok, Except.toBool] at undisturbed
  | stopped state => cases degraded.symm.trans state
  | failed => cases undisturbed

/-- In every state any sequence of operations reaches: the fields are coherent, a
refused operation changes nothing, a peer of another session is refused, only
`stopped` from Stopping enters Stopped, and after a successful `peer_suspended` the
lifecycle stays asleep through everything but a successful `peer_started` or
`begin_stop` and `fail`. -/
theorem lifecycle_invariant {m : StateMachine} (reached : lifecycle.Reachable Free m) :
    Coherent m ∧
      (∀ op e, (m.apply op).1 = .error e → (m.apply op).2 = m) ∧
      (∀ session now, m.sessionId ≠ some session →
        (m.peerStarted session now).1 = .error (.sessionMismatch m.sessionId session) ∧
        (m.heartbeat session now).1 = .error (.sessionMismatch m.sessionId session) ∧
        (m.peerSuspended session).1 = .error (.sessionMismatch m.sessionId session)) ∧
      (∀ op, m.state ≠ .stopped → (m.apply op).2.state = .stopped →
        op = .stopped ∧ m.state = .stopping) ∧
      (∀ session, (m.peerSuspended session).1 = .ok () → ∀ ops m',
        lifecycle.Path Undisturbed (m.peerSuspended session).2 ops m' → Asleep m') := by
  refine ⟨coherent_of_reachable reached, fun op e => apply_refused, ?_, ?_, ?_⟩
  · intro session now stale
    have refused := requireSession_stale stale
    simp [peerStarted, heartbeat, peerSuspended, refused]
  · intro op before after
    have step := m.apply_step op
    generalize (m.apply op).2 = m' at step after
    cases step with
    | refused | deaf | ticked => exact absurd after before
    | stopped state => exact ⟨rfl, state⟩
    | dozed _ state => cases state.symm.trans after
    | _ => cases after
  · intro session ok ops m' path
    have asleep : Asleep (m.peerSuspended session).2 := by
      have whole : m.peerSuspended session = (.ok (), (m.peerSuspended session).2) := by rw [← ok]
      obtain ⟨_, _, same⟩ := peerSuspended_ok whole
      rw [same]
      exact ⟨rfl, rfl⟩
    refine path.invariant (fun s op t before undisturbed taken => ?_) asleep
    cases taken
    exact asleep_step before undisturbed (s.apply_step op)

/-- A sleeping headset: heartbeats, a tick and a lost transport later it is asleep
still. -/
theorem lifecycle_invariant_asleep :
    ∃ session m m', lifecycle.Reachable Free m ∧ (m.peerSuspended session).1 = .ok () ∧
      lifecycle.Path Undisturbed (m.peerSuspended session).2
        [.heartbeat session 5, .tick 9, .transportLost "lost", .heartbeat session 10] m' ∧
      Asleep m' := by
  obtain ⟨session, m, m', reached, ok, path⟩ :
      ∃ session m m', lifecycle.Reachable Free m ∧ (m.peerSuspended session).1 = .ok () ∧
        lifecycle.Path Undisturbed (m.peerSuspended session).2
          [.heartbeat session 5, .tick 9, .transportLost "lost", .heartbeat session 10] m' :=
    ⟨⟨Vector.replicate 16 1⟩, _, _, System.reachable_of_replay
      [.beginStart ⟨Vector.replicate 16 1⟩, .peerStarted ⟨Vector.replicate 16 1⟩ 0] rfl, rfl,
      System.path_of_replay rfl⟩
  exact ⟨session, m, m', reached, ok, path,
    (lifecycle_invariant reached).2.2.2.2 session ok _ _ path⟩

end StateMachine
end QuestVdWired.Host
