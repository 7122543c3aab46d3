import QuestVdWired.Host.Protocol

/-!
The host lifecycle machine. Operations that borrow the machine mutably and may
fail return the result together with the machine they leave behind, so that a
refused operation is seen to change nothing rather than assumed to.

Instants are nanoseconds on one clock; nothing here depends on their origin.
-/

namespace QuestVdWired.Host

abbrev Instant := Nat

def HEARTBEAT_INTERVAL_MILLIS : Nat := 1000
def HEARTBEAT_MISS_LIMIT : Nat := 3
def HEADSET_SUSPENDED_REASON : String := "headset is asleep; VPN remains active"
def HEARTBEAT_MISSED_REASON : String :=
  "three heartbeat intervals missed; VPN remains active"

inductive HostState
  | stopped | preparing | connected | degraded | stopping | error
  deriving DecidableEq, Repr

structure StateSnapshot where
  state : HostState
  sessionId : Option String
  missedHeartbeats : Nat
  reason : Option String
  deriving DecidableEq, Repr

inductive TransitionError
  | invalidState (actual : HostState) (expected : List HostState)
  | sessionMismatch (expected : Option SessionId) (actual : SessionId)
  deriving DecidableEq, Repr

structure StateMachine where
  state : HostState
  sessionId : Option SessionId
  lastHeartbeat : Option Instant
  missedHeartbeats : Nat
  reason : Option String
  deriving DecidableEq, Repr

/-- The derived `Debug` name of a state, as error texts print it. -/
def HostState.debug : HostState → String
  | .stopped => "Stopped"
  | .preparing => "Preparing"
  | .connected => "Connected"
  | .degraded => "Degraded"
  | .stopping => "Stopping"
  | .error => "Error"

def SessionId.debug (session : SessionId) : String :=
  "SessionId([" ++
    ", ".intercalate (session.bytes.toList.map fun byte => toString byte.toNat) ++ "])"

/-- `TransitionError::to_string`. -/
def TransitionError.message : TransitionError → String
  | .invalidState actual expected =>
      "invalid transition from " ++ actual.debug ++ "; expected one of [" ++
        ", ".intercalate (expected.map HostState.debug) ++ "]"
  | .sessionMismatch expected actual =>
      "stale or unknown session " ++ actual.display ++ "; expected " ++
        match expected with
        | none => "None"
        | some session => "Some(" ++ session.debug ++ ")"

namespace StateMachine

abbrev Result := Except TransitionError Unit × StateMachine

def new : StateMachine :=
  { state := .stopped, sessionId := none, lastHeartbeat := none,
    missedHeartbeats := 0, reason := none }

def requireSession (m : StateMachine) (actual : SessionId) : Except TransitionError Unit :=
  match m.sessionId with
  | some expected =>
      if expected = actual then .ok () else .error (.sessionMismatch (some expected) actual)
  | none => .error (.sessionMismatch none actual)

def requireState (m : StateMachine) (expected : List HostState) :
    Except TransitionError Unit :=
  if m.state ∈ expected then .ok () else .error (.invalidState m.state expected)

def beginStart (m : StateMachine) (session : SessionId) : Result :=
  match m.requireState [.stopped, .error] with
  | .error e => (.error e, m)
  | .ok () =>
      (.ok (), { state := .preparing, sessionId := some session, lastHeartbeat := none,
                 missedHeartbeats := 0, reason := none })

def peerStarted (m : StateMachine) (session : SessionId) (now : Instant) : Result :=
  match m.requireSession session with
  | .error e => (.error e, m)
  | .ok () =>
      match m.requireState [.preparing, .connected, .degraded] with
      | .error e => (.error e, m)
      | .ok () =>
          (.ok (), { m with
            state := .connected
            lastHeartbeat := some now
            missedHeartbeats := 0
            reason := none })

def heartbeat (m : StateMachine) (session : SessionId) (now : Instant) : Result :=
  match m.requireSession session with
  | .error e => (.error e, m)
  | .ok () =>
      -- A sleeping headset keeps its lane alive without being resumed.
      if m.state = .degraded ∧ m.reason = some HEADSET_SUSPENDED_REASON then
        (.ok (), { m with lastHeartbeat := some now, missedHeartbeats := 0 })
      else
        match m.requireState [.connected, .degraded] with
        | .error e => (.error e, m)
        | .ok () =>
            (.ok (), { m with
              state := .connected
              lastHeartbeat := some now
              missedHeartbeats := 0
              reason := none })

def tick (m : StateMachine) (now : Instant) : StateMachine :=
  if m.state ≠ .connected then m
  else
    match m.lastHeartbeat with
    | none => m
    | some last =>
        let intervals := (now - last) / 1000000 / HEARTBEAT_INTERVAL_MILLIS
        let missed := min intervals (2 ^ 32 - 1)
        if HEARTBEAT_MISS_LIMIT ≤ missed then
          { m with
            missedHeartbeats := missed
            state := .degraded
            reason := some HEARTBEAT_MISSED_REASON }
        else { m with missedHeartbeats := missed }

def transportLost (m : StateMachine) (reason : String) : StateMachine :=
  if m.state = .preparing ∨ m.state = .connected then
    { m with state := .degraded, reason := some reason }
  else if m.state = .degraded ∧ m.reason ≠ some HEADSET_SUSPENDED_REASON then
    { m with reason := some reason }
  else m

def peerSuspended (m : StateMachine) (session : SessionId) : Result :=
  match m.requireSession session with
  | .error e => (.error e, m)
  | .ok () =>
      match m.requireState [.connected, .degraded] with
      | .error e => (.error e, m)
      | .ok () =>
          (.ok (), { m with
            state := .degraded
            lastHeartbeat := none
            missedHeartbeats := 0
            reason := some HEADSET_SUSPENDED_REASON })

def beginStop (m : StateMachine) : Result :=
  match m.requireState [.preparing, .connected, .degraded, .error] with
  | .error e => (.error e, m)
  | .ok () => (.ok (), { m with state := .stopping, reason := none })

def stopped (m : StateMachine) : Result :=
  match m.requireState [.stopping] with
  | .error e => (.error e, m)
  | .ok () => (.ok (), new)

def fail (m : StateMachine) (reason : String) : StateMachine :=
  { m with state := .error, lastHeartbeat := none, reason := some reason }

def snapshot (m : StateMachine) : StateSnapshot :=
  { state := m.state
    sessionId := m.sessionId.map SessionId.display
    missedHeartbeats := m.missedHeartbeats
    reason := m.reason }

@[simp] theorem snapshot_state (m : StateMachine) : m.snapshot.state = m.state := rfl
@[simp] theorem snapshot_reason (m : StateMachine) : m.snapshot.reason = m.reason := rfl

theorem requireSession_ok {m : StateMachine} {session : SessionId} {u : Unit}
    (h : m.requireSession session = .ok u) : m.sessionId = some session := by
  unfold requireSession at h
  split at h
  · split at h
    · simp_all
    · cases h
  · cases h

theorem requireState_ok {m : StateMachine} {expected : List HostState} {u : Unit}
    (h : m.requireState expected = .ok u) : m.state ∈ expected := by
  unfold requireState at h
  split at h
  · assumption
  · cases h

/-- The six operations with a guard, as one family. -/
inductive Guarded (m : StateMachine) : Result → Prop
  | beginStart (session : SessionId) : Guarded m (m.beginStart session)
  | peerStarted (session : SessionId) (now : Instant) : Guarded m (m.peerStarted session now)
  | heartbeat (session : SessionId) (now : Instant) : Guarded m (m.heartbeat session now)
  | peerSuspended (session : SessionId) : Guarded m (m.peerSuspended session)
  | beginStop : Guarded m m.beginStop
  | stopped : Guarded m m.stopped

/-- A refused operation leaves every field as it was. -/
theorem Guarded.refused {m : StateMachine} {r : Result} (h : Guarded m r)
    {e : TransitionError} (refused : r.1 = .error e) : r.2 = m := by
  cases h with
  | beginStart session =>
      unfold StateMachine.beginStart at *
      split <;> simp_all
  | peerStarted session now =>
      unfold StateMachine.peerStarted at *
      split
      · rfl
      · split <;> simp_all
  | heartbeat session now =>
      unfold StateMachine.heartbeat at *
      split
      · rfl
      · split
        · simp_all
        · split <;> simp_all
  | peerSuspended session =>
      unfold StateMachine.peerSuspended at *
      split
      · rfl
      · split <;> simp_all
  | beginStop =>
      unfold StateMachine.beginStop at *
      split <;> simp_all
  | stopped =>
      unfold StateMachine.stopped at *
      split <;> simp_all

theorem peerStarted_ok {m m' : StateMachine} {session : SessionId} {now : Instant} {u : Unit}
    (h : m.peerStarted session now = (.ok u, m')) :
    m.sessionId = some session ∧ m.state ∈ [.preparing, .connected, .degraded] ∧
      m' = { m with
        state := .connected
        lastHeartbeat := some now
        missedHeartbeats := 0
        reason := none } := by
  unfold peerStarted at h
  split at h
  · cases h
  · rename_i hsession
    split at h
    · cases h
    · rename_i hstate
      cases h
      exact ⟨requireSession_ok hsession, requireState_ok hstate, rfl⟩

theorem heartbeat_ok {m m' : StateMachine} {session : SessionId} {now : Instant} {u : Unit}
    (h : m.heartbeat session now = (.ok u, m')) :
    m.sessionId = some session ∧
      ((m.state = .degraded ∧ m.reason = some HEADSET_SUSPENDED_REASON ∧
          m' = { m with lastHeartbeat := some now, missedHeartbeats := 0 }) ∨
        (m.state ∈ [.connected, .degraded] ∧
          m' = { m with
            state := .connected
            lastHeartbeat := some now
            missedHeartbeats := 0
            reason := none })) := by
  unfold heartbeat at h
  split at h
  · cases h
  · rename_i hsession
    split at h
    · rename_i asleep
      cases h
      exact ⟨requireSession_ok hsession, Or.inl ⟨asleep.1, asleep.2, rfl⟩⟩
    · split at h
      · cases h
      · rename_i hstate
        cases h
        exact ⟨requireSession_ok hsession, Or.inr ⟨requireState_ok hstate, rfl⟩⟩

theorem peerSuspended_ok {m m' : StateMachine} {session : SessionId} {u : Unit}
    (h : m.peerSuspended session = (.ok u, m')) :
    m.sessionId = some session ∧ m.state ∈ [.connected, .degraded] ∧
      m' = { m with
        state := .degraded
        lastHeartbeat := none
        missedHeartbeats := 0
        reason := some HEADSET_SUSPENDED_REASON } := by
  unfold peerSuspended at h
  split at h
  · cases h
  · rename_i hsession
    split at h
    · cases h
    · rename_i hstate
      cases h
      exact ⟨requireSession_ok hsession, requireState_ok hstate, rfl⟩

theorem beginStop_ok {m m' : StateMachine} {u : Unit} (h : m.beginStop = (.ok u, m')) :
    m.state ∈ [.preparing, .connected, .degraded, .error] ∧
      m' = { m with state := .stopping, reason := none } := by
  unfold beginStop at h
  split at h
  · cases h
  · rename_i hstate
    cases h
    exact ⟨requireState_ok hstate, rfl⟩

theorem stopped_ok {m m' : StateMachine} {u : Unit} (h : m.stopped = (.ok u, m')) :
    m.state = .stopping ∧ m' = new := by
  unfold stopped at h
  split at h
  · cases h
  · rename_i hstate
    cases h
    exact ⟨by simpa using requireState_ok hstate, rfl⟩

theorem tick_cases (m : StateMachine) (now : Instant) :
    (∃ missed, m.tick now = { m with missedHeartbeats := missed }) ∨
      (m.state = .connected ∧ ∃ missed, m.tick now =
        { m with
          missedHeartbeats := missed
          state := .degraded
          reason := some HEARTBEAT_MISSED_REASON }) := by
  unfold tick
  split
  · exact Or.inl ⟨m.missedHeartbeats, rfl⟩
  · rename_i connected
    split
    · exact Or.inl ⟨m.missedHeartbeats, rfl⟩
    · dsimp only
      split
      · exact Or.inr ⟨Classical.not_not.mp connected, _, rfl⟩
      · exact Or.inl ⟨_, rfl⟩

theorem transportLost_cases (m : StateMachine) (reason : String) :
    (m.state ∈ [.preparing, .connected, .degraded] ∧
        m.transportLost reason = { m with state := .degraded, reason := some reason }) ∨
      (m.state ∉ [.preparing, .connected] ∧ m.transportLost reason = m) := by
  unfold transportLost
  split
  · rename_i live
    refine Or.inl ⟨?_, rfl⟩
    rcases live with h | h <;> simp [h]
  · rename_i quiet
    split
    · rename_i degraded
      refine Or.inl ⟨by simp [degraded.1], ?_⟩
      simp [degraded.1]
    · exact Or.inr ⟨by simpa using quiet, rfl⟩

theorem transportLost_not_connected (m : StateMachine) (reason : String) :
    (m.transportLost reason).state ≠ .connected := by
  rcases transportLost_cases m reason with ⟨_, h⟩ | ⟨quiet, h⟩
  · simp [h]
  · rw [h]
    intro connected
    simp [connected] at quiet

end StateMachine
end QuestVdWired.Host
