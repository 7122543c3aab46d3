import QuestVdWired.Host.ControlServer

/-!
What a step of a handler can do. `HandlerStep` lists the outcomes of
`Handler.step` with the guards under which they happen, and the inversion
theorem says that there are no others; every invariant of the control server is
proved from this list and never unfolds the step function again.
-/

namespace QuestVdWired.Host

open Transition

variable {ε : Type}

/-- The checks a frame has passed when its handler waits for the state lock. -/
def Frame.Checked (session : SessionId) (f : Frame) : Prop :=
  f.sessionId = session ∧
    (f.messageType = .started → f.payload = [] ∨ f.payload = STARTED_WAKE_PAYLOAD) ∧
    (f.messageType = .heartbeat → f.payload.length = 16) ∧
    (f.messageType = .suspend → f.payload = [])

/-- The frames the state machine refuses in its present state. -/
def StateMachine.refuses (m : StateMachine) : MessageType → Bool
  | .started => m.state ∈ [.stopped, .error]
  | .heartbeat | .suspend => m.state ∈ [.stopped, .preparing, .error]
  | _ => false

/-- The step returns from `handle` by `?`, past the cleanup that ends the event
loop: a write fails, or a frame of another session or one the state machine
refuses arrives. -/
def Handler.escapes (sh : ControlShared ε) (h : Handler) : HandlerAction → Bool
  | .write (some _) => true
  | .receive (some (.ok f)) => f.sessionId ≠ sh.session
  | .lockState _ =>
      match h.pc with
      | .frame f => sh.machine.refuses f.messageType
      | _ => false
  | _ => false

/-- Moves after which only the handler's own position and the traffic counters
differ. -/
inductive Quiet (id : Nat) (sh : ControlShared ε) (h : Handler) :
    HandlerAction → HandlerPc → Prop
  | polled (pc : h.pc = .select) (live : sh.cancelled id = false) :
      Quiet id sh h .pollCancel .polling
  | cancelled (pc : h.pc = .select) (told : sh.cancelled id = true) :
      Quiet id sh h .pollCancel (.cleanup (.ok ()))
  | idle (pc : h.pc = .polling) : Quiet id sh h .idle .select
  | tickDue (pc : h.pc = .polling) : Quiet id sh h .heartbeatTick .tick
  | received {f : Frame} (pc : h.pc = .polling) (checked : f.Checked sh.session) :
      Quiet id sh h (.receive (some (.ok f))) (.frame f)
  | hungUp {item : Option (Except ControlError Frame)} {result : Outcome}
      (pc : h.pc = .polling) : Quiet id sh h (.receive item) (.cleanup result)
  | tickStale {now : Instant} (pc : h.pc = .tick)
      (stale : sh.isCurrentConnection h.epoch = false) :
      Quiet id sh h (.lockState now) (.cleanup (.ok ()))
  | frameStale {now : Instant} {f : Frame} {result : Outcome} (pc : h.pc = .frame f) :
      Quiet id sh h (.lockState now) (.cleanup result)
  | startIgnored {now : Instant} {f : Frame} (pc : h.pc = .frame f)
      (current : sh.isCurrentConnection h.epoch = true)
      (stopping : sh.machine.state = .stopping) :
      Quiet id sh h (.lockState now) (.publish .readMode)
  | answered {now : Instant} {f : Frame} {out : Outgoing} {next : AfterWrite}
      (pc : h.pc = .frame f) (current : sh.isCurrentConnection h.epoch = true)
      (plain : next = .readMode ∨ next = .echoed false) :
      Quiet id sh h (.lockState now) (.write out next)
  | metricsRefused {now : Instant} {f : Frame} (pc : h.pc = .frame f)
      (current : sh.isCurrentConnection h.epoch = true) :
      Quiet id sh h (.lockState now) .readMode
  | commandStale {now : Instant} {command : ControlCommand} (pc : h.pc = .command command)
      (stale : sh.isCurrentConnection h.epoch = false) :
      Quiet id sh h (.lockState now) (.requeue command)
  | laneFull {now : Instant} {command : ControlCommand} (pc : h.pc = .requeue command) :
      Quiet id sh h (.requeue now) (.requeue command)
  | wakeAnswered {now : Instant} (pc : h.pc = .wakeStatus) :
      Quiet id sh h (.lockState now) (.write (.status sh.machine.snapshot) .readMode)
  | writtenLoop {out : Outgoing} (pc : h.pc = .write out .loop) :
      Quiet id sh h (.write none) .select
  | writtenMode {out : Outgoing} (pc : h.pc = .write out .readMode) :
      Quiet id sh h (.write none) .readMode
  | writtenEcho {out : Outgoing} (pc : h.pc = .write out (.echoed false)) :
      Quiet id sh h (.write none) .readMode
  | writtenChange {out : Outgoing} (pc : h.pc = .write out (.echoed true)) :
      Quiet id sh h (.write none) (.publish .readMode)
  | modeSent (pc : h.pc = .readMode) : Quiet id sh h (.sendReadMode false) .select
  | readerGone (pc : h.pc = .readMode) :
      Quiet id sh h (.sendReadMode true) (.cleanup (.ok ()))

open Handler in
/-- The outcomes of a handler's step. -/
inductive HandlerStep (obs : Observers ε) (id : Nat) (sh : ControlShared ε) (h : Handler) :
    HandlerAction → ControlShared ε → Handler → Prop
  | rejected {first : Except ControlError Frame} {e : ControlError} (pc : h.pc = .hello) :
      HandlerStep obs id sh h (.readHello first)
        (ret sh h (.error e)).1 (ret sh h (.error e)).2
  | greeted {first : Frame} (pc : h.pc = .hello) (session : first.sessionId = sh.session)
      (hello : first.messageType = .hello) :
      HandlerStep obs id sh h (.readHello (.ok first)) sh (h.goto .helloLock)
  | refused {now : Instant} {e : ControlError} (pc : h.pc = .helloLock)
      (stopping : sh.machine.state = .stopping) :
      HandlerStep obs id sh h (.lockState now)
        (ret sh h (.error e)).1 (ret sh h (.error e)).2
  | accepted {now : Instant} (pc : h.pc = .helloLock)
      (ready : sh.machine.state ≠ .stopping) :
      HandlerStep obs id sh h (.lockState now)
        { sh with
          connectionGeneration := sh.connectionGeneration + 1
          active := some ⟨sh.connectionGeneration + 1, id⟩
          cancelled := sh.cancelActive
          android := none }
        { h with epoch := sh.connectionGeneration + 1, pc := .write .helloAck .loop }
  | moved {a : HandlerAction} {pc : HandlerPc} (quiet : Quiet id sh h a pc)
      (echoed heartbeats metrics : Nat) (suspended : Bool) (mode : ControlReadMode)
      (sent : List Outgoing) :
      HandlerStep obs id sh h a
        { sh with
          heartbeatsEchoed := echoed
          invalidHeartbeats := heartbeats
          invalidMetrics := metrics }
        { h with pc := pc, peerSuspended := suspended, readMode := mode, sent := sent }
  | escaped {a : HandlerAction} {e : ControlError}
      (how : h.escapes sh a = true ∨ ∃ f now, a = .lockState now ∧ h.pc = .frame f ∧
        f.messageType ∈ [.started, .heartbeat, .suspend] ∧ sh.machine.state ≠ .stopping ∧
        sh.machine.sessionId ≠ some f.sessionId)
      (pc : (∃ out next, h.pc = .write out next) ∨ h.pc = .polling ∨
        ∃ f, h.pc = .frame f ∧ sh.isCurrentConnection h.epoch = true) :
      HandlerStep obs id sh h a (ret sh h (.error e)).1 (ret sh h (.error e)).2
  | ticked {now : Instant} (pc : h.pc = .tick)
      (current : sh.isCurrentConnection h.epoch = true)
      (same : (sh.machine.tick now).state = sh.machine.state) :
      HandlerStep obs id sh h (.lockState now)
        { sh with machine := sh.machine.tick now } (h.goto .select)
  | missed {now : Instant} (pc : h.pc = .tick)
      (current : sh.isCurrentConnection h.epoch = true)
      (changed : (sh.machine.tick now).state ≠ sh.machine.state) :
      HandlerStep obs id sh h (.lockState now)
        { sh with machine := sh.machine.tick now } (h.goto (.publish .loop))
  | startedPlain {now : Instant} {f : Frame} {machine : StateMachine} (pc : h.pc = .frame f)
      (current : sh.isCurrentConnection h.epoch = true) (type : f.messageType = .started)
      (moves : sh.machine.peerStarted f.sessionId now = (.ok (), machine)) :
      HandlerStep obs id sh h (.lockState now)
        { sh with machine := machine, connectedBy := h.epoch }
        { h with peerSuspended := false, pc := .publish .readMode }
  | startedWake {now : Instant} {f : Frame} {machine : StateMachine} (pc : h.pc = .frame f)
      (current : sh.isCurrentConnection h.epoch = true) (type : f.messageType = .started)
      (moves : sh.machine.peerStarted f.sessionId now = (.ok (), machine)) :
      HandlerStep obs id sh h (.lockState now)
        { sh with
          machine := machine
          connectedBy := h.epoch
          env := obs.wake sh.env
          wakes := sh.wakes + 1
          reportedBy := h.epoch }
        { h with peerSuspended := false, pc := .publish .wakeStatus }
  | beat {now : Instant} {f : Frame} {machine : StateMachine} (pc : h.pc = .frame f)
      (current : sh.isCurrentConnection h.epoch = true) (type : f.messageType = .heartbeat)
      (moves : sh.machine.heartbeat f.sessionId now = (.ok (), machine)) :
      HandlerStep obs id sh h (.lockState now)
        { sh with
          machine := machine
          connectedBy := if machine.state = .connected then h.epoch else sh.connectedBy }
        (h.goto (.write (.heartbeat f.payload)
          (.echoed (decide (sh.machine.state ≠ machine.state)))))
  | stopped {now : Instant} {f : Frame} (pc : h.pc = .frame f)
      (current : sh.isCurrentConnection h.epoch = true) (type : f.messageType = .stopped)
      (pending : h.pendingStop.isPending = true) (stopping : sh.machine.state = .stopping) :
      HandlerStep obs id sh h (.lockState now)
        ({ sh with machine := .new }.reply h.pendingStop.complete.2)
        { h with pendingStop := .empty, pc := .publish .readMode }
  | measured {now : Instant} {f : Frame} {metrics : AndroidMetricsV1} (pc : h.pc = .frame f)
      (current : sh.isCurrentConnection h.epoch = true) :
      HandlerStep obs id sh h (.lockState now)
        { sh with android := some metrics } (h.goto .readMode)
  | suspended {now : Instant} {f : Frame} {machine : StateMachine} (pc : h.pc = .frame f)
      (current : sh.isCurrentConnection h.epoch = true)
      (moves : sh.machine.peerSuspended f.sessionId = (.ok (), machine)) :
      HandlerStep obs id sh h (.lockState now)
        { sh with machine := machine, env := obs.suspend sh.env, suspends := sh.suspends + 1 }
        { h with peerSuspended := true, pc := .publish .suspended }
  | peerFailed {now : Instant} {f : Frame} (pc : h.pc = .frame f)
      (current : sh.isCurrentConnection h.epoch = true) :
      HandlerStep obs id sh h (.lockState now)
        { sh with machine := sh.machine.fail "Android peer reported an error" }
        (h.goto (.publish .readMode))
  | commandRefused {now : Instant} {command : ControlCommand} {queue : List ControlCommand}
      {message : String} (pc : h.pc = .polling) (head : sh.queue = command :: queue) :
      HandlerStep obs id sh h (.takeCommand now)
        ({ sh with queue := queue }.reply [(command.result, .error message)])
        (h.goto .select)
  | commandTaken {now : Instant} {command : ControlCommand} {queue : List ControlCommand}
      (pc : h.pc = .polling) (head : sh.queue = command :: queue)
      (unpledged : h.pendingStop.isPending = false) :
      HandlerStep obs id sh h (.takeCommand now)
        { sh with queue := queue } (h.goto (.command command))
  | stopRefused {now : Instant} {command : ControlCommand} {message : String}
      (pc : h.pc = .command command) (current : sh.isCurrentConnection h.epoch = true) :
      HandlerStep obs id sh h (.lockState now)
        (sh.reply [(command.result, .error message)]) (h.goto .select)
  | stopBegun {now : Instant} {command : ControlCommand} {machine : StateMachine}
      (pc : h.pc = .command command) (current : sh.isCurrentConnection h.epoch = true)
      (moves : sh.machine.beginStop = (.ok (), machine)) :
      HandlerStep obs id sh h (.lockState now)
        { sh with machine := machine }
        { h with pendingStop := .set command.result command.deadline, pc := .publish .stop }
  | requeueExpired {now : Instant} {command : ControlCommand} {message : String}
      (pc : h.pc = .requeue command) :
      HandlerStep obs id sh h (.requeue now)
        (sh.reply [(command.result, .error message)]) (h.goto (.cleanup (.ok ())))
  | requeued {now : Instant} {command : ControlCommand} (pc : h.pc = .requeue command) :
      HandlerStep obs id sh h (.requeue now)
        { sh with queue := sh.queue ++ [command] } (h.goto (.cleanup (.ok ())))
  | deadlineFired {now : Instant} {message : String} (pc : h.pc = .polling)
      (pending : h.pendingStop.isPending = true) :
      HandlerStep obs id sh h (.stopDeadline now)
        (sh.reply (h.pendingStop.fail message).2)
        { h with pendingStop := .empty, pc := .deadline }
  | deadlineFailed {now : Instant} (pc : h.pc = .deadline) :
      HandlerStep obs id sh h (.lockState now)
        { sh with
          machine := sh.machine.fail "explicit stop timed out; VPN state is unverified" }
        (h.goto (.publish .loop))
  | released {now : Instant} {result : Outcome} (pc : h.pc = .cleanup result)
      (stale : sh.isCurrentConnection h.epoch = false) :
      HandlerStep obs id sh h (.lockState now) (ret sh h result).1 (ret sh h result).2
  | abandoned {now : Instant} {result : Outcome} {message reason : String}
      (pc : h.pc = .cleanup result) (current : sh.isCurrentConnection h.epoch = true)
      (pending : h.pendingStop.isPending = true) :
      HandlerStep obs id sh h (.lockState now)
        ({ sh with active := none, android := none, machine := sh.machine.fail reason }.reply
          (h.pendingStop.fail message).2)
        { h with pendingStop := .empty, pc := .publish (.finish result) }
  | lost {now : Instant} {result : Outcome} (pc : h.pc = .cleanup result)
      (current : sh.isCurrentConnection h.epoch = true)
      (idle : h.pendingStop.isPending = false) :
      HandlerStep obs id sh h (.lockState now)
        { sh with
          active := none
          android := none
          machine := sh.machine.transportLost CONTROL_TRANSPORT_LOST_REASON }
        (h.goto (.publish (.finish result)))
  | publicationLocked {next : AfterPublish} (pc : h.pc = .publish next)
      (free : sh.publication = none) :
      HandlerStep obs id sh h .lockPublication
        { sh with publication := some ⟨id, none, 0⟩ } (h.goto (.publishing next))
  | snapshotTaken {now : Instant} {next : AfterPublish} (pc : h.pc = .publishing next) :
      HandlerStep obs id sh h (.lockState now) (takeSnapshot id sh) (h.goto (.observing next))
  | observed {sh' : ControlShared ε} {next : AfterPublish} {pc' : HandlerPc}
      (pc : h.pc = .observing next) (seen : observe obs sh = some sh')
      (onward : pc' ∈ [.select, .readMode, .wakeStatus, .write .suspended .readMode,
        .write .stop .loop]) :
      HandlerStep obs id sh h .observe sh' (h.goto pc')
  | finished {sh' : ControlShared ε} {result : Outcome}
      (pc : h.pc = .observing (.finish result)) (seen : observe obs sh = some sh') :
      HandlerStep obs id sh h .observe (ret sh' h result).1 (ret sh' h result).2

theorem StateMachine.refuses_of_peerStarted {m : StateMachine} {session : SessionId}
    {now : Instant} {e : TransitionError} (session_ok : m.sessionId = some session)
    (busy : m.state ≠ .stopping) (h : (m.peerStarted session now).1 = .error e) :
    m.refuses .started = true := by
  unfold peerStarted requireSession requireState at h
  cases state : m.state <;> simp_all [refuses]

theorem StateMachine.refuses_of_heartbeat {m : StateMachine} {session : SessionId}
    {now : Instant} {e : TransitionError} (session_ok : m.sessionId = some session)
    (busy : m.state ≠ .stopping) (h : (m.heartbeat session now).1 = .error e) :
    m.refuses .heartbeat = true := by
  unfold heartbeat requireSession requireState at h
  cases state : m.state <;> simp_all [refuses]
  split at h <;> cases h

theorem StateMachine.refuses_of_peerSuspended {m : StateMachine} {session : SessionId}
    {e : TransitionError} (session_ok : m.sessionId = some session)
    (busy : m.state ≠ .stopping) (h : (m.peerSuspended session).1 = .error e) :
    m.refuses .suspend = true := by
  unfold peerSuspended requireSession requireState at h
  cases state : m.state <;> simp_all [refuses]

namespace Handler
variable {obs : Observers ε} {id : Nat} {sh sh' : ControlShared ε} {h h' : Handler}

theorem onReceive_step {item : Option (Except ControlError Frame)} (pc : h.pc = .polling)
    (taken : onReceive sh h item = (sh', h')) :
    HandlerStep obs id sh h (.receive item) sh' h' := by
  unfold onReceive at taken
  split at taken
  iterate 4
    cases taken
    exact .moved (.hungUp pc) _ _ _ _ _ _
  rename_i f
  split at taken
  · rename_i foreign
    cases taken
    exact .escaped (Or.inl (by simpa [escapes] using foreign)) (Or.inr (Or.inl pc))
  · rename_i session
    have session := Classical.not_not.mp session
    split at taken
    · rename_i type
      split at taken
      · rename_i shape
        cases taken
        exact .moved (.received pc ⟨session, fun _ => shape, by simp [type], by simp [type]⟩)
          _ _ _ _ _ _
      · cases taken
        exact .moved (.hungUp pc) _ _ _ _ _ _
    · rename_i type
      split at taken
      · cases taken
        exact .moved (.hungUp pc) _ _ _ _ _ _
      · rename_i length
        cases taken
        exact .moved (.received pc ⟨session, by simp [type], fun _ => by simpa using length,
          by simp [type]⟩) _ _ _ _ _ _
    · rename_i type
      split at taken
      · cases taken
        exact .moved (.hungUp pc) _ _ _ _ _ _
      · rename_i shape
        cases taken
        exact .moved (.received pc ⟨session, by simp [type], by simp [type],
          fun _ => by simpa using shape⟩) _ _ _ _ _ _
    iterate 4
      rename_i type
      cases taken
      exact .moved (.received pc ⟨session, by simp [type], by simp [type], by simp [type]⟩)
        _ _ _ _ _ _
    iterate 4
      cases taken
      exact .moved (.hungUp pc) _ _ _ _ _ _

theorem onTick_step {now : Instant} (pc : h.pc = .tick)
    (taken : onTick sh h now = (sh', h')) :
    HandlerStep obs id sh h (.lockState now) sh' h' := by
  unfold onTick at taken
  split at taken
  · rename_i stale
    cases taken
    exact .moved (.tickStale pc (by simpa using stale)) _ _ _ _ _ _
  · rename_i current
    have current : sh.isCurrentConnection h.epoch = true := by simpa using current
    by_cases same : sh.machine.state = (sh.machine.tick now).state
    · simp only [ne_eq, same, not_true_eq_false, if_false] at taken
      cases taken
      exact .ticked pc current same.symm
    · simp only [ne_eq, same, not_false_eq_true, if_true] at taken
      cases taken
      exact .missed pc current (Ne.symm same)

/-- A refusal of the state machine returns by `?` with the machine unchanged. -/
theorem refusal_step {f : Frame} {now : Instant} {r : StateMachine.Result}
    {e : TransitionError} (pc : h.pc = .frame f)
    (current : sh.isCurrentConnection h.epoch = true)
    (type : f.messageType ∈ [.started, .heartbeat, .suspend])
    (busy : sh.machine.state ≠ .stopping) (guarded : sh.machine.Guarded r)
    (refused : r.1 = .error e)
    (how : sh.machine.sessionId = some f.sessionId →
      sh.machine.refuses f.messageType = true) :
    HandlerStep obs id sh h (.lockState now)
      (ret { sh with machine := r.2 } h (.error (.transition e))).1
      (ret { sh with machine := r.2 } h (.error (.transition e))).2 := by
  rw [guarded.refused refused]
  refine .escaped ?_ (Or.inr (Or.inr ⟨f, pc, current⟩))
  by_cases session : sh.machine.sessionId = some f.sessionId
  · exact Or.inl (by simpa [escapes, pc] using how session)
  · exact Or.inr ⟨f, now, rfl, pc, type, busy, session⟩

theorem onStarted_step {f : Frame} {now : Instant} (pc : h.pc = .frame f)
    (current : sh.isCurrentConnection h.epoch = true) (type : f.messageType = .started)
    (taken : onStarted obs sh h f now = (sh', h')) :
    HandlerStep obs id sh h (.lockState now) sh' h' := by
  unfold onStarted at taken
  split at taken
  · rename_i stopping
    cases taken
    exact .moved (.startIgnored pc current stopping) _ _ _ _ _ _
  · rename_i busy
    split at taken
    · rename_i e machine moves
      cases taken
      have step := @refusal_step _ obs id sh h f now _ e pc current (by simp [type]) busy
        (.peerStarted f.sessionId now) (by rw [moves])
      rw [moves] at step
      exact step fun session => by
        rw [type]
        exact StateMachine.refuses_of_peerStarted session busy (by rw [moves])
    · rename_i machine moves
      split at taken
      · cases taken
        exact .startedWake pc current type moves
      · cases taken
        exact .startedPlain pc current type moves

theorem onHeartbeat_step {f : Frame} {now : Instant} (pc : h.pc = .frame f)
    (current : sh.isCurrentConnection h.epoch = true) (type : f.messageType = .heartbeat)
    (taken : onHeartbeat sh h f now = (sh', h')) :
    HandlerStep obs id sh h (.lockState now) sh' h' := by
  unfold onHeartbeat at taken
  split at taken
  · cases taken
    exact .moved (.answered pc current (Or.inr rfl)) _ _ _ _ _ _
  · rename_i busy
    split at taken
    · rename_i e machine moves
      cases taken
      have step := @refusal_step _ obs id sh h f now _ e pc current (by simp [type]) busy
        (.heartbeat f.sessionId now) (by rw [moves])
      rw [moves] at step
      exact step fun session => by
        rw [type]
        exact StateMachine.refuses_of_heartbeat session busy (by rw [moves])
    · rename_i machine moves
      cases taken
      exact .beat pc current type moves

theorem onStopped_step {f : Frame} {now : Instant} (pc : h.pc = .frame f)
    (current : sh.isCurrentConnection h.epoch = true) (type : f.messageType = .stopped)
    (taken : onStopped sh h = (sh', h')) :
    HandlerStep obs id sh h (.lockState now) sh' h' := by
  unfold onStopped at taken
  split at taken
  · cases taken
    exact .moved (.frameStale pc) _ _ _ _ _ _
  · rename_i ready
    obtain ⟨pending, stopping⟩ := not_or.mp ready
    have stopping := Classical.not_not.mp stopping
    have moves : sh.machine.stopped = (.ok (), .new) := by
      simp [StateMachine.stopped, StateMachine.requireState, stopping]
    rw [moves] at taken
    cases taken
    exact .stopped pc current type (by simpa using pending) stopping

theorem onSuspend_step {f : Frame} {now : Instant} (pc : h.pc = .frame f)
    (current : sh.isCurrentConnection h.epoch = true) (type : f.messageType = .suspend)
    (taken : onSuspend obs sh h f = (sh', h')) :
    HandlerStep obs id sh h (.lockState now) sh' h' := by
  unfold onSuspend at taken
  split at taken
  · cases taken
    exact .moved (.answered pc current (Or.inl rfl)) _ _ _ _ _ _
  · rename_i busy
    split at taken
    · rename_i e machine moves
      cases taken
      have step := @refusal_step _ obs id sh h f now _ e pc current (by simp [type]) busy
        (.peerSuspended f.sessionId) (by rw [moves])
      rw [moves] at step
      exact step fun session => by
        rw [type]
        exact StateMachine.refuses_of_peerSuspended session busy (by rw [moves])
    · rename_i machine moves
      cases taken
      exact .suspended pc current moves

theorem onFrame_step {f : Frame} {now : Instant} (pc : h.pc = .frame f)
    (taken : onFrame obs sh h f now = (sh', h')) :
    HandlerStep obs id sh h (.lockState now) sh' h' := by
  unfold onFrame at taken
  split at taken
  · cases taken
    exact .moved (.frameStale pc) _ _ _ _ _ _
  · rename_i current
    have current : sh.isCurrentConnection h.epoch = true := by simpa using current
    split at taken
    · exact onStarted_step pc current ‹_› taken
    · exact onHeartbeat_step pc current ‹_› taken
    · exact onStopped_step pc current ‹_› taken
    · cases taken
      exact .moved (.answered pc current (Or.inl rfl)) _ _ _ _ _ _
    · unfold onMetrics at taken
      split at taken
      · cases taken
        exact .measured pc current
      · cases taken
        exact .moved (.metricsRefused pc current) _ _ _ _ _ _
    · exact onSuspend_step pc current ‹_› taken
    · cases taken
      exact .peerFailed pc current
    iterate 4
      cases taken
      exact .moved (.frameStale pc) _ _ _ _ _ _

theorem takeCommand_step {now : Instant} (pc : h.pc = .polling)
    (taken : takeCommand sh h now = some (sh', h')) :
    HandlerStep obs id sh h (.takeCommand now) sh' h' := by
  unfold takeCommand at taken
  split at taken
  · cases taken
  · rename_i command queue head
    dsimp only at taken
    split at taken
    · cases taken
      exact .commandRefused pc head
    · split at taken
      · cases taken
        exact .commandRefused pc head
      · rename_i idle
        cases taken
        exact .commandTaken pc head (by simpa using idle)

theorem onCommand_step {command : ControlCommand} {now : Instant}
    (pc : h.pc = .command command) (taken : onCommand sh h command = (sh', h')) :
    HandlerStep obs id sh h (.lockState now) sh' h' := by
  unfold onCommand at taken
  split at taken
  · rename_i stale
    cases taken
    exact .moved (.commandStale pc (by simpa using stale)) _ _ _ _ _ _
  · rename_i current
    have current : sh.isCurrentConnection h.epoch = true := by simpa using current
    split at taken
    · rename_i e machine moves
      have same : machine = sh.machine := by
        have := StateMachine.Guarded.refused (.beginStop) (congrArg Prod.fst moves)
        rwa [moves] at this
      subst same
      cases taken
      exact .stopRefused pc current
    · cases taken
      exact .stopBegun pc current ‹_›

theorem onRequeue_step {command : ControlCommand} {now : Instant}
    (pc : h.pc = .requeue command) (taken : onRequeue sh h command now = (sh', h')) :
    HandlerStep obs id sh h (.requeue now) sh' h' := by
  unfold onRequeue at taken
  split at taken
  · cases taken
    exact .requeueExpired pc
  · split at taken
    · cases taken
      exact .requeued pc
    · cases taken
      have quiet : Quiet id sh h (.requeue now) h.pc := by
        rw [pc]
        exact .laneFull pc
      exact .moved quiet _ _ _ _ _ _

theorem stopDeadline_step {now : Instant} (pc : h.pc = .polling)
    (taken : stopDeadline sh h now = some (sh', h')) :
    HandlerStep obs id sh h (.stopDeadline now) sh' h' := by
  unfold stopDeadline at taken
  split at taken
  · split at taken
    · rename_i due
      cases taken
      exact .deadlineFired pc due.1
    · cases taken
  · cases taken

theorem onCleanup_step {result : Outcome} {now : Instant} (pc : h.pc = .cleanup result)
    (taken : onCleanup sh h result = (sh', h')) :
    HandlerStep obs id sh h (.lockState now) sh' h' := by
  unfold onCleanup at taken
  split at taken
  · rename_i stale
    cases taken
    exact .released pc (by simpa using stale)
  · rename_i current
    have current : sh.isCurrentConnection h.epoch = true := by simpa using current
    split at taken
    · cases taken
      exact .abandoned pc current ‹_›
    · rename_i idle
      cases taken
      exact .lost pc current (by simpa using idle)

theorem lockState_step {now : Instant} (taken : lockState obs id sh h now = some (sh', h')) :
    HandlerStep obs id sh h (.lockState now) sh' h' := by
  unfold lockState at taken
  split at taken
  · rename_i pc
    have taken := Option.some.inj taken
    unfold acceptHello at taken
    split at taken
    · cases taken
      exact .refused pc ‹_›
    · cases taken
      exact .accepted pc ‹_›
  · exact onTick_step ‹_› (Option.some.inj taken)
  · exact onFrame_step ‹_› (Option.some.inj taken)
  · exact onCommand_step ‹_› (Option.some.inj taken)
  · cases taken
    exact .deadlineFailed ‹_›
  · cases taken
    exact .snapshotTaken ‹_›
  · cases taken
    exact .moved (.wakeAnswered ‹_›) _ _ _ _ _ _
  · exact onCleanup_step ‹_› (Option.some.inj taken)
  · cases taken

theorem onPublished_step {shared : ControlShared ε} {next : AfterPublish}
    (pc : h.pc = .observing next) (seen : observe obs sh = some shared)
    (taken : onPublished shared h next = (sh', h')) :
    HandlerStep obs id sh h .observe sh' h' := by
  unfold onPublished at taken
  split at taken
  iterate 5
    cases taken
    exact .observed pc seen (by simp)
  cases taken
  exact .finished pc seen

/-- There are no other outcomes. -/
theorem step_cases {a : HandlerAction} (taken : h.step obs id sh a = some (sh', h')) :
    HandlerStep obs id sh h a sh' h' := by
  unfold step at taken
  split at taken
  · rename_i first pc
    have taken := Option.some.inj taken
    unfold readHello at taken
    split at taken
    · cases taken
      exact .rejected pc
    · split at taken
      · cases taken
        exact .rejected pc
      · rename_i session
        split at taken
        · cases taken
          exact .rejected pc
        · rename_i hello
          cases taken
          exact .greeted pc (Classical.not_not.mp session) (Classical.not_not.mp hello)
  · exact lockState_step taken
  · rename_i out next pc
    have taken := Option.some.inj taken
    unfold onWritten at taken
    split at taken
    · cases taken
      exact .moved (.writtenLoop pc) _ _ _ _ _ _
    · cases taken
      exact .moved (.writtenMode pc) _ _ _ _ _ _
    · rename_i changed _
      cases changed with
      | false =>
          cases taken
          exact .moved (.writtenEcho pc) _ _ _ _ _ _
      | true =>
          cases taken
          exact .moved (.writtenChange pc) _ _ _ _ _ _
  · cases taken
    exact .escaped (Or.inl rfl) (Or.inl ⟨_, _, ‹_›⟩)
  · rename_i pc
    split at taken
    · cases taken
      exact .moved (.cancelled pc ‹_›) _ _ _ _ _ _
    · rename_i live
      cases taken
      exact .moved (.polled pc (by simpa using live)) _ _ _ _ _ _
  · cases taken
    exact .moved (.idle ‹_›) _ _ _ _ _ _
  · cases taken
    exact .moved (.tickDue ‹_›) _ _ _ _ _ _
  · split at taken
    · exact onReceive_step ‹_› (Option.some.inj taken)
    · cases taken
  · exact takeCommand_step ‹_› taken
  · exact onRequeue_step ‹_› (Option.some.inj taken)
  · exact stopDeadline_step ‹_› taken
  · rename_i next pc
    obtain ⟨locked, free, same⟩ := Option.map_eq_some_iff.mp taken
    unfold lockPublication at free
    split at free
    · cases free
      cases same
      exact .publicationLocked pc ‹_›
    · cases free
  · rename_i next pc
    obtain ⟨shared, seen, same⟩ := Option.map_eq_some_iff.mp taken
    exact onPublished_step pc seen same
  · rename_i closed pc
    have taken := Option.some.inj taken
    unfold onReadMode at taken
    cases closed with
    | true =>
        cases taken
        exact .moved (.readerGone pc) _ _ _ _ _ _
    | false =>
        cases taken
        exact .moved (.modeSent pc) _ _ _ _ _ _
  · cases taken

end Handler

/-- The outcomes of a step of a `transport_lost` or `reset_transport` call. -/
inductive CallStep (obs : Observers ε) (id : Nat) (sh : ControlShared ε) (c : Call) :
    CallAction → ControlShared ε → Call → Prop
  | signalled (pc : c.pc = .signal) :
      CallStep obs id sh c .signal
        { sh with cancelled := sh.cancelActive }
        { c with pc := .publication, mark := some sh.connectionGeneration }
  | locked (pc : c.pc = .publication) (free : sh.publication = none) :
      CallStep obs id sh c .lockPublication
        { sh with publication := some ⟨id, none, 0⟩ } { c with pc := .lock }
  | degraded (pc : c.pc = .lock) :
      CallStep obs id sh c .lockState
        (Handler.takeSnapshot id { sh with machine := sh.machine.transportLost c.reason })
        { c with pc := .observing (sh.machine.transportLost c.reason).snapshot }
  | observed {sh' : ControlShared ε} {snapshot : StateSnapshot}
      (pc : c.pc = .observing snapshot) (seen : Handler.observe obs sh = some sh') :
      CallStep obs id sh c .observe sh' { c with pc := .returned snapshot }

theorem Call.step_cases {obs : Observers ε} {id : Nat} {sh sh' : ControlShared ε}
    {c c' : Call} {a : CallAction} (taken : c.step obs id sh a = some (sh', c')) :
    CallStep obs id sh c a sh' c' := by
  unfold Call.step at taken
  split at taken
  · cases taken
    exact .signalled ‹_›
  · rename_i pc
    obtain ⟨locked, free, same⟩ := Option.map_eq_some_iff.mp taken
    unfold Handler.lockPublication at free
    split at free
    · cases free
      cases same
      exact .locked pc ‹_›
    · cases free
  · cases taken
    exact .degraded ‹_›
  · rename_i pc
    obtain ⟨shared, seen, same⟩ := Option.map_eq_some_iff.mp taken
    cases same
    exact .observed pc seen
  · cases taken

def Request.outcome : Reply → Outcome
  | .ok () => .ok ()
  | .error e => .error (.commandRejected e)

/-- The outcomes of a step of a `request_stop` call. -/
inductive RequestStep (id : Nat) (sh : ControlShared ε) (r : Request) :
    RequestAction → ControlShared ε → Request → Prop
  | sent (pc : r.pc = .sending) (room : sh.queue.length < COMMAND_CAPACITY) :
      RequestStep id sh r .send { sh with queue := sh.queue ++ [⟨id, r.deadline⟩] }
        { r with pc := .waiting }
  | answered {reply : Reply} (pc : r.pc = .waiting)
      (found : sh.replies.lookup id = some reply) :
      RequestStep id sh r .receive sh { r with pc := .returned (Request.outcome reply) }
  | gaveUp {a : RequestAction} (pc : r.pc = .sending ∨ r.pc = .waiting) :
      RequestStep id sh r a sh { r with pc := .returned (.error .stopTimeout) }

theorem Request.step_cases {id : Nat} {sh sh' : ControlShared ε} {r r' : Request}
    {a : RequestAction} (taken : r.step id sh a = some (sh', r')) :
    RequestStep id sh r a sh' r' := by
  unfold Request.step at taken
  split at taken
  · split at taken
    · cases taken
      exact .sent ‹_› ‹_›
    · cases taken
  · cases taken
    exact .gaveUp (Or.inl ‹_›)
  · split at taken
    · cases taken
      exact .answered ‹_› ‹_›
    · cases taken
      exact .answered ‹_› ‹_›
    · cases taken
  · cases taken
    exact .gaveUp (Or.inr ‹_›)
  · cases taken

/-- The outcomes of a task's step. -/
inductive ControlStep (obs : Observers ε) (id : Nat) (sh : ControlShared ε) :
    ControlAction → ControlTask → ControlShared ε → ControlTask → Prop
  | accept : ControlStep obs id sh .accept .vacant sh (.handler .spawned)
  | transportLost {reason : String} :
      ControlStep obs id sh (.transportLost reason) .vacant sh
        (.call ⟨.publication, reason, none⟩)
  | resetTransport {reason : String} :
      ControlStep obs id sh (.resetTransport reason) .vacant sh (.call ⟨.signal, reason, none⟩)
  | requestStop {deadline : Instant} :
      ControlStep obs id sh (.requestStop deadline) .vacant sh (.request ⟨.sending, deadline⟩)
  | handler {a : HandlerAction} {h h' : Handler} {sh' : ControlShared ε}
      (step : HandlerStep obs id sh h a sh' h') :
      ControlStep obs id sh (.handler a) (.handler h) sh' (.handler h')
  | call {a : CallAction} {c c' : Call} {sh' : ControlShared ε}
      (step : CallStep obs id sh c a sh' c') :
      ControlStep obs id sh (.call a) (.call c) sh' (.call c')
  | request {a : RequestAction} {r r' : Request} {sh' : ControlShared ε}
      (step : RequestStep id sh r a sh' r') :
      ControlStep obs id sh (.request a) (.request r) sh' (.request r')

theorem controlStep_cases {obs : Observers ε} {id : Nat} {action : ControlAction}
    {sh sh' : ControlShared ε} {task task' : ControlTask}
    (taken : controlStep obs id action sh task = some (sh', task')) :
    ControlStep obs id sh action task sh' task' := by
  unfold controlStep at taken
  split at taken
  · cases taken
    exact .accept
  · cases taken
    exact .transportLost
  · cases taken
    exact .resetTransport
  · cases taken
    exact .requestStop
  · obtain ⟨⟨sh₁, h₁⟩, step, same⟩ := Option.map_eq_some_iff.mp taken
    cases same
    exact .handler (Handler.step_cases step)
  · obtain ⟨⟨sh₁, c₁⟩, step, same⟩ := Option.map_eq_some_iff.mp taken
    cases same
    exact .call (Call.step_cases step)
  · obtain ⟨⟨sh₁, r₁⟩, step, same⟩ := Option.map_eq_some_iff.mp taken
    cases same
    exact .request (Request.step_cases step)
  · cases taken

theorem controlSystem_step {obs : Observers ε} {session : SessionId} {env : ε} {i : Nat}
    {action : ControlAction} {c c' : ControlConfig ε}
    (taken : (controlSystem obs session env).step (i, action) c = some c') :
    ∃ sh task, ControlStep obs i c.shared action (c.task i) sh task ∧
      c' = ⟨sh, Function.update c.task i task⟩ := by
  obtain ⟨sh, task, step, same⟩ := Tasks.system_step taken
  exact ⟨sh, task, controlStep_cases step, same⟩

/-- A step a handler can take is a step of the system. -/
theorem controlSystem_handler {obs : Observers ε} {session : SessionId} {env : ε} {i : Nat}
    {action : HandlerAction} {c : ControlConfig ε} {h h' : Handler} {sh : ControlShared ε}
    (own : c.task i = .handler h) (taken : h.step obs i c.shared action = some (sh, h')) :
    (controlSystem obs session env).step (i, .handler action) c =
      some ⟨sh, Function.update c.task i (.handler h')⟩ := by
  simp [Tasks.system, controlTasks, controlStep, own, taken]

end QuestVdWired.Host
