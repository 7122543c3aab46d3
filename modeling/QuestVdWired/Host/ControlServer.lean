import QuestVdWired.Transition.System
import QuestVdWired.Host.StateMachine

/-!
The control server as tasks over the state they share: one task for each run of
`ControlServer::handle`, for each `ControlHandle::transport_lost` or
`reset_transport` call, and for each `ControlHandle::request_stop` call.

A task is cut at its await points. No await stands inside a critical section of
the state mutex, so acquiring it and leaving it again is one step; the
publication mutex is held across awaits and has an explicit holder. The call of
the state observer is a step of its own. What a peer sends, which write fails,
and what the clock shows are chosen by the action.

Code between two awaits is one step, the reset of the metrics slot after the
HELLO prologue included. The receiver mutex of the command lane and the handler
permits only narrow who may run; leaving them out admits more schedules.
-/

namespace QuestVdWired.Host

open Transition

def CONTROL_TRANSPORT_LOST_REASON : String := "control transport lost; VPN remains active"
def COMMAND_CAPACITY : Nat := 4

inductive ControlError
  | expectedHello
  | staleSession (session : SessionId)
  | replacementDuringStop
  | unexpectedMessage (messageType : MessageType)
  | unsolicitedStopped
  | readTimeout (phase : String)
  | invalidHeartbeatPayload (length : Nat)
  | invalidStartedPayload (length : Nat)
  | invalidSuspendPayload (length : Nat)
  | commandUnavailable
  | commandRejected (message : String)
  | stopTimeout
  | protocol (error : ProtocolError)
  | transition (error : TransitionError)
  | io (kind : IoErrorKind)
  deriving DecidableEq, Repr

inductive ControlReadMode
  | active | suspended
  deriving DecidableEq, Repr

abbrev Outcome := Except ControlError Unit
abbrev Reply := Except String Unit

/-- A queued stop request; `result` names the oneshot of the requesting task. -/
structure ControlCommand where
  result : Nat
  deadline : Instant
  deriving DecidableEq, Repr

structure PendingStop where
  sender : Option Nat
  deadline : Option Instant
  deriving DecidableEq, Repr

namespace PendingStop

/-- `PendingStop::default`. -/
def empty : PendingStop := ⟨none, none⟩

def isPending (p : PendingStop) : Bool := p.sender.isSome

def set (sender : Nat) (deadline : Instant) : PendingStop := ⟨some sender, some deadline⟩

/-- The replies sent when the pending sender, if any, is taken. -/
def settle (p : PendingStop) (reply : Reply) : List (Nat × Reply) :=
  p.sender.toList.map fun sender => (sender, reply)

def complete (p : PendingStop) : PendingStop × List (Nat × Reply) :=
  (empty, p.settle (.ok ()))

def fail (p : PendingStop) (reason : String) : PendingStop × List (Nat × Reply) :=
  (empty, p.settle (.error reason))

/-- `Drop for PendingStop`. -/
def drop (p : PendingStop) : PendingStop × List (Nat × Reply) :=
  p.fail "control connection closed before STOPPED"

end PendingStop

/-- A frame written to the peer, before encoding. -/
inductive Outgoing
  | helloAck
  | status (snapshot : StateSnapshot)
  | heartbeat (payload : List UInt8)
  | suspended
  | stop
  deriving DecidableEq, Repr

/-- What a handler does once a publication is over. -/
inductive AfterPublish
  | loop | readMode | wakeStatus | suspended | stop
  | finish (result : Outcome)
  deriving DecidableEq

/-- What a handler does once a write succeeded. -/
inductive AfterWrite
  | loop | readMode
  | echoed (changed : Bool)
  deriving DecidableEq, Repr

/-- Where a handler waits. -/
inductive HandlerPc
  /-- for the first frame -/
  | hello
  /-- for the state lock, with a valid HELLO in hand -/
  | helloLock
  /-- at the top of the event loop -/
  | select
  /-- in the event loop, past the cancellation check of this iteration -/
  | polling
  /-- for the state lock, after a heartbeat tick -/
  | tick
  /-- for the state lock, with a checked frame in hand -/
  | frame (frame : Frame)
  /-- for the state lock, with a command in hand -/
  | command (command : ControlCommand)
  /-- for room in the command lane -/
  | requeue (command : ControlCommand)
  /-- for the state lock, after the stop deadline fired -/
  | deadline
  /-- for the publication lock -/
  | publish (next : AfterPublish)
  /-- for the state lock, holding the publication lock -/
  | publishing (next : AfterPublish)
  /-- about to call the state observer -/
  | observing (next : AfterPublish)
  /-- for the state lock, to answer a wake with a status -/
  | wakeStatus
  /-- for the socket -/
  | write (out : Outgoing) (next : AfterWrite)
  /-- for the reader task to take its next mode -/
  | readMode
  /-- for the state lock, after leaving the event loop -/
  | cleanup (result : Outcome)
  | returned (result : Outcome)
  deriving DecidableEq

structure Handler where
  pc : HandlerPc
  epoch : Nat
  pendingStop : PendingStop
  peerSuspended : Bool
  readMode : ControlReadMode
  sent : List Outgoing

/-- A handler as `serve_on` spawns it. The epoch is only read once a HELLO was
accepted. -/
def Handler.spawned : Handler :=
  { pc := .hello, epoch := 0, pendingStop := .empty, peerSuspended := false,
    readMode := .active, sent := [] }

/-- `cancel` names the handler that holds the receiving end of the watch. -/
structure ActiveConnection where
  epoch : Nat
  cancel : Nat
  deriving DecidableEq, Repr

/-- The publication mutex while it is held. `author` is the ghost origin of a
Connected snapshot. -/
structure Publication where
  holder : Nat
  snapshot : Option StateSnapshot
  author : Nat

structure Observers (ε : Type) where
  state : StateSnapshot → ε → ε
  suspend : ε → ε
  wake : ε → ε

/-- What the tasks share. `observed` is the last snapshot handed to the state
observer, `suspends` and `wakes` count calls of the other two observers,
`connectedBy` is the epoch whose frame last left the machine Connected and
`reportedBy` the epoch behind the last Connected report or wake; these five are
ghosts. The connection generation is a `u64` counter that moves once for each
accepted HELLO. -/
structure ControlShared (ε : Type) where
  session : SessionId
  machine : StateMachine
  active : Option ActiveConnection
  cancelled : Nat → Bool
  android : Option AndroidMetricsV1
  connectionGeneration : Nat
  heartbeatsEchoed : Nat
  invalidHeartbeats : Nat
  invalidMetrics : Nat
  publication : Option Publication
  queue : List ControlCommand
  replies : List (Nat × Reply)
  env : ε
  observed : StateSnapshot
  suspends : Nat
  wakes : Nat
  connectedBy : Nat
  reportedBy : Nat

inductive CallPc
  /-- about to signal the active connection -/
  | signal
  /-- for the publication lock -/
  | publication
  /-- for the state lock, holding the publication lock -/
  | lock
  /-- about to call the state observer -/
  | observing (snapshot : StateSnapshot)
  | returned (snapshot : StateSnapshot)
  deriving DecidableEq

/-- A `transport_lost` or `reset_transport` call. `mark` is a ghost: the
connection generation when a reset signalled. -/
structure Call where
  pc : CallPc
  reason : String
  mark : Option Nat

inductive RequestPc
  | sending | waiting
  | returned (result : Outcome)
  deriving DecidableEq

structure Request where
  pc : RequestPc
  deadline : Instant

inductive ControlTask
  | vacant
  | handler (h : Handler)
  | call (c : Call)
  | request (r : Request)

section
variable {ε : Type}

abbrev HandlerResult (ε : Type) := ControlShared ε × Handler

namespace ControlShared

def isCurrentConnection (sh : ControlShared ε) (epoch : Nat) : Bool :=
  sh.active.map ActiveConnection.epoch = some epoch

/-- `cancel.send(true)` to the active connection, if there is one. -/
def cancelActive (sh : ControlShared ε) : Nat → Bool :=
  match sh.active with
  | some active => Function.update sh.cancelled active.cancel true
  | none => sh.cancelled

def reply (sh : ControlShared ε) (replies : List (Nat × Reply)) : ControlShared ε :=
  { sh with replies := sh.replies ++ replies }

end ControlShared

namespace Handler

def goto (h : Handler) (pc : HandlerPc) : Handler := { h with pc := pc }

/-- `break` out of the event loop. -/
def leaveLoop (sh : ControlShared ε) (h : Handler) (result : Outcome) : HandlerResult ε :=
  (sh, h.goto (.cleanup result))

/-- Return from `handle`: the pending stop is dropped. The `?` operator inside
the event loop returns this way as well, past the cleanup. -/
def ret (sh : ControlShared ε) (h : Handler) (result : Outcome) : HandlerResult ε :=
  (sh.reply h.pendingStop.drop.2,
    { h with pc := .returned result, pendingStop := h.pendingStop.drop.1 })

/-- The first frame, or the error of reading it. -/
def readHello (sh : ControlShared ε) (h : Handler) :
    Except ControlError Frame → HandlerResult ε
  | .error e => ret sh h (.error e)
  | .ok first =>
      if first.sessionId ≠ sh.session then ret sh h (.error (.staleSession first.sessionId))
      else if first.messageType ≠ .hello then ret sh h (.error .expectedHello)
      else (sh, h.goto .helloLock)

/-- The HELLO prologue under the state lock, up to the write of HELLO_ACK. -/
def acceptHello (id : Nat) (sh : ControlShared ε) (h : Handler) : HandlerResult ε :=
  if sh.machine.state = .stopping then ret sh h (.error .replacementDuringStop)
  else
    let epoch := sh.connectionGeneration + 1
    ({ sh with
        connectionGeneration := epoch
        active := some ⟨epoch, id⟩
        cancelled := sh.cancelActive
        android := none },
      { h with epoch := epoch, pc := .write .helloAck .loop })

def onTick (sh : ControlShared ε) (h : Handler) (now : Instant) : HandlerResult ε :=
  if ¬ sh.isCurrentConnection h.epoch then leaveLoop sh h (.ok ())
  else
    let machine := sh.machine.tick now
    ({ sh with machine := machine },
      h.goto (if sh.machine.state ≠ machine.state then .publish .loop else .select))

/-- `frame_rx.recv()` and the checks made before any lock is taken. -/
def onReceive (sh : ControlShared ε) (h : Handler) :
    Option (Except ControlError Frame) → HandlerResult ε
  | none => leaveLoop sh h (.ok ())
  | some (.error (.protocol (.io .unexpectedEof))) => leaveLoop sh h (.ok ())
  | some (.error (.protocol (.io .connectionReset))) => leaveLoop sh h (.ok ())
  | some (.error e) => leaveLoop sh h (.error e)
  | some (.ok f) =>
      if f.sessionId ≠ sh.session then ret sh h (.error (.staleSession f.sessionId))
      else
        match f.messageType with
        | .started =>
            if f.payload = [] ∨ f.payload = STARTED_WAKE_PAYLOAD then (sh, h.goto (.frame f))
            else leaveLoop sh h (.error (.invalidStartedPayload f.payload.length))
        | .heartbeat =>
            if f.payload.length ≠ 16 then
              leaveLoop { sh with invalidHeartbeats := sh.invalidHeartbeats + 1 } h
                (.error (.invalidHeartbeatPayload f.payload.length))
            else (sh, h.goto (.frame f))
        | .suspend =>
            if f.payload ≠ [] then
              leaveLoop sh h (.error (.invalidSuspendPayload f.payload.length))
            else (sh, h.goto (.frame f))
        | .stopped | .status | .metrics | .error => (sh, h.goto (.frame f))
        | .hello | .helloAck | .suspended | .stop =>
            leaveLoop sh h (.error (.unexpectedMessage f.messageType))

def onStarted (obs : Observers ε) (sh : ControlShared ε) (h : Handler) (f : Frame)
    (now : Instant) : HandlerResult ε :=
  -- A STARTED that was queued when a stop began neither undoes the stop nor
  -- tears down the lane.
  if sh.machine.state = .stopping then
    (sh, { h with peerSuspended := false, pc := .publish .readMode })
  else
    match sh.machine.peerStarted f.sessionId now with
    | (.error e, machine) => ret { sh with machine := machine } h (.error (.transition e))
    | (.ok (), machine) =>
        if f.payload = STARTED_WAKE_PAYLOAD then
          ({ sh with
              machine := machine
              connectedBy := h.epoch
              env := obs.wake sh.env
              wakes := sh.wakes + 1
              reportedBy := h.epoch },
            { h with peerSuspended := false, pc := .publish .wakeStatus })
        else
          ({ sh with machine := machine, connectedBy := h.epoch },
            { h with peerSuspended := false, pc := .publish .readMode })

def onHeartbeat (sh : ControlShared ε) (h : Handler) (f : Frame) (now : Instant) :
    HandlerResult ε :=
  if sh.machine.state = .stopping then
    (sh, h.goto (.write (.heartbeat f.payload) (.echoed false)))
  else
    match sh.machine.heartbeat f.sessionId now with
    | (.error e, machine) => ret { sh with machine := machine } h (.error (.transition e))
    | (.ok (), machine) =>
        ({ sh with
            machine := machine
            connectedBy := if machine.state = .connected then h.epoch else sh.connectedBy },
          h.goto (.write (.heartbeat f.payload)
            (.echoed (decide (sh.machine.state ≠ machine.state)))))

def onStopped (sh : ControlShared ε) (h : Handler) : HandlerResult ε :=
  if ¬ h.pendingStop.isPending ∨ sh.machine.state ≠ .stopping then
    leaveLoop sh h (.error .unsolicitedStopped)
  else
    match sh.machine.stopped with
    | (.error e, machine) => ret { sh with machine := machine } h (.error (.transition e))
    | (.ok (), machine) =>
        ({ sh with machine := machine }.reply h.pendingStop.complete.2,
          { h with pendingStop := h.pendingStop.complete.1, pc := .publish .readMode })

def onMetrics (sh : ControlShared ε) (h : Handler) (f : Frame) : HandlerResult ε :=
  match AndroidMetricsV1.decode f.payload with
  | .ok metrics => ({ sh with android := some metrics }, h.goto .readMode)
  | .error _ => ({ sh with invalidMetrics := sh.invalidMetrics + 1 }, h.goto .readMode)

def onSuspend (obs : Observers ε) (sh : ControlShared ε) (h : Handler) (f : Frame) :
    HandlerResult ε :=
  if sh.machine.state = .stopping then (sh, h.goto (.write .suspended .readMode))
  else
    match sh.machine.peerSuspended f.sessionId with
    | (.error e, machine) => ret { sh with machine := machine } h (.error (.transition e))
    | (.ok (), machine) =>
        ({ sh with
            machine := machine
            env := obs.suspend sh.env
            suspends := sh.suspends + 1 },
          { h with peerSuspended := true, pc := .publish .suspended })

/-- A checked frame under the state lock. -/
def onFrame (obs : Observers ε) (sh : ControlShared ε) (h : Handler) (f : Frame)
    (now : Instant) : HandlerResult ε :=
  if ¬ sh.isCurrentConnection h.epoch then leaveLoop sh h (.ok ())
  else
    match f.messageType with
    | .started => onStarted obs sh h f now
    | .heartbeat => onHeartbeat sh h f now
    | .stopped => onStopped sh h
    | .status => (sh, h.goto (.write (.status sh.machine.snapshot) .readMode))
    | .metrics => onMetrics sh h f
    | .suspend => onSuspend obs sh h f
    | .error =>
        ({ sh with machine := sh.machine.fail "Android peer reported an error" },
          h.goto (.publish .readMode))
    | .hello | .helloAck | .suspended | .stop =>
        leaveLoop sh h (.error (.unexpectedMessage f.messageType))

/-- `commands.recv()` and the checks made before the state lock is taken. -/
def takeCommand (sh : ControlShared ε) (h : Handler) (now : Instant) :
    Option (HandlerResult ε) :=
  match sh.queue with
  | [] => none
  | command :: queue =>
      let sh := { sh with queue := queue }
      if command.deadline < now then
        some (sh.reply [(command.result, .error "stop request expired")], h.goto .select)
      else if h.pendingStop.isPending then
        some (sh.reply [(command.result, .error "stop is already pending")], h.goto .select)
      else some (sh, h.goto (.command command))

def onCommand (sh : ControlShared ε) (h : Handler) (command : ControlCommand) :
    HandlerResult ε :=
  if ¬ sh.isCurrentConnection h.epoch then (sh, h.goto (.requeue command))
  else
    match sh.machine.beginStop with
    | (.error e, machine) =>
        ({ sh with machine := machine }.reply [(command.result, .error e.message)],
          h.goto .select)
    | (.ok (), machine) =>
        ({ sh with machine := machine },
          { h with
            pendingStop := .set command.result command.deadline
            pc := .publish .stop })

/-- One round of `requeue_command`; a full lane is tried again. The lane cannot be
closed: the server itself holds its receiver. -/
def onRequeue (sh : ControlShared ε) (h : Handler) (command : ControlCommand)
    (now : Instant) : HandlerResult ε :=
  if command.deadline < now then
    leaveLoop (sh.reply [(command.result, .error "stop request expired")]) h (.ok ())
  else if sh.queue.length < COMMAND_CAPACITY then
    leaveLoop { sh with queue := sh.queue ++ [command] } h (.ok ())
  else (sh, h)

/-- The stop deadline branch, up to the state lock. -/
def stopDeadline (sh : ControlShared ε) (h : Handler) (now : Instant) :
    Option (HandlerResult ε) :=
  match h.pendingStop.deadline with
  | some deadline =>
      if h.pendingStop.isPending ∧ deadline ≤ now then
        let failed := h.pendingStop.fail "timed out waiting for Android STOPPED"
        some (sh.reply failed.2, { h with pendingStop := failed.1, pc := .deadline })
      else none
  | none => none

def onDeadline (sh : ControlShared ε) (h : Handler) : HandlerResult ε :=
  ({ sh with
      machine := sh.machine.fail "explicit stop timed out; VPN state is unverified" },
    h.goto (.publish .loop))

def onCleanup (sh : ControlShared ε) (h : Handler) (result : Outcome) : HandlerResult ε :=
  if ¬ sh.isCurrentConnection h.epoch then ret sh h result
  else if h.pendingStop.isPending then
    let failed := h.pendingStop.fail "control connection closed before STOPPED"
    ({ sh with
        active := none
        android := none
        machine := sh.machine.fail
          "control transport was lost during explicit stop; VPN state is unverified" }.reply
        failed.2,
      { h with pendingStop := failed.1, pc := .publish (.finish result) })
  else
    ({ sh with
        active := none
        android := none
        machine := sh.machine.transportLost CONTROL_TRANSPORT_LOST_REASON },
      h.goto (.publish (.finish result)))

def onWritten (sh : ControlShared ε) (h : Handler) (out : Outgoing) :
    AfterWrite → HandlerResult ε
  | .loop => (sh, { h with sent := h.sent ++ [out], pc := .select })
  | .readMode => (sh, { h with sent := h.sent ++ [out], pc := .readMode })
  | .echoed changed =>
      ({ sh with heartbeatsEchoed := sh.heartbeatsEchoed + 1 },
        { h with
          sent := h.sent ++ [out]
          pc := if changed then .publish .readMode else .readMode })

def lockPublication (id : Nat) (sh : ControlShared ε) : Option (ControlShared ε) :=
  match sh.publication with
  | none => some { sh with publication := some ⟨id, none, 0⟩ }
  | some _ => none

def takeSnapshot (id : Nat) (sh : ControlShared ε) : ControlShared ε :=
  { sh with publication := some ⟨id, some sh.machine.snapshot, sh.connectedBy⟩ }

/-- The observer call and the release of the publication lock. -/
def observe (obs : Observers ε) (sh : ControlShared ε) : Option (ControlShared ε) :=
  match sh.publication with
  | some ⟨_, some snapshot, author⟩ =>
      some { sh with
        publication := none
        env := obs.state snapshot sh.env
        observed := snapshot
        reportedBy := if snapshot.state = .connected then author else sh.reportedBy }
  | _ => none

def onPublished (sh : ControlShared ε) (h : Handler) : AfterPublish → HandlerResult ε
  | .loop => (sh, h.goto .select)
  | .readMode => (sh, h.goto .readMode)
  | .wakeStatus => (sh, h.goto .wakeStatus)
  | .suspended => (sh, h.goto (.write .suspended .readMode))
  | .stop => (sh, h.goto (.write .stop .loop))
  | .finish result => ret sh h result

def onReadMode (sh : ControlShared ε) (h : Handler) (closed : Bool) : HandlerResult ε :=
  if closed then leaveLoop sh h (.ok ())
  else
    (sh, { h with
      readMode := if h.peerSuspended then .suspended else .active
      pc := .select })

end Handler

/-- The steps of a handler. The payload is what the environment decides. -/
inductive HandlerAction
  | readHello (first : Except ControlError Frame)
  | lockState (now : Instant)
  | write (failure : Option ProtocolError)
  | pollCancel
  | idle
  | heartbeatTick
  | receive (item : Option (Except ControlError Frame))
  | takeCommand (now : Instant)
  | requeue (now : Instant)
  | stopDeadline (now : Instant)
  | lockPublication
  | observe
  | sendReadMode (closed : Bool)

/-- A read can time out only in the active mode. -/
def readable (mode : ControlReadMode) : Option (Except ControlError Frame) → Bool
  | some (.error (.readTimeout _)) => mode = .active
  | _ => true

namespace Handler

/-- What a handler does with the state lock it waited for. -/
def lockState (obs : Observers ε) (id : Nat) (sh : ControlShared ε) (h : Handler)
    (now : Instant) : Option (HandlerResult ε) :=
  match h.pc with
  | .helloLock => some (acceptHello id sh h)
  | .tick => some (onTick sh h now)
  | .frame f => some (onFrame obs sh h f now)
  | .command command => some (onCommand sh h command)
  | .deadline => some (onDeadline sh h)
  | .publishing next => some (takeSnapshot id sh, h.goto (.observing next))
  | .wakeStatus => some (sh, h.goto (.write (.status sh.machine.snapshot) .readMode))
  | .cleanup result => some (onCleanup sh h result)
  | _ => none

def step (obs : Observers ε) (id : Nat) (sh : ControlShared ε) (h : Handler)
    (action : HandlerAction) : Option (HandlerResult ε) :=
  match action, h.pc with
  | .readHello first, .hello => some (readHello sh h first)
  | .lockState now, _ => lockState obs id sh h now
  | .write none, .write out next => some (onWritten sh h out next)
  | .write (some e), .write _ _ => some (ret sh h (.error (.protocol e)))
  | .pollCancel, .select =>
      some (if sh.cancelled id then leaveLoop sh h (.ok ()) else (sh, h.goto .polling))
  | .idle, .polling => some (sh, h.goto .select)
  | .heartbeatTick, .polling => some (sh, h.goto .tick)
  | .receive item, .polling =>
      if readable h.readMode item then some (onReceive sh h item) else none
  | .takeCommand now, .polling => takeCommand sh h now
  | .requeue now, .requeue command => some (onRequeue sh h command now)
  | .stopDeadline now, .polling => stopDeadline sh h now
  | .lockPublication, .publish next =>
      (lockPublication id sh).map fun sh => (sh, h.goto (.publishing next))
  | .observe, .observing next => (observe obs sh).map fun sh => onPublished sh h next
  | .sendReadMode closed, .readMode => some (onReadMode sh h closed)
  | _, _ => none

end Handler

inductive CallAction
  | signal | lockPublication | lockState | observe

namespace Call

def step (obs : Observers ε) (id : Nat) (sh : ControlShared ε) (c : Call)
    (action : CallAction) : Option (ControlShared ε × Call) :=
  match action, c.pc with
  | .signal, .signal =>
      some ({ sh with cancelled := sh.cancelActive },
        { c with pc := .publication, mark := some sh.connectionGeneration })
  | .lockPublication, .publication =>
      (Handler.lockPublication id sh).map fun sh => (sh, { c with pc := .lock })
  | .lockState, .lock =>
      let sh := { sh with machine := sh.machine.transportLost c.reason }
      some (Handler.takeSnapshot id sh, { c with pc := .observing sh.machine.snapshot })
  | .observe, .observing snapshot =>
      (Handler.observe obs sh).map fun sh => (sh, { c with pc := .returned snapshot })
  | _, _ => none

end Call

inductive RequestAction
  | send | sendTimeout | receive | receiveTimeout

namespace Request

def step (id : Nat) (sh : ControlShared ε) (r : Request) (action : RequestAction) :
    Option (ControlShared ε × Request) :=
  match action, r.pc with
  | .send, .sending =>
      if sh.queue.length < COMMAND_CAPACITY then
        some ({ sh with queue := sh.queue ++ [⟨id, r.deadline⟩] }, { r with pc := .waiting })
      else none
  | .sendTimeout, .sending => some (sh, { r with pc := .returned (.error .stopTimeout) })
  | .receive, .waiting =>
      match sh.replies.lookup id with
      | some (.ok ()) => some (sh, { r with pc := .returned (.ok ()) })
      | some (.error e) => some (sh, { r with pc := .returned (.error (.commandRejected e)) })
      | none => none
  | .receiveTimeout, .waiting => some (sh, { r with pc := .returned (.error .stopTimeout) })
  | _, _ => none

end Request

inductive ControlAction
  | accept
  | transportLost (reason : String)
  | resetTransport (reason : String)
  | requestStop (deadline : Instant)
  | handler (action : HandlerAction)
  | call (action : CallAction)
  | request (action : RequestAction)

/-- A step of task `id`; a vacant task becomes what the action spawns. -/
def controlStep (obs : Observers ε) (id : Nat) (action : ControlAction)
    (sh : ControlShared ε) (task : ControlTask) :
    Option (ControlShared ε × ControlTask) :=
  match action, task with
  | .accept, .vacant => some (sh, .handler .spawned)
  | .transportLost reason, .vacant => some (sh, .call ⟨.publication, reason, none⟩)
  | .resetTransport reason, .vacant => some (sh, .call ⟨.signal, reason, none⟩)
  | .requestStop deadline, .vacant => some (sh, .request ⟨.sending, deadline⟩)
  | .handler a, .handler h => (h.step obs id sh a).map fun (sh, h) => (sh, .handler h)
  | .call a, .call c => (c.step obs id sh a).map fun (sh, c) => (sh, .call c)
  | .request a, .request r => (r.step id sh a).map fun (sh, r) => (sh, .request r)
  | _, _ => none

/-- `ControlServer::new`, and the publication with which `serve_on` starts. -/
def ControlShared.initial (obs : Observers ε) (session : SessionId) (env : ε) :
    ControlShared ε :=
  let machine := (StateMachine.new.beginStart session).2
  { session := session
    machine := machine
    active := none
    cancelled := fun _ => false
    android := none
    connectionGeneration := 0
    heartbeatsEchoed := 0
    invalidHeartbeats := 0
    invalidMetrics := 0
    publication := none
    queue := []
    replies := []
    env := obs.state machine.snapshot env
    observed := machine.snapshot
    suspends := 0
    wakes := 0
    connectedBy := 0
    reportedBy := 0 }

def controlTasks (obs : Observers ε) (session : SessionId) (env : ε) :
    Tasks Nat (ControlShared ε) ControlTask ControlAction where
  shared := .initial obs session env
  task := fun _ => .vacant
  step := controlStep obs

abbrev ControlConfig (ε : Type) := Config Nat (ControlShared ε) ControlTask

/-- The control server and its callers. -/
abbrev controlSystem (obs : Observers ε) (session : SessionId) (env : ε) :
    System (ControlConfig ε) (Nat × ControlAction) :=
  (controlTasks obs session env).system

end

/-- No observer is installed. -/
def Observers.silent : Observers Unit := ⟨fun _ u => u, id, id⟩

/-! Schedule fragments of one handler, for the concrete runs beside the theorems. -/

namespace Schedule

def session : SessionId := ⟨Vector.replicate 16 1⟩

def frame (messageType : MessageType) (payload : List UInt8) : Frame :=
  ⟨messageType, session, payload⟩

/-- The steps of task `i` as a handler. -/
def run (i : Nat) (actions : List HandlerAction) : List (Nat × ControlAction) :=
  actions.map fun action => (i, .handler action)

/-- Accept a connection and its HELLO. -/
def connect (i : Nat) : List (Nat × ControlAction) :=
  (i, .accept) :: run i [.readHello (.ok (frame .hello [])), .lockState 0, .write none]

/-- Receive a frame and act on it under the state lock. -/
def deliver (i : Nat) (f : Frame) : List (Nat × ControlAction) :=
  run i [.pollCancel, .receive (some (.ok f)), .lockState 0]

def publish (i : Nat) : List (Nat × ControlAction) :=
  run i [.lockPublication, .lockState 0, .observe]

/-- Receive STARTED, publish the connected state and go round the event loop. -/
def started (i : Nat) : List (Nat × ControlAction) :=
  deliver i (frame .started []) ++ publish i ++ run i [.sendReadMode false]

/-- Request a stop as task `j` and begin it as handler `i`. -/
def beginStop (i j : Nat) (deadline : Instant) : List (Nat × ControlAction) :=
  [(j, .requestStop deadline), (j, .request .send)] ++
    run i [.pollCancel, .takeCommand 0, .lockState 0] ++ publish i

end Schedule
end QuestVdWired.Host
