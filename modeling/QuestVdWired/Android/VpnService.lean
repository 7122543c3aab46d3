import QuestVdWired.Monitor.Threads

/-!
The locking of `VdLinkVpnService` and `ControlSupervisor`: the main thread, the two lifecycle
workers and one control thread for each session, as code over the monitors. A session is
named by its generation. Kept are the fields that decide which monitor is taken next; outcomes
of the network, the native engine and the frames that arrive are choices, and a wait on a
monitor gives it up and takes it again.
-/

namespace QuestVdWired.Android
open Monitor

inductive Lock
  | lifecycleLock
  | pauseLock (session : Nat)
  | engineStartLock (session : Nat)
  | writeLock (session : Nat)
  deriving DecidableEq

/-- What `worker.execute` is given. -/
inductive Job
  | initializeNativeEngine (session : Nat)
  | suspendNativeEngine (session : Nat)
  | resumeNativeEngine (session : Nat)
  | teardown (session : Nat)
  deriving DecidableEq

/-- The fields of one `ControlSupervisor`. The socket is `none` for null, else tells whether
it is closed. -/
structure Supervisor where
  running : Bool
  paused : Bool
  wakePending : Bool
  stopRequested : Bool
  controlReady : Bool
  recoveryReady : Bool
  socket : Option Bool
  deriving DecidableEq

/-- The fields of one `SessionResources`. -/
structure Session where
  control : Bool
  engineSuspended : Bool
  engineResumeQueued : Bool
  resetRequired : Bool
  supervisor : Supervisor
  deriving DecidableEq

structure Service where
  screenSuspended : Bool
  active : Option Nat
  current : Option Nat
  generations : Nat
  teardownInProgress : Bool
  closingGeneration : Nat
  session : Nat → Session
  jobs : List Job
  posted : List Nat

/-- Where a thread begins and where its loops go on. -/
inductive Label
  | main
  | worker
  | spawned (session : Nat)
  | runLoop (session : Nat)
  | frames (session : Nat)
  | ended
  deriving DecidableEq

abbrev Code := Monitor.Code Lock Service Label

namespace Service

def update (s : Service) (n : Nat) (f : Session → Session) : Service :=
  { s with session := Function.update s.session n (f (s.session n)) }

def supervise (s : Service) (n : Nat) (f : Supervisor → Supervisor) : Service :=
  s.update n fun r => { r with supervisor := f r.supervisor }

def supervisor (s : Service) (n : Nat) : Supervisor := (s.session n).supervisor

/-- `generationGate.isCurrent` and `active === resources`. -/
def isCurrent (s : Service) (n : Nat) : Bool := s.current = some n && s.active = some n

def execute (s : Service) (job : Job) : Service := { s with jobs := s.jobs ++ [job] }

end Service

/-- `isActiveSocket`, of the only thread that sets the socket. -/
def Supervisor.isActiveSocket (v : Supervisor) : Bool :=
  v.running && !v.paused && v.socket = some false

def Supervisor.closeSocket (v : Supervisor) : Supervisor :=
  { v with socket := v.socket.map fun _ => true }

section Code
open Monitor.Code

/-- Look at the fields. -/
def look (next : Service → Code) : Code := run (fun s => s) next

/-- Change them. -/
def change (f : Service → Service) (next : Code) : Code := run f fun _ => next

/-- Did it succeed? -/
def attempt (next : Bool → Code) : Code := choose fun r => next (r = 0)

def execute (job : Job) (next : Code) : Code := change (·.execute job) next

/-- `isCurrent(resources, supervisor)`. -/
def isCurrent (n : Nat) (published : Bool) (next : Bool → Code) : Code :=
  enter .lifecycleLock <| look fun s =>
    leave .lifecycleLock <| next (s.isCurrent n && (!published || (s.session n).control))

def write (n : Nat) (next : Bool → Code) : Code :=
  enter (.writeLock n) <| attempt fun ok => leave (.writeLock n) <| next ok

def queueNativeEngineResume (n : Nat) (next : Code) : Code :=
  run (fun s => s.update n fun r => { r with engineResumeQueued := true }) fun s =>
    if (s.session n).engineResumeQueued then next else execute (.resumeNativeEngine n) next

def onControlReady (n : Nat) (next : Code) : Code :=
  isCurrent n true fun current => look fun s =>
    if !current || s.screenSuspended || !(s.supervisor n).recoveryReady then next
    else if (s.session n).resetRequired then
      change (·.update n fun r => { r with engineSuspended := true }) <|
        queueNativeEngineResume n next
    else next

/-! `ControlSupervisor`, as the service calls it. -/

/-- `start`, by its caller. -/
def startSupervisor (n : Nat) (startPaused : Bool) (next : Code) : Code :=
  enter (.pauseLock n) <|
    change (·.supervise n fun v =>
      if v.running then v else { v with running := true, paused := startPaused || v.paused }) <|
    leave (.pauseLock n) next

/-- `suspend`. The socket is closed unless the peer acknowledged in time or asked to stop. -/
def suspend (n : Nat) (next : Code) : Code :=
  let finish (acknowledged : Bool) : Code :=
    change (·.supervise n fun v =>
      if v.stopRequested || acknowledged then v else v.closeSocket) next
  enter (.pauseLock n) <|
    run (·.supervise n fun v => { v with paused := true }) fun s =>
      leave (.pauseLock n) <|
        if (s.supervisor n).paused then next
        else if (s.supervisor n).controlReady && (s.supervisor n).socket = some false then
          write n fun ok => if ok then attempt finish else finish false
        else finish false

def resume (n : Nat) (next : Code) : Code :=
  enter (.pauseLock n) <|
    run (·.supervise n fun v =>
      if v.paused then { v with paused := false, wakePending := true } else v) fun s =>
      leave (.pauseLock n) <|
        if !(s.supervisor n).paused then next
        else if (s.supervisor n).controlReady && !(s.supervisor n).stopRequested &&
            (s.supervisor n).socket = some false then
          write n fun ok =>
            if ok then next else change (·.supervise n Supervisor.closeSocket) next
        else next

def closeSupervisor (n : Nat) (next : Code) : Code :=
  enter (.pauseLock n) <|
    change (·.supervise n fun v =>
      if v.running then
        { v.closeSocket with
          running := false, paused := false, controlReady := false, recoveryReady := false }
      else v) <|
    leave (.pauseLock n) next

/-! The main thread. -/

def setScreenSuspended (suspended : Bool) (next : Code) : Code :=
  enter .lifecycleLock <|
    run (fun s => { s with screenSuspended := suspended }) fun s =>
      if s.screenSuspended = suspended then leave .lifecycleLock next
      else
        match s.active with
        | none => leave .lifecycleLock next
        | some n =>
            if suspended then
              let after := leave .lifecycleLock <| execute (.suspendNativeEngine n) next
              change (·.update n fun r => { r with engineSuspended := true }) <|
                if (s.session n).control then suspend n after else after
            else
              let after := leave .lifecycleLock next
              look fun s =>
                if (s.session n).engineSuspended then queueNativeEngineResume n after
                else if (s.session n).control then resume n after
                else after

/-- `stopTargetsGeneration`. -/
def Service.stopTargets (s : Service) (expected : Option Nat) : Bool :=
  expected = none || s.current = expected || s.active = expected ||
    (s.teardownInProgress && some s.closingGeneration = expected)

/-- The block of `requestStop`. -/
def Service.requestStop (s : Service) (expected : Option Nat) : Service :=
  if !s.stopTargets expected || s.teardownInProgress then s
  else
    match s.active with
    | none => { s with current := if s.current = expected then none else s.current }
    | some n =>
        { s with
          active := none
          current := if s.current = some n then none else s.current
          teardownInProgress := true
          closingGeneration := n }

/-- `STOPPED` goes out at once when the descriptor is already closed. -/
def acknowledgeNow (acknowledges : Option Nat) (next : Code) : Code :=
  match acknowledges with
  | none => next
  | some n => attempt fun now => if now then write n fun _ => next else next

def requestStop (expected acknowledges : Option Nat) (next : Code) : Code :=
  enter .lifecycleLock <|
    run (·.requestStop expected) fun s =>
      leave .lifecycleLock <|
        if !s.stopTargets expected then next
        else
          acknowledgeNow acknowledges <|
            match s.active with
            | some n => if s.teardownInProgress then next else execute (.teardown n) next
            | none => next

def failGeneration (n : Nat) (next : Code) : Code :=
  enter .lifecycleLock <| look fun s =>
    leave .lifecycleLock <| if s.current = some n then requestStop (some n) none next else next

def rejectStart (next : Code) : Code :=
  enter .lifecycleLock <| leave .lifecycleLock next

def startVpn (next : Code) : Code :=
  attempt fun parsed =>
    if !parsed then rejectStart next
    else
      enter .lifecycleLock <|
        run (fun s =>
          if s.active.isSome || s.teardownInProgress then s
          else { s with generations := s.generations + 1, current := some (s.generations + 1) })
          fun s =>
          leave .lifecycleLock <|
            if s.active.isSome || s.teardownInProgress then next
            else
              let n := s.generations + 1
              attempt fun established =>
                if !established then failGeneration n next
                else
                  enter .lifecycleLock <|
                    run (fun s =>
                      if s.current = some n && !s.teardownInProgress then { s with active := some n }
                      else s) fun s =>
                      leave .lifecycleLock <|
                        if s.current = some n && !s.teardownInProgress then
                          execute (.initializeNativeEngine n) next
                        else next

/-! The lifecycle workers. -/

def initializeNativeEngine (n : Nat) (next : Code) : Code :=
  enter (.engineStartLock n) <| isCurrent n false fun current =>
    if !current then leave (.engineStartLock n) next
    else
      attempt fun started => leave (.engineStartLock n) <|
        if !started then failGeneration n next
        else
          attempt fun ready =>
            if !ready then failGeneration n next
            else
              isCurrent n false fun current =>
                if !current then next
                else
                  enter .lifecycleLock <|
                    run (fun s =>
                      if s.isCurrent n then s.update n fun r => { r with control := true }
                      else s) fun s =>
                      if s.isCurrent n then
                        startSupervisor n s.screenSuspended <| leave .lifecycleLock <|
                          look fun s =>
                            if s.screenSuspended then
                              change (·.update n fun r => { r with engineSuspended := true }) <|
                                execute (.suspendNativeEngine n) next
                            else next
                      else leave .lifecycleLock <| closeSupervisor n next

/-- Both results of the check and every outcome of the engine's stop leave the lock. -/
def suspendNativeEngine (n : Nat) (next : Code) : Code :=
  enter (.engineStartLock n) <| isCurrent n false fun _ => leave (.engineStartLock n) next

/-- The `finally` block of the queued resume. -/
def finishResume (n : Nat) (retry : Bool) (next : Code) : Code :=
  run (·.update n fun r => { r with engineResumeQueued := false }) fun s =>
    if retry || (s.session n).engineSuspended then
      isCurrent n false fun current => look fun s =>
        if current && !s.screenSuspended then
          change (fun s => { s with posted := s.posted ++ [n] }) next
        else next
    else next

/-- What `queueNativeEngineResume` queues. -/
def resumeNativeEngine (n : Nat) (next : Code) : Code :=
  enter (.engineStartLock n) <| isCurrent n false fun current => look fun s =>
    if !current || s.screenSuspended || !(s.session n).engineSuspended then
      leave (.engineStartLock n) <| finishResume n false next
    else
      attempt fun restarted => leave (.engineStartLock n) <|
        if !restarted then
          isCurrent n false fun current => look fun s =>
            finishResume n (current && !s.screenSuspended) next
        else
          enter .lifecycleLock <|
            run (fun s =>
              if s.isCurrent n && !s.screenSuspended then
                s.update n fun r => { r with engineSuspended := false, resetRequired := false }
              else s) fun s =>
              if s.isCurrent n && !s.screenSuspended then
                let after := leave .lifecycleLock <|
                  if (s.session n).resetRequired && (s.session n).control then
                    onControlReady n <| finishResume n false next
                  else finishResume n false next
                if (s.session n).control then resume n after else after
              else leave .lifecycleLock <| finishResume n false next

/-- The queued acknowledgements. -/
def acknowledgeAll (n : Nat) : Nat → Code → Code
  | 0, next => next
  | waiters + 1, next => write n fun _ => acknowledgeAll n waiters next

def teardown (n : Nat) (next : Code) : Code :=
  enter (.engineStartLock n) <| leave (.engineStartLock n) <|
    choose fun waiters => acknowledgeAll n waiters <| look fun s =>
      let after := enter .lifecycleLock <|
        change (fun s => { s with teardownInProgress := false, closingGeneration := 0 }) <|
        leave .lifecycleLock next
      if (s.session n).control then closeSupervisor n after else after

/-! The control thread. -/

/-- The `finally` block of `runLoop`. -/
def endConnection (n : Nat) (next : Code) : Code :=
  change (·.supervise n fun v => { v with controlReady := false, recoveryReady := false }) <|
    enter (.pauseLock n) <|
      change (·.supervise n fun v => { v with socket := none }) <|
      leave (.pauseLock n) next

def onControlTransportLost (n : Nat) (next : Code) : Code :=
  enter .lifecycleLock <|
    run (fun s =>
      if s.isCurrent n && (s.session n).control && !(s.session n).resetRequired then
        s.update n fun r => { r with resetRequired := true, engineSuspended := true }
      else s) fun s =>
      leave .lifecycleLock <|
        if s.isCurrent n && (s.session n).control && !(s.session n).resetRequired &&
            !s.screenSuspended then
          queueNativeEngineResume n next
        else next

def waitForReconnect (n : Nat) (next : Code) : Code :=
  enter (.pauseLock n) <| look fun s =>
    if !(s.supervisor n).running || (s.supervisor n).paused then leave (.pauseLock n) next
    else leave (.pauseLock n) <| enter (.pauseLock n) <| leave (.pauseLock n) next

/-- The `catch` block of `runLoop`. -/
def onException (n : Nat) : Code :=
  let next := endConnection n <| jump (.runLoop n)
  run (·.supervise n fun v => { v with controlReady := false, recoveryReady := false }) fun s =>
    if (s.supervisor n).running && !(s.supervisor n).paused then
      isCurrent n true fun _ =>
        if (s.supervisor n).recoveryReady then onControlTransportLost n <| waitForReconnect n next
        else waitForReconnect n next
    else next

/-- The block that reports `STARTED`. Without a pending wake the listener is called from
inside it, with `pauseLock` held. -/
def reportStarted (n : Nat) : Code :=
  enter (.pauseLock n) <| look fun s =>
    if !(s.supervisor n).isActiveSocket then
      leave (.pauseLock n) <| endConnection n <| jump (.runLoop n)
    else
      write n fun ok =>
        if !ok then leave (.pauseLock n) <| onException n
        else
          change (·.supervise n fun v =>
            { v with
              controlReady := true
              recoveryReady := v.recoveryReady || !(s.supervisor n).wakePending }) <|
            if (s.supervisor n).wakePending then leave (.pauseLock n) <| jump (.frames n)
            else onControlReady n <| leave (.pauseLock n) <| jump (.frames n)

/-- `shouldReportStarted`, and what follows either answer. -/
def afterHelloAck (n : Nat) : Code :=
  isCurrent n true fun current => look fun s =>
    if !current || s.screenSuspended then endConnection n <| jump (.runLoop n)
    else
      attempt fun reset => look fun s =>
        if !reset || (s.session n).engineSuspended then endConnection n <| jump (.runLoop n)
        else reportStarted n

/-- One turn of `runLoop`, up to the frames. A wait in `awaitResume` gives up `pauseLock` and
looks again. -/
def runLoop (n : Nat) : Code :=
  look fun s => if !(s.supervisor n).running then jump .ended else
  enter (.pauseLock n) <| look fun s =>
    leave (.pauseLock n) <|
      if !(s.supervisor n).running then jump .ended
      else if (s.supervisor n).paused then jump (.runLoop n)
      else
        enter (.pauseLock n) <|
          run (fun s =>
            if (s.supervisor n).running && !(s.supervisor n).paused then
              s.supervise n fun v => { v with socket := some false }
            else s) fun s =>
            leave (.pauseLock n) <|
              if !(s.supervisor n).running || (s.supervisor n).paused then
                endConnection n <| jump (.runLoop n)
              else
                attempt fun connected =>
                  if !connected then onException n
                  else
                    enter (.pauseLock n) <| look fun s =>
                      if !(s.supervisor n).isActiveSocket then
                        leave (.pauseLock n) <| endConnection n <| jump (.runLoop n)
                      else
                        write n fun ok => leave (.pauseLock n) <|
                          if !ok then onException n
                          else attempt fun acked => if acked then afterHelloAck n else onException n

/-- `writeMetricsIfDue`, where it is called. -/
def writeMetrics (n : Nat) : Code :=
  look fun s =>
    if (s.supervisor n).paused then jump (.frames n)
    else
      attempt fun due =>
        if !due then jump (.frames n)
        else
          isCurrent n true fun current =>
            if !current then jump (.frames n)
            else write n fun ok => if ok then jump (.frames n) else onException n

/-- The frame that a read brought, or what it threw. -/
inductive Arrival
  | echo | heartbeat | status | other | stop | timeout | failure
  deriving DecidableEq

def arrival : Nat → Arrival
  | 0 => .echo
  | 1 => .heartbeat
  | 2 => .status
  | 3 => .other
  | 4 => .stop
  | 5 => .timeout
  | _ => .failure

/-- One turn of the frame loop. -/
def frames (n : Nat) : Code :=
  look fun s =>
    if !(s.supervisor n).running || (s.supervisor n).socket ≠ some false then
      endConnection n <| jump (.runLoop n)
    else
      choose fun r =>
        match arrival r with
        | .echo => isCurrent n true fun _ => writeMetrics n
        | .heartbeat => write n fun ok => if ok then writeMetrics n else onException n
        | .status =>
            run (·.supervise n fun v =>
              if !v.paused && v.wakePending then
                { v with wakePending := false, recoveryReady := true }
              else v) fun s =>
              if !(s.supervisor n).paused && (s.supervisor n).wakePending then
                onControlReady n <| writeMetrics n
              else writeMetrics n
        | .other => writeMetrics n
        | .stop =>
            change (·.supervise n fun v => { v with stopRequested := true }) <|
              requestStop (some n) (some n) <| endConnection n <| jump .ended
        | .timeout =>
            look fun s =>
              if (s.supervisor n).paused then jump (.frames n)
              else if (s.supervisor n).wakePending then onException n
              else
                write n fun ok =>
                  if !ok then onException n
                  else attempt fun answered => if answered then writeMetrics n else onException n
        | .failure => onException n

/-! The program. -/

def Job.code (next : Code) : Job → Code
  | .initializeNativeEngine n => Android.initializeNativeEngine n next
  | .suspendNativeEngine n => Android.suspendNativeEngine n next
  | .resumeNativeEngine n => Android.resumeNativeEngine n next
  | .teardown n => Android.teardown n next

/-- What the main looper delivers. -/
def dispatch : Nat → Code
  | 0 => setScreenSuspended true <| jump .main
  | 1 => setScreenSuspended false <| jump .main
  | 2 => startVpn <| jump .main
  | 3 => requestStop none none <| jump .main
  | _ =>
      run (fun s => { s with posted := s.posted.tail }) fun s =>
        match s.posted with
        | [] => jump .main
        | n :: _ => queueNativeEngineResume n <| jump .main

def program : Label → Code
  | .main => choose dispatch
  | .worker =>
      run (fun s => { s with jobs := s.jobs.tail }) fun s =>
        match s.jobs with
        | [] => jump .worker
        | job :: _ => job.code <| jump .worker
  | .spawned n =>
      look fun s => if (s.supervisor n).running then jump (.runLoop n) else jump (.spawned n)
  | .runLoop n => runLoop n
  | .frames n => frames n
  | .ended => jump .ended

end Code

inductive ThreadId
  | main
  | worker (second : Bool)
  | control (session : Nat)
  deriving DecidableEq

def ThreadId.begins : ThreadId → Label
  | .main => .main
  | .worker _ => .worker
  | .control n => .spawned n

/-- A service that was just created, its headset awake or asleep. -/
def Service.created (screenSuspended : Bool) : Service where
  screenSuspended := screenSuspended
  active := none
  current := none
  generations := 0
  teardownInProgress := false
  closingGeneration := 0
  session _ := ⟨false, false, false, false, ⟨false, false, false, false, false, false, none⟩⟩
  jobs := []
  posted := []

def vpnService (screenSuspended : Bool) :
    Transition.Tasks ThreadId (Shared ThreadId Lock Service) (Thread Lock Service Label) Nat :=
  threads program ThreadId.begins (.created screenSuspended)

end QuestVdWired.Android
