import QuestVdWired.Host.AdbTransactions
import QuestVdWired.Host.StateMachine

/-!
The `stop` command and the daemon's handler it talks to. What the operation lock, the admin lane,
the identity of the daemon, its termination, the state store and ADB answer is the oracle's. Each
text of an error is a constructor of `StopError` that carries what the text interpolates; an error
of a library is its text. Durations are milliseconds.
-/

namespace QuestVdWired.Host
open Oracle Asking

structure AdminRequest where
  token : String
  command : String
  deriving DecidableEq

structure AdminResponse where
  ok : Bool
  repairsSuppressed : Bool
  error : Option String
  status : Option StateSnapshot
  deriving DecidableEq

namespace AdminServer

/-- What the handler asks of the control server and the monitor. -/
inductive Query
  | snapshot
  | notifyHostResume
  | resetTransport
  | beginSuppressRepairs
  | requestStop (timeout : Nat)
  | drainRepairs
  | repairSuppressed
  deriving DecidableEq

def Answer : Query → Type
  | .snapshot => StateSnapshot
  | .notifyHostResume => Unit
  | .resetTransport => StateSnapshot
  | .beginSuppressRepairs => Unit
  | .requestStop _ => Except String Unit
  | .drainRepairs => Unit
  | .repairSuppressed => Bool

abbrev Serving := Asking Query Answer

def hostResume : Serving AdminResponse := do
  let status ← ask (A := Answer) .snapshot
  if status.state = .connected ∨ status.state = .degraded then
    let () ← ask (A := Answer) .notifyHostResume
    return ⟨true, false, none, some (← ask (A := Answer) .resetTransport)⟩
  else return ⟨true, false, none, some status⟩

def stop : Serving AdminResponse := do
  let () ← ask (A := Answer) .beginSuppressRepairs
  let stopResult ← ask (A := Answer) (.requestStop 6000)
  let () ← ask (A := Answer) .drainRepairs
  match stopResult with
  | .ok () => return ⟨true, true, none, some (← ask (A := Answer) .snapshot)⟩
  | .error error => return ⟨false, true, some error, some (← ask (A := Answer) .snapshot)⟩

def shutdown : Serving AdminResponse := do
  let status ← ask (A := Answer) .snapshot
  let stopped : Bool := status.state = .stopped
  let suppressed ← ask (A := Answer) .repairSuppressed
  return ⟨stopped, suppressed,
    if stopped then none else some "daemon shutdown requires stopped state", some status⟩

/-- The response to a request that was read. -/
def handle (token : String) (request : AdminRequest) : Serving AdminResponse :=
  if request.token ≠ token then return ⟨false, false, some "authentication failed", none⟩
  else
    match request.command with
    | "host_resume" => hostResume
    | "stop" => stop
    | "status" => do return ⟨true, false, none, some (← ask (A := Answer) .snapshot)⟩
    | "shutdown" => shutdown
    | _ => return ⟨false, false, some "unknown command", none⟩

end AdminServer

inductive StopQuery
  | acquireOperation
  | adminCommand (command : String) (timeout : Nat)
  | readDaemonPid
  | terminateDaemon (timeout : Nat)
  | removeDaemonPid
  | sleep (duration : Nat)
  | runtimeMayBeActive
  /-- how many polls of `wait_for_daemon_exit` find its deadline ahead -/
  | exitPolls (timeout : Nat)
  | write (snapshot : StateSnapshot) (daemonPid : Option UInt32)
  | adb (q : AdbQuery)
  deriving DecidableEq

def StopAnswer : StopQuery → Type
  | .acquireOperation => Except String Unit
  | .adminCommand _ _ => Except String AdminResponse
  | .readDaemonPid => Option UInt32
  | .terminateDaemon _ => Except String Unit
  | .removeDaemonPid => Except String Unit
  | .sleep _ => Unit
  | .runtimeMayBeActive => Bool
  | .exitPolls _ => Nat
  | .write _ _ => Except String Unit
  | .adb q => AdbAnswer q

abbrev Command := Asking StopQuery StopAnswer
abbrev StopCall := Exchange StopQuery StopAnswer

inductive StopError
  | operationActive (cause : String)
  | quiescing (cause : String)
  | commandLaneFailed (commandError : String)
  | identityUnavailable (commandError : String)
  | terminatingAfterTimeout (cause : String)
  | terminatingStopped (cause : String)
  | terminatingAfterFailedStop (cause : String)
  | store (cause : String)
  | teardown (error : TransactionError)
  deriving DecidableEq

def ADB_MAPPING_COMMAND_TIMEOUT : Nat := 3000

def stoppedSnapshot : StateSnapshot := ⟨.stopped, none, 0, none⟩

def unverifiedSnapshot : StateSnapshot :=
  ⟨.error, none, 0, some "explicit stop could not be verified"⟩

def adminStopAcknowledgesSuppression (response : AdminResponse) : Bool :=
  response.ok && response.repairsSuppressed

namespace Command

def query (q : StopQuery) : Command (StopAnswer q) := ask q

def adb {α : Type} (m : Adb α) : Command α := lift StopAnswer StopQuery.adb m

/-- The fallback is only behind a stop that the headset acknowledged. -/
def teardown (c : AdbController) (acknowledged : Bool) : Adb (Except TransactionError Unit) := do
  if acknowledged then
    match ← c.finishControlStop with
    | .ok () => return .ok ()
    | .error _ => c.stop
  else c.stop

/-- No response that proves the repairs suppressed. -/
def commandFailure (c : AdbController) (commandError : String) :
    Command (Except StopError (Except TransactionError Unit)) := do
  if (← query .readDaemonPid).isSome then
    match ← query (.terminateDaemon 3000) with
    | .error cause => return .error (.quiescing cause)
    | .ok () =>
        let _ ← query .removeDaemonPid
        let () ← query (.sleep ADB_MAPPING_COMMAND_TIMEOUT)
        return .error (.commandLaneFailed commandError)
  else
    let active : Bool ← query .runtimeMayBeActive
    if active then return .error (.identityUnavailable commandError)
    else return .ok (← adb (teardown c false))

/-- The first `match` of `stop`. -/
def stopResult (c : AdbController) (controlStop : Except String AdminResponse) :
    Command (Except StopError (Except TransactionError Unit)) :=
  match controlStop with
  | .ok response =>
      if adminStopAcknowledgesSuppression response then do return .ok (← adb (teardown c true))
      else if response.repairsSuppressed then do return .ok (← adb (teardown c false))
      else commandFailure c (response.error.getD "repairs were not suppressed")
  | .error error => commandFailure c error

/-- The loop of `wait_for_daemon_exit`: whether the identity went in time. -/
def waitLoop : Nat → Command Bool
  | 0 => return false
  | polls + 1 => do
      if (← query .readDaemonPid).isNone then return true
      else waitLoop polls

def waitForDaemonExit (timeout : Nat) : Command Bool := do
  waitLoop (← query (.exitPolls timeout))

/-- `terminate_daemon(..).context(..)?` -/
def terminate (context : String → StopError) : Command (Except StopError Unit) := do
  match ← query (.terminateDaemon 3000) with
  | .error cause => return .error (context cause)
  | .ok () => return .ok ()

/-- An identified daemon goes, gracefully behind a teardown that succeeded. -/
def endDaemon (result : Except TransactionError Unit) : Command (Except StopError Unit) := do
  if (← query .readDaemonPid).isSome then
    match result with
    | .ok () =>
        match ← query (.adminCommand "shutdown" 3000) with
        | .ok response =>
            if response.ok then
              if ← waitForDaemonExit 3000 then return .ok ()
              else terminate .terminatingAfterTimeout
            else terminate .terminatingStopped
        | .error _ => terminate .terminatingStopped
    | .error _ => terminate .terminatingAfterFailedStop
  else return .ok ()

/-- What is written about the teardown, and returned. -/
def persist (result : Except TransactionError Unit) : Command (Except StopError String) := do
  match result with
  | .ok () =>
      match ← query (.write stoppedSnapshot none) with
      | .error cause => return .error (.store cause)
      | .ok () =>
          return .ok "wired link stopped; Quest VPN closure verified and mappings removed"
  | .error error =>
      match ← query (.write unverifiedSnapshot none) with
      | .error cause => return .error (.store cause)
      | .ok () => return .error (.teardown error)

def stop (c : AdbController) : Command (Except StopError String) := do
  match ← query .acquireOperation with
  | .error cause => return .error (.operationActive cause)
  | .ok () =>
      let controlStop ← query (.adminCommand "stop" 8000)
      match ← stopResult c controlStop with
      | .error error => return .error error
      | .ok result =>
          match ← endDaemon result with
          | .error error => return .error error
          | .ok () =>
              let _ ← query .removeDaemonPid
              persist result

/-- Neither a command of ADB nor a write of Stopped. -/
def plain : StopQuery → Bool
  | .adb _ => false
  | .write snapshot _ => snapshot.state ≠ .stopped
  | _ => true

/-- The daemon acknowledged that its repairs are suppressed and drained, `acknowledged` telling
whether the headset stopped too; or there was neither an identity nor a runtime to be seen. -/
def Permitted (l : List StopCall) (acknowledged : Bool) : Prop :=
  (∃ response : AdminResponse, ⟨.adminCommand "stop" 8000, Except.ok response⟩ ∈ l ∧
    response.repairsSuppressed = true ∧ acknowledged = response.ok) ∨
  ⟨.readDaemonPid, (none : Option UInt32)⟩ ∈ l ∧ ⟨.runtimeMayBeActive, false⟩ ∈ l ∧
    acknowledged = false

/-- The daemon was not identified, or was terminated, or acknowledged its shutdown and went. -/
def DaemonGone (l : List StopCall) : Prop :=
  ∃ (identity : Option UInt32) (rest : List StopCall), l = ⟨.readDaemonPid, identity⟩ :: rest ∧
    (identity = none ∨ ⟨.terminateDaemon 3000, Except.ok ()⟩ ∈ rest ∨
      ∃ response : AdminResponse, ⟨.adminCommand "shutdown" 3000, Except.ok response⟩ ∈ rest ∧
        response.ok = true ∧ ⟨.readDaemonPid, (none : Option UInt32)⟩ ∈ rest)

/-- What a run of `stop` records and returns. -/
inductive Outcome (c : AdbController) : List StopCall → Except StopError String → Prop
  | bailed {l : List StopCall} {error : StopError} (quiet : ∀ call ∈ l, plain call.1 = true) :
      Outcome c l (.error error)
  | toreDown {before after : List StopCall} {ran : List AdbCall} {acknowledged : Bool}
      {result : Except TransactionError Unit} {r : Except StopError String}
      (quiet : ∀ call ∈ before, plain call.1 = true) (permitted : Permitted before acknowledged)
      (runs : Runs (teardown c acknowledged) ran result)
      (silent : ∀ call ∈ after, ∀ q, call.1 ≠ .adb q)
      (persisted : (∃ call ∈ after, plain call.1 = false) → result = .ok ())
      (succeeded : ∀ text, r = .ok text → result = .ok () ∧ DaemonGone after) :
      Outcome c (before ++ ran.map (Exchange.embed StopQuery.adb) ++ after) r

theorem Permitted.cons {l : List StopCall} {acknowledged : Bool}
    (permitted : Permitted l acknowledged) (call : StopCall) :
    Permitted (call :: l) acknowledged := by
  rcases permitted with ⟨response, given, suppressed⟩ | ⟨unidentified, inactive, plain⟩
  · exact .inl ⟨response, .tail _ given, suppressed⟩
  · exact .inr ⟨.tail _ unidentified, .tail _ inactive, plain⟩

theorem not_adb {l : List StopCall} (quiet : ∀ call ∈ l, plain call.1 = true) :
    ∀ call ∈ l, ∀ q, call.1 ≠ .adb q := by
  intro call member q asked
  have := quiet call member
  rw [asked] at this
  cases this

theorem DaemonGone.append {l : List StopCall} (gone : DaemonGone l) (more : List StopCall) :
    DaemonGone (l ++ more) := by
  obtain ⟨identity, rest, rfl, how⟩ := gone
  refine ⟨identity, rest ++ more, rfl, ?_⟩
  rcases how with none | terminated | ⟨response, acknowledged, ok, exited⟩
  · exact .inl none
  · exact .inr (.inl (List.mem_append_left _ terminated))
  · exact .inr (.inr ⟨response, List.mem_append_left _ acknowledged, ok,
      List.mem_append_left _ exited⟩)

theorem waitLoop_spec (polls : Nat) : Ensures (waitLoop polls) fun l r =>
    (∀ call ∈ l, plain call.1 = true) ∧
      (r = true → ⟨.readDaemonPid, (none : Option UInt32)⟩ ∈ l) := by
  induction polls with
  | zero => exact ensures_pure ⟨List.forall_mem_nil _, nofun⟩
  | succ polls ih =>
      refine ensures_ask_bind fun identity => ?_
      cases identity with
      | none => exact ensures_pure ⟨by simp [plain], fun _ => .head _⟩
      | some pid =>
          refine ih.mono fun l r ⟨quiet, exited⟩ => ⟨?_, fun went => .tail _ (exited went)⟩
          exact List.forall_mem_cons.mpr ⟨rfl, quiet⟩

theorem waitForDaemonExit_spec (timeout : Nat) : Ensures (waitForDaemonExit timeout) fun l r =>
    (∀ call ∈ l, plain call.1 = true) ∧
      (r = true → ⟨.readDaemonPid, (none : Option UInt32)⟩ ∈ l) := by
  refine ensures_ask_bind fun polls => ?_
  refine (waitLoop_spec polls).mono fun l r ⟨quiet, exited⟩ =>
    ⟨?_, fun went => .tail _ (exited went)⟩
  exact List.forall_mem_cons.mpr ⟨rfl, quiet⟩

theorem terminate_spec (context : String → StopError) : Ensures (terminate context) fun l r =>
    (∀ call ∈ l, plain call.1 = true) ∧
      (r = .ok () → ⟨.terminateDaemon 3000, Except.ok ()⟩ ∈ l) := by
  refine ensures_ask_bind fun answer => ?_
  cases answer with
  | error cause => exact ensures_pure ⟨by simp [plain], nofun⟩
  | ok _ => exact ensures_pure ⟨by simp [plain], fun _ => .head _⟩

theorem endDaemon_spec (result : Except TransactionError Unit) :
    Ensures (endDaemon result) fun l r =>
      (∀ call ∈ l, plain call.1 = true) ∧ (r = .ok () → DaemonGone l) := by
  refine ensures_ask_bind fun identity => ?_
  cases identity with
  | none => exact ensures_pure ⟨by simp [plain], fun _ => ⟨none, [], rfl, .inl rfl⟩⟩
  | some pid =>
      -- a termination behind calls that are plain
      have ends (context : String → StopError) (front : List StopCall)
          (quiet : ∀ call ∈ front, plain call.1 = true) :
          Ensures (terminate context) fun l r =>
            (∀ call ∈ (⟨.readDaemonPid, some pid⟩ : StopCall) :: (front ++ l),
              plain call.1 = true) ∧
            (r = .ok () → DaemonGone (⟨.readDaemonPid, some pid⟩ :: (front ++ l))) := by
        refine (terminate_spec context).mono fun l r ⟨quiet', terminated⟩ => ⟨?_, fun ok => ?_⟩
        · exact List.forall_mem_cons.mpr ⟨rfl, List.forall_mem_append.mpr ⟨quiet, quiet'⟩⟩
        · exact ⟨some pid, _, rfl, .inr (.inl (List.mem_append_right _ (terminated ok)))⟩
      cases result with
      | error error => exact ends .terminatingAfterFailedStop [] (List.forall_mem_nil _)
      | ok _ =>
          refine ensures_ask_bind fun answer => ?_
          cases answer with
          | error cause => exact ends .terminatingStopped [_] (by simp [plain])
          | ok response =>
              dsimp only
              split
              · rename_i ok
                refine (waitForDaemonExit_spec 3000).bind fun l went ⟨quiet, exited⟩ => ?_
                cases went with
                | true =>
                    refine ensures_pure ⟨?_, fun _ => ⟨some pid, _, rfl, .inr (.inr
                      ⟨response, .head _, ok, ?_⟩)⟩⟩
                    · simpa [plain] using quiet
                    · exact .tail _ (List.mem_append_left _ (exited rfl))
                | false =>
                    refine ends .terminatingAfterTimeout (_ :: l) ?_
                    exact List.forall_mem_cons.mpr ⟨rfl, quiet⟩
              · exact ends .terminatingStopped [_] (by simp [plain])

theorem persist_spec (result : Except TransactionError Unit) :
    Ensures (persist result) fun l r =>
      (∀ call ∈ l, ∀ q, call.1 ≠ .adb q) ∧
      ((∃ call ∈ l, plain call.1 = false) → result = .ok ()) ∧
      ∀ text, r = .ok text → result = .ok () := by
  cases result with
  | ok _ =>
      refine ensures_ask_bind fun answer => ?_
      cases answer <;> exact ensures_pure ⟨by simp, fun _ => rfl, fun _ _ => rfl⟩
  | error error =>
      refine ensures_ask_bind fun answer => ?_
      cases answer <;>
        exact ensures_pure ⟨by simp, by simp [plain, unverifiedSnapshot], nofun⟩

/-- What stands behind the response to the stop. -/
inductive StopResult (c : AdbController) (controlStop : Except String AdminResponse) :
    List StopCall → Except StopError (Except TransactionError Unit) → Prop
  | bailed {l : List StopCall} {error : StopError} (quiet : ∀ call ∈ l, plain call.1 = true) :
      StopResult c controlStop l (.error error)
  | ran {before : List StopCall} {ran : List AdbCall} {acknowledged : Bool}
      {result : Except TransactionError Unit} (quiet : ∀ call ∈ before, plain call.1 = true)
      (permitted : Permitted (⟨.adminCommand "stop" 8000, controlStop⟩ :: before) acknowledged)
      (runs : Runs (teardown c acknowledged) ran result) :
      StopResult c controlStop (before ++ ran.map (Exchange.embed StopQuery.adb)) (.ok result)

section
variable {c : AdbController} {controlStop : Except String AdminResponse}

theorem ensures_adb {α : Type} (m : Adb α) :
    Ensures (adb m) fun l a => ∃ ran, l = ran.map (Exchange.embed StopQuery.adb) ∧ Runs m ran a :=
  ensures_lift StopAnswer StopQuery.adb m

theorem adb_spec {before : List StopCall} {acknowledged : Bool}
    (quiet : ∀ call ∈ before, plain call.1 = true)
    (permitted : Permitted (⟨.adminCommand "stop" 8000, controlStop⟩ :: before) acknowledged) :
    Ensures (do return Except.ok (← adb (teardown c acknowledged))) fun l r =>
      StopResult c controlStop (before ++ l) r := by
  refine (ensures_adb (teardown c acknowledged)).returns ?_
  rintro _ result ⟨ran, rfl, runs⟩
  exact .ran quiet permitted runs

theorem commandFailure_spec (commandError : String) :
    Ensures (commandFailure c commandError) (StopResult c controlStop) := by
  refine ensures_ask_bind fun identity => ?_
  cases identity with
  | some pid =>
      refine ensures_ask_bind fun answer => ?_
      cases answer with
      | error cause => exact ensures_pure (.bailed (by simp [plain]))
      | ok _ =>
          refine ensures_ask_bind fun _ => ensures_ask_bind fun _ => ?_
          exact ensures_pure (.bailed (by simp [plain]))
  | none =>
      refine ensures_ask_bind fun (active : Bool) => ?_
      cases active with
      | true => exact ensures_pure (.bailed (by simp [plain]))
      | false =>
          have permitted : Permitted [⟨.adminCommand "stop" 8000, controlStop⟩,
              ⟨.readDaemonPid, (none : Option UInt32)⟩, ⟨.runtimeMayBeActive, false⟩] false :=
            .inr ⟨.tail _ (.head _), .tail _ (.tail _ (.head _)), rfl⟩
          exact adb_spec (by simp [plain]) permitted

theorem stopResult_spec : Ensures (stopResult c controlStop) (StopResult c controlStop) := by
  cases controlStop with
  | error error => exact commandFailure_spec error
  | ok response =>
      unfold stopResult
      dsimp only
      split
      · rename_i both
        obtain ⟨ok, suppressed⟩ := Bool.and_eq_true_iff.mp both
        exact adb_spec (List.forall_mem_nil _) (.inl ⟨response, .head _, suppressed, ok.symm⟩)
      · rename_i notBoth
        split
        · rename_i suppressed
          have failed : false = response.ok := by
            cases ok : response.ok with
            | false => rfl
            | true => simp [adminStopAcknowledgesSuppression, ok, suppressed] at notBoth
          exact adb_spec (List.forall_mem_nil _) (.inl ⟨response, .head _, suppressed, failed⟩)
        · exact commandFailure_spec _

end

theorem stop_outcome (c : AdbController) : Ensures (stop c) (Outcome c) := by
  refine ensures_ask_bind fun lock => ?_
  cases lock with
  | error cause => exact ensures_pure (.bailed (by simp [plain]))
  | ok _ =>
      refine ensures_ask_bind fun controlStop => ?_
      refine stopResult_spec.bind fun l _ stands => ?_
      cases stands with
      | bailed quiet => exact ensures_pure (.bailed (by simpa [plain] using quiet))
      | @ran before ran acknowledged result quiet permitted runs =>
          -- what the run has done when the teardown is behind it
          have permitted' := permitted.cons ⟨.acquireOperation, Except.ok ()⟩
          have quiet' : ∀ call ∈ (⟨.acquireOperation, Except.ok ()⟩ : StopCall) ::
              ⟨.adminCommand "stop" 8000, controlStop⟩ :: before, plain call.1 = true :=
            List.forall_mem_cons.mpr ⟨rfl, List.forall_mem_cons.mpr ⟨rfl, quiet⟩⟩
          refine (endDaemon_spec result).bind fun after ended ⟨quiet, gone⟩ => ?_
          cases ended with
          | error error =>
              refine ensures_pure ?_
              rw [List.append_nil]
              exact .toreDown quiet' permitted' runs (not_adb quiet)
                (fun ⟨call, member, written⟩ => absurd (quiet call member) (by simp [written])) nofun
          | ok _ =>
              refine ensures_ask_bind fun removed => ?_
              refine (persist_spec result).mono fun l r ⟨silent, persisted, succeeded⟩ => ?_
              refine .toreDown quiet' permitted' runs ?_ ?_ ?_
              · refine List.forall_mem_append.mpr ⟨not_adb quiet, ?_⟩
                exact List.forall_mem_cons.mpr ⟨nofun, silent⟩
              · rintro ⟨call, member, written⟩
                rcases List.mem_append.mp member with early | late
                · exact absurd (quiet call early) (by simp [written])
                · rcases List.mem_cons.mp late with rfl | late
                  · cases written
                  · exact persisted ⟨call, late, written⟩
              · intro text ok
                exact ⟨succeeded text ok, (gone rfl).append _⟩

theorem teardown_spec (c : AdbController) (acknowledged : Bool) :
    Ensures (teardown c acknowledged) fun l r => r = .ok () → c.Closed l := by
  have stops : Ensures c.stop fun l r => r = .ok () → c.Closed l :=
    AdbController.stop_spec.mono fun _ _ => And.right
  cases acknowledged with
  | false => exact stops
  | true =>
      refine AdbController.finishControlStop_spec.bind fun l r ⟨_, closed⟩ => ?_
      cases r with
      | ok _ => exact ensures_pure fun _ => by simpa using closed rfl
      | error error => exact stops.mono fun l' r closed ok => (closed ok).append l

/-- What the text of a success says: a `dumpsys` was judged closed and, behind it, the mappings
were removed. -/
theorem stop_closes (c : AdbController) :
    Ensures (stop c) fun l r => ∀ text, r = .ok text →
      ∃ before after ran, l = before ++ ran.map (Exchange.embed StopQuery.adb) ++ after ∧
        c.Closed ran := by
  refine (stop_outcome c).mono fun l r outcome text ok => ?_
  cases outcome with
  | bailed => cases ok
  | @toreDown before after ran acknowledged result r _ _ runs _ _ succeeded =>
      exact ⟨before, after, ran, rfl, (teardown_spec c acknowledged).of_runs runs
        (succeeded text ok).1⟩

/-- The handler says that repairs are suppressed only to who knows the token, and only behind a
suppression and a drain. -/
theorem handle_acknowledges (token given : String) :
    Ensures (AdminServer.handle token ⟨given, "stop"⟩) fun l response =>
      response.repairsSuppressed = true → given = token ∧
        ∃ (result : Except String Unit) (status : StateSnapshot),
          l = [⟨.beginSuppressRepairs, ()⟩, ⟨.requestStop 6000, result⟩, ⟨.drainRepairs, ()⟩,
            ⟨.snapshot, status⟩] ∧ (response.ok = true ↔ result = .ok ()) := by
  unfold AdminServer.handle
  split
  · exact ensures_pure nofun
  · rename_i known
    refine ensures_ask_bind fun _ => ensures_ask_bind fun result => ensures_ask_bind fun _ => ?_
    cases result with
    | ok _ =>
        refine ensures_ask_bind fun status => ensures_pure fun _ => ?_
        exact ⟨Decidable.not_not.mp known, .ok (), status, rfl, by simp⟩
    | error error =>
        refine ensures_ask_bind fun status => ensures_pure fun _ => ?_
        exact ⟨Decidable.not_not.mp known, .error error, status, rfl, by simp⟩

/-- Whatever the services answer. -/
theorem stop_transaction (c : AdbController) :
    Ensures (stop c) (Outcome c) ∧
    (Ensures (stop c) fun l r => ∀ text, r = .ok text →
      ∃ before after ran, l = before ++ ran.map (Exchange.embed StopQuery.adb) ++ after ∧
        c.Closed ran) ∧
    ∀ token given, Ensures (AdminServer.handle token ⟨given, "stop"⟩) fun l response =>
      response.repairsSuppressed = true → given = token ∧
        ∃ (result : Except String Unit) (status : StateSnapshot),
          l = [⟨.beginSuppressRepairs, ()⟩, ⟨.requestStop 6000, result⟩, ⟨.drainRepairs, ()⟩,
            ⟨.snapshot, status⟩] ∧ (response.ok = true ↔ result = .ok ()) :=
  ⟨stop_outcome c, stop_closes c, handle_acknowledges⟩

end Command
end QuestVdWired.Host
