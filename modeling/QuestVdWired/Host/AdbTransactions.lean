import QuestVdWired.Host.AdbController

/-!
What the ADB transactions guarantee whatever the executor answers. Each function has one
specification, over exactly the calls it makes; the transactions are assembled from them.
-/

namespace QuestVdWired.Host
open Oracle Oracle.Asking

/-- The removal went through, or the listener was reported absent. -/
def Removed : AdbCall → Prop
  | ⟨.execute _ _, .ok output⟩ => output.isSuccess ∨ mappingWasAlreadyAbsent output
  | _ => False

/-- The command was answered and exited with status zero. -/
def Succeeded : AdbCall → Prop
  | ⟨.execute _ _, .ok output⟩ => output.isSuccess
  | _ => False

/-- A successful list without a product remote. -/
def ShowsNone (answer : Except AdbError AdbOutput) : Prop :=
  ∃ listing, answer = .ok listing ∧ listing.isSuccess ∧ ownedMappings listing.stdout = []

/-- The failure says that a removal could not be verified or did not take. -/
def Failure.ReportsRemoval : Failure → Prop
  | .mappingsRemain _ | .removalUnverified _ => True
  | _ => False

/-- A START intent, whatever its session. -/
def AdbQuery.isStart : AdbQuery → Bool
  | .execute args _ => args.contains ACTION_START_V4
  | _ => false

namespace AdbController
variable (c : AdbController)

def removeQuery (mapping : ReverseMapping) : AdbQuery :=
  .execute (removeMappingArgs mapping) c.mappingTimeout

def addQuery (mapping : ReverseMapping) : AdbQuery :=
  .execute (addMappingArgs mapping) c.mappingTimeout

def listQuery : AdbQuery := .execute reverseListArgs c.mappingTimeout

def dumpsysQuery : AdbQuery := .execute dumpsysArgs c.commandTimeout

def startQuery (sessionId : SessionId) (allTraffic : Bool) : AdbQuery :=
  .execute (startIntentArgs sessionId allTraffic) c.commandTimeout

/-- What is asked before the first add of a `start`, and by every stop. -/
inductive Quiescing : AdbQuery → Prop
  | device : Quiescing (.execute getStateArgs c.deviceTimeout)
  | recover : Quiescing (.recoverServer c.deviceTimeout)
  | polls : Quiescing .polls
  | wake : Quiescing (.execute wakeArgs c.commandTimeout)
  | stopIntent : Quiescing (.execute stopIntentArgs c.commandTimeout)
  | dumpsys : Quiescing c.dumpsysQuery
  | forceStop : Quiescing (.execute forceStopArgs c.commandTimeout)
  | remove {mapping : ReverseMapping} (owned : mapping ∈ REVERSE_MAPPINGS) :
      Quiescing (c.removeQuery mapping)
  | list : Quiescing c.listQuery

/-- Every removal was attempted, and then the list asked for. -/
structure Swept (l removals : List AdbCall) (answer : Except AdbError AdbOutput) : Prop where
  calls : l = removals ++ [⟨c.listQuery, answer⟩]
  attempted : removals.map Sigma.fst = REVERSE_MAPPINGS.map c.removeQuery

/-- Every product mapping is gone, and the list shows it. -/
def Cleared (l : List AdbCall) : Prop :=
  ∃ removals answer, c.Swept l removals answer ∧ (∀ call ∈ removals, Removed call) ∧
    ShowsNone answer

variable {c}

theorem runCheckedWith_spec (args : List String) (limit : Nat) :
    Ensures (runCheckedWith args limit) fun l r =>
      ∃ a : Except AdbError AdbOutput, l = [⟨.execute args limit, a⟩] ∧
        r = a.bind AdbOutput.checked :=
  ensures_ask_bind fun a => ensures_pure ⟨a, rfl, rfl⟩

theorem bind_checked_eq_ok {a : Except AdbError AdbOutput} {output : AdbOutput}
    (h : a.bind AdbOutput.checked = .ok output) : a = .ok output ∧ output.isSuccess := by
  cases a with
  | error e => cases h
  | ok other =>
      simp only [Except.bind, AdbOutput.checked] at h
      split at h
      · rename_i success
        cases h
        exact ⟨rfl, success⟩
      · cases h

theorem requireDevice_spec :
    Ensures c.requireDevice fun l _ => ∀ call ∈ l, c.Quiescing call.1 := by
  unfold requireDevice
  refine (runCheckedWith_spec _ _).bind ?_
  rintro _ r ⟨a, rfl, -⟩
  split
  · exact ensures_pure (by simp [Quiescing.device])
  · refine ensures_ask_bind fun recovered => ?_
    split
    · exact ensures_pure (by simp [Quiescing.device, Quiescing.recover])
    · refine (runCheckedWith_spec _ _).bind ?_
      rintro _ r ⟨a, rfl, -⟩
      split <;> exact ensures_pure (by simp [Quiescing.device, Quiescing.recover])
  · exact ensures_pure (by simp [Quiescing.device])


/-- A command whose output is not looked at. -/
theorem runUnit_spec (args : List String) (limit : Nat) :
    Ensures (do return (← runCheckedWith args limit).map fun _ => ()) fun l r =>
      ∃ call : AdbCall, l = [call] ∧ call.1 = .execute args limit ∧
        (r = .ok () → Succeeded call) := by
  refine (runCheckedWith_spec args limit).returns ?_
  rintro _ _ ⟨a, rfl, rfl⟩
  refine ⟨_, rfl, rfl, fun done => ?_⟩
  cases checked : a.bind AdbOutput.checked with
  | error e => simp [checked, Except.map] at done
  | ok output =>
      obtain ⟨rfl, success⟩ := bind_checked_eq_ok checked
      exact success

/-- The last call is a `dumpsys` whose output was judged closed. -/
def Verified (c : AdbController) (l : List AdbCall) : Prop :=
  ∃ before output, l = before ++ [⟨c.dumpsysQuery, .ok output⟩] ∧ output.isSuccess ∧
    judgedClosed output.stdout

theorem pollVpn_spec :
    Ensures c.pollVpn fun l r =>
      (∀ call ∈ l, c.Quiescing call.1) ∧ (r = .ok true → c.Verified l) := by
  refine (runCheckedWith_spec dumpsysArgs c.commandTimeout).returns ?_
  rintro _ _ ⟨a, rfl, rfl⟩
  refine ⟨List.forall_mem_singleton.mpr .dumpsys, fun closed => ?_⟩
  cases checked : a.bind AdbOutput.checked with
  | error e => simp [checked, Except.map] at closed
  | ok output =>
      obtain ⟨rfl, success⟩ := bind_checked_eq_ok checked
      simp only [checked, Except.map, Except.ok.injEq] at closed
      exact ⟨[], output, rfl, success, closed⟩

theorem Verified.append {l : List AdbCall} (verified : c.Verified l) (before : List AdbCall) :
    c.Verified (before ++ l) := by
  obtain ⟨middle, output, rfl, closed⟩ := verified
  exact ⟨before ++ middle, output, (List.append_assoc _ _ _).symm, closed⟩

theorem verifyLoop_spec (ahead : Nat) :
    Ensures (c.verifyLoop ahead) fun l r =>
      (∀ call ∈ l, c.Quiescing call.1) ∧ (r = .ok () → c.Verified l) := by
  induction ahead with
  | zero =>
      refine pollVpn_spec.bind ?_
      rintro l r ⟨only, verified⟩
      split
      · exact ensures_pure ⟨by simpa using only, nofun⟩
      · exact ensures_pure ⟨by simpa using only, fun _ => by simpa using verified rfl⟩
      · exact ensures_pure ⟨by simpa using only, nofun⟩
  | succ ahead ih =>
      refine pollVpn_spec.bind ?_
      rintro l r ⟨only, verified⟩
      split
      · exact ensures_pure ⟨by simpa using only, nofun⟩
      · exact ensures_pure ⟨by simpa using only, fun _ => by simpa using verified rfl⟩
      · refine ih.mono ?_
        rintro l' r ⟨only', verified'⟩
        exact ⟨List.forall_mem_append.mpr ⟨only, only'⟩, fun ok => (verified' ok).append l⟩

theorem verifyVpnClosed_spec :
    Ensures c.verifyVpnClosed fun l r =>
      (∀ call ∈ l, c.Quiescing call.1) ∧ (r = .ok () → c.Verified l) := by
  refine ensures_ask_bind fun ahead => ?_
  refine (verifyLoop_spec ahead).mono ?_
  rintro l r ⟨only, verified⟩
  refine ⟨List.forall_mem_cons.mpr ⟨.polls, only⟩, fun ok => ?_⟩
  exact (verified ok).append [_]

theorem removeMapping_spec (mapping : ReverseMapping) :
    Ensures (c.removeMapping mapping) fun l failures =>
      ∃ call : AdbCall, l = [call] ∧ call.1 = c.removeQuery mapping ∧
        (failures = [] → Removed call) := by
  refine ensures_ask_bind fun a => ?_
  split
  · split
    · rename_i gone
      refine ensures_pure ⟨_, rfl, rfl, fun _ => ?_⟩
      simpa [Removed] using gone
    · exact ensures_pure ⟨_, rfl, rfl, nofun⟩
  · exact ensures_pure ⟨_, rfl, rfl, nofun⟩

theorem removeMappings_spec (mappings : List ReverseMapping) (failures : List Failure) :
    Ensures (c.removeMappings mappings failures) fun l after =>
      ∃ more, after = failures ++ more ∧ l.map Sigma.fst = mappings.map c.removeQuery ∧
        (more = [] → ∀ call ∈ l, Removed call) := by
  induction mappings generalizing failures with
  | nil => exact ensures_pure ⟨[], by simp, rfl, by simp⟩
  | cons mapping rest ih =>
      refine (removeMapping_spec mapping).bind ?_
      rintro _ here ⟨call, rfl, asked, removed⟩
      refine (ih _).mono ?_
      rintro l after ⟨more, rfl, calls, gone⟩
      refine ⟨here ++ more, by simp, by simp [asked, calls], fun none => ?_⟩
      obtain ⟨rfl, rfl⟩ := List.append_eq_nil_iff.mp none
      exact List.forall_mem_cons.mpr ⟨removed rfl, gone rfl⟩

theorem verifyRemoval_spec :
    Ensures c.verifyRemoval fun l failures =>
      ∃ answer, l = [⟨c.listQuery, answer⟩] ∧ (failures = [] → ShowsNone answer) ∧
        (ShowsNone answer ∨ ∃ failure ∈ failures, failure.ReportsRemoval) := by
  refine (runCheckedWith_spec _ _).bind ?_
  rintro _ r ⟨a, rfl, checked⟩
  split
  · rename_i output
    obtain ⟨rfl, success⟩ := bind_checked_eq_ok checked.symm
    split
    · rename_i empty
      have none : ShowsNone (.ok output) := ⟨output, rfl, success, by simpa using empty⟩
      exact ensures_pure ⟨_, rfl, fun _ => none, .inl none⟩
    · exact ensures_pure ⟨_, rfl, nofun, .inr ⟨_, List.mem_singleton_self _, trivial⟩⟩
  · exact ensures_pure ⟨_, rfl, nofun, .inr ⟨_, List.mem_singleton_self _, trivial⟩⟩

/-- Everything a removal does: it always runs to its closing list, it is silent only when the
product's mappings are gone, and a list that shows one of them or fails is reported. -/
theorem removeAllMappings_spec (failures : List Failure) :
    Ensures (c.removeAllMappings failures) fun l after =>
      ∃ removals answer more, c.Swept l removals answer ∧ after = failures ++ more ∧
        (more = [] → c.Cleared l) ∧
        (ShowsNone answer ∨ ∃ failure ∈ more, failure.ReportsRemoval) := by
  refine (removeMappings_spec REVERSE_MAPPINGS failures).bind ?_
  rintro removals _ ⟨more, rfl, attempted, gone⟩
  refine verifyRemoval_spec.returns ?_
  rintro _ last ⟨answer, rfl, none, reported⟩
  have swept : c.Swept (removals ++ [⟨c.listQuery, answer⟩]) removals answer := ⟨rfl, attempted⟩
  refine ⟨removals, answer, more ++ last, swept, by simp, fun silent => ?_, ?_⟩
  · obtain ⟨rfl, rfl⟩ := List.append_eq_nil_iff.mp silent
    exact ⟨removals, answer, swept, gone rfl, none rfl⟩
  · refine reported.imp_right ?_
    rintro ⟨failure, member, reports⟩
    exact ⟨failure, List.mem_append_right more member, reports⟩

theorem Swept.quiescing {l removals : List AdbCall} {answer : Except AdbError AdbOutput}
    (swept : c.Swept l removals answer) : ∀ call ∈ l, c.Quiescing call.1 := by
  rw [swept.calls]
  refine List.forall_mem_append.mpr ⟨?_, by simp [Quiescing.list]⟩
  intro call member
  have asked : call.1 ∈ removals.map Sigma.fst := List.mem_map_of_mem member
  rw [swept.attempted] at asked
  obtain ⟨mapping, owned, same⟩ := List.mem_map.mp asked
  rw [← same]
  exact .remove owned

/-- A `dumpsys` was judged closed, and behind it every product mapping removed. -/
def Closed (c : AdbController) (l : List AdbCall) : Prop :=
  ∃ before cleared, l = before ++ cleared ∧ c.Verified before ∧ c.Cleared cleared

theorem Closed.append {l : List AdbCall} (closed : c.Closed l) (before : List AdbCall) :
    c.Closed (before ++ l) := by
  obtain ⟨middle, cleared, rfl, verified, gone⟩ := closed
  exact ⟨before ++ middle, cleared, (List.append_assoc _ _ _).symm, verified.append before, gone⟩

theorem finish_eq_ok {phase : String} {failures : List Failure}
    (h : finish phase failures = .ok ()) : failures = [] := by
  simpa [finish] using h

/-- The end all stops share: the removal, and success only when nothing failed before it. -/
theorem finish_spec (phase : String) {failures : List Failure} {l : List AdbCall}
    (only : ∀ call ∈ l, c.Quiescing call.1) (verified : failures = [] → c.Verified l) :
    Ensures (do return finish phase (← c.removeAllMappings failures)) fun l' r =>
      (∀ call ∈ l ++ l', c.Quiescing call.1) ∧ (r = .ok () → c.Closed (l ++ l')) := by
  refine (removeAllMappings_spec failures).returns ?_
  rintro l' _ ⟨removals, answer, more, swept, rfl, cleared, -⟩
  refine ⟨List.forall_mem_append.mpr ⟨only, swept.quiescing⟩, fun ok => ?_⟩
  obtain ⟨none, silent⟩ := List.append_eq_nil_iff.mp (finish_eq_ok ok)
  exact ⟨l, l', rfl, verified none, cleared silent⟩

theorem stopAndroidSession_spec (phase : String) :
    Ensures (c.stopAndroidSession phase) fun l r =>
      (∀ call ∈ l, c.Quiescing call.1) ∧ (r = .ok () → c.Closed l) := by
  refine (runCheckedWith_spec stopIntentArgs c.commandTimeout).bind ?_
  rintro _ request ⟨a, rfl, -⟩
  refine verifyVpnClosed_spec.bind ?_
  rintro l r ⟨only, verified⟩
  have only' : ∀ call ∈ [(⟨.execute stopIntentArgs c.commandTimeout, a⟩ : AdbCall)] ++ l,
      c.Quiescing call.1 := List.forall_mem_cons.mpr ⟨.stopIntent, only⟩
  simp only [← List.append_assoc]
  refine finish_spec phase only' fun none => ?_
  split at none
  · exact (verified rfl).append _
  · cases none
  · cases none

theorem forceStopAndroidSession_spec (phase : String) :
    Ensures (c.forceStopAndroidSession phase) fun l r =>
      (∀ call ∈ l, c.Quiescing call.1) ∧ (r = .ok () → c.Closed l) := by
  refine (runUnit_spec forceStopArgs c.commandTimeout).bind ?_
  rintro _ forced ⟨kill, rfl, asked, -⟩
  refine verifyVpnClosed_spec.bind ?_
  rintro l r ⟨only, verified⟩
  have only' : ∀ call ∈ [kill] ++ l, c.Quiescing call.1 :=
    List.forall_mem_cons.mpr ⟨asked ▸ .forceStop, only⟩
  simp only [← List.append_assoc]
  refine finish_spec phase only' fun none => ?_
  split at none
  · exact (verified rfl).append _
  · simp at none

theorem finishControlStop_spec :
    Ensures c.finishControlStop fun l r =>
      (∀ call ∈ l, c.Quiescing call.1) ∧ (r = .ok () → c.Closed l) := by
  refine verifyVpnClosed_spec.bind ?_
  rintro l r ⟨only, verified⟩
  refine finish_spec _ only fun none => ?_
  split at none
  · exact verified rfl
  · cases none

theorem quiesceAndroidSession_spec :
    Ensures c.quiesceAndroidSession fun l r =>
      (∀ call ∈ l, c.Quiescing call.1) ∧ (r = .ok () → c.Closed l) := by
  refine (stopAndroidSession_spec _).bind ?_
  rintro l r ⟨only, closed⟩
  split
  · exact ensures_pure ⟨by simpa using only, fun _ => by simpa using closed rfl⟩
  · refine (forceStopAndroidSession_spec _).bind ?_
    rintro l' r' ⟨only', closed'⟩
    have both := List.forall_mem_append.mpr ⟨only, only'⟩
    split
    · exact ensures_pure ⟨by simpa using both, fun _ => by simpa using (closed' rfl).append l⟩
    · exact ensures_pure ⟨by simpa using both, nofun⟩

theorem stop_spec :
    Ensures c.stop fun l r =>
      (∀ call ∈ l, c.Quiescing call.1) ∧ (r = .ok () → c.Closed l) := by
  refine requireDevice_spec.bind fun l r only => ?_
  split
  · exact ensures_pure ⟨by simpa using only, nofun⟩
  · refine (runUnit_spec wakeArgs c.commandTimeout).bind ?_
    rintro _ woken ⟨call, rfl, asked, -⟩
    have awake : c.Quiescing call.1 := asked ▸ .wake
    split
    · refine ensures_pure ⟨?_, nofun⟩
      simpa [awake, or_imp, forall_and] using only
    · refine (stopAndroidSession_spec _).mono ?_
      rintro l' r' ⟨only', closed⟩
      refine ⟨?_, fun ok => ((closed ok).append [call]).append l⟩
      exact List.forall_mem_append.mpr ⟨only, List.forall_mem_cons.mpr ⟨awake, only'⟩⟩

theorem stopUnresponsive_spec :
    Ensures c.stopUnresponsive fun l r =>
      (∀ call ∈ l, c.Quiescing call.1) ∧ (r = .ok () → c.Closed l) := by
  refine requireDevice_spec.bind fun l r only => ?_
  split
  · exact ensures_pure ⟨by simpa using only, nofun⟩
  · refine (forceStopAndroidSession_spec _).mono ?_
    rintro l' r' ⟨only', closed⟩
    exact ⟨List.forall_mem_append.mpr ⟨only, only'⟩, fun ok => (closed ok).append l⟩

variable (c) in
/-- The add of a product mapping. -/
def Adds (q : AdbQuery) : Prop := ∃ mapping ∈ REVERSE_MAPPINGS, q = c.addQuery mapping

/-- A successful list with every product mapping. -/
def ShowsAll (answer : Except AdbError AdbOutput) : Prop :=
  ∃ listing, answer = .ok listing ∧ listing.isSuccess ∧ missingMappings listing.stdout = []

variable (c) in
/-- The last calls attempt every removal and ask for the list, which shows no product remote
or has its verdict among the failures. -/
def RolledBack (l : List AdbCall) (failures : List Failure) : Prop :=
  ∃ before removed removals answer, l = before ++ removed ∧ c.Swept removed removals answer ∧
    (ShowsNone answer ∨ ∃ failure ∈ failures, failure.ReportsRemoval)

theorem RolledBack.append {l : List AdbCall} {failures : List Failure}
    (rolled : c.RolledBack l failures) (before : List AdbCall) :
    c.RolledBack (before ++ l) failures := by
  obtain ⟨middle, removed, removals, answer, rfl, swept, reported⟩ := rolled
  exact ⟨before ++ middle, removed, removals, answer, (List.append_assoc _ _ _).symm, swept,
    reported⟩

theorem rollBack_spec (phase : String) (failures : List Failure) :
    Ensures (c.rollBack phase failures) fun l e =>
      (∀ call ∈ l, c.Quiescing call.1) ∧ c.RolledBack l e.failures := by
  refine (removeAllMappings_spec failures).returns ?_
  rintro l _ ⟨removals, answer, more, swept, rfl, -, reported⟩
  refine ⟨swept.quiescing, [], l, removals, answer, rfl, swept, reported.imp_right ?_⟩
  rintro ⟨failure, member, reports⟩
  exact ⟨failure, List.mem_append_right failures member, reports⟩

theorem addMappings_spec (mappings : List ReverseMapping) :
    Ensures (c.addMappings mappings) fun l failures =>
      (∀ call ∈ l, ∃ mapping ∈ mappings, call.1 = c.addQuery mapping) ∧
        (failures = [] → l.map Sigma.fst = mappings.map c.addQuery ∧
          ∀ call ∈ l, Succeeded call) := by
  induction mappings with
  | nil => exact ensures_pure ⟨by simp, by simp⟩
  | cons mapping rest ih =>
      refine (runUnit_spec (addMappingArgs mapping) c.mappingTimeout).bind ?_
      rintro _ added ⟨call, rfl, asked, succeeded⟩
      replace asked : call.1 = c.addQuery mapping := asked
      split
      · refine ih.mono ?_
        rintro l failures ⟨asks, done⟩
        refine ⟨List.forall_mem_cons.mpr ⟨⟨mapping, by simp, asked⟩, ?_⟩, fun none => ?_⟩
        · intro call' member
          obtain ⟨other, listed, same⟩ := asks call' member
          exact ⟨other, List.mem_cons_of_mem _ listed, same⟩
        · obtain ⟨calls, all⟩ := done none
          refine ⟨?_, List.forall_mem_cons.mpr ⟨succeeded rfl, all⟩⟩
          simpa [calls] using asked
      · refine ensures_pure ⟨?_, nofun⟩
        simpa using .inl asked

theorem verifyMappings_spec (after : String) :
    Ensures (c.verifyMappings after) fun l failures =>
      ∃ answer, l = [⟨c.listQuery, answer⟩] ∧ (failures = [] → ShowsAll answer) := by
  refine ((runCheckedWith_spec reverseListArgs c.mappingTimeout).returns
    (R := fun l r => ∃ answer, l = [⟨c.listQuery, answer⟩] ∧
      (r = .ok [] → ShowsAll answer)) ?_).bind ?_
  · rintro _ _ ⟨a, rfl, rfl⟩
    refine ⟨a, rfl, fun healthy => ?_⟩
    cases checked : a.bind AdbOutput.checked with
    | error e => simp [checked, Except.map] at healthy
    | ok output =>
        obtain ⟨rfl, success⟩ := bind_checked_eq_ok checked
        simp only [checked, Except.map, Except.ok.injEq] at healthy
        exact ⟨output, rfl, success, healthy⟩
  · rintro _ r ⟨answer, rfl, healthy⟩
    split
    · exact ensures_pure ⟨answer, rfl, fun _ => healthy rfl⟩
    · exact ensures_pure ⟨answer, rfl, nofun⟩
    · exact ensures_pure ⟨answer, rfl, nofun⟩

variable (c) in
/-- Every product mapping was added, the list behind them shows them all, and the START
intent of the session is the last call. -/
def Installed (sessionId : SessionId) (allTraffic : Bool) (l : List AdbCall) : Prop :=
  ∃ added answer last, l = added ++ [⟨c.listQuery, answer⟩, last] ∧
    added.map Sigma.fst = REVERSE_MAPPINGS.map c.addQuery ∧ (∀ call ∈ added, Succeeded call) ∧
    ShowsAll answer ∧ last.1 = c.startQuery sessionId allTraffic ∧ Succeeded last

variable (c) in
/-- What `start` may ask. -/
def Starting (sessionId : SessionId) (allTraffic : Bool) (q : AdbQuery) : Prop :=
  c.Quiescing q ∨ c.Adds q ∨ q = c.startQuery sessionId allTraffic

theorem installAndStart_spec (sessionId : SessionId) (allTraffic : Bool) :
    Ensures (c.installAndStart sessionId allTraffic) fun l r =>
      (∀ call ∈ l, c.Starting sessionId allTraffic call.1) ∧
        (∀ receipt, r = .ok receipt → c.Installed sessionId allTraffic l) ∧
        (∀ e, r = .error e → c.RolledBack l e.failures) := by
  refine (addMappings_spec REVERSE_MAPPINGS).bind ?_
  rintro added failures ⟨adds, done⟩
  have asks : ∀ call ∈ added, c.Starting sessionId allTraffic call.1 :=
    fun call member => .inr (.inl (adds call member))
  -- Each failure from here on is answered by the same roll-back.
  have undo (phase : String) (before : List AdbCall) (failures : List Failure)
      (asked : ∀ call ∈ before, c.Starting sessionId allTraffic call.1) :
      Ensures (do return (.error (← c.rollBack phase failures) :
        Except TransactionError StartReceipt)) fun l r =>
        (∀ call ∈ before ++ l, c.Starting sessionId allTraffic call.1) ∧
          (∀ receipt, r = .ok receipt → c.Installed sessionId allTraffic (before ++ l)) ∧
          (∀ e, r = .error e → c.RolledBack (before ++ l) e.failures) := by
    refine (rollBack_spec phase failures).returns ?_
    rintro l e ⟨only, rolled⟩
    refine ⟨?_, nofun, ?_⟩
    · exact List.forall_mem_append.mpr ⟨asked, fun call member => .inl (only call member)⟩
    · rintro _ ⟨⟩
      exact rolled.append before
  split
  · exact undo _ added _ asks
  · rename_i added'
    refine (verifyMappings_spec _).bind ?_
    rintro _ failures' ⟨answer, rfl, shows⟩
    simp only [← List.append_assoc]
    have asks : ∀ call ∈ added ++ [(⟨c.listQuery, answer⟩ : AdbCall)],
        c.Starting sessionId allTraffic call.1 :=
      List.forall_mem_append.mpr ⟨asks, List.forall_mem_singleton.mpr (.inl .list)⟩
    split
    · exact undo _ _ _ asks
    · rename_i listed
      obtain ⟨calls, all⟩ := done (by simpa using added')
      refine (runUnit_spec (startIntentArgs sessionId allTraffic) c.commandTimeout).bind ?_
      rintro _ started ⟨intent, rfl, asked, succeeded⟩
      simp only [← List.append_assoc]
      have asks : ∀ call ∈ added ++ [(⟨c.listQuery, answer⟩ : AdbCall)] ++ [intent],
          c.Starting sessionId allTraffic call.1 :=
        List.forall_mem_append.mpr ⟨asks, List.forall_mem_singleton.mpr (.inr (.inr asked))⟩
      split
      · refine ensures_pure ⟨by simpa using asks, ?_, nofun⟩
        rintro _ ⟨⟩
        exact ⟨added, answer, intent, by simp, calls, all, shows (by simpa using listed), asked,
          succeeded rfl⟩
      · refine (runCheckedWith_spec stopIntentArgs c.commandTimeout).bind ?_
        rintro _ _ ⟨a, rfl, -⟩
        refine verifyVpnClosed_spec.bind ?_
        rintro l _ ⟨only, -⟩
        simp only [← List.append_assoc]
        refine undo _ _ _ ?_
        refine List.forall_mem_append.mpr ⟨List.forall_mem_append.mpr ⟨asks, ?_⟩, ?_⟩
        · exact List.forall_mem_singleton.mpr (.inl .stopIntent)
        · exact fun call member => .inl (only call member)

theorem Quiescing.not_adds {q : AdbQuery} (quiescing : c.Quiescing q) : ¬ c.Adds q := by
  rintro ⟨mapping, owned, same⟩
  cases quiescing with
  | recover | polls => cases same
  | device | wake | stopIntent | dumpsys | forceStop | list =>
      have args := (AdbQuery.execute.inj same).1
      clear same
      revert mapping
      decide
  | @remove other listed =>
      have args := (AdbQuery.execute.inj same).1
      clear same
      revert mapping other
      decide

theorem Quiescing.not_start {q : AdbQuery} (quiescing : c.Quiescing q) : q.isStart = false := by
  cases quiescing with
  | device | recover | polls | wake | stopIntent | dumpsys | forceStop | list => rfl
  | @remove mapping owned =>
      have others : ∀ m ∈ REVERSE_MAPPINGS, ACTION_START_V4 ∉ removeMappingArgs m := by decide
      simpa [removeQuery, AdbQuery.isStart] using others mapping owned

theorem Adds.not_start {q : AdbQuery} (adds : c.Adds q) : q.isStart = false := by
  obtain ⟨mapping, owned, rfl⟩ := adds
  have others : ∀ m ∈ REVERSE_MAPPINGS, ACTION_START_V4 ∉ addMappingArgs m := by decide
  simpa [addQuery, AdbQuery.isStart] using others mapping owned

variable (c) in
/-- A `start` that returned a receipt: the old session was verified closed and its mappings
cleared, then the new ones were installed, and the START intent sent once and last. -/
def Started (sessionId : SessionId) (allTraffic : Bool) (l : List AdbCall) : Prop :=
  ∃ quiesced installed, l = quiesced ++ installed ∧ c.Closed quiesced ∧
    c.Installed sessionId allTraffic installed ∧ l.countP (fun call => call.1.isStart) = 1

theorem countP_start_eq_zero {l : List AdbCall} (only : ∀ call ∈ l, call.1.isStart = false) :
    l.countP (fun call => call.1.isStart) = 0 := by
  refine List.countP_eq_zero.mpr ?_
  intro call member
  rw [only call member]
  exact Bool.false_ne_true

theorem Installed.countP_start {sessionId : SessionId} {allTraffic : Bool} {l : List AdbCall}
    (installed : c.Installed sessionId allTraffic l) :
    l.countP (fun call => call.1.isStart) = 1 := by
  obtain ⟨added, answer, last, rfl, calls, -, -, asked, -⟩ := installed
  have adds : added.countP (fun call => call.1.isStart) = 0 := by
    refine countP_start_eq_zero fun call member => ?_
    have asked : call.1 ∈ added.map Sigma.fst := List.mem_map_of_mem member
    rw [calls] at asked
    obtain ⟨mapping, owned, same⟩ := List.mem_map.mp asked
    exact Adds.not_start ⟨mapping, owned, same.symm⟩
  have lists : c.listQuery.isStart = false := Quiescing.list.not_start
  have starts : last.1.isStart = true := by
    rw [asked]
    simp [startQuery, AdbQuery.isStart, startIntentArgs]
  simp [adds, lists, starts]

theorem start_spec (sessionId : SessionId) (allTraffic : Bool) :
    Ensures (c.start sessionId allTraffic) fun l r =>
      (∀ call ∈ l, c.Starting sessionId allTraffic call.1) ∧
        (∀ receipt, r = .ok receipt → c.Started sessionId allTraffic l) ∧
        (∀ e, r = .error e → (∃ call ∈ l, c.Adds call.1) → c.RolledBack l e.failures) := by
  -- An error before the first add has nothing to roll back.
  have early {l : List AdbCall} {e : TransactionError} (only : ∀ call ∈ l, c.Quiescing call.1) :
      (∀ call ∈ l, c.Starting sessionId allTraffic call.1) ∧
        (∀ receipt, (.error e : Except TransactionError StartReceipt) = .ok receipt →
          c.Started sessionId allTraffic l) ∧
        (∀ e', (.error e : Except TransactionError StartReceipt) = .error e' →
          (∃ call ∈ l, c.Adds call.1) → c.RolledBack l e'.failures) := by
    refine ⟨fun call member => .inl (only call member), nofun, ?_⟩
    rintro _ - ⟨call, member, adds⟩
    exact absurd adds (only call member).not_adds
  refine requireDevice_spec.bind fun device r only => ?_
  split
  · exact ensures_pure (early (by simpa using only))
  · refine (runUnit_spec wakeArgs c.commandTimeout).bind ?_
    rintro _ woken ⟨wake, rfl, asked, -⟩
    simp only [← List.append_assoc]
    have only : ∀ call ∈ device ++ [wake], c.Quiescing call.1 :=
      List.forall_mem_append.mpr ⟨only, List.forall_mem_singleton.mpr (asked ▸ .wake)⟩
    split
    · exact ensures_pure (early (by simpa using only))
    · refine quiesceAndroidSession_spec.bind ?_
      rintro quiesced r ⟨only', closed⟩
      simp only [← List.append_assoc]
      have only := List.forall_mem_append.mpr ⟨only, only'⟩
      split
      · exact ensures_pure (early (by simpa using only))
      · refine (installAndStart_spec sessionId allTraffic).mono ?_
        rintro l r ⟨asks, installed, rolled⟩
        refine ⟨?_, fun receipt ok => ?_, fun e failed _ => (rolled e failed).append _⟩
        · exact List.forall_mem_append.mpr ⟨fun call member => .inl (only call member), asks⟩
        · have done := installed receipt ok
          have none := countP_start_eq_zero fun call member => (only call member).not_start
          refine ⟨_, l, rfl, (closed rfl).append _, done, ?_⟩
          rw [List.countP_append, none, done.countP_start]

variable (c) in
/-- What the mapping transactions may ask. -/
def Mapping (q : AdbQuery) : Prop := c.Quiescing q ∨ c.Adds q

theorem installMappings_spec :
    Ensures c.installMappings fun l _ => ∀ call ∈ l, c.Mapping call.1 := by
  refine (addMappings_spec REVERSE_MAPPINGS).bind ?_
  rintro added failures ⟨adds, -⟩
  have asks : ∀ call ∈ added, c.Mapping call.1 := fun call member => .inr (adds call member)
  split
  · refine (verifyMappings_spec _).mono ?_
    rintro _ _ ⟨answer, rfl, -⟩
    exact List.forall_mem_append.mpr ⟨asks, List.forall_mem_singleton.mpr (.inl .list)⟩
  · exact ensures_pure (by simpa using asks)

theorem reinstallMappings_spec :
    Ensures c.reinstallMappings fun l r =>
      (∀ call ∈ l, c.Mapping call.1) ∧
        (∀ e, r = .error e → (∃ call ∈ l, c.Adds call.1) → c.RolledBack l e.failures) := by
  refine (removeAllMappings_spec []).bind ?_
  rintro l failures ⟨removals, answer, more, swept, -, -, -⟩
  have only : ∀ call ∈ l, c.Mapping call.1 := fun call member => .inl (swept.quiescing call member)
  split
  · refine ensures_pure ⟨by simpa using only, ?_⟩
    rintro _ - ⟨call, member, adds⟩
    rw [List.append_nil] at member
    exact absurd adds (swept.quiescing call member).not_adds
  · refine installMappings_spec.bind fun installed failures asks => ?_
    simp only [← List.append_assoc]
    have asks := List.forall_mem_append.mpr ⟨only, asks⟩
    split
    · exact ensures_pure ⟨by simpa using asks, nofun⟩
    · refine (rollBack_spec _ _).returns ?_
      rintro undone e ⟨only', rolled⟩
      refine ⟨?_, ?_⟩
      · exact List.forall_mem_append.mpr ⟨asks, fun call member => .inl (only' call member)⟩
      · rintro _ ⟨⟩ -
        exact rolled.append _

theorem repairMappingsFrom_spec (missing : List ReverseMapping) (failures : List Failure) :
    Ensures (c.repairMappingsFrom missing failures) fun l _ => ∀ call ∈ l, c.Mapping call.1 := by
  induction missing generalizing failures with
  | nil => exact ensures_pure (by simp)
  | cons mapping rest ih =>
      unfold repairMappingsFrom
      split
      · rename_i owned
        refine (runUnit_spec (addMappingArgs mapping) c.mappingTimeout).bind ?_
        rintro _ added ⟨call, rfl, asked, -⟩
        have adds : c.Mapping call.1 := .inr ⟨mapping, owned, asked⟩
        split
        · exact (ih _).mono fun l _ only => List.forall_mem_cons.mpr ⟨adds, only⟩
        · exact (ih _).mono fun l _ only => List.forall_mem_cons.mpr ⟨adds, only⟩
      · exact ih _

theorem repairMissingMappings_spec (missing : List ReverseMapping) :
    Ensures (c.repairMissingMappings missing) fun l _ => ∀ call ∈ l, c.Mapping call.1 := by
  refine (repairMappingsFrom_spec missing []).bind fun l failures only => ?_
  refine (verifyMappings_spec _).returns ?_
  rintro _ _ ⟨answer, rfl, -⟩
  exact List.forall_mem_append.mpr ⟨only, List.forall_mem_singleton.mpr (.inl .list)⟩

theorem repairMappings_spec :
    Ensures c.repairMappings fun l _ => ∀ call ∈ l, c.Mapping call.1 := by
  unfold repairMappings mappingHealth
  refine ((runCheckedWith_spec reverseListArgs c.mappingTimeout).returns
    (R := fun l _ => ∀ call ∈ l, c.Mapping call.1) ?_).bind fun l r only => ?_
  · rintro _ _ ⟨a, rfl, -⟩
    exact List.forall_mem_singleton.mpr (.inl .list)
  · split
    · exact ensures_pure (by simpa using only)
    · exact (repairMissingMappings_spec _).mono fun l' _ only' =>
        List.forall_mem_append.mpr ⟨only, only'⟩

end AdbController

/-- Whatever the executor answers. A stop reports success only with a `dumpsys` judged closed,
every product mapping removed behind it and, last, a list without a product remote. A start
reports success only when such a closure precedes its adds, a list then shows all three
mappings, and its START intent is sent once and last. An error after the first add comes with
an attempt at every removal, closed by a list that shows no product remote or by a failure
that says so. No transaction asks for anything else: no mapping but the product's is added or
removed, no package but its own is stopped. -/
theorem adb_transactions (c : AdbController) :
    (∀ transaction ∈ [c.stop, c.finishControlStop, c.stopUnresponsive],
      Ensures transaction fun l r =>
        (r = .ok () → c.Closed l) ∧ ∀ call ∈ l, c.Quiescing call.1) ∧
    (∀ sessionId allTraffic, Ensures (c.start sessionId allTraffic) fun l r =>
      (∀ receipt, r = .ok receipt → c.Started sessionId allTraffic l) ∧
      (∀ e, r = .error e → (∃ call ∈ l, c.Adds call.1) → c.RolledBack l e.failures) ∧
      ∀ call ∈ l, c.Starting sessionId allTraffic call.1) ∧
    (Ensures c.reinstallMappings fun l r =>
      (∀ e, r = .error e → (∃ call ∈ l, c.Adds call.1) → c.RolledBack l e.failures) ∧
      ∀ call ∈ l, c.Mapping call.1) ∧
    (∀ missing, Ensures (c.repairMissingMappings missing) fun l _ =>
      ∀ call ∈ l, c.Mapping call.1) ∧
    Ensures c.repairMappings fun l _ => ∀ call ∈ l, c.Mapping call.1 := by
  refine ⟨?_, ?_, ?_, AdbController.repairMissingMappings_spec,
    AdbController.repairMappings_spec⟩
  · simp only [List.forall_mem_cons]
    exact ⟨AdbController.stop_spec.mono fun _ _ => And.symm,
      AdbController.finishControlStop_spec.mono fun _ _ => And.symm,
      AdbController.stopUnresponsive_spec.mono fun _ _ => And.symm, by simp⟩
  · intro sessionId allTraffic
    refine (AdbController.start_spec sessionId allTraffic).mono ?_
    rintro l r ⟨asks, started, rolled⟩
    exact ⟨started, rolled, asks⟩
  · exact AdbController.reinstallMappings_spec.mono fun _ _ => And.symm

/-- A headset that does what it is asked. -/
def willingExecutor : Answers AdbQuery AdbAnswer := fun record q =>
  match q with
  | .execute args _ =>
      let stdout :=
        if args = getStateArgs then "device"
        else if args = dumpsysArgs then "No services match"
        else if args = reverseListArgs ∧ record.any (fun call => call.1 =
            .execute (addMappingArgs ⟨CONTROL_PORT, CONTROL_PORT⟩) 3) then
          "UsbFfs tcp:31417 tcp:31417\nUsbFfs tcp:31416 tcp:31416\nUsbFfs tcp:31418 tcp:31418\n"
        else ""
      (.ok ⟨0, stdout, ""⟩ : Except AdbError AdbOutput)
  | .recoverServer _ => (.ok () : Except AdbError Unit)
  | .polls => (0 : Nat)

/-- With it a stop and a start succeed. -/
theorem adb_transactions_willing :
    (∃ l, (AdbController.stop ⟨8, 8, 3⟩ willingExecutor []).2 = l ∧
      AdbController.Closed ⟨8, 8, 3⟩ l) ∧
    ∃ l, (AdbController.start ⟨8, 8, 3⟩ ⟨Vector.replicate 16 7⟩ false willingExecutor []).2 = l ∧
      AdbController.Started ⟨8, 8, 3⟩ ⟨Vector.replicate 16 7⟩ false l := by
  obtain ⟨stops, starts, -⟩ := adb_transactions ⟨8, 8, 3⟩
  constructor
  · obtain ⟨l, added, closed, -⟩ := stops _ List.mem_cons_self willingExecutor []
    exact ⟨l, added, closed (by decide +kernel)⟩
  · obtain ⟨l, added, started, -⟩ := starts ⟨Vector.replicate 16 7⟩ false willingExecutor []
    have ok : (AdbController.start ⟨8, 8, 3⟩ ⟨Vector.replicate 16 7⟩ false
        willingExecutor []).1.isOk = true := by decide +kernel
    cases result : (AdbController.start ⟨8, 8, 3⟩ ⟨Vector.replicate 16 7⟩ false
        willingExecutor []).1 with
    | error e =>
        rw [result] at ok
        cases ok
    | ok receipt => exact ⟨l, added, started receipt result⟩

end QuestVdWired.Host
