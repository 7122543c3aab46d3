import QuestVdWired.Android.VpnService

/-!
The order in which the Android threads take their monitors. The table of nestings is checked
over the code of every thread. It has one entry against the order: the control thread calls
its listener, which takes `lifecycleLock`, while it holds `pauseLock`; the screen, the engine
workers and the start of a supervisor take the two the other way round.
-/

namespace QuestVdWired.Android
open Transition Monitor Monitor.Code

/-- What a thread may hold, innermost first, when it enters a monitor. -/
def nests (t : ThreadId) (held : List Lock) : Lock → Prop
  | .engineStartLock _ => held = []
  | .lifecycleLock =>
      held = [] ∨ (∃ n, held = [.engineStartLock n]) ∨ ∃ n, t = .control n ∧ held = [.pauseLock n]
  | .pauseLock _ => held = [] ∨ held = [.lifecycleLock]
  | .writeLock n => held = [] ∨ held = [.lifecycleLock] ∨ held = [.pauseLock n]

/-- The labels a thread comes to. -/
def runs : ThreadId → Label → Prop
  | .main, label => label = .main
  | .worker _, label => label = .worker
  | .control n, label =>
      label = .spawned n ∨ label = .runLoop n ∨ label = .frames n ∨ label = .ended

section Checks
variable {t : ThreadId} {held : List Lock} {n : Nat} {next : Code} {each : Bool → Code}

/-- The code of `t` keeps to the table from these monitors on. -/
def Keeps (t : ThreadId) (held : List Lock) (code : Code) : Prop :=
  code.Checks (nests t) (runs t) held

theorem keeps_isCurrent {published : Bool} (may : nests t held .lifecycleLock)
    (h : ∀ b, Keeps t held (each b)) : Keeps t held (isCurrent n published each) :=
  ⟨may, fun _ => ⟨held, rfl, h _⟩⟩

theorem keeps_write (may : nests t held (.writeLock n)) (h : ∀ b, Keeps t held (each b)) :
    Keeps t held (write n each) :=
  ⟨may, fun _ => ⟨held, rfl, h _⟩⟩

theorem keeps_execute {job : Job} (h : Keeps t held next) : Keeps t held (execute job next) :=
  fun _ => h

theorem keeps_queueNativeEngineResume (h : Keeps t held next) :
    Keeps t held (queueNativeEngineResume n next) := by
  intro s
  dsimp only
  split
  · exact h
  · exact keeps_execute h

theorem keeps_onControlReady (may : nests t held .lifecycleLock) (h : Keeps t held next) :
    Keeps t held (onControlReady n next) := by
  refine keeps_isCurrent may fun current s => ?_
  dsimp only
  split
  · exact h
  · split
    · exact fun _ => keeps_queueNativeEngineResume h
    · exact h

/-- A block without another inside it. -/
theorem keeps_pauseBlock {f : Service → Service} {into : Service → Code}
    (may : nests t held (.pauseLock n)) (h : ∀ s, Keeps t held (into s)) :
    Keeps t held (enter (.pauseLock n) <| run f fun s => leave (.pauseLock n) <| into s) :=
  ⟨may, fun s => ⟨held, rfl, h s⟩⟩

theorem keeps_lifecycleBlock {f : Service → Service} {into : Service → Code}
    (may : nests t held .lifecycleLock) (h : ∀ s, Keeps t held (into s)) :
    Keeps t held (enter .lifecycleLock <| run f fun s => leave .lifecycleLock <| into s) :=
  ⟨may, fun s => ⟨held, rfl, h s⟩⟩

theorem keeps_startSupervisor {startPaused : Bool} (may : nests t held (.pauseLock n))
    (h : Keeps t held next) : Keeps t held (startSupervisor n startPaused next) :=
  keeps_pauseBlock may fun _ => h

theorem keeps_closeSupervisor (may : nests t held (.pauseLock n)) (h : Keeps t held next) :
    Keeps t held (closeSupervisor n next) :=
  keeps_pauseBlock may fun _ => h

/-- `suspend` and `resume` are called with `lifecycleLock` held, and write with it held. -/
theorem keeps_suspend (h : Keeps t [.lifecycleLock] next) :
    Keeps t [.lifecycleLock] (suspend n next) := by
  refine keeps_pauseBlock (.inr rfl) fun s => ?_
  split
  · exact h
  · split
    · refine keeps_write (.inr (.inl rfl)) fun ok => ?_
      cases ok
      · exact fun _ => h
      · exact fun _ _ => h
    · exact fun _ => h

theorem keeps_resume (h : Keeps t [.lifecycleLock] next) :
    Keeps t [.lifecycleLock] (resume n next) := by
  refine keeps_pauseBlock (.inr rfl) fun s => ?_
  split
  · exact h
  · split
    · refine keeps_write (.inr (.inl rfl)) fun ok => ?_
      cases ok
      · exact fun _ => h
      · exact h
    · exact h

theorem keeps_setScreenSuspended {suspended : Bool} (h : Keeps t [] next) :
    Keeps t [] (setScreenSuspended suspended next) := by
  have after : Keeps t [.lifecycleLock] (leave .lifecycleLock next) := ⟨[], rfl, h⟩
  refine ⟨.inl rfl, fun s => ?_⟩
  dsimp only
  split
  · exact after
  · split
    · exact after
    · rename_i n _
      have queued : Keeps t [.lifecycleLock]
          (leave .lifecycleLock <| execute (.suspendNativeEngine n) next) :=
        ⟨[], rfl, keeps_execute h⟩
      split
      · intro s'
        dsimp only
        split
        · exact keeps_suspend queued
        · exact queued
      · intro s'
        dsimp only
        split
        · exact keeps_queueNativeEngineResume after
        · split
          · exact keeps_resume after
          · exact after

theorem keeps_acknowledgeNow {acknowledges : Option Nat} (h : Keeps t [] next) :
    Keeps t [] (acknowledgeNow acknowledges next) := by
  cases acknowledges with
  | none => exact h
  | some n =>
      intro r
      dsimp only
      split
      · exact keeps_write (.inl rfl) fun _ => h
      · exact h

theorem keeps_requestStop {expected acknowledges : Option Nat} (h : Keeps t [] next) :
    Keeps t [] (requestStop expected acknowledges next) := by
  refine keeps_lifecycleBlock (.inl rfl) fun s => ?_
  split
  · exact h
  · refine keeps_acknowledgeNow ?_
    split
    · split
      · exact h
      · exact keeps_execute h
    · exact h

theorem keeps_failGeneration (h : Keeps t [] next) : Keeps t [] (failGeneration n next) := by
  refine keeps_lifecycleBlock (.inl rfl) fun s => ?_
  split
  · exact keeps_requestStop h
  · exact h

theorem keeps_startVpn (h : Keeps t [] next) : Keeps t [] (startVpn next) := by
  intro r
  dsimp only
  split
  · exact ⟨.inl rfl, [], rfl, h⟩
  · refine keeps_lifecycleBlock (.inl rfl) fun s => ?_
    split
    · exact h
    · intro r
      dsimp only
      split
      · exact keeps_failGeneration h
      · refine keeps_lifecycleBlock (.inl rfl) fun s => ?_
        split
        · exact keeps_execute h
        · exact h

theorem keeps_initializeNativeEngine (h : Keeps t [] next) :
    Keeps t [] (initializeNativeEngine n next) := by
  refine ⟨rfl, keeps_isCurrent (.inr (.inl ⟨n, rfl⟩)) fun current => ?_⟩
  split
  · exact ⟨[], rfl, h⟩
  · refine fun r => ⟨[], rfl, ?_⟩
    split
    · exact keeps_failGeneration h
    · intro r
      dsimp only
      split
      · exact keeps_failGeneration h
      · refine keeps_isCurrent (.inl rfl) fun current => ?_
        split
        · exact h
        · refine ⟨.inl rfl, fun s => ?_⟩
          dsimp only
          split
          · refine keeps_startSupervisor (.inr rfl) ⟨[], rfl, fun s => ?_⟩
            dsimp only
            split
            · exact fun _ => keeps_execute h
            · exact h
          · exact ⟨[], rfl, keeps_closeSupervisor (.inl rfl) h⟩

theorem keeps_suspendNativeEngine (h : Keeps t [] next) :
    Keeps t [] (suspendNativeEngine n next) :=
  ⟨rfl, keeps_isCurrent (.inr (.inl ⟨n, rfl⟩)) fun _ => ⟨[], rfl, h⟩⟩

theorem keeps_finishResume {retry : Bool} (h : Keeps t [] next) :
    Keeps t [] (finishResume n retry next) := by
  intro s
  dsimp only
  split
  · refine keeps_isCurrent (.inl rfl) fun current s => ?_
    dsimp only
    split
    · exact fun _ => h
    · exact h
  · exact h

theorem keeps_resumeNativeEngine (h : Keeps t [] next) :
    Keeps t [] (resumeNativeEngine n next) := by
  refine ⟨rfl, keeps_isCurrent (.inr (.inl ⟨n, rfl⟩)) fun current s => ?_⟩
  dsimp only
  split
  · exact ⟨[], rfl, keeps_finishResume h⟩
  · refine fun r => ⟨[], rfl, ?_⟩
    split
    · exact keeps_isCurrent (.inl rfl) fun _ _ => keeps_finishResume h
    · refine ⟨.inl rfl, fun s => ?_⟩
      dsimp only
      split
      · have after : Keeps t [.lifecycleLock] (leave .lifecycleLock <|
            if (s.session n).resetRequired && (s.session n).control then
              onControlReady n <| finishResume n false next
            else finishResume n false next) := by
          refine ⟨[], rfl, ?_⟩
          split
          · exact keeps_onControlReady (.inl rfl) (keeps_finishResume h)
          · exact keeps_finishResume h
        split
        · exact keeps_resume after
        · exact after
      · exact ⟨[], rfl, keeps_finishResume h⟩

theorem keeps_acknowledgeAll (waiters : Nat) (h : Keeps t [] next) :
    Keeps t [] (acknowledgeAll n waiters next) := by
  induction waiters with
  | zero => exact h
  | succ waiters ih => exact keeps_write (.inl rfl) fun _ => ih

theorem keeps_teardown (h : Keeps t [] next) : Keeps t [] (teardown n next) := by
  refine ⟨rfl, [], rfl, fun waiters => keeps_acknowledgeAll waiters fun s => ?_⟩
  dsimp only
  split
  · exact keeps_closeSupervisor (.inl rfl) (keeps_lifecycleBlock (.inl rfl) fun _ => h)
  · exact keeps_lifecycleBlock (.inl rfl) fun _ => h

theorem keeps_endConnection (h : Keeps t [] next) : Keeps t [] (endConnection n next) :=
  fun _ => keeps_pauseBlock (.inl rfl) fun _ => h

theorem keeps_onControlTransportLost (h : Keeps t [] next) :
    Keeps t [] (onControlTransportLost n next) := by
  refine keeps_lifecycleBlock (.inl rfl) fun s => ?_
  split
  · exact keeps_queueNativeEngineResume h
  · exact h

theorem keeps_waitForReconnect (h : Keeps t [] next) : Keeps t [] (waitForReconnect n next) := by
  refine ⟨.inl rfl, fun s => ?_⟩
  dsimp only
  split
  · exact ⟨[], rfl, h⟩
  · exact ⟨[], rfl, .inl rfl, [], rfl, h⟩

end Checks

/-! The control thread, and with it every label. -/

section Control
variable {n : Nat}

theorem keeps_runLoopLabel : Keeps (.control n) [] (jump (.runLoop n)) :=
  ⟨rfl, .inr (.inl rfl)⟩

theorem keeps_framesLabel : Keeps (.control n) [] (jump (.frames n)) :=
  ⟨rfl, .inr (.inr (.inl rfl))⟩

theorem keeps_endedLabel : Keeps (.control n) [] (jump .ended) :=
  ⟨rfl, .inr (.inr (.inr rfl))⟩

theorem keeps_nextConnection :
    Keeps (.control n) [] (endConnection n <| jump (.runLoop n)) :=
  keeps_endConnection keeps_runLoopLabel

theorem keeps_onException : Keeps (.control n) [] (onException n) := by
  intro s
  dsimp only
  split
  · refine keeps_isCurrent (.inl rfl) fun _ => ?_
    split
    · exact keeps_onControlTransportLost (keeps_waitForReconnect keeps_nextConnection)
    · exact keeps_waitForReconnect keeps_nextConnection
  · exact keeps_nextConnection

/-- The one entry of the table against the order is this call of the listener. -/
theorem keeps_reportStarted : Keeps (.control n) [] (reportStarted n) := by
  refine ⟨.inl rfl, fun s => ?_⟩
  dsimp only
  split
  · exact ⟨[], rfl, keeps_nextConnection⟩
  · refine keeps_write (.inr (.inr rfl)) fun ok => ?_
    split
    · exact ⟨[], rfl, keeps_onException⟩
    · intro s'
      dsimp only
      split
      · exact ⟨[], rfl, keeps_framesLabel⟩
      · exact keeps_onControlReady (.inr (.inr ⟨n, rfl, rfl⟩)) ⟨[], rfl, keeps_framesLabel⟩

theorem keeps_afterHelloAck : Keeps (.control n) [] (afterHelloAck n) := by
  refine keeps_isCurrent (.inl rfl) fun current s => ?_
  dsimp only
  split
  · exact keeps_nextConnection
  · intro r s
    dsimp only
    split
    · exact keeps_nextConnection
    · exact keeps_reportStarted

theorem keeps_runLoop : Keeps (.control n) [] (runLoop n) := by
  intro s
  dsimp only
  split
  · exact keeps_endedLabel
  · refine keeps_pauseBlock (.inl rfl) fun s => ?_
    split
    · exact keeps_endedLabel
    · split
      · exact keeps_runLoopLabel
      · refine keeps_pauseBlock (.inl rfl) fun s => ?_
        split
        · exact keeps_nextConnection
        · intro r
          dsimp only
          split
          · exact keeps_onException
          · refine ⟨.inl rfl, fun s => ?_⟩
            dsimp only
            split
            · exact ⟨[], rfl, keeps_nextConnection⟩
            · refine keeps_write (.inr (.inr rfl)) fun ok => ⟨[], rfl, ?_⟩
              split
              · exact keeps_onException
              · intro r
                dsimp only
                split
                · exact keeps_afterHelloAck
                · exact keeps_onException

theorem keeps_writeMetrics : Keeps (.control n) [] (writeMetrics n) := by
  intro s
  dsimp only
  split
  · exact keeps_framesLabel
  · intro r
    dsimp only
    split
    · exact keeps_framesLabel
    · refine keeps_isCurrent (.inl rfl) fun current => ?_
      split
      · exact keeps_framesLabel
      · refine keeps_write (.inl rfl) fun ok => ?_
        split
        · exact keeps_framesLabel
        · exact keeps_onException

theorem keeps_frames : Keeps (.control n) [] (frames n) := by
  intro s
  dsimp only
  split
  · exact keeps_nextConnection
  · intro r
    dsimp only
    cases arrival r with
    | echo => exact keeps_isCurrent (.inl rfl) fun _ => keeps_writeMetrics
    | heartbeat =>
        refine keeps_write (.inl rfl) fun ok => ?_
        split
        · exact keeps_writeMetrics
        · exact keeps_onException
    | status =>
        intro s
        dsimp only
        split
        · exact keeps_onControlReady (.inl rfl) keeps_writeMetrics
        · exact keeps_writeMetrics
    | other => exact keeps_writeMetrics
    | stop => exact fun _ => keeps_requestStop (keeps_endConnection keeps_endedLabel)
    | timeout =>
        intro s
        dsimp only
        split
        · exact keeps_framesLabel
        · split
          · exact keeps_onException
          · refine keeps_write (.inl rfl) fun ok => ?_
            split
            · exact keeps_onException
            · intro r
              dsimp only
              split
              · exact keeps_writeMetrics
              · exact keeps_onException
    | failure => exact keeps_onException

theorem keeps_dispatch (r : Nat) : Keeps .main [] (dispatch r) := by
  have label : Keeps .main [] (jump .main) := ⟨rfl, rfl⟩
  unfold dispatch
  split
  · exact keeps_setScreenSuspended label
  · exact keeps_setScreenSuspended label
  · exact keeps_startVpn label
  · exact keeps_requestStop label
  · intro s
    dsimp only
    split
    · exact label
    · exact keeps_queueNativeEngineResume label

theorem keeps_job {second : Bool} (job : Job) :
    Keeps (.worker second) [] (job.code <| jump .worker) := by
  have label : Keeps (.worker second) [] (jump .worker) := ⟨rfl, rfl⟩
  cases job with
  | initializeNativeEngine n => exact keeps_initializeNativeEngine label
  | suspendNativeEngine n => exact keeps_suspendNativeEngine label
  | resumeNativeEngine n => exact keeps_resumeNativeEngine label
  | teardown n => exact keeps_teardown label

theorem keeps_program (t : ThreadId) (label : Label) (mine : runs t label) :
    Keeps t [] (program label) := by
  cases t with
  | main =>
      cases mine
      exact keeps_dispatch
  | worker second =>
      cases mine
      intro s
      dsimp only
      split
      · exact ⟨rfl, rfl⟩
      · exact keeps_job _
  | control n =>
      rcases mine with rfl | rfl | rfl | rfl
      · intro s
        dsimp only
        split
        · exact keeps_runLoopLabel
        · exact ⟨rfl, .inl rfl⟩
      · exact keeps_runLoop
      · exact keeps_frames
      · exact keeps_endedLabel

end Control

/-! The waits. -/

section Waits

abbrev State := Config ThreadId (Shared ThreadId Lock Service) (Thread Lock Service Label)

/-- The state before a step, and the thread that takes it. The block that reports `STARTED`
is not entered while another thread is inside a block on `lifecycleLock` that may still take
this `pauseLock`; nor is such a block entered while the control thread is inside the one that
reports `STARTED` and may still call its listener. -/
def BlocksApart (c : State) (a : ThreadId × Nat) : Prop :=
  ∀ n t, t ≠ .control n →
    (a.1 = .control n → Entering (.pauseLock n) .lifecycleLock (c.task (.control n)) →
      ¬ Within .lifecycleLock (.pauseLock n) (c.task t)) ∧
    (a.1 = t → Entering .lifecycleLock (.pauseLock n) (c.task t) →
      ¬ Within (.pauseLock n) .lifecycleLock (c.task (.control n)))

variable {screenSuspended : Bool} {c : State} {permitted : State → ThreadId × Nat → Prop}

theorem reachable_keeps (reached : (vpnService screenSuspended).system.Reachable permitted c)
    (t : ThreadId) : Disciplined nests runs t c.shared (c.task t) := by
  refine reachable_disciplined keeps_program (fun t => ?_) reached t
  cases t with
  | main | worker _ => rfl
  | control n => exact .inl rfl

/-- No monitor is entered a second time. -/
theorem not_mem_of_nests {t : ThreadId} (held : List Lock) (m : Lock) (h : nests t held m) :
    m ∉ held := by
  cases m with
  | engineStartLock n =>
      cases h
      simp
  | lifecycleLock => rcases h with rfl | ⟨n, rfl⟩ | ⟨n, -, rfl⟩ <;> simp
  | pauseLock n => rcases h with rfl | rfl <;> simp
  | writeLock n => rcases h with rfl | rfl | rfl <;> simp

theorem reachable_nodup (reached : (vpnService screenSuspended).system.Reachable permitted c)
    (t : ThreadId) : (c.task t).held.Nodup := by
  obtain ⟨acts, path⟩ := reached
  induction path with
  | nil => exact List.nodup_nil
  | @snoc acts c c' a before meets taken ih =>
      obtain ⟨sh, th, step, rfl⟩ := Tasks.system_step taken
      by_cases own : t = a.1
      · subst own
        simpa using nodup_step not_mem_of_nests (reachable_keeps ⟨_, before⟩ _) ih step
      · simpa [Function.update_of_ne own] using ih

/-- The two blocks that nest the same monitors crosswise are never open together. -/
theorem reachable_apart (reached : (vpnService screenSuspended).system.Reachable BlocksApart c)
    {n : Nat} {t : ThreadId} (other : t ≠ .control n)
    (started : Within (.pauseLock n) .lifecycleLock (c.task (.control n))) :
    ¬ Within .lifecycleLock (.pauseLock n) (c.task t) := by
  obtain ⟨acts, path⟩ := reached
  induction path with
  | nil =>
      intro h
      cases h.1
  | @snoc acts c c' a before meets taken ih =>
      obtain ⟨i, r⟩ := a
      obtain ⟨sh, th, step, rfl⟩ := Tasks.system_step taken
      -- The thread that steps was within its block before, or enters it now.
      have entered {outer m : Lock} (h : Within outer m th) :=
        within_step (reachable_keeps ⟨_, before⟩ i) (reachable_nodup ⟨_, before⟩ i) step h
      obtain ⟨enterStarted, enterLifecycle⟩ := meets n t other
      intro h
      by_cases control : .control n = i
      · subst control
        simp only [Function.update_self, Function.update_of_ne other] at started h
        rcases entered started with started | entering
        · exact ih started h
        · exact enterStarted rfl entering h
      · simp only [Function.update_of_ne control] at started
        by_cases own : t = i
        · subst own
          simp only [Function.update_self] at h
          rcases entered h with h | entering
          · exact ih started h
          · exact enterLifecycle rfl entering started
        · simp only [Function.update_of_ne own] at h
          exact ih started h

/-- The order of the monitors. -/
def Lock.rank : Lock → Nat
  | .engineStartLock _ => 0
  | .lifecycleLock => 1
  | .pauseLock _ => 2
  | .writeLock _ => 3

/-- The rank of the monitor a thread stands before. -/
def wanted (c : State) (t : ThreadId) : Nat :=
  match (c.task t).code with
  | .enter m _ => m.rank
  | _ => 0

theorem wanted_eq {t : ThreadId} {m : Lock} {next : Code} (h : (c.task t).code = .enter m next) :
    wanted c t = m.rank := by
  simp [wanted, h]

/-- Whoever is waited for holds a monitor. -/
theorem held_of_waitsFor (reached : (vpnService screenSuspended).system.Reachable permitted c)
    {s t : ThreadId} (h : WaitsFor c s t) :
    ∃ m next, (c.task s).code = .enter m next ∧ m ∈ (c.task t).held ∧ t ≠ s := by
  obtain ⟨m, next, code, owner, ne⟩ := h
  exact ⟨m, next, code, ((reachable_keeps reached t).owns m).mp owner, ne⟩

/-- A thread that waits does so by the table. -/
theorem nests_of_waits (reached : (vpnService screenSuspended).system.Reachable permitted c)
    {t : ThreadId} {m : Lock} {next : Code} (code : (c.task t).code = .enter m next) :
    nests t (c.task t).held m := by
  have checks := (reachable_keeps reached t).checks
  rw [code] at checks
  exact checks.1

theorem wanted_lt (reached : (vpnService screenSuspended).system.Reachable BlocksApart c)
    (r s t u : ThreadId) (before : WaitsFor c r s) (step : WaitsFor c s t)
    (behind : WaitsFor c t u) : wanted c s < wanted c t := by
  obtain ⟨m, next, stands, held, ne⟩ := held_of_waitsFor reached step
  obtain ⟨m', next', stands', -, -⟩ := held_of_waitsFor reached behind
  have may := nests_of_waits reached stands'
  rw [wanted_eq stands, wanted_eq stands']
  cases m' with
  | engineStartLock k =>
      rw [show (c.task t).held = [] from may] at held
      cases held
  | lifecycleLock =>
      rcases may with none | ⟨k, engine⟩ | ⟨n, rfl, pause⟩
      · rw [none] at held
        cases held
      · rw [engine, List.mem_singleton] at held
        subst held
        simp [Lock.rank]
      · -- The listener's call. The thread before it holds `lifecycleLock`, since it is waited for.
        rw [pause, List.mem_singleton] at held
        subst held
        obtain ⟨k, _, _, holds, _⟩ := held_of_waitsFor reached before
        have started : Within (.pauseLock n) .lifecycleLock (c.task (.control n)) := by
          refine ⟨by simp [pause], ?_⟩
          rw [stands']
          exact .now
        have crossing : Within .lifecycleLock (.pauseLock n) (c.task s) := by
          rcases nests_of_waits reached stands with none | lifecycle
          · rw [none] at holds
            cases holds
          · refine ⟨by simp [lifecycle], ?_⟩
            rw [stands]
            exact .now
        exact absurd crossing (reachable_apart reached ne.symm started)
  | pauseLock k =>
      rcases may with none | lifecycle
      · rw [none] at held
        cases held
      · rw [lifecycle, List.mem_singleton] at held
        subst held
        simp [Lock.rank]
  | writeLock k =>
      rcases may with none | lifecycle | pause
      · rw [none] at held
        cases held
      · rw [lifecycle, List.mem_singleton] at held
        subst held
        simp [Lock.rank]
      · rw [pause, List.mem_singleton] at held
        subst held
        simp [Lock.rank]

/-- Where the two blocks stay apart, no threads wait for each other, in a pair or in a circle
of any length. -/
theorem lock_order (reached : (vpnService screenSuspended).system.Reachable BlocksApart c) :
    (∀ s t, ¬ (WaitsFor c s t ∧ WaitsFor c t s)) ∧
      ∀ t, ¬ Relation.TransGen (WaitsFor c) t t := by
  have acyclic := no_cycle (wanted c) (wanted_lt reached)
  exact ⟨fun s t h => acyclic s (.tail (.single h.1) h.2), acyclic⟩

end Waits

section Runs
variable {screenSuspended : Bool} {c : State}

/-- A step that enters nothing, or is taken while these other threads hold nothing. -/
def TakenAlone (ts : List ThreadId) (c : State) (a : ThreadId × Nat) : Prop :=
  (∀ m next, (c.task a.1).code ≠ .enter m next) ∨ ∀ t ∈ ts, t ≠ a.1 → (c.task t).held = []

instance (ts : List ThreadId) (c : State) (a : ThreadId × Nat) :
    Decidable (TakenAlone ts c a) :=
  match code : (c.task a.1).code with
  | .enter m next =>
      decidable_of_iff (∀ t ∈ ts, t ≠ a.1 → (c.task t).held = [])
        ⟨.inr, fun h => h.resolve_left fun none => none m next code⟩
  | .jump _ | .leave _ _ | .run _ _ | .choose _ => .isTrue (.inl (by simp [code]))

/-- Threads that take turns keep the blocks apart. -/
theorem blocksApart_of_takenAlone {ts : List ThreadId} {acts : List (ThreadId × Nat)}
    (only : ∀ a ∈ acts, a.1 ∈ ts)
    (path : (vpnService screenSuspended).system.Path (TakenAlone ts)
      (vpnService screenSuspended).system.init acts c) :
    (vpnService screenSuspended).system.Path BlocksApart
      (vpnService screenSuspended).system.init acts c := by
  induction path with
  | nil => exact .nil
  | @snoc acts c c' a before meets taken ih =>
      have early : ∀ b ∈ acts, b.1 ∈ ts := fun b hb => only b (by simp [hb])
      refine .snoc (ih early) (fun n t other => ?_) taken
      rcases meets with outside | alone
      · constructor
        · rintro own ⟨next, code, -⟩ _
          exact outside _ next (own ▸ code)
        · rintro own ⟨next, code, -⟩ _
          exact outside _ next (own ▸ code)
      · have released (u : ThreadId) (ne : u ≠ a.1) : (c.task u).held = [] := by
          by_cases mem : u ∈ ts
          · exact alone u mem ne
          · have untouched : u ∉ acts.map Prod.fst := by
              rintro h
              obtain ⟨b, hb, rfl⟩ := List.mem_map.mp h
              exact mem (early b hb)
            rw [Tasks.task_of_untouched before untouched]
            rfl
        constructor
        · intro own _ h
          rw [Within, released t (own ▸ other)] at h
          cases h.1
        · intro own _ h
          rw [Within, released _ (own ▸ other.symm)] at h
          cases h.1

/-- A tunnel starts, its engine comes up, and its control thread connects: it stands in the
`STARTED` block with the listener's call before it. -/
def started : List (ThreadId × Nat) :=
  [0, 2, 0, 0, 0, 0, 0, 0, 0, 0, 0].map (ThreadId.main, ·) ++
    List.replicate 21 (.worker false, 0) ++ List.replicate 30 (.control 1, 0)

set_option maxRecDepth 4000 in
/-- The listener's call with both monitors held, and another start waiting for it. -/
theorem lock_order_listener :
    ∃ c, (vpnService false).system.Reachable BlocksApart c ∧ WaitsFor c .main (.control 1) ∧
      (c.task (.control 1)).held = [.lifecycleLock, .pauseLock 1] ∧
      (∀ s t, ¬ (WaitsFor c s t ∧ WaitsFor c t s)) ∧
      ∀ t, ¬ Relation.TransGen (WaitsFor c) t t := by
  have run : ∃ c, (vpnService false).system.Path (TakenAlone [.main, .worker false, .control 1])
      (vpnService false).system.init
      (started ++ [(.control 1, 0), (.main, 0), (.main, 2), (.main, 0)]) c ∧
      WaitsFor c .main (.control 1) ∧
      (c.task (.control 1)).held = [.lifecycleLock, .pauseLock 1] :=
    ⟨_, System.path_of_replay rfl, ⟨_, _, rfl, rfl, by decide⟩, rfl⟩
  obtain ⟨c, path, waits, held⟩ := run
  have reached : (vpnService false).system.Reachable BlocksApart c :=
    ⟨_, blocksApart_of_takenAlone (by decide) path⟩
  exact ⟨c, reached, waits, held, lock_order reached⟩

/-- The screen goes off while the control thread is about to call its listener. -/
theorem screen_off_at_started_deadlocks :
    ¬ ∀ (screenSuspended : Bool) (c : State), (vpnService screenSuspended).system.Reachable Free c →
      ∀ s t, ¬ (WaitsFor c s t ∧ WaitsFor c t s) := by
  intro claim
  have run : ∃ c, (vpnService false).system.Reachable Free c ∧
      WaitsFor c .main (.control 1) ∧ WaitsFor c (.control 1) .main :=
    ⟨_, System.reachable_of_replay
      (started ++ [(.main, 0), (.main, 0), (.main, 0), (.main, 0), (.main, 0)]) rfl,
      ⟨_, _, rfl, rfl, by decide⟩, ⟨_, _, rfl, rfl, by decide⟩⟩
  obtain ⟨c, reached, waits⟩ := run
  exact claim false c reached .main (.control 1) waits

end Runs
end QuestVdWired.Android
