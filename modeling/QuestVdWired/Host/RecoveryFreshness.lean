import QuestVdWired.Host.RuntimeSteps
import QuestVdWired.Host.ControlReset

/-!
Completion of a recovery. The flag that completes a recovery is raised by a
Connected report or a wake and is only ever taken, so one raised while the mappings
are rebuilt outlives the reset that ends the rebuild. In runs where no reset of a
current generation returns while the flag is up, a recovery completes only after a
report made since; and behind the barrier of the reset that report is due to a
connection greeted after its signal.
-/

namespace QuestVdWired.Host

open Transition

section
variable {ε : Type}

/-- What a step of the control server reports. -/
inductive ReportStep (obs : Observers ε) (sh : ControlShared ε) (t : ControlTask)
    (sh' : ControlShared ε) : Prop
  | silent (env : sh'.env = sh.env ∨ sh'.env = obs.suspend sh.env ∨
        ∃ snapshot : StateSnapshot, snapshot.state ≠ .connected ∧
          sh'.env = obs.state snapshot sh.env)
      (reportedBy : sh'.reportedBy = sh.reportedBy)
  | reported {holder author : Nat} {snapshot : StateSnapshot}
      (held : sh.publication = some ⟨holder, some snapshot, author⟩)
      (connected : snapshot.state = .connected) (env : sh'.env = obs.state snapshot sh.env)
      (reportedBy : sh'.reportedBy = author)
  | woken {h : Handler} {f : Frame} (own : t = .handler h) (pc : h.pc = .frame f)
      (type : f.messageType = .started) (current : sh.isCurrentConnection h.epoch = true)
      (env : sh'.env = obs.wake sh.env) (reportedBy : sh'.reportedBy = h.epoch)

theorem ReportStep.of_observe {obs : Observers ε} {sh sh' : ControlShared ε} {t : ControlTask}
    (seen : Handler.observe obs sh = some sh') : ReportStep obs sh t sh' := by
  obtain ⟨holder, snapshot, author, held, rfl⟩ := observe_cases seen
  by_cases connected : snapshot.state = .connected
  · exact .reported held connected rfl (if_pos connected)
  · exact .silent (Or.inr (Or.inr ⟨snapshot, connected, rfl⟩)) (if_neg connected)

theorem HandlerStep.reports {obs : Observers ε} {id : Nat} {sh sh' : ControlShared ε}
    {h h' : Handler} {a : HandlerAction} (step : HandlerStep obs id sh h a sh' h') :
    ReportStep obs sh (.handler h) sh' := by
  cases step with
  | startedWake pc current type => exact .woken rfl pc type current rfl rfl
  | suspended => exact .silent (Or.inr (Or.inl rfl)) rfl
  | observed pc seen => exact .of_observe seen
  | finished pc seen =>
      cases ReportStep.of_observe (t := .handler h) seen with
      | silent env reportedBy => exact .silent env reportedBy
      | reported held connected env reportedBy => exact .reported held connected env reportedBy
      | woken own pc type current env reportedBy =>
          exact .woken own pc type current env reportedBy
  | _ => exact .silent (Or.inl rfl) rfl

theorem ControlStep.reports {obs : Observers ε} {id : Nat} {sh sh' : ControlShared ε}
    {t t' : ControlTask} {action : ControlAction}
    (step : ControlStep obs id sh action t sh' t') : ReportStep obs sh t sh' := by
  cases step with
  | accept | transportLost | resetTransport | requestStop => exact .silent (Or.inl rfl) rfl
  | handler step => exact step.reports
  | call step =>
      cases step with
      | observed pc seen => exact .of_observe seen
      | signalled | locked | degraded => exact .silent (Or.inl rfl) rfl
  | request step => cases step <;> exact .silent (Or.inl rfl) rfl

/-- The author of the lifecycle changes only to a connection that acts. -/
theorem HandlerStep.connectedBy {obs : Observers ε} {id : Nat} {sh sh' : ControlShared ε}
    {h h' : Handler} {a : HandlerAction} (step : HandlerStep obs id sh h a sh' h') :
    sh'.connectedBy = sh.connectedBy ∨
      ∃ f, h.pc = .frame f ∧ f.messageType ∈ [.started, .heartbeat] ∧
        sh.isCurrentConnection h.epoch = true ∧ sh'.connectedBy = h.epoch := by
  cases step with
  | @startedPlain now f _ pc current type | @startedWake now f _ pc current type =>
      exact Or.inr ⟨f, pc, by simp [type], current, rfl⟩
  | @beat now f machine pc current type =>
      by_cases connected : machine.state = .connected
      · exact Or.inr ⟨f, pc, by simp [type], current, if_pos connected⟩
      · exact Or.inl (if_neg connected)
  | observed pc seen | finished pc seen =>
      obtain ⟨_, _, _, _, rfl⟩ := observe_cases seen
      exact Or.inl rfl
  | _ => exact Or.inl rfl

/-- Behind the barrier of a reset: whatever is or will be reported as Connected is
due to a connection greeted after the signal. -/
structure Renewed (c : ControlConfig ε) (mark : Nat) : Prop where
  barrier : Barrier c mark true
  connected : c.shared.machine.state = .connected → mark < c.shared.connectedBy
  held : ∀ holder snapshot author,
    c.shared.publication = some ⟨holder, some snapshot, author⟩ →
    snapshot.state = .connected → mark < author

namespace Renewed
variable {obs : Observers ε} {c : ControlConfig ε} {i mark : Nat} {sh : ControlShared ε}

theorem connected_step (inv : Renewed c mark) (epochs : Epochs c) {action : ControlAction}
    {t : ControlTask} (taken : ControlStep obs i c.shared action (c.task i) sh t)
    (after : sh.machine.state = .connected) : mark < sh.connectedBy := by
  generalize own : c.task i = task at taken
  cases taken with
  | accept | transportLost | resetTransport | requestStop => exact inv.connected after
  | @handler _ h _ _ step =>
      by_cases before : c.shared.machine.state = .connected
      · rcases step.connectedBy with same | ⟨f, pc, type, current, moved⟩
        · exact same ▸ inv.connected before
        · exact moved ▸ inv.barrier.young epochs own current pc type
      · obtain ⟨f, _, _, pc, type, current, moved⟩ := step.connects (Or.inl ⟨before, after⟩)
        exact moved ▸ inv.barrier.young epochs own current pc type
  | call step =>
      cases step with
      | degraded => exact absurd after (StateMachine.transportLost_not_connected _ _)
      | observed pc seen =>
          obtain ⟨_, _, _, _, rfl⟩ := observe_cases seen
          exact inv.connected after
      | signalled | locked => exact inv.connected after
  | request step => cases step <;> exact inv.connected after

theorem step (inv : Renewed c mark) (epochs : Epochs c) {action : ControlAction}
    {t : ControlTask} (taken : ControlStep obs i c.shared action (c.task i) sh t) :
    Renewed (⟨sh, Function.update c.task i t⟩ : ControlConfig ε) mark where
  barrier := inv.barrier.step taken
  connected := inv.connected_step epochs taken
  held := by
    intro holder snapshot author held
    generalize before : (c.task i).phase = p, after : t.phase = q at *
    have published := taken.publication
    rw [before, after] at published
    cases published with
    | untouched same => exact inv.held holder snapshot author (same ▸ held)
    | locked _ locked => cases locked.symm.trans held
    | taken took =>
        cases took.symm.trans held
        exact inv.connected_step epochs taken
    | released free => cases free.symm.trans held

end Renewed
end

/-- What the recovery keeps, in the terms of the monitor. -/
structure Timely (v : HostView) (pc : MonitorPc) : Prop where
  since : v.since ≤ v.reports
  awaited : v.recovery.state = .awaitingControl → v.authenticatedReconcile = true →
    v.since < v.reports
  rebuilt : v.recovery.state = .awaitingControl → v.rebuilt = v.recovery.generation
  forced : pc.forced = true → v.recovery.state ∈ [.idle, .recovered, .pending]
  rebuilds : pc.rebuilds = true → v.recovery.state ∈ [.rebuildingMappings, .pending]
  trigger : v.recovery.state ≠ .idle → v.recovery.trigger.isSome = true

namespace Timely
variable {v v' : HostView} {pc pc' : MonitorPc}

/-- Nothing of the recovery moved. -/
theorem of_same (inv : Timely v pc) (recovery : v'.recovery = v.recovery)
    (flag : v'.authenticatedReconcile = true → v.authenticatedReconcile = true)
    (counts : v'.reports = v.reports ∧ v'.since = v.since ∧ v'.rebuilt = v.rebuilt)
    (forced : pc'.forced = true → pc.forced = true)
    (rebuilds : pc'.rebuilds = true → pc.rebuilds = true) : Timely v' pc' := by
  obtain ⟨reports, since, rebuilt⟩ := counts
  constructor
  · rw [reports, since]
    exact inv.since
  · rw [recovery, reports, since]
    exact fun awaiting raised => inv.awaited awaiting (flag raised)
  · rw [recovery, rebuilt]
    exact inv.rebuilt
  · rw [recovery]
    exact fun h => inv.forced (forced h)
  · rw [recovery]
    exact fun h => inv.rebuilds (rebuilds h)
  · rw [recovery]
    exact inv.trigger

/-- The recovery moved to a state in which no control lane is awaited. -/
theorem of_recovery (inv : Timely v pc) (counts : v'.reports = v.reports ∧ v'.since = v.since)
    (state : v'.recovery.state ≠ .awaitingControl)
    (forced : pc'.forced = true → v'.recovery.state ∈ [.idle, .recovered, .pending])
    (rebuilds : pc'.rebuilds = true → v'.recovery.state ∈ [.rebuildingMappings, .pending])
    (trigger : v'.recovery.state ≠ .idle → v'.recovery.trigger.isSome = true) :
    Timely v' pc' where
  since := by
    rw [counts.1, counts.2]
    exact inv.since
  awaited := fun awaiting => absurd awaiting state
  rebuilt := fun awaiting => absurd awaiting state
  forced := forced
  rebuilds := rebuilds
  trigger := trigger

theorem not_awaiting_of_forced (inv : Timely v pc) (h : pc.forced = true) :
    v.recovery.state ≠ .awaitingControl ∧ v.recovery.state ≠ .failed := by
  have state := inv.forced h
  simp only [List.mem_cons, List.not_mem_nil, or_false] at state
  rcases state with h | h | h <;> simp [h]

theorem not_awaiting_of_rebuilds (inv : Timely v pc) (h : pc.rebuilds = true) :
    v.recovery.state ≠ .awaitingControl ∧ v.recovery.state ≠ .failed := by
  have state := inv.rebuilds h
  simp only [List.mem_cons, List.not_mem_nil, or_false] at state
  rcases state with h | h <;> simp [h]

theorem failAttempt_trigger (r : TransportRecoverySnapshot) :
    r.failAttempt.2.trigger = r.trigger := by
  rcases r.failAttempt_cases with ⟨_, result⟩ | ⟨_, result⟩ <;> rw [result]

/-- An attempt failed: the state before was not idle, so it had a trigger. -/
theorem of_failAttempt (inv : Timely v pc) (counts : v'.reports = v.reports ∧ v'.since = v.since)
    (recovery : v'.recovery = v.recovery.failAttempt.2) (busy : v.recovery.state ≠ .idle)
    (forced : pc'.forced = false) (rebuilds : pc'.rebuilds = false) : Timely v' pc' := by
  have state := (HostEnv.failAttempt_requiresRecovery v.recovery).2
  refine inv.of_recovery counts ?_ (by simp [forced]) (by simp [rebuilds]) fun _ => ?_
  · rw [recovery]
    rcases state with h | h <;> simp [h]
  · rw [recovery, failAttempt_trigger]
    exact inv.trigger busy

/-- One step of the monitor. Where the reset of the current generation returns, the
flag is down. -/
theorem monitor_step {m : Monitor} {e e' : HostEnv} {lifecycle : HostState}
    {calls : Nat → Option (Option Nat)} {call : Nat} {action : MonitorAction}
    {spawned : Option ControlAction} (inv : Timely e.view m.pc)
    (lowered : ∀ waiting generation attempt trigger next, action = .called →
      m.pc = .resetting waiting generation attempt trigger next →
      e.view.recovery.generation = generation → e.view.authenticatedReconcile = false)
    (step : MonitorStep m e lifecycle calls call action e' pc' spawned) :
    Timely e'.view pc' := by
  cases step with
  | moved view _ forced rebuilds =>
      rw [view]
      exact inv.of_same rfl id ⟨rfl, rfl, rfl⟩ forced rebuilds
  | repeated view _ _ forced plain =>
      rw [view]
      exact inv.of_same rfl id ⟨rfl, rfl, rfl⟩ forced (by simp [plain])
  | confirming =>
      exact inv.of_same rfl id ⟨rfl, rfl, rfl⟩ (by simp [MonitorPc.forced])
        (by simp [MonitorPc.rebuilds])
  | confirmed _ view | trackLost view =>
      rw [view]
      exact inv.of_same rfl id ⟨rfl, rfl, rfl⟩ (by simp [MonitorPc.forced])
        (by simp [MonitorPc.rebuilds])
  | slept pc _ view =>
      rw [view]
      refine inv.of_same rfl id ⟨rfl, rfl, rfl⟩ ?_ (by simp [MonitorPc.rebuilds])
      rw [pc]
      exact id
  | reported view _ forced plain | lost _ _ view forced plain | recorded _ _ _ view forced plain
  | unavailable _ view forced plain | healed view _ forced plain =>
      rw [view]
      exact inv.of_same rfl id ⟨rfl, rfl, rfl⟩ forced (by simp [plain])
  | resets view forced rebuilds =>
      rw [view]
      exact inv.of_same rfl id ⟨rfl, rfl, rfl⟩ (by simp [forced]) rebuilds
  | restartLost _ _ view _ settled =>
      rw [view]
      exact inv.of_same rfl id ⟨rfl, rfl, rfl⟩ (by simp [settled]) (by simp [settled])
  | retried was _ view settled =>
      rw [view]
      have state := (inv.not_awaiting_of_forced was).1
      exact inv.of_recovery ⟨rfl, rfl⟩ state (by simp [settled]) (by simp [settled]) inv.trigger
  | completed _ _ awaiting _ view settled =>
      rw [view]
      refine inv.of_recovery ⟨rfl, rfl⟩ (by simp) (by simp [settled]) (by simp [settled]) ?_
      exact fun _ => inv.trigger (by simp [awaiting])
  | @recovers _ _ recovery _ _ _ required view trigger rebuilds plain =>
      rw [view]
      refine inv.of_recovery ⟨rfl, rfl⟩ ?_ (by simp [plain]) ?_ fun _ => trigger inv.trigger
      · intro (awaiting : recovery.state = .awaitingControl)
        simp [TransportRecoverySnapshot.requiresRecovery, awaiting] at required
      · intro h
        simp [rebuilds h]
  | reconciles idle _ view _ forced settled =>
      rw [view]
      refine ⟨inv.since, by simp, inv.rebuilt, ?_, by simp [settled], inv.trigger⟩
      intro h
      have refused := forced h
      have some := inv.trigger
      cases state : e.view.recovery.state <;>
        simp_all [TransportRecoverySnapshot.requiresRecovery]
  | rebuildFailed was view settled =>
      rw [view]
      refine inv.of_failAttempt ⟨rfl, rfl⟩ rfl ?_ settled.1 settled.2.1
      intro idle
      simpa [idle] using inv.rebuilds was
  | @reset _ _ waiting generation attempt trigger next mark was taken _ state finished view
      settled =>
      rw [view]
      have rebuilds : m.pc.rebuilds = true := by rw [was]; rfl
      have before := inv.rebuilds rebuilds
      have known : e.view.recovery.trigger.isSome = true := by
        apply inv.trigger
        intro idle
        simp [idle] at before
      refine ⟨Nat.le_refl _, ?_, ?_, by simp [settled], by simp [settled], fun _ => known⟩
      · intro awaiting raised
        rcases finished with rfl | ⟨_, current⟩
        · exact absurd awaiting (inv.not_awaiting_of_rebuilds rebuilds).1
        · rw [lowered _ _ _ _ _ taken was current] at raised
          cases raised
      · intro awaiting
        rcases finished with rfl | ⟨_, current⟩
        · exact absurd awaiting (inv.not_awaiting_of_rebuilds rebuilds).1
        · exact current.symm

theorem env_step {e e' : HostEnv} (inv : Timely e.view pc) (step : EnvStep e e') :
    Timely e'.view pc := by
  cases step with
  | silent view =>
      rw [view]
      exact inv
  | suppressed view =>
      rw [view]
      exact inv.of_same rfl id ⟨rfl, rfl, rfl⟩ id id
  | expired awaiting view =>
      rw [view]
      have forced : pc.forced = false := by
        by_contra h
        exact (inv.not_awaiting_of_forced (by simpa using h)).1 awaiting
      have rebuilds : pc.rebuilds = false := by
        by_contra h
        exact (inv.not_awaiting_of_rebuilds (by simpa using h)).1 awaiting
      exact inv.of_failAttempt ⟨rfl, rfl⟩ rfl (by simp [awaiting]) forced rebuilds
  | rearmed failed view =>
      rw [view]
      exact inv.of_recovery ⟨rfl, rfl⟩ (by simp [TransportRecoverySnapshot.renew])
        (by simp [TransportRecoverySnapshot.renew]) (by simp [TransportRecoverySnapshot.renew])
        fun _ => rfl
  | grace _ _ view =>
      rcases view with same | ⟨_, moved⟩
      · rw [same]
        exact inv
      · rw [moved]
        exact inv.of_same rfl id ⟨rfl, rfl, rfl⟩ id id

theorem notifyHostResume (e : HostEnv) (inv : Timely e.view pc) :
    Timely e.notifyHostResume.view pc := by
  rw [HostEnv.notifyHostResume_view]
  exact inv.of_recovery ⟨rfl, rfl⟩
    (by simp [TransportRecoverySnapshot.notify, TransportRecoverySnapshot.renew])
    (by simp [TransportRecoverySnapshot.notify, TransportRecoverySnapshot.renew])
    (by simp [TransportRecoverySnapshot.notify, TransportRecoverySnapshot.renew]) fun _ => rfl

/-- A report raises the flag and is counted with it. -/
theorem report_step {sh sh' : ControlShared HostEnv} {t : ControlTask}
    (inv : Timely sh.env.view pc) (step : ReportStep hostObservers sh t sh') :
    Timely sh'.env.view pc := by
  have counts := inv.since
  cases step with
  | silent env =>
      rcases env with same | suspended | ⟨snapshot, other, seen⟩
      · rw [same]
        exact inv
      · rw [suspended, HostEnv.suspend_view]
        exact inv.of_same rfl id ⟨rfl, rfl, rfl⟩ id id
      · obtain ⟨_, _, view⟩ := sh.env.observe_other_view other
        rw [seen]
        show Timely (sh.env.observe snapshot).view pc
        rw [view]
        exact inv.of_same rfl id ⟨rfl, rfl, rfl⟩ id id
  | @reported _ _ snapshot _ connected env =>
      rw [env]
      show Timely (sh.env.observe snapshot).view pc
      rcases sh.env.observe_connected_view connected with
        view | ⟨failed, recovery, awaiting, known, view⟩
      · rw [view]
        exact ⟨Nat.le_succ_of_le counts, fun _ _ => Nat.lt_succ_of_le counts, inv.rebuilt,
          inv.forced, inv.rebuilds, inv.trigger⟩
      · rw [view]
        refine ⟨Nat.le_succ _, fun _ _ => Nat.lt_succ_self _, fun _ => rfl, ?_, ?_, ?_⟩
        · exact fun h => absurd failed (inv.not_awaiting_of_forced h).2
        · exact fun h => absurd failed (inv.not_awaiting_of_rebuilds h).2
        · exact fun _ => known
  | woken _ _ _ _ env =>
      rw [env, HostEnv.wake_view]
      exact ⟨Nat.le_succ_of_le counts, fun _ _ => Nat.lt_succ_of_le counts, inv.rebuilt,
        inv.forced, inv.rebuilds, inv.trigger⟩

end Timely

/-- The reset that ends the rebuild of the current generation returns while the flag
is up. -/
def returnsRaised (c : RuntimeConfig) : RuntimeAction → Bool
  | .monitor _ .called =>
      match c.monitor.pc with
      | .resetting _ generation _ _ _ =>
          c.env.authenticatedReconcile && c.env.transportRecovery.generation = generation
      | _ => false
  | _ => false

/-- The reset that ends a rebuild degrades the lifecycle while the handler it
signalled is past its cancellation check. -/
def rebuildsArmed (c : RuntimeConfig) : RuntimeAction → Bool
  | .control i action =>
      match c.monitor.pc with
      | .resetting k _ _ _ _ => i = k && degradesArmed c.control (i, action)
      | _ => false
  | _ => false

def FreshReset (c : RuntimeConfig) (a : RuntimeAction) : Prop :=
  returnsRaised c a = false ∧ rebuildsArmed c a = false

instance (c : RuntimeConfig) (a : RuntimeAction) : Decidable (FreshReset c a) :=
  inferInstanceAs (Decidable (_ ∧ _))

/-- The reset the monitor waits for as call `k`. -/
structure Awaited (c : ControlConfig HostEnv) (k : Nat) : Prop where
  guarded : Guarded c k
  renewed : ∀ r mark, c.task k = .call r → r.mark = some mark → r.pc.degraded = true →
    Renewed c mark

/-- What the runtime keeps in such runs. -/
structure Fresh (c : RuntimeConfig) : Prop where
  epochs : Epochs c.control
  timely : Timely c.env.view c.monitor.pc
  awaited : ∀ k generation attempt trigger next,
    c.monitor.pc = .resetting k generation attempt trigger next → Awaited c.control k
  marked : ∀ mark, c.env.mark = some mark → Renewed c.control mark ∧
    (c.env.since < c.env.reports → mark < c.control.shared.reportedBy)

section
variable {c : ControlConfig HostEnv} {e : HostEnv} {i k mark : Nat} {r : Call}

theorem Barrier.withEnv {degraded : Bool} (inv : Barrier c mark degraded) :
    Barrier (⟨{ c.shared with env := e }, c.task⟩ : ControlConfig HostEnv) mark degraded :=
  ⟨inv.past, inv.told, inv.disarmed⟩

theorem Renewed.withEnv (inv : Renewed c mark) :
    Renewed (⟨{ c.shared with env := e }, c.task⟩ : ControlConfig HostEnv) mark :=
  ⟨inv.barrier.withEnv, inv.connected, inv.held⟩

theorem Renewed.spawn (inv : Renewed c mark) :
    Renewed (⟨{ c.shared with env := e }, Function.update c.task i (.call r)⟩ :
      ControlConfig HostEnv) mark :=
  ⟨inv.barrier.of_same (by simp) rfl rfl fun _ told => told, inv.connected, inv.held⟩

theorem Awaited.withEnv (inv : Awaited c k) :
    Awaited (⟨{ c.shared with env := e }, c.task⟩ : ControlConfig HostEnv) k where
  guarded := fun r mark own marked => (inv.guarded r mark own marked).withEnv
  renewed := fun r mark own marked done => (inv.renewed r mark own marked done).withEnv

/-- A fresh call is not marked yet. -/
theorem Awaited.fresh (fresh : r.fresh) :
    Awaited (⟨{ c.shared with env := e }, Function.update c.task i (.call r)⟩ :
      ControlConfig HostEnv) i := by
  have unmarked : ∀ r' mark, Function.update c.task i (.call r) i = .call r' →
      r'.mark ≠ some mark := by
    intro r' mark own
    have same : r = r' := by simpa using own
    simp [← same, fresh.2]
  exact ⟨fun r' mark own marked => absurd marked (unmarked r' mark own),
    fun r' mark own marked _ => absurd marked (unmarked r' mark own)⟩

theorem Awaited.spawn (inv : Awaited c k) (fresh : r.fresh) :
    Awaited (⟨{ c.shared with env := e }, Function.update c.task i (.call r)⟩ :
      ControlConfig HostEnv) k := by
  by_cases mine : k = i
  · subst mine
    exact .fresh fresh
  · refine ⟨fun r' mark own marked => ?_, fun r' mark own marked done => ?_⟩
    · have own : c.task k = .call r' := by simpa [mine] using own
      exact (inv.guarded r' mark own marked).of_same (by simp) rfl rfl fun _ told => told
    · have own : c.task k = .call r' := by simpa [mine] using own
      exact (inv.renewed r' mark own marked done).spawn

/-- The degradation puts the lifecycle behind the barrier. -/
theorem Awaited.step {sh : ControlShared HostEnv} {action : ControlAction} {t : ControlTask}
    (inv : Awaited c k) (epochs : Epochs c) (barred : i = k → Barred c (i, action))
    (taken : ControlStep hostObservers i c.shared action (c.task i) sh t) :
    Awaited ⟨sh, Function.update c.task i t⟩ k := by
  have guarded := inv.guarded.step barred taken
  refine ⟨guarded, fun r mark own marked done => ?_⟩
  by_cases mine : i = k
  · subst mine
    have barrier := guarded r mark own marked
    rw [done] at barrier
    have same : t = .call r := by simpa using own
    subst same
    have whole := taken
    generalize before : c.task i = task at taken
    cases taken with
    | transportLost | resetTransport => cases marked
    | @call a r₀ _ _ step =>
        cases step with
        | signalled | locked => cases done
        | degraded pc =>
            have down := fun reason =>
              StateMachine.transportLost_not_connected c.shared.machine reason
            refine ⟨barrier, fun connected => absurd connected (down _), ?_⟩
            intro holder snapshot author held connected
            cases held
            exact absurd connected (down _)
        | observed pc seen =>
            have renewed := inv.renewed r₀ mark before marked (by rw [pc]; rfl)
            exact renewed.step epochs whole
  · have own : c.task k = .call r := by simpa [Ne.symm mine] using own
    exact (inv.renewed r mark own marked done).step epochs taken

end

/-- A step makes the monitor wait for a reset only by making the call. -/
theorem MonitorStep.waits {m : Monitor} {e e' : HostEnv} {lifecycle : HostState}
    {calls : Nat → Option (Option Nat)} {call : Nat} {action : MonitorAction} {pc : MonitorPc}
    {spawned : Option ControlAction}
    (step : MonitorStep m e lifecycle calls call action e' pc spawned)
    (resets : pc.resets = true) :
    spawned.isSome = true ∧
      ∃ generation attempt trigger next, pc = .resetting call generation attempt trigger next := by
  have rebuilds : pc.rebuilds = true := by
    unfold MonitorPc.resets at resets
    split at resets
    · rfl
    · cases resets
  cases step with
  | resets _ _ _ waits => exact ⟨rfl, waits resets⟩
  | confirming | confirmed | trackLost | slept => cases resets
  | moved _ _ _ _ plain => cases plain.1.symm.trans resets
  | recovers _ _ _ _ _ _ _ plain => cases plain.2.symm.trans resets
  | lost _ _ _ _ plain | recorded _ _ _ _ _ plain | unavailable _ _ _ plain =>
      cases plain.symm.trans rebuilds
  | reported _ _ _ plain | repeated _ _ _ _ plain => cases plain.1.symm.trans rebuilds
  | healed _ _ _ settled => cases settled.1.symm.trans rebuilds
  | retried _ _ _ settled | completed _ _ _ _ _ settled | rebuildFailed _ _ settled
  | reset _ _ _ _ _ _ settled | restartLost _ _ _ _ settled =>
      cases settled.2.1.symm.trans rebuilds
  | reconciles _ _ _ _ _ settled => cases settled.1.symm.trans rebuilds

/-- The ghosts of the last reset move only when a reset returns. -/
theorem MonitorStep.ghosts {m : Monitor} {e e' : HostEnv} {lifecycle : HostState}
    {calls : Nat → Option (Option Nat)} {call : Nat} {action : MonitorAction} {pc : MonitorPc}
    {spawned : Option ControlAction}
    (step : MonitorStep m e lifecycle calls call action e' pc spawned) :
    (e'.view.mark = e.view.mark ∧ e'.view.since = e.view.since ∧
        e'.view.reports = e.view.reports) ∨
      ((∃ waiting generation attempt trigger next,
          m.pc = .resetting waiting generation attempt trigger next ∧
          calls waiting = some e'.view.mark) ∧
        e'.view.since = e'.view.reports) := by
  cases step with
  | reset was _ returned _ _ view =>
      refine Or.inr ⟨⟨_, _, _, _, _, was, ?_⟩, ?_⟩ <;> rw [view]
      exact returned
  | confirming => exact Or.inl ⟨rfl, rfl, rfl⟩
  | _ =>
      left
      rw [‹e'.view = _›]
      exact ⟨rfl, rfl, rfl⟩

theorem EnvStep.ghosts {e e' : HostEnv} (step : EnvStep e e') :
    e'.view.mark = e.view.mark ∧ e'.view.since = e.view.since ∧
      e'.view.reports = e.view.reports := by
  cases step with
  | silent view | suppressed view | expired _ view | rearmed _ view =>
      rw [view]
      exact ⟨rfl, rfl, rfl⟩
  | grace _ _ view =>
      rcases view with same | ⟨_, moved⟩
      · rw [same]
        exact ⟨rfl, rfl, rfl⟩
      · rw [moved]
        exact ⟨rfl, rfl, rfl⟩

theorem RuntimeConfig.callReturned_some {c : RuntimeConfig} {k : Nat} {mark : Option Nat}
    (returned : c.callReturned k = some mark) :
    ∃ r, c.control.task k = .call r ∧ r.pc.degraded = true ∧ r.mark = mark := by
  unfold callReturned at returned
  split at returned
  · cases returned
    exact ⟨_, ‹_›, rfl, rfl⟩
  · cases returned

namespace Fresh
variable {c c' : RuntimeConfig}

theorem initial (session : SessionId) : Fresh (.initial session) where
  epochs := Epochs.initial session HostEnv.initial
  timely := by
    show Timely HostEnv.initial.notifyOne.view .spawning
    constructor <;> decide
  awaited := fun _ _ _ _ _ pc => by cases pc
  marked := fun _ marked => by cases marked

/-- A report keeps the mark, and is due to a connection behind it; or it rearms a
failed recovery. -/
theorem marked_control (inv : Fresh c) {i : Nat} {a : ControlAction} {t : ControlTask}
    {sh : ControlShared HostEnv} {mark : Nat}
    (step : ControlStep hostObservers i c.control.shared a (c.control.task i) sh t)
    (marked : sh.env.mark = some mark) :
    Renewed ⟨sh, Function.update c.control.task i t⟩ mark ∧
      (sh.env.since < sh.env.reports → mark < sh.reportedBy) := by
  have renews : c.env.mark = some mark →
      Renewed ⟨sh, Function.update c.control.task i t⟩ mark :=
    fun marked => (inv.marked mark marked).1.step inv.epochs step
  cases step.reports with
  | silent env reportedBy =>
      have same : sh.env.view.mark = c.env.view.mark ∧ sh.env.view.since = c.env.view.since ∧
          sh.env.view.reports = c.env.view.reports := by
        rcases env with same | suspended | ⟨snapshot, other, seen⟩
        · rw [same]
          exact ⟨rfl, rfl, rfl⟩
        · rw [suspended, HostEnv.suspend_view]
          exact ⟨rfl, rfl, rfl⟩
        · obtain ⟨_, _, view⟩ := c.env.observe_other_view other
          have seen : sh.env = c.env.observe snapshot := seen
          rw [seen, view]
          exact ⟨rfl, rfl, rfl⟩
      obtain ⟨mark_same, since, reports⟩ := same
      have before : c.env.mark = some mark := mark_same.symm.trans marked
      refine ⟨renews before, fun later => ?_⟩
      rw [reportedBy]
      apply (inv.marked mark before).2
      calc c.env.since = sh.env.since := since.symm
        _ < sh.env.reports := later
        _ = c.env.reports := reports
  | @reported _ _ snapshot held connected env reportedBy =>
      have env : sh.env = c.env.observe snapshot := env
      have viewed : sh.env.view.mark = some mark := marked
      rw [env] at viewed
      rcases c.env.observe_connected_view connected with view | ⟨_, _, _, _, view⟩
      · rw [view] at viewed
        refine ⟨renews viewed, fun _ => ?_⟩
        rw [reportedBy]
        exact (inv.marked mark viewed).1.held _ _ _ held connected
      · rw [view] at viewed
        cases viewed
  | woken own pc type current env reportedBy =>
      have before : c.env.mark = some mark := by
        rw [env] at marked
        exact marked
      refine ⟨renews before, fun _ => ?_⟩
      rw [reportedBy]
      exact (inv.marked mark before).1.barrier.young inv.epochs own current pc (by simp [type])

/-- The mark a step of the monitor leaves is the one before, or that of the reset it
waited for. -/
theorem marked_monitor (inv : Fresh c) {e : HostEnv} {pc : MonitorPc} {call : Nat}
    {action : MonitorAction} {spawned : Option ControlAction} {mark : Nat}
    (step : MonitorStep c.monitor c.env c.control.shared.machine.state c.callReturned call
      action e pc spawned) (marked : e.mark = some mark) :
    Renewed c.control mark ∧ (e.since < e.reports → mark < c.control.shared.reportedBy) := by
  rcases step.ghosts with ⟨same, since, reports⟩ |
      ⟨⟨waiting, _, _, _, _, was, returned⟩, none_since⟩
  · have before : c.env.mark = some mark := same.symm.trans marked
    refine ⟨(inv.marked mark before).1, fun later => (inv.marked mark before).2 ?_⟩
    calc c.env.since = e.since := since.symm
      _ < e.reports := later
      _ = c.env.reports := reports
  · obtain ⟨r, own, done, known⟩ := RuntimeConfig.callReturned_some returned
    refine ⟨(inv.awaited _ _ _ _ _ was).renewed r mark own (known.trans marked) done, ?_⟩
    exact fun later => absurd none_since (Nat.ne_of_lt later)

theorem step {a : RuntimeAction} (inv : Fresh c) (meets : FreshReset c a)
    (taken : RuntimeConfig.step a c = some c') : Fresh c' := by
  have lowered : ∀ call action, a = .monitor call action →
      ∀ waiting generation attempt trigger next, action = .called →
        c.monitor.pc = .resetting waiting generation attempt trigger next →
        c.env.view.recovery.generation = generation →
        c.env.view.authenticatedReconcile = false := by
    rintro call _ rfl waiting generation attempt trigger next rfl was current
    have current : c.env.transportRecovery.generation = generation := current
    show c.env.authenticatedReconcile = false
    simpa [returnsRaised, was, current] using meets.1
  cases RuntimeConfig.step_cases taken with
  | @control i action sh t own step =>
      refine ⟨inv.epochs.step step, inv.timely.report_step step.reports, ?_, ?_⟩
      · intro k generation attempt trigger next pc
        have pc : c.monitor.pc = _ := pc
        refine (inv.awaited _ _ _ _ _ pc).step inv.epochs ?_ step
        rintro rfl
        show degradesArmed c.control (i, action) = false
        simpa [rebuildsArmed, pc] using meets.2
      · exact fun mark marked => inv.marked_control step marked
  | @monitor call action segment step =>
      refine ⟨?_, inv.timely.monitor_step (lowered call action rfl) step, ?_, ?_⟩
      · exact ⟨inv.epochs.active, inv.epochs.bound, inv.epochs.fresh, inv.epochs.greeted,
          inv.epochs.unique⟩
      · intro k generation attempt trigger next pc
        have pc : segment.monitor.pc = _ := pc
        cases (step.waits (by rw [pc]; rfl)).1
      · intro mark marked
        obtain ⟨renewed, since⟩ := inv.marked_monitor step marked
        exact ⟨renewed.withEnv, since⟩
  | @calls call action segment spawned r step _ vacant fresh =>
      refine ⟨?_, inv.timely.monitor_step (lowered call action rfl) step, ?_, ?_⟩
      · exact inv.epochs.of_same (by simp [vacant]) (by simp) rfl rfl
      · intro k generation attempt trigger next pc
        have pc : segment.monitor.pc = _ := pc
        obtain ⟨_, _, _, _, _, waits⟩ := step.waits (by rw [pc]; rfl)
        cases pc.symm.trans waits
        exact .fresh fresh
      · intro mark marked
        obtain ⟨renewed, since⟩ := inv.marked_monitor step marked
        exact ⟨renewed.spawn, since⟩
  | @resumed call r vacant fresh =>
      refine ⟨inv.epochs.of_same (by simp [vacant]) (by simp) rfl rfl,
        inv.timely.notifyHostResume, ?_, ?_⟩
      · intro k generation attempt trigger next pc
        exact (inv.awaited _ _ _ _ _ pc).spawn fresh
      · intro mark marked
        obtain ⟨renewed, since⟩ := inv.marked mark marked
        exact ⟨renewed.spawn, since⟩
  | @env _ e step =>
      obtain ⟨same, since, reports⟩ := step.ghosts
      refine ⟨?_, inv.timely.env_step step, ?_, ?_⟩
      · exact ⟨inv.epochs.active, inv.epochs.bound, inv.epochs.fresh, inv.epochs.greeted,
          inv.epochs.unique⟩
      · intro k generation attempt trigger next pc
        exact (inv.awaited _ _ _ _ _ pc).withEnv
      · intro mark marked
        obtain ⟨renewed, later⟩ := inv.marked mark (same.symm.trans marked)
        refine ⟨renewed.withEnv, fun h => later ?_⟩
        calc c.env.since = e.since := since.symm
          _ < e.reports := h
          _ = c.env.reports := reports

theorem of_reachable {session : SessionId}
    (h : (runtimeSystem session).Reachable FreshReset c) : Fresh c :=
  h.invariant (initial session) fun _ _ _ inv meets taken => inv.step meets taken

end Fresh

theorem MonitorStep.raised_of_recovered {m : Monitor} {e e' : HostEnv} {lifecycle : HostState}
    {calls : Nat → Option (Option Nat)} {call : Nat} {action : MonitorAction} {pc : MonitorPc}
    {spawned : Option ControlAction}
    (step : MonitorStep m e lifecycle calls call action e' pc spawned)
    (before : e.view.recovery.state ≠ .recovered)
    (recovered : e'.view.recovery.state = .recovered) :
    e.view.authenticatedReconcile = true := by
  cases step with
  | completed _ raised => exact raised
  | confirming => exact absurd recovered before
  | recovers _ _ _ required view =>
      rw [view] at recovered
      exact absurd recovered
        (TransportRecoverySnapshot.not_requiresRecovery_awaiting required).2
  | rebuildFailed _ view =>
      rw [view] at recovered
      have required := (HostEnv.failAttempt_requiresRecovery e.view.recovery).1
      exact absurd recovered
        (TransportRecoverySnapshot.not_requiresRecovery_awaiting required).2
  | reset _ _ _ state finished view =>
      rw [view] at recovered
      have recovered : state = .recovered := recovered
      rcases finished with rfl | ⟨rfl, _⟩
      · exact absurd recovered before
      · cases recovered
  | _ =>
      rw [‹e'.view = _›] at recovered
      exact absurd recovered before

theorem EnvStep.not_recovered {e e' : HostEnv} (step : EnvStep e e')
    (before : e.view.recovery.state ≠ .recovered) : e'.view.recovery.state ≠ .recovered := by
  intro recovered
  cases step with
  | silent view | suppressed view =>
      rw [view] at recovered
      exact before recovered
  | expired _ view =>
      rw [view] at recovered
      have required := (HostEnv.failAttempt_requiresRecovery e.view.recovery).1
      exact (TransportRecoverySnapshot.not_requiresRecovery_awaiting required).2 recovered
  | rearmed _ view =>
      rw [view] at recovered
      cases recovered
  | grace _ _ view =>
      rcases view with same | ⟨_, moved⟩
      · rw [same] at recovered
        exact before recovered
      · rw [moved] at recovered
        exact before recovered

theorem ReportStep.not_recovered {sh sh' : ControlShared HostEnv} {t : ControlTask}
    (step : ReportStep hostObservers sh t sh')
    (before : sh.env.view.recovery.state ≠ .recovered) :
    sh'.env.view.recovery.state ≠ .recovered := by
  intro recovered
  cases step with
  | silent env =>
      rcases env with same | suspended | ⟨snapshot, other, seen⟩
      · exact before (same ▸ recovered)
      · rw [suspended, HostEnv.suspend_view] at recovered
        exact before recovered
      · obtain ⟨_, _, view⟩ := sh.env.observe_other_view other
        have seen : sh'.env = sh.env.observe snapshot := seen
        rw [seen, view] at recovered
        exact before recovered
  | @reported _ _ snapshot _ connected env =>
      have env : sh'.env = sh.env.observe snapshot := env
      rw [env] at recovered
      rcases sh.env.observe_connected_view connected with view | ⟨_, _, awaiting, _, view⟩
      · rw [view] at recovered
        exact before recovered
      · rw [view] at recovered
        cases awaiting.symm.trans recovered
  | woken _ _ _ _ env =>
      rw [env, HostEnv.wake_view] at recovered
      exact before recovered

/-- What completes a recovery is the monitor taking the flag. -/
theorem RuntimeStep.raised_of_recovered {c c' : RuntimeConfig} {a : RuntimeAction}
    (step : RuntimeStep c a c') (before : c.env.view.recovery.state ≠ .recovered)
    (recovered : c'.env.view.recovery.state = .recovered) :
    c.env.view.authenticatedReconcile = true := by
  cases step with
  | control own step => exact absurd recovered (step.reports.not_recovered before)
  | monitor step | calls step => exact step.raised_of_recovered before recovered
  | resumed =>
      have recovered : c.env.notifyHostResume.view.recovery.state = .recovered := recovered
      rw [HostEnv.notifyHostResume_view] at recovered
      cases recovered
  | env step => exact absurd recovered (step.not_recovered before)

section
variable {session : SessionId} {c c' : RuntimeConfig} {a : RuntimeAction}

/-- In every run in which the reset that ends a rebuild never returns while the flag
is up, and never degrades the lifecycle while the handler it signalled is past its
check, the recovery of a generation completes only when a Connected report or a wake
was made after that reset returned (or with the report that rearmed the generation),
and the last one is due to a connection greeted after the reset signalled. -/
theorem recovery_completion_fresh (reached : (runtimeSystem session).Reachable FreshReset c)
    (taken : (runtimeSystem session).step a c = some c')
    (awaiting : c.env.transportRecovery.state = .awaitingControl)
    (recovered : c'.env.transportRecovery.state = .recovered) :
    c.env.rebuilt = c.env.transportRecovery.generation ∧ c.env.since < c.env.reports ∧
      ∀ mark, c.env.mark = some mark → mark < c.control.shared.reportedBy := by
  have inv := Fresh.of_reachable reached
  have raised := (RuntimeConfig.step_cases taken).raised_of_recovered
    (by simp [HostEnv.view, awaiting]) recovered
  have later := inv.timely.awaited awaiting raised
  exact ⟨inv.timely.rebuilt awaiting, later, fun mark marked => (inv.marked mark marked).2 later⟩

end

open Schedule in
/-- A connection that came back while the mappings were rebuilt completes the
recovery, although the reset cut it off again. -/
theorem recovery_completion_stale :
    ∃ c c', (runtimeSystem session).Reachable Free c ∧
      (runtimeSystem session).step (.monitor 4 .changed) c = some c' ∧
      c.env.transportRecovery.state = .awaitingControl ∧
      c'.env.transportRecovery.state = .recovered ∧
      c.env.rebuilt = c.env.transportRecovery.generation ∧ ¬ c.env.since < c.env.reports ∧
      c.control.shared.machine.state = .degraded :=
  ⟨_, _, System.reachable_of_replay (rebuilding ++ reconnected ++ rebuilt) rfl, rfl, rfl, rfl,
    rfl, by decide, rfl⟩

open Schedule in
/-- A connection made after the reset completes the recovery. -/
theorem recovery_completion_fresh_reconnected :
    ∃ c c', (runtimeSystem session).Reachable FreshReset c ∧
      (runtimeSystem session).step (.monitor 4 .changed) c = some c' ∧
      c'.env.transportRecovery.state = .recovered ∧ c.env.since < c.env.reports ∧
      1 < c.control.shared.reportedBy := by
  obtain ⟨c, c', reached, taken, awaiting, recovered, marked⟩ :
      ∃ c c', (runtimeSystem session).Reachable FreshReset c ∧
        (runtimeSystem session).step (.monitor 4 .changed) c = some c' ∧
        c.env.transportRecovery.state = .awaitingControl ∧
        c'.env.transportRecovery.state = .recovered ∧ c.env.mark = some 1 :=
    ⟨_, _, System.reachable_of_replay (rebuilding ++ rebuilt ++ reconnected) rfl, rfl, rfl, rfl,
      rfl⟩
  obtain ⟨_, later, behind⟩ := recovery_completion_fresh reached taken awaiting recovered
  exact ⟨c, c', reached, taken, recovered, later, behind 1 marked⟩

end QuestVdWired.Host
