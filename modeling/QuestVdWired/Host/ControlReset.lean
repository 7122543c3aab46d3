import QuestVdWired.Host.ControlStop

/-!
The transport reset as a barrier. `reset_transport` signals the handler of the
active connection and then degrades the lifecycle. A signalled handler sees the
signal the next time it enters its select, so it can still connect only if the
degradation finds it past that check: waiting in the select, or for the state
lock with a STARTED or HEARTBEAT in hand. In runs where no reset finds the
signalled handler there, no connection greeted before the signal connects again.
-/

namespace QuestVdWired.Host

open Transition

variable {ε : Type}

/-- The handler can act on a STARTED or HEARTBEAT without entering its select
again. -/
def HandlerPc.armed : HandlerPc → Bool
  | .polling => true
  | .frame f => f.messageType ∈ [.started, .heartbeat]
  | _ => false

def ControlTask.armed : ControlTask → Bool
  | .handler h => h.pc.armed
  | _ => false

/-- The step degrades the lifecycle for a reset while the connection that was
active at its signal is still current and its handler is past the check. -/
def degradesArmed (c : ControlConfig ε) (a : Nat × ControlAction) : Bool :=
  match a.2, c.task a.1 with
  | .call .lockState, .call r =>
      r.mark.any fun mark =>
        c.shared.active.any fun slot => slot.epoch ≤ mark && (c.task slot.cancel).armed
  | _, _ => false

def Barred (c : ControlConfig ε) (a : Nat × ControlAction) : Prop := degradesArmed c a = false

instance (c : ControlConfig ε) (a : Nat × ControlAction) : Decidable (Barred c a) :=
  inferInstanceAs (Decidable (_ = _))

theorem ControlShared.cancelActive_mono (sh : ControlShared ε) {k : Nat}
    (told : sh.cancelled k = true) : sh.cancelActive k = true := by
  cases held : sh.active with
  | none => simpa [cancelActive, held] using told
  | some slot =>
      by_cases same : k = slot.cancel
      · simp [cancelActive, held, same]
      · simpa [cancelActive, held, same] using told

theorem ControlShared.cancelActive_slot {sh : ControlShared ε} {slot : ActiveConnection}
    (held : sh.active = some slot) : sh.cancelActive slot.cancel = true := by
  simp [cancelActive, held]

theorem HandlerStep.cancelled_mono {obs : Observers ε} {id : Nat} {sh sh' : ControlShared ε}
    {h h' : Handler} {a : HandlerAction} (step : HandlerStep obs id sh h a sh' h') {k : Nat}
    (told : sh.cancelled k = true) : sh'.cancelled k = true := by
  cases step with
  | accepted => exact sh.cancelActive_mono told
  | observed pc seen | finished pc seen =>
      obtain ⟨_, _, _, _, rfl⟩ := observe_cases seen
      exact told
  | _ => exact told

/-- A signalled handler does not get past the check. -/
theorem HandlerStep.disarmed {obs : Observers ε} {id : Nat} {sh sh' : ControlShared ε}
    {h h' : Handler} {a : HandlerAction} (step : HandlerStep obs id sh h a sh' h')
    (told : sh.cancelled id = true) (past : h.pc.armed = false) : h'.pc.armed = false := by
  cases step with
  | moved quiet => cases quiet <;> simp_all [HandlerPc.armed]
  | observed pc seen onward =>
      simp only [List.mem_cons, List.not_mem_nil, or_false] at onward
      rcases onward with rfl | rfl | rfl | rfl | rfl <;> rfl
  | _ => rfl

/-- What connects: a STARTED or HEARTBEAT on the current connection. -/
theorem HandlerStep.connects {obs : Observers ε} {id : Nat} {sh sh' : ControlShared ε}
    {h h' : Handler} {a : HandlerAction} (step : HandlerStep obs id sh h a sh' h')
    (after : (sh.machine.state ≠ .connected ∧ sh'.machine.state = .connected) ∨
      sh'.wakes ≠ sh.wakes) :
    ∃ f now, a = .lockState now ∧ h.pc = .frame f ∧
      f.messageType ∈ [.started, .heartbeat] ∧ sh.isCurrentConnection h.epoch = true ∧
      sh'.connectedBy = h.epoch := by
  cases step with
  | @startedPlain now f _ pc current type | @startedWake now f _ pc current type =>
      exact ⟨f, now, rfl, pc, by simp [type], current, rfl⟩
  | @beat now f _ pc current type =>
      rcases after with ⟨_, connected⟩ | woken
      · exact ⟨f, now, rfl, pc, by simp [type], current, if_pos connected⟩
      · exact absurd rfl woken
  | ticked pc current same =>
      rcases after with ⟨before, connected⟩ | woken
      · exact absurd (same ▸ connected) before
      · exact absurd rfl woken
  | @missed now pc current changed =>
      rcases after with ⟨before, connected⟩ | woken
      · rcases sh.machine.tick_cases now with ⟨_, same⟩ | ⟨_, _, missed⟩
        · exact absurd (by rw [same]) changed
        · simp [missed] at connected
      · exact absurd rfl woken
  | suspended pc current moves =>
      obtain ⟨_, _, rfl⟩ := StateMachine.peerSuspended_ok moves
      rcases after with ⟨_, connected⟩ | woken
      · cases connected
      · exact absurd rfl woken
  | stopBegun pc current moves =>
      obtain ⟨_, rfl⟩ := StateMachine.beginStop_ok moves
      rcases after with ⟨_, connected⟩ | woken
      · cases connected
      · exact absurd rfl woken
  | stopped | peerFailed | deadlineFailed | abandoned =>
      rcases after with ⟨_, connected⟩ | woken
      · cases connected
      · exact absurd rfl woken
  | lost =>
      rcases after with ⟨_, connected⟩ | woken
      · exact absurd connected (StateMachine.transportLost_not_connected _ _)
      · exact absurd rfl woken
  | observed pc seen | finished pc seen =>
      obtain ⟨_, _, _, _, rfl⟩ := observe_cases seen
      rcases after with ⟨before, connected⟩ | woken
      · exact absurd connected before
      · exact absurd rfl woken
  | _ =>
      rcases after with ⟨before, connected⟩ | woken
      · exact absurd connected before
      · exact absurd rfl woken

theorem CallStep.cancelled_mono {obs : Observers ε} {id : Nat} {sh sh' : ControlShared ε}
    {r r' : Call} {a : CallAction} (step : CallStep obs id sh r a sh' r') (k : Nat)
    (told : sh.cancelled k = true) : sh'.cancelled k = true := by
  cases step with
  | signalled => exact sh.cancelActive_mono told
  | observed pc seen =>
      obtain ⟨_, _, _, _, rfl⟩ := observe_cases seen
      exact told
  | locked | degraded => exact told

/-- Where a reset stands: signalled, or with its degradation behind it. -/
def CallPc.degraded : CallPc → Bool
  | .observing _ | .returned _ => true
  | _ => false

/-- A reset with mark `mark` has signalled the connection that was active then,
and once it has degraded the lifecycle that connection stays disarmed. -/
structure Barrier (c : ControlConfig ε) (mark : Nat) (degraded : Bool) : Prop where
  past : mark ≤ c.shared.connectionGeneration
  told : ∀ slot, c.shared.active = some slot → slot.epoch ≤ mark →
    c.shared.cancelled slot.cancel = true
  disarmed : degraded = true → ∀ slot h, c.shared.active = some slot → slot.epoch ≤ mark →
    c.task slot.cancel = .handler h → h.pc.armed = false

/-- Call `k` has its barrier once it is marked. -/
def Guarded (c : ControlConfig ε) (k : Nat) : Prop :=
  ∀ r mark, c.task k = .call r → r.mark = some mark → Barrier c mark r.pc.degraded

namespace Barrier
variable {obs : Observers ε} {c : ControlConfig ε} {i mark : Nat} {degraded : Bool}
  {sh : ControlShared ε}

/-- A step that moves neither the slot nor a signal, by a task that does not
become an armed handler. -/
theorem of_same (inv : Barrier c mark degraded) {t : ControlTask}
    (unarmed : ∀ h, t = .handler h → h.pc.armed = false)
    (generation : sh.connectionGeneration = c.shared.connectionGeneration)
    (slot : sh.active = c.shared.active)
    (signals : ∀ k, c.shared.cancelled k = true → sh.cancelled k = true) :
    Barrier (⟨sh, Function.update c.task i t⟩ : ControlConfig ε) mark degraded where
  past := generation.symm ▸ inv.past
  told := by
    intro a held old
    exact signals _ (inv.told a (slot ▸ held) old)
  disarmed := by
    intro done a h held old owner
    rcases handler_update.mp owner with ⟨_, same⟩ | ⟨_, other⟩
    · exact unarmed h same
    · exact inv.disarmed done a h (slot ▸ held) old other

theorem handler_step (inv : Barrier c mark degraded) {h h' : Handler} {a : HandlerAction}
    (own : c.task i = .handler h) (step : HandlerStep obs i c.shared h a sh h') :
    Barrier (⟨sh, Function.update c.task i (.handler h')⟩ : ControlConfig ε) mark degraded := by
  have past := inv.past
  rcases step.lane with ⟨_, generation, slot, _⟩ | ⟨generation, _, slot⟩
  · -- The slot now names a younger connection than the reset knew.
    have young : ∀ b, sh.active = some b → ¬ b.epoch ≤ mark := by
      intro b held old
      cases slot.symm.trans held
      dsimp only at old
      omega
    refine ⟨?_, fun b held old => absurd old (young b held),
      fun _ b _ held old => absurd old (young b held)⟩
    show mark ≤ sh.connectionGeneration
    omega
  · have before : ∀ b, sh.active = some b → c.shared.active = some b := by
      intro b held
      rcases slot with same | ⟨gone, _⟩
      · exact same ▸ held
      · simp [gone] at held
    refine ⟨generation.symm ▸ past, ?_, ?_⟩
    · intro b held old
      exact step.cancelled_mono (inv.told b (before b held) old)
    · intro done b g held old owner
      have told := inv.told b (before b held) old
      rcases handler_update.mp owner with ⟨mine, same⟩ | ⟨_, other⟩
      · cases same
        rw [mine] at told
        refine step.disarmed told ?_
        exact inv.disarmed done b h (before b held) old (mine ▸ own)
      · exact inv.disarmed done b g (before b held) old other

theorem step (inv : Barrier c mark degraded) {action : ControlAction} {t : ControlTask}
    (taken : ControlStep obs i c.shared action (c.task i) sh t) :
    Barrier (⟨sh, Function.update c.task i t⟩ : ControlConfig ε) mark degraded := by
  generalize own : c.task i = task at taken
  cases taken with
  | accept =>
      refine inv.of_same ?_ rfl rfl fun _ told => told
      rintro _ same
      cases same
      rfl
  | transportLost | resetTransport | requestStop =>
      exact inv.of_same (by simp) rfl rfl fun _ told => told
  | handler step => exact inv.handler_step own step
  | call step => exact inv.of_same (by simp) step.lane.1 step.lane.2 step.cancelled_mono
  | request step => cases step <;> exact inv.of_same (by simp) rfl rfl fun _ told => told

/-- Behind the barrier only a younger connection can act on a STARTED or
HEARTBEAT. -/
theorem young (inv : Barrier c mark true) (epochs : Epochs c) {h : Handler} {f : Frame}
    (own : c.task i = .handler h) (current : c.shared.isCurrentConnection h.epoch = true)
    (pc : h.pc = .frame f) (type : f.messageType ∈ [.started, .heartbeat]) :
    mark < h.epoch := by
  by_contra old
  have slot := (epochs.slot_of_current own current).1
  have unarmed := inv.disarmed rfl _ h slot (by simpa using old) own
  simp only [pc, HandlerPc.armed, type, decide_true] at unarmed
  cases unarmed

end Barrier

namespace Guarded
variable {obs : Observers ε} {c : ControlConfig ε} {i k : Nat} {sh : ControlShared ε}

/-- The acting call: its own barrier after its step. -/
theorem own_call_step (inv : Guarded c i) {r r' : Call} {a : CallAction} {mark : Nat}
    (own : c.task i = .call r) (barred : Barred c (i, .call a))
    (step : CallStep obs i c.shared r a sh r') (marked : r'.mark = some mark) :
    Barrier (⟨sh, Function.update c.task i (.call r')⟩ : ControlConfig ε) mark
      r'.pc.degraded := by
  have taken : ControlStep obs i c.shared (.call a) (c.task i) sh (.call r') := own ▸ .call step
  cases step with
  | signalled pc =>
      cases marked
      refine ⟨Nat.le_refl _, ?_, by simp [CallPc.degraded]⟩
      intro slot held _
      exact ControlShared.cancelActive_slot held
  | locked pc | observed pc =>
      have before := inv r mark own marked
      rw [pc] at before
      exact before.step taken
  | degraded pc =>
      have before := inv r mark own marked
      refine ⟨before.past, before.told, ?_⟩
      intro _ slot h held old owner
      rcases handler_update.mp owner with ⟨_, same⟩ | ⟨_, other⟩
      · cases same
      · have held : c.shared.active = some slot := held
        have marked : r.mark = some mark := marked
        simpa [Barred, degradesArmed, own, marked, held, other, old, ControlTask.armed]
          using barred

theorem step (inv : Guarded c k) {action : ControlAction} {t : ControlTask}
    (barred : i = k → Barred c (i, action))
    (taken : ControlStep obs i c.shared action (c.task i) sh t) :
    Guarded (⟨sh, Function.update c.task i t⟩ : ControlConfig ε) k := by
  intro r mark own' marked
  by_cases mine : i = k
  · subst mine
    have same : t = .call r := by simpa using own'
    subst same
    generalize own : c.task i = task at taken
    cases taken with
    | transportLost | resetTransport => cases marked
    | call step => exact inv.own_call_step own (barred rfl) step marked
  · exact (inv r mark (by simpa [Ne.symm mine] using own') marked).step taken

theorem of_reachable {session : SessionId} {env : ε}
    (h : (controlSystem obs session env).Reachable Barred c) : Guarded c k := by
  refine h.invariant (I := fun c => Guarded c k) (fun _ _ own => by cases own) ?_
  rintro c ⟨i, action⟩ c' inv barred taken
  obtain ⟨sh, t, step, rfl⟩ := controlSystem_step taken
  exact inv.step (fun _ => barred) step

end Guarded

section
variable {obs : Observers ε} {session : SessionId} {env : ε} {c c' : ControlConfig ε}

/-- In every run in which no reset degrades the lifecycle while the handler it
signalled is past its cancellation check, once a reset has returned the lifecycle
becomes Connected, or the wake observer is called, only by a STARTED or HEARTBEAT
of the current connection, and that connection's HELLO was accepted after the
reset signalled. -/
theorem reset_transport_barrier {i k mark : Nat} {action : ControlAction} {r : Call}
    {snapshot : StateSnapshot}
    (reached : (controlSystem obs session env).Reachable Barred c)
    (own : c.task k = .call r) (returned : r.pc = .returned snapshot)
    (marked : r.mark = some mark)
    (taken : (controlSystem obs session env).step (i, action) c = some c')
    (connects : (c.shared.machine.state ≠ .connected ∧
        c'.shared.machine.state = .connected) ∨ c'.shared.wakes ≠ c.shared.wakes) :
    ∃ h f now, c.task i = .handler h ∧ action = .handler (.lockState now) ∧
      h.pc = .frame f ∧ f.messageType ∈ [.started, .heartbeat] ∧
      c.shared.isCurrentConnection h.epoch = true ∧ mark < h.epoch := by
  have barrier := Guarded.of_reachable reached r mark own marked
  have epochs := Epochs.of_reachable reached
  obtain ⟨sh, t, step, rfl⟩ := controlSystem_step taken
  dsimp only at connects
  generalize acting : c.task i = task at step
  cases step with
  | accept | transportLost | resetTransport | requestStop =>
      rcases connects with ⟨before, after⟩ | woken
      · exact absurd after before
      · exact absurd rfl woken
  | @handler _ h _ _ step =>
      obtain ⟨f, now, rfl, pc, type, current, _⟩ := step.connects connects
      rw [returned] at barrier
      exact ⟨h, f, now, rfl, rfl, pc, type, current,
        barrier.young epochs acting current pc type⟩
  | call step =>
      cases step with
      | degraded =>
          rcases connects with ⟨_, after⟩ | woken
          · exact absurd after (StateMachine.transportLost_not_connected _ _)
          · exact absurd rfl woken
      | observed pc seen =>
          obtain ⟨_, _, _, _, rfl⟩ := observe_cases seen
          rcases connects with ⟨before, after⟩ | woken
          · exact absurd after before
          · exact absurd rfl woken
      | signalled | locked =>
          rcases connects with ⟨before, after⟩ | woken
          · exact absurd after before
          · exact absurd rfl woken
  | request step =>
      cases step <;>
        (rcases connects with ⟨before, after⟩ | woken
         · exact absurd after before
         · exact absurd rfl woken)

end

namespace Schedule

/-- A whole `reset_transport` call, as task `k`. -/
def reset (k : Nat) : List (Nat × ControlAction) :=
  [(k, .resetTransport "reset"), (k, .call .signal), (k, .call .lockPublication),
    (k, .call .lockState), (k, .call .observe)]

/-- Handler 0 has a HEARTBEAT in hand when the reset runs. -/
def resetPastCheck : List (Nat × ControlAction) :=
  connect 0 ++ started 0 ++
    run 0 [.pollCancel, .receive (some (.ok (frame .heartbeat (List.replicate 16 0))))] ++ reset 1

/-- A reset, and a new connection with STARTED in hand. -/
def resetThenStarted : List (Nat × ControlAction) :=
  connect 0 ++ started 0 ++ reset 1 ++ connect 2 ++
    run 2 [.pollCancel, .receive (some (.ok (frame .started [])))]

end Schedule

open Schedule in
/-- The old connection does connect after the reset returned. -/
theorem reset_transport_overrun :
    ∃ c c' r h, (controlSystem .silent session ()).Reachable Free c ∧
      c.task 1 = .call r ∧ (∃ snapshot, r.pc = .returned snapshot) ∧ r.mark = some 1 ∧
      c.task 0 = .handler h ∧ h.epoch = 1 ∧ c.shared.machine.state = .degraded ∧
      (controlSystem .silent session ()).step (0, .handler (.lockState 0)) c = some c' ∧
      c'.shared.machine.state = .connected :=
  ⟨_, _, _, _, System.reachable_of_replay resetPastCheck rfl, rfl, ⟨_, rfl⟩, rfl, rfl, rfl,
    rfl, rfl, rfl⟩

open Schedule in
/-- A connection greeted after the reset does connect. -/
theorem reset_transport_barrier_reconnect :
    ∃ c c' h, (controlSystem .silent session ()).Reachable Barred c ∧
      (controlSystem .silent session ()).step (2, .handler (.lockState 0)) c = some c' ∧
      c'.shared.machine.state = .connected ∧ c.task 2 = .handler h ∧ 1 < h.epoch := by
  obtain ⟨c, c', r, snapshot, reached, own, returned, marked, taken, before, after⟩ :
      ∃ c c' r snapshot, (controlSystem .silent session ()).Reachable Barred c ∧
        c.task 1 = .call r ∧ r.pc = .returned snapshot ∧ r.mark = some 1 ∧
        (controlSystem .silent session ()).step (2, .handler (.lockState 0)) c = some c' ∧
        c.shared.machine.state ≠ .connected ∧ c'.shared.machine.state = .connected :=
    ⟨_, _, _, _, System.reachable_of_replay resetThenStarted rfl, rfl, rfl, rfl, rfl,
      by decide, rfl⟩
  obtain ⟨h, _, _, own', _, _, _, _, young⟩ :=
    reset_transport_barrier reached own returned marked taken (Or.inl ⟨before, after⟩)
  exact ⟨c, c', h, reached, taken, after, own', young⟩

end QuestVdWired.Host
