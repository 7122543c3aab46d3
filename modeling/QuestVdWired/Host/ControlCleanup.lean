import QuestVdWired.Host.ControlSupersession
import QuestVdWired.Host.ControlStop

/-!
Cleanup. The event loop of a handler ends in a critical section that vacates the
slot of the active connection, clears the metrics and moves the lifecycle out of
Connected and Stopping, and a publication follows. Whenever no handler runs any
more, all of this has happened, provided that no handler of the current
connection left by `?`, which returns past the cleanup.
-/

namespace QuestVdWired.Host

open Transition

variable {ε : Type}

/-- The step leaves `handle` by `?` on the current connection. -/
def leavesCurrent (c : ControlConfig ε) (a : Nat × ControlAction) : Bool :=
  match a.2, c.task a.1 with
  | .handler action, .handler h =>
      h.escapes c.shared action && c.shared.isCurrentConnection h.epoch
  | _, _ => false

def Cleaned (c : ControlConfig ε) (a : Nat × ControlAction) : Prop := leavesCurrent c a = false

instance (c : ControlConfig ε) (a : Nat × ControlAction) : Decidable (Cleaned c a) :=
  inferInstanceAs (Decidable (_ = _))

def AfterPublish.finishes : AfterPublish → Bool
  | .finish _ => true
  | _ => false

/-- The handler is between its accepted HELLO and its cleanup. -/
def HandlerPc.inLoop : HandlerPc → Bool
  | .hello | .helloLock | .returned _ => false
  | .publish next | .publishing next | .observing next => !next.finishes
  | _ => true

/-- The handler is on its way to publish what the machine holds. -/
def HandlerPc.owes : HandlerPc → Bool
  | .publish _ | .publishing _ => true
  | _ => false

/-- The snapshot an observer is about to be handed, or else the last one. -/
def ControlShared.latest (sh : ControlShared ε) : StateSnapshot :=
  (sh.publication.bind Publication.snapshot).getD sh.observed

/-- The machine knows the session while it can accept frames of it. -/
def ControlShared.Sessioned (sh : ControlShared ε) : Prop :=
  sh.machine.sessionId = some sh.session ∨ sh.machine.state ∈ [.stopped, .error, .stopping]

theorem StateMachine.tick_sessionId (m : StateMachine) (now : Instant) :
    (m.tick now).sessionId = m.sessionId := by
  rcases m.tick_cases now with ⟨_, same⟩ | ⟨_, _, missed⟩
  · rw [same]
  · rw [missed]

theorem StateMachine.transportLost_sessionId (m : StateMachine) (reason : String) :
    (m.transportLost reason).sessionId = m.sessionId := by
  rcases m.transportLost_cases reason with ⟨_, moved⟩ | ⟨_, same⟩
  · rw [moved]
  · rw [same]

theorem StateMachine.transportLost_quiet {m : StateMachine} {reason : String}
    (quiet : m.state ∈ [.stopped, .error, .stopping]) : m.transportLost reason = m := by
  rcases m.transportLost_cases reason with ⟨live, _⟩ | ⟨_, same⟩
  · simp only [List.mem_cons, List.not_mem_nil, or_false] at quiet live
    rcases quiet with h | h | h <;> simp [h] at live
  · exact same

theorem StateMachine.transportLost_stopping {m : StateMachine} {reason : String}
    (after : (m.transportLost reason).state = .stopping) : m.state = .stopping := by
  rcases m.transportLost_cases reason with ⟨_, moved⟩ | ⟨_, same⟩
  · simp [moved] at after
  · rwa [same] at after

theorem sessioned_transportLost {sh : ControlShared ε} {reason : String}
    (inv : sh.Sessioned) :
    (sh.machine.transportLost reason).sessionId = some sh.session ∨
      (sh.machine.transportLost reason).state ∈ [.stopped, .error, .stopping] := by
  refine inv.imp (fun known => ?_) fun quiet => ?_
  · rw [StateMachine.transportLost_sessionId, known]
  · rwa [StateMachine.transportLost_quiet quiet]

theorem HandlerStep.sessioned {obs : Observers ε} {id : Nat} {sh sh' : ControlShared ε}
    {h h' : Handler} {a : HandlerAction} (step : HandlerStep obs id sh h a sh' h')
    (ready : h.Ready sh.session) (inv : sh.Sessioned) : sh'.Sessioned := by
  have checked : ∀ f, h.pc = .frame f → f.sessionId = sh.session :=
    fun f pc => (ready.checked f pc).1
  unfold ControlShared.Sessioned at inv ⊢
  cases step with
  | @ticked now pc current same =>
      refine inv.imp (fun known => ?_) fun quiet => ?_
      · exact (sh.machine.tick_sessionId now).trans known
      · exact same.symm ▸ quiet
  | @missed now pc current changed =>
      rcases sh.machine.tick_cases now with ⟨_, same⟩ | ⟨connected, _, _⟩
      · exact absurd (by rw [same]) changed
      · refine inv.imp (fun known => ?_) fun quiet => ?_
        · exact (sh.machine.tick_sessionId now).trans known
        · simp [connected] at quiet
  | startedPlain pc current type moves | startedWake pc current type moves =>
      obtain ⟨known, _, rfl⟩ := StateMachine.peerStarted_ok moves
      exact Or.inl (known.trans (congrArg some (checked _ pc)))
  | beat pc current type moves =>
      obtain ⟨known, ⟨_, _, rfl⟩ | ⟨_, rfl⟩⟩ := StateMachine.heartbeat_ok moves <;>
        exact Or.inl (known.trans (congrArg some (checked _ pc)))
  | suspended pc current moves =>
      obtain ⟨known, _, rfl⟩ := StateMachine.peerSuspended_ok moves
      exact Or.inl (known.trans (congrArg some (checked _ pc)))
  | stopBegun pc current moves =>
      obtain ⟨_, rfl⟩ := StateMachine.beginStop_ok moves
      exact Or.inr (by simp)
  | stopped | peerFailed | deadlineFailed | abandoned =>
      exact Or.inr (by simp [ControlShared.reply, StateMachine.fail, StateMachine.new])
  | lost => exact sessioned_transportLost inv
  | observed pc seen | finished pc seen =>
      obtain ⟨_, _, _, _, rfl⟩ := observe_cases seen
      exact inv
  | _ => exact inv

/-- Every return by `?` is one that `escapes` foresees. -/
theorem HandlerStep.escapes_of {sh : ControlShared ε} {h : Handler} {a : HandlerAction}
    (ready : h.Ready sh.session) (sessioned : sh.Sessioned)
    (how : h.escapes sh a = true ∨ ∃ f now, a = .lockState now ∧ h.pc = .frame f ∧
      f.messageType ∈ [.started, .heartbeat, .suspend] ∧ sh.machine.state ≠ .stopping ∧
      sh.machine.sessionId ≠ some f.sessionId) : h.escapes sh a = true := by
  rcases how with escapes | ⟨f, now, rfl, pc, type, busy, unknown⟩
  · exact escapes
  · rw [(ready.checked f pc).1] at unknown
    have quiet := sessioned.resolve_left unknown
    simp only [Handler.escapes, pc]
    simp only [List.mem_cons, List.not_mem_nil, or_false] at type quiet
    rcases type with type | type | type <;> rcases quiet with state | state | state <;>
      simp_all [StateMachine.refuses]

/-- A step of the current handler either stays in the event loop, and keeps the
stop pending while the lifecycle is Stopping, or is its cleanup. -/
theorem HandlerStep.current_step {obs : Observers ε} {id : Nat} {sh sh' : ControlShared ε}
    {h h' : Handler} {a : HandlerAction} (step : HandlerStep obs id sh h a sh' h')
    (ready : h.Ready sh.session) (sessioned : sh.Sessioned)
    (current : sh.isCurrentConnection h.epoch = true) (inLoop : h.pc.inLoop = true)
    (stays : h.escapes sh a = false)
    (stop : sh.machine.state = .stopping →
      h.pendingStop.isPending = true ∨ h.pc = .deadline) :
    (sh'.active = none ∧ sh'.android = none ∧ sh'.machine.state ≠ .connected ∧
        sh'.machine.state ≠ .stopping ∧ h'.pc.owes = true) ∨
      (sh'.active = sh.active ∧ h'.pc.inLoop = true ∧
        (sh'.machine.state = .stopping →
          h'.pendingStop.isPending = true ∨ h'.pc = .deadline)) := by
  cases step with
  | rejected pc | greeted pc | refused pc | accepted pc | finished pc =>
      rw [pc] at inLoop
      cases inLoop
  | escaped how =>
      rw [HandlerStep.escapes_of ready sessioned how] at stays
      cases stays
  | released pc stale =>
      rw [stale] at current
      cases current
  | abandoned => exact Or.inl ⟨rfl, rfl, by simp [ControlShared.reply, StateMachine.fail],
      by simp [ControlShared.reply, StateMachine.fail], rfl⟩
  | lost pc _ idle =>
      refine Or.inl ⟨rfl, rfl, StateMachine.transportLost_not_connected _ _, ?_, rfl⟩
      intro stopping
      rcases stop (StateMachine.transportLost_stopping stopping) with pending | deadline
      · rw [idle] at pending
        cases pending
      · rw [pc] at deadline
        cases deadline
  | moved quiet =>
      refine Or.inr ⟨rfl, ?_, fun stopping => ?_⟩
      · cases quiet <;> rfl
      · refine (stop stopping).imp_right fun deadline => ?_
        cases quiet <;> simp_all
  | @missed now pc _ changed =>
      refine Or.inr ⟨rfl, rfl, fun stopping => ?_⟩
      rcases sh.machine.tick_cases now with ⟨_, same⟩ | ⟨_, _, missed⟩
      · exact absurd (by rw [same]) changed
      · simp [missed] at stopping
  | ticked pc _ same =>
      refine Or.inr ⟨rfl, rfl, fun stopping => ?_⟩
      exact Or.inl ((stop (same ▸ stopping)).resolve_right (by simp [pc]))
  | startedPlain pc _ type moves | startedWake pc _ type moves =>
      obtain ⟨_, _, rfl⟩ := StateMachine.peerStarted_ok moves
      exact Or.inr ⟨rfl, rfl, by simp⟩
  | beat pc _ type moves =>
      obtain ⟨_, ⟨degraded, _, rfl⟩ | ⟨_, rfl⟩⟩ := StateMachine.heartbeat_ok moves
      · exact Or.inr ⟨rfl, rfl, by simp [degraded]⟩
      · exact Or.inr ⟨rfl, rfl, by simp⟩
  | suspended pc _ moves =>
      obtain ⟨_, _, rfl⟩ := StateMachine.peerSuspended_ok moves
      exact Or.inr ⟨rfl, rfl, by simp⟩
  | stopped => exact Or.inr ⟨rfl, rfl, by simp [ControlShared.reply, StateMachine.new]⟩
  | peerFailed | deadlineFailed => exact Or.inr ⟨rfl, rfl, by simp [StateMachine.fail]⟩
  | stopBegun => exact Or.inr ⟨rfl, rfl, fun _ => Or.inl rfl⟩
  | deadlineFired => exact Or.inr ⟨rfl, rfl, fun _ => Or.inr rfl⟩
  | observed pc seen onward =>
      obtain ⟨_, _, _, _, rfl⟩ := observe_cases seen
      refine Or.inr ⟨rfl, ?_, fun stopping => ?_⟩
      · simp only [List.mem_cons, List.not_mem_nil, or_false] at onward
        rcases onward with rfl | rfl | rfl | rfl | rfl <;> rfl
      · exact Or.inl ((stop stopping).resolve_right (by simp [pc]))
  | publicationLocked pc | snapshotTaken pc =>
      rw [pc] at inLoop
      refine Or.inr ⟨rfl, inLoop, fun stopping => ?_⟩
      exact Or.inl ((stop stopping).resolve_right (by simp [pc]))
  | _ =>
      refine Or.inr ⟨rfl, rfl, fun stopping => ?_⟩
      exact Or.inl ((stop stopping).resolve_right (by simp [‹h.pc = _›]))

/-- A step takes a snapshot of the machine, or leaves the latest one in place and
with it the duty to take one. -/
theorem HandlerStep.latest {obs : Observers ε} {id : Nat} {sh sh' : ControlShared ε}
    {h h' : Handler} {a : HandlerAction} (step : HandlerStep obs id sh h a sh' h') :
    (sh'.latest = sh'.machine.snapshot) ∨
      (sh'.latest = sh.latest ∧ (h.pc.owes = true → h'.pc.owes = true)) := by
  cases step with
  | snapshotTaken => exact Or.inl rfl
  | publicationLocked pc free =>
      refine Or.inr ⟨?_, fun _ => rfl⟩
      simp [ControlShared.latest, free]
  | observed pc seen | finished pc seen =>
      obtain ⟨_, _, _, held, rfl⟩ := observe_cases seen
      refine Or.inr ⟨?_, by simp [pc, HandlerPc.owes]⟩
      simp [ControlShared.latest, held, Handler.ret, ControlShared.reply]
  | moved quiet =>
      refine Or.inr ⟨rfl, ?_⟩
      cases quiet <;> simp_all [HandlerPc.owes]
  | escaped how pc =>
      refine Or.inr ⟨rfl, ?_⟩
      rcases pc with ⟨_, _, pc⟩ | pc | ⟨_, pc, _⟩ <;> simp [pc, HandlerPc.owes]
  | _ => exact Or.inr ⟨rfl, by simp [‹h.pc = _›, HandlerPc.owes]⟩

theorem HandlerStep.at_helloLock {obs : Observers ε} {id : Nat} {sh sh' : ControlShared ε}
    {h h' : Handler} {a : HandlerAction} (step : HandlerStep obs id sh h a sh' h')
    (pc : h.pc = .helloLock) :
    sh'.machine = sh.machine ∧
      ((sh'.active = sh.active ∧ sh'.android = sh.android) ∨
        (sh.machine.state ≠ .stopping ∧ sh'.android = none ∧ h'.pc.inLoop = true ∧
          sh'.active = some ⟨sh.connectionGeneration + 1, id⟩)) := by
  cases step with
  | refused => exact ⟨rfl, Or.inl ⟨rfl, rfl⟩⟩
  | accepted _ ready => exact ⟨rfl, Or.inr ⟨ready, rfl, rfl, rfl⟩⟩
  | moved quiet => cases quiet <;> simp_all
  | escaped how place => simp [pc] at place
  | _ => cases pc.symm.trans ‹h.pc = _›

theorem HandlerStep.at_deadline {obs : Observers ε} {id : Nat} {sh sh' : ControlShared ε}
    {h h' : Handler} {a : HandlerAction} (step : HandlerStep obs id sh h a sh' h')
    (pc : h.pc = .deadline) :
    sh'.machine.state = .error ∧ sh'.active = sh.active ∧ sh'.android = sh.android ∧
      h'.pc.owes = true := by
  obtain ⟨rfl, rfl⟩ := step.of_deadline pc
  exact ⟨rfl, rfl, rfl, rfl⟩

/-- What the server keeps while no handler leaves by `?`. -/
structure Tidy (c : ControlConfig ε) : Prop where
  epochs : Epochs c
  custody : Custody c
  sessioned : c.shared.Sessioned
  live : ∀ a h, c.shared.active = some a → c.task a.cancel = .handler h → h.pc.inLoop = true
  connected : c.shared.machine.state = .connected → c.shared.active.isSome = true
  stopping : c.shared.machine.state = .stopping →
    ∃ a h, c.shared.active = some a ∧ c.task a.cancel = .handler h ∧
      (h.pendingStop.isPending = true ∨ h.pc = .deadline)
  android : c.shared.android ≠ none → c.shared.active.isSome = true
  told : c.shared.active.isSome = true ∨
    (∃ i h, c.task i = .handler h ∧ h.pc.owes = true) ∨
    (c.shared.latest.state = c.shared.machine.state ∧
      c.shared.latest.reason = c.shared.machine.reason)

namespace Tidy
variable {obs : Observers ε} {c : ControlConfig ε} {i : Nat} {sh : ControlShared ε}

theorem initial (session : SessionId) (env : ε) :
    Tidy (⟨.initial obs session env, fun _ => .vacant⟩ : ControlConfig ε) where
  epochs := Epochs.initial session env
  custody := Custody.initial session env
  sessioned := Or.inl rfl
  live := by simp
  connected := by
    intro connected
    cases connected
  stopping := by
    intro stopping
    cases stopping
  android := by simp [ControlShared.initial]
  told := Or.inr (Or.inr ⟨rfl, rfl⟩)

theorem slot_other (inv : Tidy c) {h : Handler} (own : c.task i = .handler h)
    (stale : c.shared.isCurrentConnection h.epoch = false) {a : ActiveConnection}
    (held : c.shared.active = some a) : a.cancel ≠ i := by
  rintro rfl
  obtain ⟨_, _, g, owner, same⟩ := inv.epochs.active a held
  cases own.symm.trans owner
  simp [ControlShared.isCurrentConnection, held, same] at stale

/-- A step that leaves slot, machine and metrics alone, by a task that is not
the one the slot names. -/
theorem of_bystander (inv : Tidy c) {t : ControlTask}
    (epochs : Epochs (⟨sh, Function.update c.task i t⟩ : ControlConfig ε))
    (custody : Custody (⟨sh, Function.update c.task i t⟩ : ControlConfig ε))
    (session : sh.session = c.shared.session)
    (other : ∀ a, c.shared.active = some a → a.cancel ≠ i)
    (active : sh.active = c.shared.active) (machine : sh.machine = c.shared.machine)
    (android : sh.android = c.shared.android)
    (latest : (sh.latest.state = sh.machine.state ∧ sh.latest.reason = sh.machine.reason) ∨
      sh.latest = c.shared.latest ∧
        ∀ h, c.task i = .handler h → h.pc.owes = true →
          ∃ h', t = .handler h' ∧ h'.pc.owes = true) :
    Tidy (⟨sh, Function.update c.task i t⟩ : ControlConfig ε) where
  epochs := epochs
  custody := custody
  sessioned := by
    have before := inv.sessioned
    unfold ControlShared.Sessioned at before ⊢
    rwa [machine, session]
  live := by
    intro a h held owner
    rw [active] at held
    exact inv.live a h held (by simpa [other a held] using owner)
  connected := by
    rw [machine, active]
    exact inv.connected
  stopping := by
    rw [machine, active]
    intro stopping
    obtain ⟨a, h, held, owner, pending⟩ := inv.stopping stopping
    exact ⟨a, h, held, by simpa [other a held] using owner, pending⟩
  android := by
    rw [android, active]
    exact inv.android
  told := by
    rcases inv.told with held | ⟨k, g, owner, owes⟩ | same
    · exact Or.inl (active ▸ held)
    · refine Or.inr ?_
      rcases latest with taken | ⟨_, keeps⟩
      · exact Or.inr taken
      · refine Or.inl ?_
        by_cases mine : k = i
        · subst mine
          obtain ⟨h', rfl, owes'⟩ := keeps g owner owes
          exact ⟨k, h', by simp, owes'⟩
        · exact ⟨k, g, by simpa [mine] using owner, owes⟩
    · refine Or.inr (Or.inr ?_)
      rcases latest with taken | ⟨kept, _⟩
      · exact taken
      · rw [kept, machine]
        exact same

theorem current_handler_step (inv : Tidy c) {h h' : Handler} {a : HandlerAction}
    (own : c.task i = .handler h) (step : HandlerStep obs i c.shared h a sh h')
    (epochs : Epochs (⟨sh, Function.update c.task i (.handler h')⟩ : ControlConfig ε))
    (custody : Custody (⟨sh, Function.update c.task i (.handler h')⟩ : ControlConfig ε))
    (current : c.shared.isCurrentConnection h.epoch = true)
    (stays : h.escapes c.shared a = false) :
    Tidy (⟨sh, Function.update c.task i (.handler h')⟩ : ControlConfig ε) := by
  have slot := (inv.epochs.slot_of_current own current).1
  have ready := inv.custody.ready i h own
  have stop : c.shared.machine.state = .stopping →
      h.pendingStop.isPending = true ∨ h.pc = .deadline := by
    intro stopping
    obtain ⟨b, g, held, owner, pending⟩ := inv.stopping stopping
    cases slot.symm.trans held
    cases own.symm.trans owner
    exact pending
  have sessioned := step.sessioned ready inv.sessioned
  rcases step.current_step ready inv.sessioned current (inv.live _ h slot own) stays stop with
    ⟨active, android, left, stopped, owes⟩ | ⟨active, inLoop, pending⟩
  · exact {
      epochs := epochs
      custody := custody
      sessioned := sessioned
      live := by simp [active]
      connected := fun connected => absurd connected left
      stopping := fun stopping => absurd stopping stopped
      android := fun present => absurd android present
      told := Or.inr (Or.inl ⟨i, h', by simp, owes⟩) }
  · have held : sh.active = some ⟨h.epoch, i⟩ := active.trans slot
    exact {
      epochs := epochs
      custody := custody
      sessioned := sessioned
      live := by
        intro b g held' owner
        cases held.symm.trans held'
        have same : h' = g := by simpa using owner
        exact same ▸ inLoop
      connected := fun _ => by simp [held]
      stopping := fun stopping => ⟨_, h', held, by simp, pending stopping⟩
      android := fun _ => by simp [held]
      told := Or.inl (by simp [held]) }

theorem stale_handler_step (inv : Tidy c) {h h' : Handler} {a : HandlerAction}
    (own : c.task i = .handler h) (step : HandlerStep obs i c.shared h a sh h')
    (epochs : Epochs (⟨sh, Function.update c.task i (.handler h')⟩ : ControlConfig ε))
    (custody : Custody (⟨sh, Function.update c.task i (.handler h')⟩ : ControlConfig ε))
    (serialized : Serialized c)
    (stale : c.shared.isCurrentConnection h.epoch = false) :
    Tidy (⟨sh, Function.update c.task i (.handler h')⟩ : ControlConfig ε) := by
  have sessioned := step.sessioned (inv.custody.ready i h own) inv.sessioned
  have other := fun b held => inv.slot_other own stale (a := b) held
  have latest : (sh.latest.state = sh.machine.state ∧ sh.latest.reason = sh.machine.reason) ∨
      sh.latest = c.shared.latest ∧ ∀ g, c.task i = .handler g → g.pc.owes = true →
        ∃ g', ControlTask.handler h' = .handler g' ∧ g'.pc.owes = true := by
    refine step.latest.imp (fun taken => by simp [taken]) fun ⟨kept, owes⟩ => ⟨kept, ?_⟩
    intro g own' owed
    cases own.symm.trans own'
    exact ⟨h', rfl, owes owed⟩
  by_cases hello : h.pc = .helloLock
  · obtain ⟨machine, ⟨active, android⟩ | ⟨ready, android, inLoop, active⟩⟩ :=
      step.at_helloLock hello
    · exact inv.of_bystander epochs custody step.session other active machine android latest
    · exact {
        epochs := epochs
        custody := custody
        sessioned := sessioned
        live := by
          intro b g held owner
          cases active.symm.trans held
          have same : h' = g := by simpa using owner
          exact same ▸ inLoop
        connected := fun _ => by simp [active]
        stopping := fun stopping => absurd (machine ▸ stopping) ready
        android := fun present => absurd android present
        told := Or.inl (by simp [active]) }
  · by_cases deadline : h.pc = .deadline
    · obtain ⟨error, active, android, owes⟩ := step.at_deadline deadline
      exact {
        epochs := epochs
        custody := custody
        sessioned := sessioned
        live := by
          intro b g held owner
          have held : c.shared.active = some b := active ▸ held
          exact inv.live b g held (by simpa [other b held] using owner)
        connected := fun connected => by simp [error] at connected
        stopping := fun stopping => by simp [error] at stopping
        android := fun present => by
          rw [active]
          exact inv.android (android ▸ present)
        told := Or.inr (Or.inl ⟨i, h', by simp, owes⟩) }
    · have inert := step.inert stale hello deadline fun observing =>
        serialized.holder (by rw [own]; exact observing)
      exact inv.of_bystander epochs custody step.session other inert.active inert.machine
        inert.android latest

theorem call_step (inv : Tidy c) {k k' : Call} {a : CallAction} (own : c.task i = .call k)
    (step : CallStep obs i c.shared k a sh k')
    (epochs : Epochs (⟨sh, Function.update c.task i (.call k')⟩ : ControlConfig ε))
    (custody : Custody (⟨sh, Function.update c.task i (.call k')⟩ : ControlConfig ε)) :
    Tidy (⟨sh, Function.update c.task i (.call k')⟩ : ControlConfig ε) := by
  have other : ∀ b, c.shared.active = some b → b.cancel ≠ i := by
    rintro b held rfl
    obtain ⟨_, _, g, owner, _⟩ := inv.epochs.active b held
    cases own.symm.trans owner
  cases step with
  | degraded pc =>
      -- The degradation and the snapshot of it are one step.
      have stopping : (c.shared.machine.transportLost k.reason).state = .stopping →
          c.shared.machine.state = .stopping := StateMachine.transportLost_stopping
      exact {
        epochs := epochs
        custody := custody
        sessioned := sessioned_transportLost inv.sessioned
        live := by
          intro b g held owner
          exact inv.live b g held (by simpa [other b held] using owner)
        connected := fun connected =>
          absurd connected (c.shared.machine.transportLost_not_connected k.reason)
        stopping := fun after => by
          obtain ⟨b, g, held, owner, pending⟩ := inv.stopping (stopping after)
          exact ⟨b, g, held, by simpa [other b held] using owner, pending⟩
        android := inv.android
        told := Or.inr (Or.inr ⟨rfl, rfl⟩) }
  | signalled pc =>
      exact inv.of_bystander epochs custody rfl other rfl rfl rfl
        (Or.inr ⟨rfl, by simp [own]⟩)
  | locked pc free =>
      refine inv.of_bystander epochs custody rfl other rfl rfl rfl (Or.inr ⟨?_, by simp [own]⟩)
      simp [ControlShared.latest, free]
  | observed pc seen =>
      obtain ⟨_, _, _, held, rfl⟩ := observe_cases seen
      refine inv.of_bystander epochs custody rfl other rfl rfl rfl (Or.inr ⟨?_, by simp [own]⟩)
      simp [ControlShared.latest, held]

theorem step (inv : Tidy c) (serialized : Serialized c) {action : ControlAction}
    {t : ControlTask} (cleaned : Cleaned c (i, action))
    (taken : ControlStep obs i c.shared action (c.task i) sh t) :
    Tidy (⟨sh, Function.update c.task i t⟩ : ControlConfig ε) := by
  have epochs := inv.epochs.step taken
  have custody := inv.custody.step taken
  have session := (inv.custody.ready_step taken).1
  have free : (∀ h, c.task i ≠ .handler h) → ∀ b, c.shared.active = some b → b.cancel ≠ i := by
    rintro idle b held rfl
    obtain ⟨_, _, g, owner, _⟩ := inv.epochs.active b held
    exact idle g owner
  generalize own : c.task i = task at taken
  cases taken with
  | accept | transportLost | resetTransport | requestStop =>
      exact inv.of_bystander epochs custody rfl (free (by simp [own])) rfl rfl rfl
        (Or.inr ⟨rfl, by simp [own]⟩)
  | @handler a h h' _ step =>
      cases current : c.shared.isCurrentConnection h.epoch with
      | true =>
          have stays : h.escapes c.shared a = false := by
            simpa [Cleaned, leavesCurrent, own, current] using cleaned
          exact inv.current_handler_step own step epochs custody current stays
      | false => exact inv.stale_handler_step own step epochs custody serialized current
  | call step => exact inv.call_step own step epochs custody
  | request step =>
      cases step <;>
        exact inv.of_bystander epochs custody rfl (free (by simp [own])) rfl rfl rfl
          (Or.inr ⟨rfl, by simp [own]⟩)

theorem of_reachable {session : SessionId} {env : ε}
    (h : (controlSystem obs session env).Reachable Cleaned c) : Tidy c := by
  refine (h.invariant (I := fun c => Tidy c ∧ Serialized c)
    ⟨initial session env, Serialized.initial session env⟩ ?_).1
  rintro c ⟨i, action⟩ c' ⟨inv, serialized⟩ cleaned taken
  obtain ⟨sh, t, step, rfl⟩ := controlSystem_step taken
  exact ⟨inv.step serialized cleaned step, serialized.step step⟩

end Tidy

/-- No `handle` task runs any more. -/
def Quiesced (c : ControlConfig ε) : Prop :=
  ∀ i h, c.task i = .handler h → ∃ result, h.pc = .returned result

/-- The property of a cleaned-up server. Between the degradation and the observer
call of a `ControlHandle` the latest snapshot is still on its way. -/
structure CleanedUp (c : ControlConfig ε) : Prop where
  connected : c.shared.machine.state ≠ .connected
  stopping : c.shared.machine.state ≠ .stopping
  active : c.shared.active = none
  android : c.shared.android = none
  observed : (∀ i k, c.task i = .call k → k.pc.phase = none) →
    c.shared.observed.state = c.shared.machine.state ∧
      c.shared.observed.reason = c.shared.machine.reason

theorem Tidy.cleanedUp {c : ControlConfig ε} (inv : Tidy c) (serialized : Serialized c)
    (quiet : Quiesced c) : CleanedUp c := by
  have vacant : c.shared.active = none := by
    cases held : c.shared.active with
    | none => rfl
    | some a =>
        obtain ⟨_, _, h, owner, _⟩ := inv.epochs.active a held
        have inLoop := inv.live a h held owner
        obtain ⟨result, pc⟩ := quiet a.cancel h owner
        rw [pc] at inLoop
        cases inLoop
  constructor
  · intro connected
    simpa [vacant] using inv.connected connected
  · intro stopping
    obtain ⟨a, _, held, _⟩ := inv.stopping stopping
    simp [vacant] at held
  · exact vacant
  · by_contra present
    simpa [vacant] using inv.android present
  · intro idle
    -- Nobody is inside a publication, so the latest snapshot is the observed one.
    have free : c.shared.publication = none := by
      cases held : c.shared.publication with
      | none => rfl
      | some p =>
          have holder := serialized p.holder
          simp only [ControlShared.phase, held, Option.bind_some, if_true] at holder
          cases task : c.task p.holder with
          | vacant | request r => simp [task, ControlTask.phase] at holder
          | handler h =>
              obtain ⟨result, pc⟩ := quiet _ h task
              simp [task, ControlTask.phase, pc, HandlerPc.phase] at holder
          | call k => simp [task, ControlTask.phase, idle _ k task] at holder
    rcases inv.told with held | ⟨i, h, owner, owes⟩ | same
    · simp [vacant] at held
    · obtain ⟨result, pc⟩ := quiet i h owner
      simp [pc, HandlerPc.owes] at owes
    · simpa [ControlShared.latest, free] using same

section
variable {obs : Observers ε} {session : SessionId} {env : ε} {c : ControlConfig ε}

/-- The three steps by which a connection gets its HELLO accepted. -/
def greet (k : Nat) (hello : Frame) (now : Instant) : List (Nat × ControlAction) :=
  [(k, .accept), (k, .handler (.readHello (.ok hello))), (k, .handler (.lockState now))]

theorem greeted_of_ready (ready : c.shared.machine.state ≠ .stopping) {k : Nat}
    (vacant : c.task k = .vacant) {hello : Frame} (now : Instant)
    (known : hello.sessionId = c.shared.session) (type : hello.messageType = .hello) :
    ∃ d h, (controlSystem obs session env).Path Cleaned c (greet k hello now) d ∧
      d.task k = .handler h ∧ h.pc = .write .helloAck .loop ∧
      d.shared.active = some ⟨h.epoch, k⟩ := by
  let c₁ : ControlConfig ε := ⟨c.shared, Function.update c.task k (.handler .spawned)⟩
  let waiting : Handler := Handler.spawned.goto .helloLock
  let c₂ : ControlConfig ε := ⟨c.shared, Function.update c₁.task k (.handler waiting)⟩
  have accepted : (controlSystem obs session env).step (k, .accept) c = some c₁ := by
    simp [Tasks.system, controlTasks, controlStep, vacant, c₁]
  have own₁ : c₁.task k = .handler .spawned := by simp [c₁]
  have read : (controlSystem obs session env).step
      (k, .handler (.readHello (.ok hello))) c₁ = some c₂ := by
    refine controlSystem_handler own₁ ?_
    simp [Handler.step, Handler.spawned, Handler.readHello, known, type, c₁, waiting]
  have own₂ : c₂.task k = .handler waiting := by simp [c₂]
  obtain ⟨sh, h, entered, pc, slot⟩ : ∃ sh h,
      waiting.step obs k c₂.shared (.lockState now) = some (sh, h) ∧
        h.pc = .write .helloAck .loop ∧ sh.active = some ⟨h.epoch, k⟩ :=
    ⟨_, _, congrArg some (if_neg ready), rfl, rfl⟩
  have locked := @controlSystem_handler _ obs session env k _ c₂ _ _ _ own₂ entered
  refine ⟨_, h, .cons ?_ accepted (.cons ?_ read (.cons ?_ locked .nil)), by simp, pc, slot⟩
  · simp [Cleaned, leavesCurrent]
  · simp [Cleaned, leavesCurrent, own₁, Handler.escapes]
  · simp [Cleaned, leavesCurrent, own₂, Handler.escapes, waiting, Handler.goto]

/-- In every run in which no handler of the current connection leaves by `?`, a
state without running handlers is cleaned up, and the next connection of the
session gets its HELLO accepted. -/
theorem control_cleanup (reached : (controlSystem obs session env).Reachable Cleaned c)
    (quiet : Quiesced c) :
    CleanedUp c ∧
      ∀ k hello now, c.task k = .vacant → hello.sessionId = session →
        hello.messageType = .hello →
        ∃ d h, (controlSystem obs session env).Path Cleaned c (greet k hello now) d ∧
          d.task k = .handler h ∧ h.pc = .write .helloAck .loop ∧
          d.shared.active = some ⟨h.epoch, k⟩ := by
  have cleanedUp := (Tidy.of_reachable reached).cleanedUp (Serialized.of_reachable reached) quiet
  refine ⟨cleanedUp, fun k hello now vacant known type => ?_⟩
  have session := session_of_reachable reached
  exact greeted_of_ready cleanedUp.stopping vacant now (known.trans session.symm) type

end

namespace Schedule

/-- A connection whose peer closes after STARTED: a full cleanup. -/
def closedByPeer : List (Nat × ControlAction) :=
  connect 0 ++ started 0 ++ run 0 [.pollCancel, .receive none, .lockState 0] ++ publish 0

/-- The write of STOP fails after the lifecycle became Stopping. -/
def failedStopWrite : List (Nat × ControlAction) :=
  connect 0 ++ started 0 ++ beginStop 0 1 100 ++ run 0 [.write (some (.io .connectionReset))]

end Schedule

/-- Only the tasks of a schedule can run handlers after it. -/
theorem quiesced_of_schedule {obs : Observers ε} {session : SessionId} {env : ε}
    {ok : ControlConfig ε → Nat × ControlAction → Prop} {c : ControlConfig ε}
    {acts : List (Nat × ControlAction)}
    (path : (controlSystem obs session env).Path ok (controlSystem obs session env).init acts c)
    (returned : ∀ i ∈ acts.map Prod.fst, ∀ h, c.task i = .handler h →
      ∃ result, h.pc = .returned result) : Quiesced c := by
  intro i h own
  by_cases member : i ∈ acts.map Prod.fst
  · exact returned i member h own
  · have untouched := Tasks.task_of_untouched path member
    cases own.symm.trans untouched

open Schedule in
/-- A connection closed by its peer leaves a cleaned-up server. -/
theorem control_cleanup_closed :
    ∃ c, (controlSystem .silent session ()).Reachable Cleaned c ∧ Quiesced c ∧
      c.shared.connectionGeneration = 1 ∧ c.shared.machine.state = .degraded ∧
      CleanedUp c := by
  obtain ⟨c, path, generation, state, returned⟩ :
      ∃ c, (controlSystem .silent session ()).Path Cleaned
          (controlSystem .silent session ()).init closedByPeer c ∧
        c.shared.connectionGeneration = 1 ∧ c.shared.machine.state = .degraded ∧
        ∃ h, c.task 0 = .handler h ∧ h.pc = .returned (.ok ()) :=
    ⟨_, System.path_of_replay rfl, rfl, rfl, _, rfl, rfl⟩
  have quiet : Quiesced c := by
    refine quiesced_of_schedule path fun i member h own => ?_
    obtain ⟨g, own', pc⟩ := returned
    have zero : i = 0 := by
      have all : ∀ j ∈ closedByPeer.map Prod.fst, j = 0 := by decide
      exact all i member
    subst zero
    cases own.symm.trans own'
    exact ⟨_, pc⟩
  exact ⟨c, ⟨_, path⟩, quiet, generation, state, (control_cleanup ⟨_, path⟩ quiet).1⟩

open Schedule in
/-- A failed write of STOP skips the cleanup: no handler runs, the lifecycle stays
Stopping, the slot stays taken, and the next HELLO is refused. -/
theorem control_cleanup_skipped :
    ∃ c, (controlSystem .silent session ()).Reachable Free c ∧ Quiesced c ∧
      c.shared.machine.state = .stopping ∧ c.shared.active = some ⟨1, 0⟩ ∧ ¬ CleanedUp c ∧
      ∃ d h, (controlSystem .silent session ()).Path Free c
          (greet 2 (frame .hello []) 0) d ∧
        d.task 2 = .handler h ∧ h.pc = .returned (.error .replacementDuringStop) := by
  obtain ⟨c, path, state, slot, first, second, next⟩ :
      ∃ c, (controlSystem .silent session ()).Path Free
          (controlSystem .silent session ()).init failedStopWrite c ∧
        c.shared.machine.state = .stopping ∧ c.shared.active = some ⟨1, 0⟩ ∧
        (∃ h result, c.task 0 = .handler h ∧ h.pc = .returned result) ∧
        (∃ r, c.task 1 = .request r) ∧
        ∃ d h, (controlSystem .silent session ()).Path Free c
            (greet 2 (frame .hello []) 0) d ∧
          d.task 2 = .handler h ∧ h.pc = .returned (.error .replacementDuringStop) :=
    ⟨_, System.path_of_replay rfl, rfl, rfl, ⟨_, _, rfl, rfl⟩, ⟨_, rfl⟩,
      _, _, System.path_of_replay rfl, rfl, rfl⟩
  have quiet : Quiesced c := by
    refine quiesced_of_schedule path fun i member h own => ?_
    have both : ∀ j ∈ failedStopWrite.map Prod.fst, j = 0 ∨ j = 1 := by decide
    rcases both i member with rfl | rfl
    · obtain ⟨g, result, own', pc⟩ := first
      cases own.symm.trans own'
      exact ⟨result, pc⟩
    · obtain ⟨r, own'⟩ := second
      cases own.symm.trans own'
  exact ⟨c, ⟨_, path⟩, quiet, state, slot, fun cleaned => cleaned.stopping state, next⟩

end QuestVdWired.Host
