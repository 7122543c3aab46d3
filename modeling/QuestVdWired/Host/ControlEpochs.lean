import QuestVdWired.Host.ControlSteps

/-!
Connection epochs. The slot of the active connection always names the newest
accepted HELLO, by its epoch and by the handler that accepted it, and no two
handlers share an epoch. A handler therefore passes the current-connection check
only while it is the one the slot names.
-/

namespace QuestVdWired.Host

open Transition

variable {ε : Type}

/-- A handler is in the session it greeted for: past an accepted HELLO and not
returned. -/
def HandlerPc.greeted : HandlerPc → Bool
  | .hello | .helloLock | .returned _ => false
  | _ => true

/-- What a step does to the slot of the active connection and to the epochs. -/
theorem HandlerStep.lane {obs : Observers ε} {id : Nat} {sh sh' : ControlShared ε}
    {h h' : Handler} {a : HandlerAction} (step : HandlerStep obs id sh h a sh' h') :
    (h.pc = .helloLock ∧ sh'.connectionGeneration = sh.connectionGeneration + 1 ∧
        sh'.active = some ⟨sh.connectionGeneration + 1, id⟩ ∧
        h'.epoch = sh.connectionGeneration + 1 ∧ h'.pc = .write .helloAck .loop) ∨
      (sh'.connectionGeneration = sh.connectionGeneration ∧ h'.epoch = h.epoch ∧
        (sh'.active = sh.active ∨
          sh'.active = none ∧ sh.isCurrentConnection h.epoch = true)) := by
  cases step with
  | accepted pc ready => exact Or.inl ⟨pc, rfl, rfl, rfl, rfl⟩
  | abandoned pc current | lost pc current =>
      exact Or.inr ⟨rfl, rfl, Or.inr ⟨rfl, current⟩⟩
  | observed pc seen | finished pc seen =>
      refine Or.inr ?_
      unfold Handler.observe at seen
      split at seen
      · cases seen
        exact ⟨rfl, rfl, Or.inl rfl⟩
      · cases seen
  | _ => exact Or.inr ⟨rfl, rfl, Or.inl rfl⟩

theorem HandlerStep.was_greeted {obs : Observers ε} {id : Nat} {sh sh' : ControlShared ε}
    {h h' : Handler} {a : HandlerAction} (step : HandlerStep obs id sh h a sh' h')
    (after : h'.pc.greeted = true) :
    h.pc.greeted = true ∨ h'.epoch = sh.connectionGeneration + 1 := by
  cases step with
  | accepted => exact Or.inr rfl
  | moved quiet => cases quiet <;> simp_all [HandlerPc.greeted]
  | _ => simp_all [HandlerPc.greeted, Handler.ret, Handler.goto]

theorem HandlerStep.greeting {obs : Observers ε} {id : Nat} {sh sh' : ControlShared ε}
    {h h' : Handler} {a : HandlerAction} (step : HandlerStep obs id sh h a sh' h')
    (after : h'.pc = .hello ∨ h'.pc = .helloLock) :
    h.pc = .hello ∧ h'.epoch = h.epoch ∧ h'.pendingStop = h.pendingStop := by
  cases step with
  | greeted pc => exact ⟨pc, rfl, rfl⟩
  | moved quiet =>
      cases quiet <;> simp_all
  | observed pc seen onward =>
      simp only [Handler.goto] at after
      simp only [List.mem_cons, List.not_mem_nil, or_false] at onward
      rcases onward with rfl | rfl | rfl | rfl | rfl <;> simp_all
  | _ => simp_all [Handler.ret, Handler.goto]

theorem CallStep.lane {obs : Observers ε} {id : Nat} {sh sh' : ControlShared ε}
    {c c' : Call} {a : CallAction} (step : CallStep obs id sh c a sh' c') :
    sh'.connectionGeneration = sh.connectionGeneration ∧ sh'.active = sh.active := by
  cases step with
  | observed pc seen =>
      unfold Handler.observe at seen
      split at seen
      · cases seen
        exact ⟨rfl, rfl⟩
      · cases seen
  | _ => exact ⟨rfl, rfl⟩

theorem RequestStep.lane {id : Nat} {sh sh' : ControlShared ε} {r r' : Request}
    {a : RequestAction} (step : RequestStep id sh r a sh' r') :
    sh'.connectionGeneration = sh.connectionGeneration ∧ sh'.active = sh.active := by
  cases step <;> exact ⟨rfl, rfl⟩

/-- The handlers among the tasks after task `i` moved. -/
theorem handler_update {task : Nat → ControlTask} {i k : Nat} {t : ControlTask}
    {h : Handler} :
    Function.update task i t k = .handler h ↔
      (k = i ∧ t = .handler h) ∨ (k ≠ i ∧ task k = .handler h) := by
  by_cases same : k = i
  · subst same
    simp
  · simp [same]

structure Epochs (c : ControlConfig ε) : Prop where
  active : ∀ a, c.shared.active = some a →
    a.epoch = c.shared.connectionGeneration ∧ 0 < a.epoch ∧
      ∃ h, c.task a.cancel = .handler h ∧ h.epoch = a.epoch
  bound : ∀ i h, c.task i = .handler h → h.epoch ≤ c.shared.connectionGeneration
  fresh : ∀ i h, c.task i = .handler h → h.pc = .hello ∨ h.pc = .helloLock →
    h.epoch = 0 ∧ h.pendingStop = .empty
  greeted : ∀ i h, c.task i = .handler h → h.pc.greeted = true → 0 < h.epoch
  unique : ∀ i j h k, c.task i = .handler h → c.task j = .handler k →
    h.epoch = k.epoch → 0 < h.epoch → i = j

namespace Epochs
variable {obs : Observers ε} {c : ControlConfig ε} {i : Nat} {sh : ControlShared ε}

theorem initial (session : SessionId) (env : ε) :
    Epochs (⟨.initial obs session env, fun _ => .vacant⟩ : ControlConfig ε) := by
  constructor <;> simp [ControlShared.initial]

/-- A task that is no handler and becomes none leaves the epochs alone. -/
theorem of_same (inv : Epochs c) {t : ControlTask}
    (before : ∀ h, c.task i ≠ .handler h) (after : ∀ h, t ≠ .handler h)
    (generation : sh.connectionGeneration = c.shared.connectionGeneration)
    (slot : sh.active = c.shared.active) :
    Epochs (⟨sh, Function.update c.task i t⟩ : ControlConfig ε) := by
  have still : ∀ k h, Function.update c.task i t k = .handler h ↔ c.task k = .handler h := by
    intro k h
    rw [handler_update]
    constructor
    · rintro (⟨_, same⟩ | ⟨_, same⟩)
      · exact absurd same (after h)
      · exact same
    · intro same
      refine Or.inr ⟨?_, same⟩
      rintro rfl
      exact before h same
  constructor
  · intro a held
    simp only [still, generation]
    exact inv.active a (slot ▸ held)
  · intro k h
    simp only [still, generation]
    exact inv.bound k h
  · intro k h
    simp only [still]
    exact inv.fresh k h
  · intro k h
    simp only [still]
    exact inv.greeted k h
  · intro k l h g
    simp only [still]
    exact inv.unique k l h g

theorem slot_of_current (inv : Epochs c) {h : Handler} (own : c.task i = .handler h)
    (current : c.shared.isCurrentConnection h.epoch = true) :
    c.shared.active = some ⟨h.epoch, i⟩ ∧ h.epoch = c.shared.connectionGeneration := by
  simp only [ControlShared.isCurrentConnection, decide_eq_true_eq] at current
  obtain ⟨⟨epoch, cancel⟩, held, same⟩ := Option.map_eq_some_iff.mp current
  obtain ⟨newest, positive, g, owner, sameEpoch⟩ := inv.active _ held
  dsimp only at same newest positive owner sameEpoch
  have named : cancel = i :=
    inv.unique cancel i g h owner own (sameEpoch.trans same) (sameEpoch ▸ positive)
  subst named same
  exact ⟨held, newest⟩

theorem not_current_of_superseded (inv : Epochs c) {epoch : Nat}
    (old : epoch < c.shared.connectionGeneration) :
    c.shared.isCurrentConnection epoch = false := by
  simp only [ControlShared.isCurrentConnection, decide_eq_false_iff_not]
  intro current
  obtain ⟨a, held, same⟩ := Option.map_eq_some_iff.mp current
  have newest := (inv.active a held).1
  omega

theorem handler_step (inv : Epochs c) {h h' : Handler} {a : HandlerAction}
    (own : c.task i = .handler h) (step : HandlerStep obs i c.shared h a sh h') :
    Epochs (⟨sh, Function.update c.task i (.handler h')⟩ : ControlConfig ε) := by
  have bound := inv.bound i h own
  have known : ∀ k g, Function.update c.task i (.handler h') k = .handler g →
      (k = i ∧ g = h') ∨ (k ≠ i ∧ c.task k = .handler g) := by
    intro k g at_k
    rcases handler_update.mp at_k with ⟨rfl, same⟩ | other
    · cases same
      exact Or.inl ⟨rfl, rfl⟩
    · exact Or.inr other
  have fresh : h'.pc = .hello ∨ h'.pc = .helloLock → h'.epoch = 0 ∧ h'.pendingStop = .empty := by
    intro after
    obtain ⟨pc, epoch, pending⟩ := step.greeting after
    rw [epoch, pending]
    exact inv.fresh i h own (Or.inl pc)
  rcases step.lane with ⟨_, generation, slot, epoch, pc⟩ | ⟨generation, epoch, slot⟩
  · -- An accepted HELLO: its epoch is above every epoch in use.
    constructor
    · intro a held
      cases slot.symm.trans held
      refine ⟨generation.symm, Nat.succ_pos _, h', by simp, epoch⟩
    · intro k g at_k
      rcases known k g at_k with ⟨_, rfl⟩ | ⟨_, other⟩
      · exact Nat.le_of_eq (epoch.trans generation.symm)
      · have := inv.bound k g other
        show g.epoch ≤ sh.connectionGeneration
        omega
    · intro k g at_k before
      rcases known k g at_k with ⟨_, rfl⟩ | ⟨_, other⟩
      · exact fresh before
      · exact inv.fresh k g other before
    · intro k g at_k after
      rcases known k g at_k with ⟨_, rfl⟩ | ⟨_, other⟩
      · omega
      · exact inv.greeted k g other after
    · intro k l g g' at_k at_l same positive
      rcases known k g at_k with ⟨rfl, rfl⟩ | ⟨_, other⟩ <;>
        rcases known l g' at_l with ⟨rfl, rfl⟩ | ⟨_, other'⟩
      · rfl
      · have := inv.bound l g' other'
        omega
      · have := inv.bound k g other
        omega
      · exact inv.unique k l g g' other other' same positive
  · constructor
    · intro a held
      have before : c.shared.active = some a := by
        rcases slot with same | ⟨gone, _⟩
        · exact same ▸ held
        · simp [gone] at held
      obtain ⟨newest, positive, g, owner, sameEpoch⟩ := inv.active a before
      refine ⟨newest.trans generation.symm, positive, ?_⟩
      by_cases mine : a.cancel = i
      · rw [mine] at owner ⊢
        cases own.symm.trans owner
        exact ⟨h', by simp, epoch.trans sameEpoch⟩
      · exact ⟨g, by simpa [mine] using owner, sameEpoch⟩
    · intro k g at_k
      rcases known k g at_k with ⟨_, rfl⟩ | ⟨_, other⟩
      · exact (generation ▸ epoch ▸ bound : g.epoch ≤ sh.connectionGeneration)
      · exact Nat.le_trans (inv.bound k g other) (Nat.le_of_eq generation.symm)
    · intro k g at_k before
      rcases known k g at_k with ⟨_, rfl⟩ | ⟨_, other⟩
      · exact fresh before
      · exact inv.fresh k g other before
    · intro k g at_k after
      rcases known k g at_k with ⟨_, rfl⟩ | ⟨_, other⟩
      · rcases step.was_greeted after with before | raised
        · exact epoch ▸ inv.greeted i h own before
        · omega
      · exact inv.greeted k g other after
    · intro k l g g' at_k at_l same positive
      have lift : ∀ m e, Function.update c.task i (.handler h') m = .handler e →
          ∃ e', c.task m = .handler e' ∧ e'.epoch = e.epoch := by
        intro m e at_m
        rcases known m e at_m with ⟨rfl, rfl⟩ | ⟨_, other⟩
        · exact ⟨h, own, epoch.symm⟩
        · exact ⟨e, other, rfl⟩
      obtain ⟨e, at_k, e_same⟩ := lift k g at_k
      obtain ⟨e', at_l, e'_same⟩ := lift l g' at_l
      exact inv.unique k l e e' at_k at_l (by omega) (by omega)

theorem accept_step (inv : Epochs c) (vacant : c.task i = .vacant) :
    Epochs (⟨c.shared, Function.update c.task i (.handler .spawned)⟩ : ControlConfig ε) := by
  have known : ∀ k g, Function.update c.task i (.handler .spawned) k = .handler g →
      g = .spawned ∨ (k ≠ i ∧ c.task k = .handler g) := by
    intro k g at_k
    rcases handler_update.mp at_k with ⟨_, same⟩ | other
    · cases same
      exact Or.inl rfl
    · exact Or.inr other
  constructor
  · intro a held
    obtain ⟨newest, positive, g, owner, same⟩ := inv.active a held
    have other : a.cancel ≠ i := by
      rintro rfl
      cases vacant.symm.trans owner
    exact ⟨newest, positive, g, by simpa [other] using owner, same⟩
  · intro k g at_k
    rcases known k g at_k with rfl | ⟨_, other⟩
    · exact Nat.zero_le _
    · exact inv.bound k g other
  · intro k g at_k before
    rcases known k g at_k with rfl | ⟨_, other⟩
    · exact ⟨rfl, rfl⟩
    · exact inv.fresh k g other before
  · intro k g at_k after
    rcases known k g at_k with rfl | ⟨_, other⟩
    · cases after
    · exact inv.greeted k g other after
  · intro k l g g' at_k at_l same positive
    rcases known k g at_k with rfl | ⟨_, other⟩
    · exact absurd positive (Nat.lt_irrefl 0)
    · rcases known l g' at_l with rfl | ⟨_, other'⟩
      · rw [same] at positive
        exact absurd positive (Nat.lt_irrefl 0)
      · exact inv.unique k l g g' other other' same positive

theorem step (inv : Epochs c) {action : ControlAction} {t : ControlTask}
    (taken : ControlStep obs i c.shared action (c.task i) sh t) :
    Epochs (⟨sh, Function.update c.task i t⟩ : ControlConfig ε) := by
  generalize own : c.task i = task at taken
  cases taken with
  | accept => exact inv.accept_step own
  | transportLost | resetTransport | requestStop =>
      exact inv.of_same (by simp [own]) (by simp) rfl rfl
  | handler step => exact inv.handler_step own step
  | call step => exact inv.of_same (by simp [own]) (by simp) step.lane.1 step.lane.2
  | request step => exact inv.of_same (by simp [own]) (by simp) step.lane.1 step.lane.2

theorem of_reachable {session : SessionId} {env : ε}
    {ok : ControlConfig ε → Nat × ControlAction → Prop}
    (h : (controlSystem obs session env).Reachable ok c) : Epochs c := by
  refine h.invariant (initial session env) ?_
  rintro c ⟨i, action⟩ c' inv _ taken
  obtain ⟨sh, t, step, rfl⟩ := controlSystem_step taken
  exact inv.step step

end Epochs
end QuestVdWired.Host
