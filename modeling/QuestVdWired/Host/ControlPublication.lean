import QuestVdWired.Host.ControlEpochs

/-!
The publication mutex. Exactly the task the mutex names is between acquiring and
releasing it, and it holds a snapshot exactly once it waits to call the state
observer. Publications are thereby serialised, and what an observer sees last is
what was read last from the state machine.
-/

namespace QuestVdWired.Host

open Transition

variable {ε : Type}

/-- The phase of the publication a task is in: `false` before the snapshot,
`true` after it. -/
def HandlerPc.phase : HandlerPc → Option Bool
  | .publishing _ => some false
  | .observing _ => some true
  | _ => none

def CallPc.phase : CallPc → Option Bool
  | .lock => some false
  | .observing _ => some true
  | _ => none

def ControlTask.phase : ControlTask → Option Bool
  | .handler h => h.pc.phase
  | .call c => c.pc.phase
  | _ => none

/-- The phase the mutex attributes to a task. -/
def ControlShared.phase (sh : ControlShared ε) (i : Nat) : Option Bool :=
  sh.publication.bind fun p => if p.holder = i then some p.snapshot.isSome else none

theorem observe_cases {obs : Observers ε} {sh sh' : ControlShared ε}
    (seen : Handler.observe obs sh = some sh') :
    ∃ holder snapshot author, sh.publication = some ⟨holder, some snapshot, author⟩ ∧
      sh' = { sh with
        publication := none
        env := obs.state snapshot sh.env
        observed := snapshot
        reportedBy := if snapshot.state = .connected then author else sh.reportedBy } := by
  unfold Handler.observe at seen
  split at seen
  · rename_i holder snapshot author held
    cases seen
    exact ⟨holder, snapshot, author, held, rfl⟩
  · cases seen

/-- What a step does to the publication mutex. -/
inductive PublicationStep (id : Nat) (sh sh' : ControlShared ε) :
    Option Bool → Option Bool → Prop
  | untouched (same : sh'.publication = sh.publication) : PublicationStep id sh sh' none none
  | locked (free : sh.publication = none) (held : sh'.publication = some ⟨id, none, 0⟩) :
      PublicationStep id sh sh' none (some false)
  | taken
      (held : sh'.publication = some ⟨id, some sh'.machine.snapshot, sh'.connectedBy⟩) :
      PublicationStep id sh sh' (some false) (some true)
  | released (free : sh'.publication = none) : PublicationStep id sh sh' (some true) none

theorem HandlerStep.publication {obs : Observers ε} {id : Nat} {sh sh' : ControlShared ε}
    {h h' : Handler} {a : HandlerAction} (step : HandlerStep obs id sh h a sh' h') :
    PublicationStep id sh sh' h.pc.phase h'.pc.phase := by
  cases step with
  | moved quiet => cases quiet <;> (rw [‹h.pc = _›]; exact .untouched rfl)
  | escaped how pc =>
      rcases pc with ⟨_, _, pc⟩ | pc | ⟨_, pc, _⟩ <;> (rw [pc]; exact .untouched rfl)
  | publicationLocked pc free =>
      rw [pc]
      exact .locked free rfl
  | snapshotTaken pc =>
      rw [pc]
      exact .taken rfl
  | observed pc seen onward =>
      obtain ⟨_, _, _, _, rfl⟩ := observe_cases seen
      rw [pc]
      simp only [List.mem_cons, List.not_mem_nil, or_false] at onward
      rcases onward with rfl | rfl | rfl | rfl | rfl <;> exact .released rfl
  | finished pc seen =>
      obtain ⟨_, _, _, _, rfl⟩ := observe_cases seen
      rw [pc]
      exact .released rfl
  | _ =>
      rw [‹h.pc = _›]
      exact .untouched rfl

theorem CallStep.publication {obs : Observers ε} {id : Nat} {sh sh' : ControlShared ε}
    {c c' : Call} {a : CallAction} (step : CallStep obs id sh c a sh' c') :
    PublicationStep id sh sh' c.pc.phase c'.pc.phase := by
  cases step with
  | signalled pc =>
      rw [pc]
      exact .untouched rfl
  | locked pc free =>
      rw [pc]
      exact .locked free rfl
  | degraded pc =>
      rw [pc]
      exact .taken rfl
  | observed pc seen =>
      obtain ⟨_, _, _, _, rfl⟩ := observe_cases seen
      rw [pc]
      exact .released rfl

theorem RequestStep.publication {id : Nat} {sh sh' : ControlShared ε} {r r' : Request}
    {a : RequestAction} (step : RequestStep id sh r a sh' r') :
    PublicationStep id sh sh' none none := by
  cases step <;> exact .untouched rfl

theorem ControlStep.publication {obs : Observers ε} {id : Nat} {sh sh' : ControlShared ε}
    {t t' : ControlTask} {action : ControlAction}
    (step : ControlStep obs id sh action t sh' t') :
    PublicationStep id sh sh' t.phase t'.phase := by
  cases step with
  | accept | transportLost | resetTransport | requestStop => exact .untouched rfl
  | handler step => exact step.publication
  | call step => exact step.publication
  | request step => exact step.publication

def Serialized (c : ControlConfig ε) : Prop := ∀ i, (c.task i).phase = c.shared.phase i

namespace Serialized
variable {obs : Observers ε} {c : ControlConfig ε} {i : Nat} {sh : ControlShared ε}

theorem initial (session : SessionId) (env : ε) :
    Serialized (⟨.initial obs session env, fun _ => .vacant⟩ : ControlConfig ε) :=
  fun _ => rfl

theorem other_idle (inv : Serialized c) {phase : Bool} (mine : (c.task i).phase = some phase)
    {k : Nat} (other : k ≠ i) : (c.task k).phase = none := by
  rw [inv i] at mine
  rw [inv k]
  unfold ControlShared.phase at mine ⊢
  cases held : c.shared.publication with
  | none => rfl
  | some p =>
      simp only [held, Option.bind_some] at mine ⊢
      split at mine
      · rename_i holder
        rw [holder, if_neg (Ne.symm other)]
      · cases mine

theorem publicationStep (inv : Serialized c) {t : ControlTask} {p q : Option Bool}
    (before : (c.task i).phase = p) (after : t.phase = q)
    (step : PublicationStep i c.shared sh p q) :
    Serialized (⟨sh, Function.update c.task i t⟩ : ControlConfig ε) := by
  intro k
  by_cases mine : k = i
  · subst mine
    simp only [Function.update_self, after]
    cases step with
    | untouched same =>
        have idle := inv k
        rw [before] at idle
        rw [idle, ControlShared.phase, ControlShared.phase, same]
    | locked free held | taken held => simp [ControlShared.phase, held]
    | released free => simp [ControlShared.phase, free]
  · simp only [Function.update_of_ne mine]
    cases step with
    | untouched same => rw [ControlShared.phase, same, inv k, ControlShared.phase]
    | locked free held => simp [inv k, ControlShared.phase, free, held, Ne.symm mine]
    | taken held =>
        simp [inv.other_idle before mine, ControlShared.phase, held, Ne.symm mine]
    | released free => simp [inv.other_idle before mine, ControlShared.phase, free]

theorem step (inv : Serialized c) {action : ControlAction} {t : ControlTask}
    (taken : ControlStep obs i c.shared action (c.task i) sh t) :
    Serialized (⟨sh, Function.update c.task i t⟩ : ControlConfig ε) :=
  inv.publicationStep rfl rfl taken.publication

theorem of_reachable {session : SessionId} {env : ε}
    {ok : ControlConfig ε → Nat × ControlAction → Prop}
    (h : (controlSystem obs session env).Reachable ok c) : Serialized c := by
  refine h.invariant (initial session env) ?_
  rintro c ⟨i, action⟩ c' inv _ taken
  obtain ⟨sh, t, step, rfl⟩ := controlSystem_step taken
  exact inv.step step

/-- A task about to call the observer finds its own publication. -/
theorem holder (inv : Serialized c) (mine : (c.task i).phase = some true) :
    ∃ snapshot author, c.shared.publication = some ⟨i, some snapshot, author⟩ := by
  rw [inv i] at mine
  unfold ControlShared.phase at mine
  obtain ⟨⟨holder, snapshot, author⟩, held, named⟩ := Option.bind_eq_some_iff.mp mine
  split at named
  · rename_i same
    obtain ⟨s, rfl⟩ := Option.isSome_iff_exists.mp (Option.some.inj named)
    exact ⟨s, author, same ▸ held⟩
  · cases named

end Serialized
end QuestVdWired.Host
