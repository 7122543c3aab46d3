import QuestVdWired.Host.ControlPublication

/-!
Superseded connections. Once a newer HELLO was accepted, the steps of an older
handler leave the state machine, the slot of the active connection and the
metrics alone and call neither the suspend nor the wake observer. What remains
to it is its own socket, its own stop, the command lane, and the publication of
snapshots that it reads, under the publication lock, from the shared machine.

The branch of the stop deadline is the exception: it alone takes the state lock
without looking at the slot. That step leaves all but the machine alone.
-/

namespace QuestVdWired.Host

open Transition

variable {ε : Type}

/-- What a superseded handler may do to the command lane: fail its own pending
stop, take a command or refuse it at once, and refuse or put back the command it
has in hand. No reply it sends is a success. -/
inductive LaneEffect (h : Handler) (sh sh' : ControlShared ε) : Prop
  | none (queue : sh'.queue = sh.queue) (replies : sh'.replies = sh.replies)
  | failedStop (queue : sh'.queue = sh.queue) (reason : String)
      (replies : sh'.replies = sh.replies ++ h.pendingStop.settle (.error reason))
  | took (command : ControlCommand) (queue : sh.queue = command :: sh'.queue)
      (replies : sh'.replies = sh.replies)
  | refused (command : ControlCommand) (queue : sh.queue = command :: sh'.queue)
      (reason : String) (replies : sh'.replies = sh.replies ++ [(command.result, .error reason)])
  | expired (command : ControlCommand) (pc : h.pc = .requeue command)
      (queue : sh'.queue = sh.queue) (reason : String)
      (replies : sh'.replies = sh.replies ++ [(command.result, .error reason)])
  | requeued (command : ControlCommand) (pc : h.pc = .requeue command)
      (queue : sh'.queue = sh.queue ++ [command]) (replies : sh'.replies = sh.replies)

/-- What a superseded handler may do with the state observer: nothing, or hand
it the snapshot of its own publication. -/
inductive ObserverEffect (obs : Observers ε) (i : Nat) (sh sh' : ControlShared ε) : Prop
  | none (env : sh'.env = sh.env) (observed : sh'.observed = sh.observed)
      (publication : sh'.publication = sh.publication ∨
        sh.publication = Option.none ∧ sh'.publication = some ⟨i, Option.none, 0⟩ ∨
        sh'.publication = some ⟨i, some sh.machine.snapshot, sh.connectedBy⟩)
  | published (snapshot : StateSnapshot) (author : Nat)
      (publication : sh.publication = some ⟨i, some snapshot, author⟩)
      (env : sh'.env = obs.state snapshot sh.env) (observed : sh'.observed = snapshot)

structure Inert (obs : Observers ε) (i : Nat) (h : Handler) (sh sh' : ControlShared ε) :
    Prop where
  machine : sh'.machine = sh.machine
  android : sh'.android = sh.android
  active : sh'.active = sh.active
  connectionGeneration : sh'.connectionGeneration = sh.connectionGeneration
  cancelled : sh'.cancelled = sh.cancelled
  suspends : sh'.suspends = sh.suspends
  wakes : sh'.wakes = sh.wakes
  lane : LaneEffect h sh sh'
  observer : ObserverEffect obs i sh sh'

theorem Inert.of_ret {obs : Observers ε} {i : Nat} {h : Handler} {sh : ControlShared ε}
    {result : Outcome} : Inert obs i h sh (Handler.ret sh h result).1 where
  machine := rfl
  android := rfl
  active := rfl
  connectionGeneration := rfl
  cancelled := rfl
  suspends := rfl
  wakes := rfl
  lane := .failedStop rfl "control connection closed before STOPPED" rfl
  observer := .none rfl rfl (Or.inl rfl)

theorem HandlerStep.inert {obs : Observers ε} {i : Nat} {sh sh' : ControlShared ε}
    {h h' : Handler} {a : HandlerAction} (step : HandlerStep obs i sh h a sh' h')
    (stale : sh.isCurrentConnection h.epoch = false) (greeted : h.pc ≠ .helloLock)
    (deadline : h.pc ≠ .deadline)
    (holder : h.pc.phase = some true →
      ∃ snapshot author, sh.publication = some ⟨i, some snapshot, author⟩) :
    Inert obs i h sh sh' := by
  cases step with
  | rejected | refused | escaped | released => exact .of_ret
  | accepted pc => exact absurd pc greeted
  | deadlineFailed pc => exact absurd pc deadline
  | greeted | moved =>
      exact ⟨rfl, rfl, rfl, rfl, rfl, rfl, rfl, .none rfl rfl, .none rfl rfl (Or.inl rfl)⟩
  | commandRefused pc head =>
      exact ⟨rfl, rfl, rfl, rfl, rfl, rfl, rfl, .refused _ head _ rfl,
        .none rfl rfl (Or.inl rfl)⟩
  | commandTaken pc head =>
      exact ⟨rfl, rfl, rfl, rfl, rfl, rfl, rfl, .took _ head rfl, .none rfl rfl (Or.inl rfl)⟩
  | requeueExpired pc =>
      exact ⟨rfl, rfl, rfl, rfl, rfl, rfl, rfl, .expired _ pc rfl _ rfl,
        .none rfl rfl (Or.inl rfl)⟩
  | requeued pc =>
      exact ⟨rfl, rfl, rfl, rfl, rfl, rfl, rfl, .requeued _ pc rfl rfl,
        .none rfl rfl (Or.inl rfl)⟩
  | deadlineFired pc pending =>
      exact ⟨rfl, rfl, rfl, rfl, rfl, rfl, rfl, .failedStop rfl _ rfl,
        .none rfl rfl (Or.inl rfl)⟩
  | publicationLocked pc free =>
      exact ⟨rfl, rfl, rfl, rfl, rfl, rfl, rfl, .none rfl rfl,
        .none rfl rfl (Or.inr (Or.inl ⟨free, rfl⟩))⟩
  | snapshotTaken pc =>
      exact ⟨rfl, rfl, rfl, rfl, rfl, rfl, rfl, .none rfl rfl,
        .none rfl rfl (Or.inr (Or.inr rfl))⟩
  | observed pc seen | finished pc seen =>
      obtain ⟨snapshot, author, held⟩ := holder (by rw [pc]; rfl)
      obtain ⟨_, _, _, same, rfl⟩ := observe_cases seen
      cases held.symm.trans same
      first
        | exact ⟨rfl, rfl, rfl, rfl, rfl, rfl, rfl, .none rfl rfl,
            .published _ _ held rfl rfl⟩
        | exact ⟨rfl, rfl, rfl, rfl, rfl, rfl, rfl, .failedStop rfl _ rfl,
            .published _ _ held rfl rfl⟩
  | _ =>
      have current : sh.isCurrentConnection h.epoch = true := ‹_›
      rw [stale] at current
      cases current

/-- What follows an elapsed deadline, superseded or not. -/
theorem HandlerStep.of_deadline {obs : Observers ε} {i : Nat} {sh sh' : ControlShared ε}
    {h h' : Handler} {a : HandlerAction} (step : HandlerStep obs i sh h a sh' h')
    (pc : h.pc = .deadline) :
    sh' = { sh with
      machine := sh.machine.fail "explicit stop timed out; VPN state is unverified" } ∧
      h' = h.goto (.publish .loop) := by
  cases step with
  | deadlineFailed => exact ⟨rfl, rfl⟩
  | moved quiet => cases quiet <;> simp_all
  | escaped how place => simp [pc] at place
  | _ => cases pc.symm.trans ‹h.pc = _›

/-- A newer HELLO was accepted after the handler's own. -/
def Superseded (c : ControlConfig ε) (i epoch : Nat) : Prop :=
  0 < epoch ∧ epoch < c.shared.connectionGeneration ∧
    ∃ h, c.task i = .handler h ∧ h.epoch = epoch

instance (c : ControlConfig ε) (i epoch : Nat) : Decidable (Superseded c i epoch) :=
  match found : c.task i with
  | .handler h =>
      decidable_of_iff (0 < epoch ∧ epoch < c.shared.connectionGeneration ∧ h.epoch = epoch)
        (by simp [Superseded, found])
  | .vacant | .call _ | .request _ => .isFalse (by simp [Superseded, found])

section
variable {obs : Observers ε} {session : SessionId} {env : ε}

theorem ControlStep.connectionGeneration_le {i : Nat} {sh sh' : ControlShared ε}
    {t t' : ControlTask} {action : ControlAction}
    (step : ControlStep obs i sh action t sh' t') :
    sh.connectionGeneration ≤ sh'.connectionGeneration ∧
      sh'.connectionGeneration ≤ sh.connectionGeneration + 1 := by
  cases step with
  | accept | transportLost | resetTransport | requestStop =>
      exact ⟨Nat.le_refl _, Nat.le_succ _⟩
  | handler step =>
      rcases step.lane with ⟨_, raised, _⟩ | ⟨same, _⟩
      · omega
      · omega
  | call step =>
      have same := step.lane.1
      omega
  | request step =>
      have same := step.lane.1
      omega

/-- A `u64`: a run of fewer than `2 ^ 64` steps does not wrap it. -/
theorem connectionGeneration_le_length {ok : ControlConfig ε → Nat × ControlAction → Prop}
    {c : ControlConfig ε} {acts : List (Nat × ControlAction)}
    (path : (controlSystem obs session env).Path ok (controlSystem obs session env).init acts c) :
    c.shared.connectionGeneration ≤ acts.length := by
  have bound : c.shared.connectionGeneration ≤ 0 + acts.length := by
    refine path.count_le (f := fun c => c.shared.connectionGeneration) ?_
    rintro c ⟨i, action⟩ c' _ taken
    obtain ⟨sh, t, step, rfl⟩ := controlSystem_step taken
    exact step.connectionGeneration_le.2
  rwa [Nat.zero_add] at bound

theorem superseded_step {c c' : ControlConfig ε} {i epoch : Nat} (inv : Epochs c)
    (old : Superseded c i epoch) {k : Nat} {action : ControlAction}
    (taken : (controlSystem obs session env).step (k, action) c = some c') :
    Superseded c' i epoch := by
  obtain ⟨positive, below, h, own, same⟩ := old
  obtain ⟨sh, t, step, rfl⟩ := controlSystem_step taken
  refine ⟨positive, Nat.lt_of_lt_of_le below step.connectionGeneration_le.1, ?_⟩
  by_cases mine : i = k
  · subst mine
    rw [own] at step
    cases step with
    | @handler _ _ h' _ step =>
        refine ⟨h', by simp, ?_⟩
        rcases step.lane with ⟨pc, _⟩ | ⟨_, kept, _⟩
        · have := (inv.fresh i h own (Or.inr pc)).1
          omega
        · omega
  · exact ⟨h, by simpa [mine] using own, same⟩

theorem superseded_path {c d : ControlConfig ε} {i epoch : Nat} {acts : List (Nat × ControlAction)}
    (inv : Epochs c) (old : Superseded c i epoch)
    (path : (controlSystem obs session env).Path Free c acts d) : Superseded d i epoch := by
  refine (path.invariant (I := fun c => Epochs c ∧ Superseded c i epoch) ?_ ⟨inv, old⟩).2
  rintro c ⟨k, action⟩ c' ⟨inv, old⟩ _ taken
  refine ⟨?_, superseded_step inv old taken⟩
  obtain ⟨sh, t, step, rfl⟩ := controlSystem_step taken
  exact inv.step step

/-- From the moment a newer HELLO is accepted, in every continuation of every
run, each step of the older handler is inert, but for the one that follows an
elapsed stop deadline, which leaves all but the machine alone. -/
theorem superseded_handler_inert {c d d' : ControlConfig ε} (i epoch : Nat)
    {acts : List (Nat × ControlAction)} (action : ControlAction)
    (reached : (controlSystem obs session env).Reachable Free c)
    (old : Superseded c i epoch) (run : (controlSystem obs session env).Path Free c acts d)
    (taken : (controlSystem obs session env).step (i, action) d = some d') :
    ∃ h, d.task i = .handler h ∧ h.epoch = epoch ∧
      (h.pc ≠ .deadline → Inert obs i h d.shared d'.shared) ∧
      (h.pc = .deadline → ∃ machine, d'.shared = { d.shared with machine := machine }) := by
  have reached_d := reached.extend run
  have epochs := Epochs.of_reachable reached_d
  have serialized := Serialized.of_reachable reached_d
  obtain ⟨positive, below, h, own, same⟩ := superseded_path (Epochs.of_reachable reached) old run
  obtain ⟨sh, t, step, rfl⟩ := controlSystem_step taken
  rw [own] at step
  cases step with
  | handler step =>
      refine ⟨h, own, same, fun deadline => ?_, fun deadline => ⟨_, (step.of_deadline deadline).1⟩⟩
      refine step.inert (epochs.not_current_of_superseded (same ▸ below)) ?_ deadline ?_
      · intro pc
        have := (epochs.fresh i h own (Or.inr pc)).1
        omega
      · intro observing
        exact serialized.holder (by rw [own]; exact observing)

end

/-- An observer that keeps what it was told, last first. -/
def Observers.recording : Observers (List StateSnapshot) where
  state := List.cons
  suspend := id
  wake := id

namespace Schedule

/-- Handler 0 is superseded before it publishes. -/
def supersededPublisher : List (Nat × ControlAction) :=
  connect 0 ++ deliver 0 (frame .started []) ++ connect 1 ++
    run 0 [.lockPublication, .lockState 0]

/-- Handler 0 fails its stop by the deadline, after an ERROR of its peer let a
new HELLO in. -/
def supersededDeadline : List (Nat × ControlAction) :=
  connect 0 ++ started 0 ++ beginStop 0 2 100 ++ run 0 [.write none] ++
    deliver 0 (frame .error []) ++ publish 0 ++ run 0 [.sendReadMode false] ++
    run 0 [.pollCancel, .stopDeadline 100] ++ connect 1

end Schedule

open Schedule in
/-- A superseded handler does call the state observer, and the branch of the stop
deadline does change the state machine of its successor. -/
theorem superseded_handler_acts :
    (∃ c c', (controlSystem Observers.recording session []).Reachable Free c ∧
      Superseded c 0 1 ∧
      (controlSystem Observers.recording session []).step (0, .handler .observe) c = some c' ∧
      c'.shared.env ≠ c.shared.env) ∧
    (∃ c c', (controlSystem Observers.recording session []).Reachable Free c ∧
      Superseded c 0 1 ∧
      (controlSystem Observers.recording session []).step (0, .handler (.lockState 100)) c =
        some c' ∧
      c'.shared.machine ≠ c.shared.machine) := by
  constructor
  · exact ⟨_, _, System.reachable_of_replay supersededPublisher rfl, by decide, rfl, by decide⟩
  · exact ⟨_, _, System.reachable_of_replay supersededDeadline rfl, by decide, rfl, by decide⟩

open Schedule in
/-- The same publication leaves the machine and the metrics of the successor. -/
theorem superseded_handler_inert_publisher :
    ∃ c c', (controlSystem Observers.recording session []).Reachable Free c ∧
      Superseded c 0 1 ∧
      (controlSystem Observers.recording session []).step (0, .handler .observe) c = some c' ∧
      c'.shared.machine = c.shared.machine ∧ c'.shared.android = c.shared.android := by
  have reached := @System.reachable_of_replay _ _
    (controlSystem Observers.recording session []) Free _ _ supersededPublisher rfl
  obtain ⟨h, own, _, inert, _⟩ :=
    superseded_handler_inert 0 1 (.handler .observe) reached (by decide) .nil rfl
  cases own
  have quiet := inert (by decide)
  exact ⟨_, _, reached, by decide, rfl, quiet.machine, quiet.android⟩

end QuestVdWired.Host
