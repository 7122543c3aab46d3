import QuestVdWired.Android.SessionDescriptors

/-!
A stop is not lost: what became of the sessions begun before it. A stop that names no
generation and finds no session leaves the gate alone, so the runs here are those in which such
a stop meets no generation under way.
-/

namespace QuestVdWired.Android.Lifecycle
open Transition

/-- About to stop whatever there is. -/
def Pc.stopsAll : Pc → Bool
  | .stopping none _ => true
  | _ => false

/-- A stop that names no generation and finds no session comes while no generation is
current. -/
def MeetsNoStart (c : Config Thread Shared Pc) (a : Thread × Action) : Prop :=
  (c.task a.1).stopsAll = true → c.shared.active = none → c.shared.teardownInProgress = false →
    c.shared.generationGate.current = 0

instance (c : Config Thread Shared Pc) (a : Thread × Action) : Decidable (MeetsNoStart c a) :=
  inferInstanceAs (Decidable (_ → _ → _ → _))

/-- The session is being torn down: the teardown is about to be queued, in the queue or run. -/
def UnderTeardown (c : Config Thread Shared Pc) (n : Nat) : Prop :=
  c.shared.teardownInProgress = true ∧ c.shared.closingGeneration = n ∧
    ((∃ t, (c.task t).launches = some n) ∨ Job.teardown n ∈ c.shared.jobs ∨
      ∃ t, (c.task t).tears = some n)

/-- A generation that is current was begun after the last stop. -/
structure Outlived (sh : Shared) : Prop where
  begun : sh.stoppedUpTo ≤ sh.generationGate.sequence
  current : sh.generationGate.current = 0 ∨ sh.stoppedUpTo < sh.generationGate.current

section
variable {t : Thread} {sh sh' : Shared} {pc pc' : Pc} {task : Thread → Pc} {n : Nat}

theorem Outlived.same (outlived : Outlived sh) (gate : sh'.generationGate = sh.generationGate)
    (stopped : sh'.stoppedUpTo = sh.stoppedUpTo) : Outlived sh' := by
  constructor
  · rw [gate, stopped]
    exact outlived.begun
  · rw [gate, stopped]
    exact outlived.current

theorem counted_le {expected : Option Nat} (outlived : Outlived sh) :
    sh.counted expected ≤ sh.generationGate.sequence := by
  unfold Shared.counted
  split
  · exact Nat.le_refl _
  · exact outlived.begun

theorem Outlived.stops {expected close : Option Nat} (outlived : Outlived sh) (core : Core sh)
    (heeded : expected = none → sh.active = none → sh.teardownInProgress = false →
      sh.generationGate.current = 0) (stops : Stops t sh expected sh' close) : Outlived sh' := by
  cases stops with
  | busy closing => exact ⟨counted_le outlived, .inl (core.closed closing)⟩
  | empty empty still =>
      refine ⟨?_, ?_⟩
      · dsimp only
        rw [invalidated_sequence]
        exact counted_le outlived
      · cases expected with
        | none => exact .inl (heeded rfl empty still)
        | some g =>
            by_cases current : sh.expectedIsCurrent (some g) = true
            · have there : sh.generationGate.current = g := by
                simp only [Shared.expectedIsCurrent, GenerationGate.isCurrent, Bool.and_eq_true,
                  decide_eq_true_eq] at current
                exact current.2
              exact .inl (invalidate_of_current there)
            · rcases invalidated_current with zero | same
              · exact .inl zero
              · simpa [Shared.counted, current, same] using outlived.current
  | @closes n active still =>
      refine ⟨?_, .inl (invalidate_of_current (core.active n active).1)⟩
      simpa using counted_le outlived

theorem outlived_move (outlived : Outlived sh) (core : Core sh)
    (heeded : pc.stopsAll = true → sh.active = none → sh.teardownInProgress = false →
      sh.generationGate.current = 0) (move : Move t sh pc sh' pc') : Outlived sh' := by
  cases move with
  | begins empty still reset =>
      have := outlived.begun
      exact ⟨Nat.le_succ_of_le this, .inr (Nat.lt_succ_of_le this)⟩
  | stops on plain stops =>
      refine outlived.stops core ?_ stops
      rintro rfl
      exact heeded rfl
  | @registers n _ _ on stops =>
      have same := @sameCore_register t sh n
      refine Outlived.stops (outlived.same same.gate ?_) (core.same same) (by simp) stops
      cases state : sh.stopAcknowledgements.descriptorState <;>
        simp [Shared.register, StopAcknowledgements.register, state, Shared.book]
  | _ => exact outlived.same rfl rfl

theorem outlived_of_reachable {c : Config Thread Shared Pc}
    (reached : lifecycle.system.Reachable MeetsNoStart c) : Outlived c.shared := by
  refine (Tasks.system_invariant_of_reachable (J := fun _ _ _ => True) ?_ (fun _ => trivial) ?_
    reached).1
  · constructor <;> simp [lifecycle, Shared.created]
  · intro c t a sh pc reached heeded outlived _ taken
    exact ⟨outlived_move outlived (core_of_reachable reached).1 heeded (move_of_step taken),
      trivial, fun _ _ => trivial⟩

end

/-- Who has the teardown of a session that is on its way. -/
theorem underTeardown_of_committed {ok : Config Thread Shared Pc → Thread × Action → Prop}
    {c : Config Thread Shared Pc} (reached : lifecycle.system.Reachable ok c) {n : Nat}
    (there : c.shared.descriptor n = .committed) (inactive : c.shared.active ≠ some n) :
    UnderTeardown c n := by
  obtain ⟨core, stands⟩ := core_of_reachable reached
  have described := (facts_of_reachable reached .main).described
  rcases described.committed n there with active | ⟨busy, closing⟩
  · exact absurd active inactive
  · refine ⟨busy, closing, ?_⟩
    cases duty : c.shared.duty with
    | nobody => exact absurd duty (core.busy.mp busy)
    | launching t => exact .inl ⟨t, ((stands t).launch n).mpr ⟨duty, closing⟩⟩
    | queued =>
        have queue := core.queue
        rw [if_pos duty, closing] at queue
        have member : Job.teardown n ∈ c.shared.jobs.filter Job.isTeardown := by simp [queue]
        exact .inr (.inl (List.mem_filter.mp member).1)
    | running t => exact .inr (.inr ⟨t, ((stands t).tears n).mpr ⟨duty, closing⟩⟩)

/-- Once a stop of everything, or of the current generation, has left its block, no session
begun before it is active; its descriptor is on its way to `close`, if it has one. -/
theorem stopped_never_active {c : Config Thread Shared Pc}
    (reached : lifecycle.system.Reachable MeetsNoStart c) {n : Nat}
    (begun : n ≤ c.shared.stoppedUpTo) :
    c.shared.active ≠ some n ∧ c.shared.generationGate.isCurrent n = false ∧
      (c.shared.descriptor n = .established →
        c.task .main = .committing n ∨ c.task .main = .discarding n) ∧
      (c.shared.descriptor n = .committed → UnderTeardown c n) := by
  have outlived := outlived_of_reachable reached
  have core := (core_of_reachable reached).1
  have stale : c.shared.generationGate.isCurrent n = false := by
    rcases outlived.current with zero | later
    · simp only [GenerationGate.isCurrent, zero]
      cases n <;> simp
    · have : c.shared.generationGate.current ≠ n := by omega
      simp [GenerationGate.isCurrent, this]
  have inactive : c.shared.active ≠ some n := by
    intro active
    obtain ⟨current, nonzero, _⟩ := core.active n active
    simp [GenerationGate.isCurrent, current, nonzero] at stale
  refine ⟨inactive, stale, fun there => ?_, fun there =>
    underTeardown_of_committed reached there inactive⟩
  have keeps := (facts_of_reachable reached .main).own.keeps rfl n there
  cases at_ : c.task .main <;> rw [at_] at keeps <;> cases keeps
  · exact .inl rfl
  · exact .inr rfl

namespace Schedule

def goes (t : Thread) (times : Nat) : List (Thread × Action) := List.replicate times (t, .go true)

/-- A start up to the descriptor that `establish` gave. -/
def prepare : List (Thread × Action) := (.main, .startCommand true) :: goes .main 3

/-- The commit, and the job that starts the engine. -/
def commit : List (Thread × Action) := goes .main 2

/-- A revocation on a binder thread, up to the end of its block. -/
def revoke : List (Thread × Action) := [(.binder 0, .stopCommand), (.binder 0, .go true)]

end Schedule

/-- A revocation of the committed session leaves it to the thread that revoked it. -/
theorem stopped_never_active_revoked :
    ∃ c, lifecycle.system.Reachable MeetsNoStart c ∧ c.shared.stoppedUpTo = 1 ∧
      c.shared.descriptor 1 = .committed ∧ c.shared.active ≠ some 1 ∧ UnderTeardown c 1 := by
  obtain ⟨c, reached, stopped, there⟩ :
      ∃ c, lifecycle.system.Reachable MeetsNoStart c ∧ c.shared.stoppedUpTo = 1 ∧
        c.shared.descriptor 1 = .committed :=
    ⟨_, System.reachable_of_replay (Schedule.prepare ++ Schedule.commit ++ Schedule.revoke) rfl,
      rfl, rfl⟩
  have result := stopped_never_active reached (n := 1) (by omega)
  exact ⟨c, reached, stopped, there, result.1, result.2.2.2 there⟩

/-- A revocation between `begin` and the commit returns, and the session becomes active. -/
theorem revoked_start_commits :
    ∃ c, lifecycle.system.Reachable Free c ∧ c.shared.stoppedUpTo = 1 ∧
      c.task (.binder 0) = .idle ∧ c.shared.active = some 1 ∧ c.shared.duty = .nobody :=
  ⟨_, System.reachable_of_replay
    (Schedule.prepare ++ Schedule.revoke ++ Schedule.goes (.binder 0) 1 ++ Schedule.commit) rfl,
    rfl, rfl, rfl, rfl⟩

end QuestVdWired.Android.Lifecycle
