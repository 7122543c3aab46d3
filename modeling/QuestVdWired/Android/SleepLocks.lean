import QuestVdWired.Android.SleepSteps

/-!
The two locks of the sleeping and waking session: who holds them, what their holders know, and
that a teardown is there only for a session that has failed.
-/

namespace QuestVdWired.Android.Sleep
open Transition

namespace Pc

def caller : Pc → Option Caller
  | .queueing caller | .pushing caller | .connected caller | .connectedAwake caller
  | .connectedReady caller | .connectedReset caller | .connectedSuspends caller => some caller
  | _ => none

/-- In a block under `lifecycleLock`. -/
def locks : Pc → Bool
  | .sleeping | .pausing | .waking | .unpausing | .losing | .completing | .resumed _ => true
  | pc => pc.caller = some .screen

/-- In a block under `engineStartLock`. -/
def holds : Pc → Bool
  | .startingChecked | .startingTunnel | .suspendingChecked | .suspendingRead | .stopping | .stopped
  | .resumingChecked | .resumingAwake | .resumingRead | .restartStop | .restartStopped
  | .restartStart | .restartReady | .closing => true
  | _ => false

/-- What the holder of `lifecycleLock` knows of the screen. -/
def sees : Pc → Option Bool
  | .sleeping | .pausing => some true
  | .waking | .unpausing | .completing | .resumed _ => some false
  | _ => none

/-- In the teardown. -/
def tears : Pc → Bool
  | .tearing | .closing => true
  | _ => false

end Pc

section
variable {t : Thread} {a : Action} {sh sh' : Shared} {pc pc' : Pc} {task : Thread → Pc}

theorem Reads.locks (reads : Reads sh pc pc') : pc'.locks = true → pc.locks = true := by
  cases reads <;> simp [Pc.locks, Pc.caller]

theorem Reads.holds (reads : Reads sh pc pc') : pc'.holds = true → pc.holds = true := by
  cases reads <;> simp [Pc.holds]

theorem done_lifecycleLock {caller : Caller} :
    (caller.done sh).1.lifecycleLock =
      if caller = .screen then none else sh.lifecycleLock := by
  cases caller <;> rfl

theorem done_locks {caller : Caller} : (caller.done sh).2.locks = false := by
  cases caller <;> rfl

theorem Returns.caller {caller : Caller} (returns : Returns sh caller pc) :
    pc.caller = some caller := by
  cases returns <;> rfl

theorem pause_eq {paused : Bool} :
    sh.pause paused = { sh with paused := if sh.control then paused else sh.paused } := by
  unfold Shared.pause
  split <;> rfl

theorem requestStop_eq : sh.requestStop = { sh with engine := sh.requestStop.engine } := by
  unfold Shared.requestStop
  split
  · rfl
  · split <;> rfl

theorem Move.lifecycleLock (move : Move t sh pc sh' pc') :
    sh'.lifecycleLock = sh.lifecycleLock ∧ (pc'.locks = true → pc.locks = true) ∨
      sh.lifecycleLock = none ∧ sh'.lifecycleLock = some t ∨
      pc.locks = true ∧ pc'.locks = false ∧ sh'.lifecycleLock = none := by
  have done {sh₁ : Shared} {caller : Caller} (calls : pc.caller = some caller)
      (same : sh₁.lifecycleLock = sh.lifecycleLock) :
      (caller.done sh₁).1.lifecycleLock = sh.lifecycleLock ∧
          ((caller.done sh₁).2.locks = true → pc.locks = true) ∨
        sh.lifecycleLock = none ∧ (caller.done sh₁).1.lifecycleLock = some t ∨
        pc.locks = true ∧ (caller.done sh₁).2.locks = false ∧
          (caller.done sh₁).1.lifecycleLock = none := by
    rw [done_lifecycleLock, done_locks]
    by_cases screen : caller = .screen
    · subst screen
      have locks : pc.locks = true := by
        cases pc <;> first | rfl | simp_all [Pc.locks, Pc.caller]
      exact .inr (.inr ⟨locks, rfl, rfl⟩)
    · exact .inl ⟨by simp [screen, same], by simp⟩
  cases move with
  | reads reads => exact .inl ⟨rfl, reads.locks⟩
  | returns returns => exact done returns.caller rfl
  | pushes => exact done rfl rfl
  | enters enters => cases enters <;> exact .inl ⟨rfl, by simp [Pc.locks, Pc.caller]⟩
  | leaves leaves => cases leaves <;> exact .inl ⟨rfl, by simp [Pc.locks, Pc.caller]⟩
  | fails fails => cases fails <;> exact .inl ⟨rfl, by simp [Pc.locks, Pc.caller]⟩
  | suspends suspends =>
      cases suspends with
      | sleeping => exact .inl ⟨rfl, fun _ => rfl⟩
      | connected => exact .inl ⟨rfl, by simp [Pc.locks, Pc.caller]⟩
      | lost next =>
          refine .inr (.inr ⟨rfl, ?_, rfl⟩)
          rcases next with ⟨_, rfl⟩ | ⟨_, rfl⟩ <;> rfl
      | initial => exact .inl ⟨rfl, by simp [Pc.locks, Pc.caller]⟩
  | screenOff free => exact .inr (.inl ⟨free, rfl⟩)
  | screenOn free => exact .inr (.inl ⟨free, rfl⟩)
  | loses free => exact .inr (.inl ⟨free, rfl⟩)
  | wakes free => exact .inr (.inl ⟨free, rfl⟩)
  | pauses => exact .inr (.inr ⟨rfl, rfl, rfl⟩)
  | unpauses => exact .inr (.inr ⟨rfl, rfl, rfl⟩)
  | resumes next =>
      refine .inr (.inr ⟨rfl, ?_, rfl⟩)
      rcases next with rfl | rfl <;> rfl
  | executes pushes =>
      rcases pushes with rfl | rfl <;> exact .inl ⟨rfl, by simp [Pc.locks, Pc.caller]⟩
  | stops stops =>
      rw [requestStop_eq]
      rcases stops with ⟨rfl, rfl⟩ | ⟨rfl, rfl⟩ <;> exact .inl ⟨rfl, by simp [Pc.locks, Pc.caller]⟩
  | @takes job => cases job <;> exact .inl ⟨rfl, by simp [Job.begins, Pc.locks, Pc.caller]⟩
  | readies => exact .inl ⟨rfl, id⟩
  | _ => exact .inl ⟨rfl, by simp [Pc.locks, Pc.caller]⟩

theorem done_engineStartLock {caller : Caller} :
    (caller.done sh).1.engineStartLock = sh.engineStartLock ∧ (caller.done sh).2.holds = false := by
  cases caller <;> exact ⟨rfl, rfl⟩

theorem Move.engineStartLock (move : Move t sh pc sh' pc') :
    sh'.engineStartLock = sh.engineStartLock ∧ (pc'.holds = true → pc.holds = true) ∨
      sh.engineStartLock = none ∧ sh'.engineStartLock = some t ∨
      pc.holds = true ∧ pc'.holds = false ∧ sh'.engineStartLock = none := by
  cases move with
  | reads reads => exact .inl ⟨rfl, reads.holds⟩
  | returns returns =>
      exact .inl ⟨done_engineStartLock.1, by simp [done_engineStartLock.2]⟩
  | pushes => exact .inl ⟨done_engineStartLock.1, by simp [done_engineStartLock.2]⟩
  | enters enters free => exact .inr (.inl ⟨free, rfl⟩)
  | leaves leaves => cases leaves <;> exact .inr (.inr ⟨rfl, rfl, rfl⟩)
  | fails fails =>
      cases fails with
      | twice => exact .inr (.inr ⟨rfl, rfl, rfl⟩)
      | _ => exact .inl ⟨rfl, by simp [Pc.holds]⟩
  | suspends suspends =>
      cases suspends with
      | lost next => exact .inl ⟨rfl, by rcases next with ⟨_, rfl⟩ | ⟨_, rfl⟩ <;> simp [Pc.holds]⟩
      | _ => exact .inl ⟨rfl, by simp [Pc.holds]⟩
  | starts => exact .inr (.inr ⟨rfl, rfl, rfl⟩)
  | stopped => exact .inr (.inr ⟨rfl, rfl, rfl⟩)
  | closes => exact .inr (.inr ⟨rfl, rfl, rfl⟩)
  | pauses => exact .inl ⟨by rw [pause_eq]; rfl, by simp [Pc.holds]⟩
  | unpauses => exact .inl ⟨by rw [pause_eq]; rfl, by simp [Pc.holds]⟩
  | resumes next =>
      refine .inl ⟨by rw [pause_eq]; rfl, ?_⟩
      rcases next with rfl | rfl <;> simp [Pc.holds]
  | executes pushes => rcases pushes with rfl | rfl <;> exact .inl ⟨rfl, by simp [Pc.holds]⟩
  | stops stops =>
      rw [requestStop_eq]
      rcases stops with ⟨rfl, rfl⟩ | ⟨rfl, rfl⟩ <;> exact .inl ⟨rfl, by simp [Pc.holds]⟩
  | @takes job => cases job <;> exact .inl ⟨rfl, by simp [Job.begins, Pc.holds]⟩
  | readies => exact .inl ⟨rfl, id⟩
  | restartStopped => exact .inl ⟨rfl, fun _ => rfl⟩
  | restarts => exact .inl ⟨rfl, fun _ => rfl⟩
  | _ => exact .inl ⟨rfl, by simp [Pc.holds]⟩

theorem Move.failed (move : Move t sh pc sh' pc') :
    (sh.failed = true → sh'.failed = true) ∧
      (.teardown ∈ sh'.jobs ∨ sh'.vpnInterfaceOpen = false → sh'.failed = true ∨
        (.teardown ∈ sh.jobs ∨ sh.vpnInterfaceOpen = false) ∨ pc.tears = true) ∧
      (pc'.tears = true → pc.tears = true ∨ .teardown ∈ sh.jobs) := by
  cases move with
  | reads reads => exact ⟨id, fun now => .inr (.inl now), by cases reads <;> simp [Pc.tears]⟩
  | @returns caller =>
      cases caller <;> exact ⟨id, fun now => .inr (.inl now), by simp [Caller.done, Pc.tears]⟩
  | @pushes caller =>
      cases caller <;> exact ⟨id, fun now => .inr (.inl (by
        simpa [Caller.done, Shared.execute, Shared.unlock] using now)),
        by simp [Caller.done, Pc.tears]⟩
  | enters enters => exact ⟨id, fun now => .inr (.inl now), by cases enters <;> simp [Pc.tears]⟩
  | leaves leaves => exact ⟨id, fun now => .inr (.inl now), by cases leaves <;> simp [Pc.tears]⟩
  | fails fails => cases fails <;> exact ⟨fun _ => rfl, fun _ => .inl rfl, by simp [Pc.tears]⟩
  | suspends suspends =>
      cases suspends with
      | lost next =>
          exact ⟨id, fun now => .inr (.inl now),
            by rcases next with ⟨_, rfl⟩ | ⟨_, rfl⟩ <;> simp [Pc.tears]⟩
      | _ => exact ⟨id, fun now => .inr (.inl now), by simp [Pc.tears]⟩
  | pauses =>
      rw [pause_eq]
      exact ⟨id, fun now => .inr (.inl now), by simp [Pc.tears]⟩
  | unpauses =>
      rw [pause_eq]
      exact ⟨id, fun now => .inr (.inl now), by simp [Pc.tears]⟩
  | resumes next =>
      rw [pause_eq]
      exact ⟨id, fun now => .inr (.inl now), by rcases next with rfl | rfl <;> simp [Pc.tears]⟩
  | executes =>
      exact ⟨id, fun now => .inr (.inl (by simpa [Shared.execute] using now)), by simp [Pc.tears]⟩
  | stops stops =>
      rw [requestStop_eq]
      exact ⟨id, fun now => .inr (.inl now),
        by rcases stops with ⟨_, rfl⟩ | ⟨_, rfl⟩ <;> simp [Pc.tears]⟩
  | @takes job jobs next =>
      refine ⟨id, fun now => .inr (.inl (now.imp (fun job => ?_) id)), fun there => .inr ?_⟩
      · rw [next]
        exact List.mem_cons_of_mem _ job
      · rw [next]
        cases job <;> simp_all [Job.begins, Pc.tears]
  | closes => exact ⟨id, fun _ => .inr (.inr rfl), by simp [Pc.tears]⟩
  | readies => exact ⟨id, fun now => .inr (.inl now), .inl⟩
  | _ => exact ⟨id, fun now => .inr (.inl now), by simp [Pc.tears]⟩

end

section
variable {asleep : Bool} {ok : Config Thread Shared Pc → Thread × Action → Prop}
  {c : Config Thread Shared Pc} {k : Thread}

theorem lifecycleLock_of_reachable (reached : (session asleep).system.Reachable ok c)
    (locks : (c.task k).locks = true) : c.shared.lifecycleLock = some k :=
  Tasks.lock_invariant (T := session asleep) (fun _ => rfl)
    (fun _ _ _ _ _ _ taken => (move_of_step taken).lifecycleLock) reached locks

theorem engineStartLock_of_reachable (reached : (session asleep).system.Reachable ok c)
    (holds : (c.task k).holds = true) : c.shared.engineStartLock = some k :=
  Tasks.lock_invariant (T := session asleep) (fun _ => rfl)
    (fun _ _ _ _ _ _ taken => (move_of_step taken).engineStartLock) reached holds

/-- One thread at a time is in a block under `engineStartLock`. -/
theorem alone_of_reachable {t : Thread} (reached : (session asleep).system.Reachable ok c)
    (holds : (c.task t).holds = true) (ne : k ≠ t) : (c.task k).holds = false := by
  cases there : (c.task k).holds with
  | false => rfl
  | true =>
      have mine := engineStartLock_of_reachable reached holds
      have other := engineStartLock_of_reachable reached there
      exact absurd (Option.some.inj (other.symm.trans mine)) ne

/-- The screen changes under `lifecycleLock`, and whoever knows it read it there. -/
theorem Move.sees {t : Thread} {sh sh' : Shared} {pc pc' : Pc} (move : Move t sh pc sh' pc') :
    (sh'.screenSuspended = sh.screenSuspended ∧
      ∀ b, pc'.sees = some b → sh.screenSuspended = b ∨ pc.sees = some b) ∨
      sh.lifecycleLock = none ∧ ∀ b, pc'.sees = some b → sh'.screenSuspended = b := by
  cases move with
  | reads reads =>
      refine .inl ⟨rfl, ?_⟩
      cases reads <;> simp [Pc.sees]
  | @returns caller =>
      exact .inl ⟨by cases caller <;> rfl, by cases caller <;> simp [Caller.done, Pc.sees]⟩
  | @pushes caller =>
      exact .inl ⟨by cases caller <;> rfl, by cases caller <;> simp [Caller.done, Pc.sees]⟩
  | enters enters => exact .inl ⟨rfl, by cases enters <;> simp [Pc.sees]⟩
  | leaves leaves => exact .inl ⟨rfl, by cases leaves <;> simp [Pc.sees]⟩
  | fails fails => cases fails <;> exact .inl ⟨rfl, by simp [Pc.sees]⟩
  | suspends suspends =>
      cases suspends with
      | lost next => exact .inl ⟨rfl, by rcases next with ⟨_, rfl⟩ | ⟨_, rfl⟩ <;> simp [Pc.sees]⟩
      | _ => exact .inl ⟨rfl, by simp [Pc.sees]⟩
  | screenOff free => exact .inr ⟨free, by simp [Pc.sees]⟩
  | screenOn free => exact .inr ⟨free, by simp [Pc.sees]⟩
  | unheard free => exact .inr ⟨free, by simp [Pc.sees]⟩
  | wakes free awake => exact .inl ⟨rfl, by simp [Pc.sees, awake]⟩
  | pauses => exact .inl ⟨by rw [pause_eq]; rfl, by simp [Pc.sees]⟩
  | unpauses => exact .inl ⟨by rw [pause_eq]; rfl, by simp [Pc.sees]⟩
  | resumes next =>
      exact .inl ⟨by rw [pause_eq]; rfl, by rcases next with rfl | rfl <;> simp [Pc.sees]⟩
  | stops stops =>
      rw [requestStop_eq]
      exact .inl ⟨rfl, by rcases stops with ⟨_, rfl⟩ | ⟨_, rfl⟩ <;> simp [Pc.sees]⟩
  | @takes job => exact .inl ⟨rfl, by cases job <;> simp [Job.begins, Pc.sees]⟩
  | readies => exact .inl ⟨rfl, fun _ => .inr⟩
  | _ => exact .inl ⟨rfl, by simp [Pc.sees]⟩

theorem locks_of_sees {pc : Pc} {b : Bool} (sees : pc.sees = some b) : pc.locks = true := by
  cases pc <;> first | rfl | cases sees

theorem screen_of_reachable (reached : (session asleep).system.Reachable ok c) {b : Bool}
    (sees : (c.task k).sees = some b) : c.shared.screenSuspended = b := by
  refine (Tasks.system_invariant_of_reachable (I := fun _ => True)
    (J := fun _ sh pc => ∀ b, pc.sees = some b → sh.screenSuspended = b) trivial ?_ ?_
    reached).2 k b sees
  · rintro k b ⟨⟩
  · intro c t a sh pc reached _ _ seen taken
    refine ⟨trivial, ?_⟩
    rcases (move_of_step taken).sees with ⟨same, knows⟩ | ⟨free, knows⟩
    · rw [same]
      refine ⟨fun b now => ?_, fun k _ => seen k⟩
      rcases knows b now with known | before
      · exact known
      · exact seen t b before
    · refine ⟨knows, fun k _ b there => ?_⟩
      have held := lifecycleLock_of_reachable reached (locks_of_sees there)
      simp [free] at held

/-- The teardown is there only for a session that has failed. -/
theorem failed_of_reachable (reached : (session asleep).system.Reachable ok c) :
    (.teardown ∈ c.shared.jobs ∨ c.shared.vpnInterfaceOpen = false → c.shared.failed = true) ∧
      ∀ k, (c.task k).tears = true → c.shared.failed = true := by
  refine Tasks.system_invariant
    (I := fun sh => .teardown ∈ sh.jobs ∨ sh.vpnInterfaceOpen = false → sh.failed = true)
    (J := fun _ sh pc => pc.tears = true → sh.failed = true)
    (by simp [session, Shared.committed]) (by rintro k ⟨⟩) ?_ reached
  intro c t a sh pc _ failed tears taken
  obtain ⟨stays, closes, begins⟩ := (move_of_step taken).failed
  refine ⟨fun now => ?_, fun now => ?_, fun k _ there => stays (tears k there)⟩
  · rcases closes now with now | before | there
    · exact now
    · exact stays (failed before)
    · exact stays (tears t there)
  · rcases begins now with there | job
    · exact stays (tears t there)
    · exact stays (failed (.inl job))

end

theorem somewhere_iff {f : Pc → Bool} {task : Thread → Pc} : Somewhere f task ↔
    f (task .main) = true ∨ f (task .control) = true ∨ f (task (.worker false)) = true ∨
      f (task (.worker true)) = true := by
  constructor
  · rintro ⟨k, there⟩
    cases k with
    | main => exact .inl there
    | control => exact .inr (.inl there)
    | worker second => cases second <;> simp [there]
  · rintro (there | there | there | there) <;> exact ⟨_, there⟩

instance {f : Pc → Bool} {task : Thread → Pc} : Decidable (Somewhere f task) :=
  decidable_of_iff _ somewhere_iff.symm

namespace Schedule

def goes (t : Thread) (times : Nat) : List (Thread × Action) := List.replicate times (t, .go true)

/-- The initialisation on the first worker, up to the supervisor. -/
def publish : List (Thread × Action) :=
  (.worker false, .take) :: goes (.worker false) 3 ++ (.main, .engineReady 1) ::
    goes (.worker false) 4

/-- The headset falls asleep, and the engine is suspended. -/
def sleep : List (Thread × Action) :=
  (.main, .screen true) :: goes .main 3 ++ (.worker false, .take) :: goes (.worker false) 5

/-- It wakes up, and the engine is restarted. -/
def wake : List (Thread × Action) :=
  (.main, .screen false) :: goes .main 3 ++ (.worker false, .take) :: goes (.worker false) 7 ++
    (.main, .engineReady 2) :: goes (.worker false) 6

end Schedule

end QuestVdWired.Android.Sleep
