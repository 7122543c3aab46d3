import QuestVdWired.Android.SleepLocks

/-!
Sleep and wake converge: once nothing is left to run, the engine and the supervisor are as the
screen says. The runs are those in which the initialisation does not suspend an engine after the
headset woke up, and no suspension passes its check between a restart and the flag it clears.
-/

namespace QuestVdWired.Android.Sleep
open Transition

namespace Pc

/-- The queued resume, up to where it lets another one be queued. -/
def live : Pc → Bool
  | .pushing _ | .resuming | .resumingChecked | .resumingAwake | .resumingRead | .restartStop
  | .restartStopped | .restartStart | .restartReady | .restarted | .completing | .resumed _
  | .finalizing => true
  | pc => pc.caller = some .restarted

/-- On the way to see that the engine is suspended while the screen is on. -/
def pending : Pc → Bool
  | .waking | .queueing _ | .connectedSuspends _ | .finalRead | .finalChecked | .finalAwake
  | .finalPost => true
  | pc => pc.live

/-- Between the restart of the engine and the flag. -/
def unflagged : Pc → Bool
  | .restarted => true
  | _ => false

end Pc

/-- The invariants, of the shared state and of where the threads stand. -/
structure Queued (sh : Shared) (task : Thread → Pc) : Prop where
  live : sh.engineResumeQueued = true →
    .resumeNativeEngine ∈ sh.jobs ∨ Somewhere Pc.live task

section
variable {t : Thread} {sh sh' : Shared} {pc pc' : Pc} {task : Thread → Pc}

theorem Queued.keep (before : Queued sh task)
    (queued : sh'.engineResumeQueued = true → sh.engineResumeQueued = true)
    (jobs : Job.resumeNativeEngine ∈ sh.jobs → Job.resumeNativeEngine ∈ sh'.jobs)
    (stays : (task t).live = true → pc'.live = true) : Queued sh' (Function.update task t pc') :=
  ⟨fun now => (before.live (queued now)).imp jobs fun live => live.move stays⟩

theorem queued_move (before : Queued sh task) (move : Move t sh (task t) sh' pc') :
    Queued sh' (Function.update task t pc') := by
  have here (live : pc'.live = true) : Queued sh' (Function.update task t pc') :=
    ⟨fun _ => .inr (.here live)⟩
  have keep (queued : sh'.engineResumeQueued = true → sh.engineResumeQueued = true)
      (jobs : Job.resumeNativeEngine ∈ sh.jobs → Job.resumeNativeEngine ∈ sh'.jobs)
      (stays : (task t).live = true → pc'.live = true) :=
    before.keep (t := t) queued jobs stays
  generalize task t = pc at move keep
  cases move with
  | reads reads => exact keep id id (by cases reads <;> simp [Pc.live, Pc.caller])
  | @returns caller _ returns =>
      refine keep (by cases caller <;> exact id) (by cases caller <;> exact id) ?_
      cases caller with
      | restarted => exact fun _ => rfl
      | _ => cases returns <;> simp [Pc.live, Pc.caller]
  | enters enters => exact keep id id (by cases enters <;> simp [Pc.live, Pc.caller])
  | leaves leaves => exact keep id id (by cases leaves <;> simp [Pc.live, Pc.caller])
  | fails fails =>
      cases fails <;>
        exact keep id (List.mem_append_left _) (by simp [Pc.live, Pc.caller])
  | suspends suspends =>
      cases suspends with
      | lost next =>
          exact keep id id (by rcases next with ⟨_, rfl⟩ | ⟨_, rfl⟩ <;> simp [Pc.live, Pc.caller])
      | _ => exact keep id id (by simp [Pc.live, Pc.caller])
  | pauses =>
      rw [pause_eq] at keep ⊢
      exact keep id id (by simp [Pc.live, Pc.caller])
  | unpauses =>
      rw [pause_eq] at keep ⊢
      exact keep id id (by simp [Pc.live, Pc.caller])
  | resumes next => exact here (by rcases next with rfl | rfl <;> rfl)
  | executes pushes =>
      refine keep id (by simp [Shared.execute]) ?_
      rcases pushes with rfl | rfl <;> simp [Pc.live, Pc.caller]
  | queues => exact here rfl
  | @pushes caller =>
      refine ⟨fun _ => .inl ?_⟩
      cases caller <;> simp [Caller.done, Shared.execute, Shared.unlock]
  | stops stops =>
      rw [requestStop_eq]
      rw [requestStop_eq] at keep
      exact keep id id (by rcases stops with ⟨rfl, rfl⟩ | ⟨rfl, rfl⟩ <;> simp [Pc.live, Pc.caller])
  | finalizes => exact ⟨by simp⟩
  | @takes job jobs next =>
      cases job with
      | resumeNativeEngine => exact here rfl
      | _ => exact keep id (by simp [next]) (by simp [Pc.live, Pc.caller])
  | readies => exact keep id id id
  | _ => exact keep id id (by simp [Pc.live, Pc.caller])

/-- Who wakes a suspended engine once the screen is on. -/
structure Awake (sh : Shared) (task : Thread → Pc) : Prop where
  pending : sh.failed = false → sh.screenSuspended = false → sh.engineSuspended = true →
    0 < sh.posted ∨ .resumeNativeEngine ∈ sh.jobs ∨ Somewhere Pc.pending task

theorem pending_of_live (live : pc.live = true) : pc.pending = true := by
  cases pc <;> first | rfl | exact live

theorem Awake.keep (before : Awake sh task) (failed : sh'.failed = sh.failed)
    (screen : sh'.screenSuspended = sh.screenSuspended)
    (engine : sh'.engineSuspended = true → sh.engineSuspended = true)
    (posted : sh'.posted = sh.posted)
    (jobs : Job.resumeNativeEngine ∈ sh.jobs → Job.resumeNativeEngine ∈ sh'.jobs)
    (stays : (task t).pending = true → pc'.pending = true) :
    Awake sh' (Function.update task t pc') := by
  constructor
  rw [failed, screen, posted]
  intro current awake suspended
  rcases before.pending current awake (engine suspended) with later | queued | pending
  · exact .inl later
  · exact .inr (.inl (jobs queued))
  · exact .inr (.inr (pending.move stays))

theorem done_shared {caller : Caller} :
    (caller.done sh).1.failed = sh.failed ∧
      (caller.done sh).1.screenSuspended = sh.screenSuspended ∧
      (caller.done sh).1.engineSuspended = sh.engineSuspended ∧
      (caller.done sh).1.posted = sh.posted ∧ (caller.done sh).1.jobs = sh.jobs := by
  cases caller <;> exact ⟨rfl, rfl, rfl, rfl, rfl⟩

/-- A call that finds a resume queued leaves the engine to it. -/
theorem Awake.returns {caller : Caller} (before : Awake sh task) (queued : Queued sh task)
    (returns : Returns sh caller (task t)) :
    Awake (caller.done sh).1 (Function.update task t (caller.done sh).2) := by
  obtain ⟨failed, screen, engine, posted, jobs⟩ := @done_shared sh caller
  by_cases restarted : caller = .restarted
  · subst restarted
    exact ⟨fun _ _ _ => .inr (.inr (.here rfl))⟩
  · have keep (stays : (task t).pending = true → (caller.done sh).2.pending = true) :=
      before.keep (t := t) failed screen (by rw [engine]; exact id) posted (by rw [jobs]; exact id)
        stays
    generalize here : task t = pc at returns keep
    cases returns with
    | queued busy =>
        refine ⟨fun _ _ _ => ?_⟩
        rw [jobs]
        rcases queued.live busy with job | live
        · exact .inr (.inl job)
        · -- the caller is not itself the resume that is queued
          have other : (task t).live = false := by simp [here, Pc.live, Pc.caller, restarted]
          exact .inr (.inr ((live.move (by simp [other])).mono fun _ => pending_of_live))
    | _ => exact keep (by simp [Pc.pending, Pc.live, Pc.caller, restarted])

/-- What the acting thread knows beside the invariants. -/
structure Knows (sh : Shared) (pc : Pc) : Prop where
  screen : ∀ b, pc.sees = some b → sh.screenSuspended = b
  asleep : pc = .suspends → sh.screenSuspended = true

theorem awake_move (before : Awake sh task) (queued : Queued sh task) (knows : Knows sh (task t))
    (move : Move t sh (task t) sh' pc') : Awake sh' (Function.update task t pc') := by
  have here (pending : pc'.pending = true) : Awake sh' (Function.update task t pc') :=
    ⟨fun _ _ _ => .inr (.inr (.here pending))⟩
  have keep (failed : sh'.failed = sh.failed)
      (screen : sh'.screenSuspended = sh.screenSuspended)
      (engine : sh'.engineSuspended = true → sh.engineSuspended = true)
      (posted : sh'.posted = sh.posted)
      (jobs : Job.resumeNativeEngine ∈ sh.jobs → Job.resumeNativeEngine ∈ sh'.jobs)
      (stays : (task t).pending = true → pc'.pending = true) :=
    before.keep (t := t) failed screen engine posted jobs stays
  have returned {caller : Caller} (returns : Returns sh caller (task t)) :=
    before.returns queued returns
  generalize task t = pc at move keep returned knows
  cases move with
  | reads reads =>
      cases reads with
      | unsuspended running => exact ⟨by simp [running]⟩
      | finalRunning running => exact ⟨by simp [running]⟩
      | finalStale failed => exact ⟨by simp [failed]⟩
      | finalAsleep asleep => exact ⟨by simp [asleep]⟩
      | _ => exact keep rfl rfl id rfl id (by simp [Pc.pending, Pc.live, Pc.caller])
  | returns returns => exact returned returns
  | enters enters =>
      exact keep rfl rfl id rfl id (by cases enters <;> simp [Pc.pending, Pc.live, Pc.caller])
  | leaves leaves =>
      exact keep rfl rfl id rfl id (by cases leaves <;> simp [Pc.pending, Pc.live, Pc.caller])
  | fails fails => cases fails <;> exact ⟨by simp [Shared.failGeneration]⟩
  | suspends suspends =>
      cases suspends with
      | sleeping => exact ⟨by simp [knows.screen true rfl]⟩
      | connected => exact here rfl
      | lost next =>
          rcases next with ⟨_, rfl⟩ | ⟨asleep, rfl⟩
          · exact here rfl
          · exact ⟨by simp [Shared.unlock, asleep]⟩
      | initial => exact ⟨by simp [knows.asleep rfl]⟩
  | screenOff => exact ⟨by simp⟩
  | screenOn => exact here rfl
  | unheard _ failed => exact ⟨by simp [failed]⟩
  | pauses => exact ⟨by rw [pause_eq]; simp [Shared.unlock, knows.screen true rfl]⟩
  | unpauses =>
      refine keep ?_ ?_ ?_ ?_ ?_ (by simp [Pc.pending, Pc.live, Pc.caller]) <;> rw [pause_eq] <;>
        first | rfl | exact id
  | resumes next => exact here (by rcases next with rfl | rfl <;> rfl)
  | executes pushes =>
      refine keep rfl rfl id rfl (by simp [Shared.execute]) ?_
      rcases pushes with rfl | rfl <;> simp [Pc.pending, Pc.live, Pc.caller]
  | queues => exact here rfl
  | @pushes caller =>
      refine ⟨fun _ _ _ => .inr (.inl ?_)⟩
      cases caller <;> simp [Caller.done, Shared.execute, Shared.unlock]
  | stops stops =>
      rw [requestStop_eq] at keep ⊢
      refine keep rfl rfl id rfl id ?_
      rcases stops with ⟨rfl, rfl⟩ | ⟨rfl, rfl⟩ <;> simp [Pc.pending, Pc.live, Pc.caller]
  | posts => exact ⟨fun _ _ _ => .inl (Nat.succ_pos _)⟩
  | runsPosted => exact here rfl
  | @takes job jobs next =>
      cases job with
      | resumeNativeEngine => exact here rfl
      | _ => exact keep rfl rfl id rfl (by simp [next]) (by simp [Pc.pending, Pc.live, Pc.caller])
  | readies => exact keep rfl rfl id rfl id id
  | wakes => exact ⟨by simp⟩
  | _ => exact keep rfl rfl id rfl id (by simp [Pc.pending, Pc.live, Pc.caller])

namespace Pc

/-- About to suspend the engine as the screen says. -/
def suspendsNext : Pc → Bool
  | .sleeping | .published | .suspends => true
  | _ => false

/-- About to pause the supervisor. -/
def pausesNext : Pc → Bool
  | .sleeping | .pausing => true
  | _ => false

/-- About to see whether the supervisor is to be resumed, or to resume it. -/
def resumesNext : Pc → Bool
  | .waking | .unpausing | .completing | .resumed _ => true
  | _ => false

end Pc

/-- The supervisor and the flag of the engine follow the screen. -/
structure Follows (sh : Shared) (task : Thread → Pc) : Prop where
  suspended : sh.failed = false → sh.control = true → sh.screenSuspended = true →
    sh.engineSuspended = true ∨ Somewhere Pc.suspendsNext task
  paused : sh.failed = false → sh.control = true → sh.screenSuspended = true →
    sh.paused = true ∨ Somewhere Pc.pausesNext task
  unpaused : sh.failed = false → sh.control = true → sh.screenSuspended = false →
    sh.engineSuspended = false → sh.paused = false ∨ Somewhere Pc.resumesNext task

/-- The fields these speak of. -/
structure SameFlags (sh sh' : Shared) : Prop where
  failed : sh'.failed = sh.failed
  control : sh'.control = sh.control
  screen : sh'.screenSuspended = sh.screenSuspended
  engine : sh'.engineSuspended = sh.engineSuspended
  paused : sh'.paused = sh.paused

/-- Where these need a thread, it is still there. -/
structure Stays (pc pc' : Pc) : Prop where
  suspends : pc.suspendsNext = true → pc'.suspendsNext = true
  pauses : pc.pausesNext = true → pc'.pausesNext = true
  resumes : pc.resumesNext = true → pc'.resumesNext = true

theorem Follows.keep (before : Follows sh task) (same : SameFlags sh sh')
    (stays : Stays (task t) pc') : Follows sh' (Function.update task t pc') := by
  obtain ⟨failed, control, screen, engine, paused⟩ := same
  constructor
  · rw [failed, control, screen, engine]
    intro current published asleep
    exact (before.suspended current published asleep).imp id fun next => next.move stays.suspends
  · rw [failed, control, screen, paused]
    intro current published asleep
    exact (before.paused current published asleep).imp id fun next => next.move stays.pauses
  · rw [failed, control, screen, engine, paused]
    intro current published awake running
    exact (before.unpaused current published awake running).imp id fun next =>
      next.move stays.resumes

/-- The engine is suspended. -/
theorem Follows.suspends (before : Follows sh task) (failed : sh'.failed = sh.failed)
    (control : sh'.control = sh.control) (screen : sh'.screenSuspended = sh.screenSuspended)
    (engine : sh'.engineSuspended = true) (paused : sh'.paused = sh.paused)
    (stays : (task t).pausesNext = true → pc'.pausesNext = true) :
    Follows sh' (Function.update task t pc') := by
  constructor
  · exact fun _ _ _ => .inl engine
  · rw [failed, control, screen, paused]
    intro current published asleep
    exact (before.paused current published asleep).imp id fun next => next.move stays
  · simp [engine]

theorem stays_of_none (none : pc.suspendsNext = false ∧ pc.pausesNext = false ∧
    pc.resumesNext = false) : Stays pc pc' := by
  constructor <;> simp [none]

/-- With the screen on there is only the supervisor to resume. -/
theorem follows_of_awake (awake : sh'.screenSuspended = false)
    (unpaused : sh'.failed = false → sh'.control = true → sh'.engineSuspended = false →
      sh'.paused = false ∨ Somewhere Pc.resumesNext task) : Follows sh' task := by
  constructor
  · simp [awake]
  · simp [awake]
  · exact fun current published _ running => unpaused current published running

theorem follows_of_failed (failed : sh'.failed = true) : Follows sh' task := by
  constructor <;> simp [failed]

theorem follows_reads (before : Follows sh task) (knows : Knows sh (task t))
    (reads : Reads sh (task t) pc') : Follows sh (Function.update task t pc') := by
  have keep (stays : Stays (task t) pc') := before.keep (t := t) ⟨rfl, rfl, rfl, rfl, rfl⟩ stays
  have idle (awake : sh.screenSuspended = false) (stays : (task t).resumesNext = false) :
      Follows sh (Function.update task t pc') :=
    follows_of_awake awake fun current published running =>
      (before.unpaused current published awake running).imp id fun next => next.move (by simp [stays])
  generalize task t = pc at reads knows keep idle
  cases reads with
  | suspended suspended =>
      exact follows_of_awake (knows.screen false rfl) (by simp [suspended])
  | unsuspended => exact keep ⟨id, id, fun _ => rfl⟩
  | asleep => exact keep ⟨fun _ => rfl, id, id⟩
  | started awake => exact idle awake rfl
  | _ => exact keep (stays_of_none ⟨rfl, rfl, rfl⟩)

theorem follows_move (before : Follows sh task) (knows : Knows sh (task t))
    (move : Move t sh (task t) sh' pc') : Follows sh' (Function.update task t pc') := by
  have keep (same : SameFlags sh sh') (stays : Stays (task t) pc') :=
    before.keep (t := t) same stays
  have suspend (failed : sh'.failed = sh.failed) (control : sh'.control = sh.control)
      (screen : sh'.screenSuspended = sh.screenSuspended) (engine : sh'.engineSuspended = true)
      (paused : sh'.paused = sh.paused)
      (stays : (task t).pausesNext = true → pc'.pausesNext = true) :=
    before.suspends (t := t) failed control screen engine paused stays
  have read (reads : Reads sh (task t) pc') := follows_reads before knows reads
  have slept (other : (task t).suspendsNext = false) (current : sh.failed = false)
      (published : sh.control = true) (asleep : sh.screenSuspended = true) :
      sh.engineSuspended = true ∨ Somewhere Pc.suspendsNext (Function.update task t pc') :=
    (before.suspended current published asleep).imp id fun next => next.move (by simp [other])
  generalize task t = pc at move knows keep suspend read slept
  cases move with
  | reads reads => exact read reads
  | @returns caller _ returns =>
      refine keep (by cases caller <;> exact ⟨rfl, rfl, rfl, rfl, rfl⟩) (stays_of_none ?_)
      cases returns <;> exact ⟨rfl, rfl, rfl⟩
  | @pushes caller =>
      exact keep (by cases caller <;> exact ⟨rfl, rfl, rfl, rfl, rfl⟩)
        (stays_of_none ⟨rfl, rfl, rfl⟩)
  | enters enters =>
      exact keep ⟨rfl, rfl, rfl, rfl, rfl⟩ (stays_of_none (by cases enters <;> exact ⟨rfl, rfl, rfl⟩))
  | leaves leaves =>
      exact keep ⟨rfl, rfl, rfl, rfl, rfl⟩ (stays_of_none (by cases leaves <;> exact ⟨rfl, rfl, rfl⟩))
  | fails fails => cases fails <;> exact follows_of_failed rfl
  | suspends suspends =>
      cases suspends with
      | sleeping => exact suspend rfl rfl rfl rfl rfl fun _ => rfl
      | _ => exact suspend rfl rfl rfl rfl rfl (by simp [Pc.pausesNext])
  | screenOff =>
      exact ⟨fun _ _ _ => .inr (.here rfl), fun _ _ _ => .inr (.here rfl), by simp⟩
  | screenOn => exact follows_of_awake rfl fun _ _ _ => .inr (.here rfl)
  | unheard _ failed => exact follows_of_failed failed
  | pauses =>
      have asleep := knows.screen true rfl
      rw [pause_eq]
      refine ⟨slept rfl, fun _ published _ => .inl ?_, ?_⟩
      · change sh.control = true at published
        simp [Shared.unlock, published]
      · simp [Shared.unlock, asleep]
  | unpauses =>
      rw [pause_eq]
      refine follows_of_awake (knows.screen false rfl) fun _ published _ => .inl ?_
      change sh.control = true at published
      simp [Shared.unlock, published]
  | resumes next =>
      rw [pause_eq]
      refine follows_of_awake (knows.screen false rfl) fun _ published _ => .inl ?_
      change sh.control = true at published
      simp [Shared.unlock, published]
  | executes pushes =>
      refine keep ⟨rfl, rfl, rfl, rfl, rfl⟩ (stays_of_none ?_)
      rcases pushes with rfl | rfl <;> exact ⟨rfl, rfl, rfl⟩
  | publishes =>
      exact ⟨fun _ _ _ => .inr (.here rfl), fun _ _ asleep => .inl asleep,
        fun _ _ awake _ => .inl awake⟩
  | stops stops =>
      rw [requestStop_eq] at keep ⊢
      refine keep ⟨rfl, rfl, rfl, rfl, rfl⟩ (stays_of_none ?_)
      rcases stops with ⟨rfl, _⟩ | ⟨rfl, _⟩ <;> exact ⟨rfl, rfl, rfl⟩
  | wakes _ awake => exact follows_of_awake awake fun _ _ _ => .inr (.here rfl)
  | completes =>
      exact keep ⟨rfl, rfl, rfl, rfl, rfl⟩
        ⟨by simp [Pc.suspendsNext], by simp [Pc.pausesNext], fun _ => rfl⟩
  | readies => exact keep ⟨rfl, rfl, rfl, rfl, rfl⟩ ⟨id, id, id⟩
  | _ => exact keep ⟨rfl, rfl, rfl, rfl, rfl⟩ (stays_of_none ⟨rfl, rfl, rfl⟩)

namespace Pc

/-- The suspension, past its check. -/
def stopsEngine : Pc → Bool
  | .stopping | .stopped => true
  | _ => false

/-- The resume, past its checks and before the engine is ready. -/
def restartsEngine : Pc → Bool
  | .restartStop | .restartStopped | .restartStart | .restartReady => true
  | _ => false

/-- Someone waits for the engine of the token to be ready. -/
def awaits (token : Nat) : Pc → Bool
  | .awaiting | .restartReady => true
  | .awaitingReady n => n = token
  | _ => false

/-- The initialisation has started an engine. -/
def hasStarted : Pc → Bool
  | .awaiting | .awaitingReady _ | .checking | .publishing => true
  | _ => false

end Pc

def Up (sh : Shared) : Prop :=
  sh.token ≠ 0 ∧ (sh.engine sh.token = .starting ∨ sh.engine sh.token = .ready)

/-- The engine runs, or is about to, where no suspension is flagged. -/
structure Runs (sh : Shared) (task : Thread → Pc) : Prop where
  stops : Somewhere Pc.stopsEngine task →
    sh.engineSuspended = true ∧ ¬ Somewhere Pc.unflagged task
  up : sh.failed = false → sh.generation ≠ 0 ∧ sh.engineSuspended = false ∨
    Somewhere Pc.unflagged task → Up sh ∨ Somewhere Pc.restartsEngine task
  starting : sh.token ≠ 0 → sh.engine sh.token = .starting →
    Somewhere (Pc.awaits sh.token) task
  published : sh.control = true → sh.generation ≠ 0

structure SameEngine (sh sh' : Shared) : Prop where
  failed : sh'.failed = sh.failed
  suspended : sh'.engineSuspended = sh.engineSuspended
  generation : sh'.generation = sh.generation
  token : sh'.token = sh.token
  engine : sh'.engine = sh.engine
  control : sh'.control = sh.control

/-- Where a thread goes on without stopping, restarting or leaving an engine. -/
structure Passes (sh : Shared) (pc pc' : Pc) : Prop where
  stops : pc'.stopsEngine = true → pc.stopsEngine = true
  flags : pc'.unflagged = true → pc.unflagged = true
  restarts : pc.restartsEngine = true → pc'.restartsEngine = true
  awaits : sh.engine sh.token = .starting → pc.awaits sh.token = true →
    pc'.awaits sh.token = true

theorem passes_of_none (stops : pc'.stopsEngine = false) (flags : pc'.unflagged = false)
    (restarts : pc.restartsEngine = false) (awaits : pc.awaits sh.token = false) :
    Passes sh pc pc' := by
  constructor <;> simp [stops, flags, restarts, awaits]

theorem Runs.keep (before : Runs sh task) (same : SameEngine sh sh')
    (passes : Passes sh (task t) pc') : Runs sh' (Function.update task t pc') := by
  obtain ⟨failed, suspended, generation, token, engine, control⟩ := same
  constructor
  · intro stops
    rw [suspended]
    obtain ⟨flagged, none⟩ := before.stops (stops.of_update passes.stops)
    exact ⟨flagged, fun there => none (there.of_update passes.flags)⟩
  · rw [failed, generation, suspended]
    intro current need
    have up := before.up current (need.imp id fun there => there.of_update passes.flags)
    rw [Up, token, engine]
    exact up.imp id fun restarts => restarts.move passes.restarts
  · rw [token, engine]
    exact fun started starting =>
      (before.starting started starting).move (passes.awaits starting)
  · rw [control, generation]
    exact before.published

/-- The engine is flagged as suspended. -/
theorem Runs.suspends (before : Runs sh task) (failed : sh'.failed = sh.failed)
    (suspended : sh'.engineSuspended = true) (generation : sh'.generation = sh.generation)
    (token : sh'.token = sh.token) (engine : sh'.engine = sh.engine)
    (control : sh'.control = sh.control) (passes : Passes sh (task t) pc') :
    Runs sh' (Function.update task t pc') := by
  constructor
  · intro stops
    obtain ⟨_, none⟩ := before.stops (stops.of_update passes.stops)
    exact ⟨suspended, fun there => none (there.of_update passes.flags)⟩
  · rw [failed]
    intro current need
    have there : Somewhere Pc.unflagged task := by
      rcases need with ⟨_, running⟩ | there
      · simp [suspended] at running
      · exact there.of_update passes.flags
    rw [Up, token, engine]
    exact (before.up current (.inr there)).imp id fun restarts => restarts.move passes.restarts
  · rw [token, engine]
    exact fun started starting =>
      (before.starting started starting).move (passes.awaits starting)
  · rw [control, generation]
    exact before.published

/-- What the acting thread knows of the engine. -/
structure Engaged (t : Thread) (sh : Shared) (task : Thread → Pc) : Prop where
  alone : (task t).holds = true → ∀ k, k ≠ t → (task k).holds = false
  token : task t = .restartReady → sh.token ≠ 0
  begun : (task t).hasStarted = true → sh.generation ≠ 0
  failed : task t = .closing → sh.failed = true
  clear : task t = .suspendingRead → sh.engineSuspended = true → ¬ Somewhere Pc.unflagged task

theorem holds_of_stopsEngine (stops : pc.stopsEngine = true) : pc.holds = true := by
  cases pc <;> first | rfl | cases stops

theorem engine_requestStop (started : sh.token ≠ 0) :
    sh.requestStop.engine sh.token ≠ .starting := by
  unfold Shared.requestStop
  rw [if_neg started]
  cases there : sh.engine sh.token <;> simp [Shared.setEngine, there]

/-- The engine of a suspension that is under way may stop. -/
theorem Runs.stopped (before : Runs sh task) (stopping : (task t).stopsEngine = true)
    (flags : pc'.unflagged = false) (suspended : sh'.engineSuspended = sh.engineSuspended)
    (starting : sh'.token ≠ 0 → sh'.engine sh'.token ≠ .starting)
    (generation : sh'.generation = sh.generation) (control : sh'.control = sh.control) :
    Runs sh' (Function.update task t pc') := by
  obtain ⟨flagged, none⟩ := before.stops ⟨t, stopping⟩
  have still : ¬ Somewhere Pc.unflagged (Function.update task t pc') :=
    fun there => none (there.of_update (by simp [flags]))
  constructor
  · exact fun _ => ⟨suspended.trans flagged, still⟩
  · rintro _ (⟨_, running⟩ | there)
    · simp [suspended, flagged] at running
    · exact absurd there still
  · exact fun started now => absurd now (starting started)
  · rw [control, generation]
    exact before.published

/-- A restart goes on. -/
theorem Runs.restarting (before : Runs sh task) (restarts : (task t).restartsEngine = true)
    (restarts' : pc'.restartsEngine = true) (suspended : sh'.engineSuspended = sh.engineSuspended)
    (starting : sh'.token ≠ 0 → sh'.engine sh'.token = .starting → pc'.awaits sh'.token = true)
    (generation : sh.generation ≠ 0 → sh'.generation ≠ 0) (control : sh'.control = sh.control) :
    Runs sh' (Function.update task t pc') := by
  have other : (task t).stopsEngine = false ∧ (task t).unflagged = false := by
    cases here : task t <;> rw [here] at restarts <;> first | exact ⟨rfl, rfl⟩ | cases restarts
  have other' : pc'.stopsEngine = false ∧ pc'.unflagged = false := by
    cases pc' <;> first | exact ⟨rfl, rfl⟩ | cases restarts'
  constructor
  · intro stops
    rw [suspended]
    obtain ⟨flagged, none⟩ := before.stops (stops.of_update (by simp [other'.1]))
    exact ⟨flagged, fun there => none (there.of_update (by simp [other'.2]))⟩
  · exact fun _ _ => .inr (.here restarts')
  · exact fun started now => .here (starting started now)
  · rw [control]
    exact fun published => generation (before.published published)

theorem start_up : Up sh.start ∧ sh.start.generation ≠ 0 := by
  refine ⟨⟨Nat.succ_ne_zero _, .inl ?_⟩, Nat.succ_ne_zero _⟩
  simp [Shared.start, Shared.setEngine]

theorem runs_reads (before : Runs sh task) (engaged : Engaged t sh task)
    (reads : Reads sh (task t) pc') : Runs sh (Function.update task t pc') := by
  have keep (passes : Passes sh (task t) pc') :=
    before.keep (t := t) ⟨rfl, rfl, rfl, rfl, rfl, rfl⟩ passes
  have stops (here : task t = .suspendingRead) (suspended : sh.engineSuspended = true) :
      Runs sh (Function.update task t .stopping) := by
    have none := engaged.clear here suspended
    refine ⟨fun _ => ⟨suspended, fun there => none (there.of_update (by simp [Pc.unflagged]))⟩,
      ?_, ?_, before.published⟩
    · rintro _ (⟨_, running⟩ | there)
      · simp [suspended] at running
      · exact absurd (there.of_update (by simp [Pc.unflagged])) none
    · exact fun started now => (before.starting started now).move (by simp [here, Pc.awaits])
  generalize here : task t = pc at reads keep stops
  cases reads with
  | stopping suspended => exact stops rfl suspended
  | token => exact keep ⟨id, id, id, by simp [Pc.awaits]⟩
  | @engine token ready =>
      refine keep ⟨id, id, id, fun starting awaits => ?_⟩
      obtain rfl : token = sh.token := by simpa [Pc.awaits] using awaits
      simp [starting] at ready
  | restarts =>
      exact keep ⟨by simp [Pc.stopsEngine], by simp [Pc.unflagged], fun _ => rfl,
        by simp [Pc.awaits]⟩
  | _ => exact keep (passes_of_none rfl rfl rfl rfl)

theorem Runs.fails {sh' : Shared} (before : Runs sh task) (fails : Fails sh (task t) sh') :
    Runs sh' (Function.update task t .idle) := by
  have stops (stops : Somewhere Pc.stopsEngine (Function.update task t .idle)) :
      sh.engineSuspended = true ∧ ¬ Somewhere Pc.unflagged (Function.update task t .idle) := by
    obtain ⟨flagged, none⟩ := before.stops (stops.of_update (by simp [Pc.stopsEngine]))
    exact ⟨flagged, fun there => none (there.of_update (by simp [Pc.unflagged]))⟩
  have starting (other : sh.engine sh.token = .starting → (task t).awaits sh.token = false)
      (started : sh.token ≠ 0) (now : sh.engine sh.token = .starting) :
      Somewhere (Pc.awaits sh.token) (Function.update task t .idle) :=
    (before.starting started now).move (by simp [other now])
  generalize task t = pc at fails starting
  cases fails with
  | twice =>
      exact ⟨stops, by simp [Shared.failGeneration], starting fun _ => rfl, before.published⟩
  | unstarted zero =>
      exact ⟨stops, by simp [Shared.failGeneration], fun started => absurd zero started,
        before.published⟩
  | @aborted token aborted =>
      refine ⟨stops, by simp [Shared.failGeneration], starting fun now => ?_, before.published⟩
      have other : token ≠ sh.token := by
        rintro rfl
        simp [aborted] at now
      simpa [Pc.awaits] using other

theorem runs_leaves (before : Runs sh task) (engaged : Engaged t sh task)
    (leaves : Leaves sh (task t) pc') : Runs sh.leave (Function.update task t pc') := by
  have keep (passes : Passes sh (task t) pc') :=
    @Runs.keep t _ sh.leave _ _ before ⟨rfl, rfl, rfl, rfl, rfl, rfl⟩ passes
  have restarted (here : task t = .restartReady) (ready : sh.engine sh.token = .ready) :
      Runs sh.leave (Function.update task t .restarted) := by
    have started := engaged.token here
    refine ⟨fun stops => ?_, fun _ _ => .inl ⟨started, .inr ready⟩, fun _ now => ?_,
      before.published⟩
    · -- no suspension is under way while the restart holds the lock
      rcases stops.cases_update with now | ⟨k, ne, there⟩
      · cases now
      · have other := engaged.alone (by rw [here]; rfl) k ne
        simp [holds_of_stopsEngine there] at other
    · change sh.engine sh.token = .starting at now
      simp [ready] at now
  generalize task t = pc at leaves keep restarted
  cases leaves with
  | restarted ready => exact restarted rfl ready
  | _ => exact keep (passes_of_none rfl rfl rfl rfl)

/-- The resume clears the flag of the engine it has restarted. -/
theorem Runs.wakes (before : Runs sh task) (here : task t = .restarted) :
    Runs { sh with engineSuspended := false, lifecycleLock := some t }
      (Function.update task t .completing) := by
  have unflagged : Somewhere Pc.unflagged task := ⟨t, by rw [here]; rfl⟩
  refine ⟨fun stops => ?_, fun current _ => ?_, fun started now => ?_, before.published⟩
  · have stopping := stops.of_update (by simp [Pc.stopsEngine])
    exact absurd unflagged (before.stops stopping).2
  · exact (before.up current (.inr unflagged)).imp id fun restarts =>
      restarts.move (by simp [here, Pc.restartsEngine])
  · exact (before.starting started now).move (by simp [here, Pc.awaits])

theorem Runs.readies {token : Nat} (before : Runs sh task) (here : task t = pc) :
    Runs (sh.setEngine token .ready) (Function.update task t pc) := by
  subst here
  rw [Function.update_eq_self]
  refine ⟨before.stops, fun current need => ?_, fun started now => ?_, before.published⟩
  · refine (before.up current need).imp (fun ⟨started, running⟩ => ⟨started, ?_⟩) id
    by_cases same : sh.token = token
    · exact .inr (by simp [Shared.setEngine, same])
    · simpa [Shared.setEngine, same] using running
  · have other : sh.token ≠ token := by
      intro same
      simp [Shared.setEngine, same] at now
    exact before.starting started (by simpa [Shared.setEngine, other] using now)

theorem runs_move (before : Runs sh task) (engaged : Engaged t sh task)
    (move : Move t sh (task t) sh' pc') : Runs sh' (Function.update task t pc') := by
  have keep (same : SameEngine sh sh') (passes : Passes sh (task t) pc') :=
    before.keep (t := t) same passes
  have suspend (failed : sh'.failed = sh.failed) (suspended : sh'.engineSuspended = true)
      (generation : sh'.generation = sh.generation) (token : sh'.token = sh.token)
      (engine : sh'.engine = sh.engine) (control : sh'.control = sh.control)
      (passes : Passes sh (task t) pc') :=
    before.suspends (t := t) failed suspended generation token engine control passes
  have read (reads : Reads sh (task t) pc') := runs_reads before engaged reads
  have leave (leaves : Leaves sh (task t) pc') := runs_leaves before engaged leaves
  have fail {sh' : Shared} (fails : Fails sh (task t) sh') := before.fails fails
  have stop (stopping : (task t).stopsEngine = true) (flags : pc'.unflagged = false)
      (suspended : sh'.engineSuspended = sh.engineSuspended)
      (starting : sh'.token ≠ 0 → sh'.engine sh'.token ≠ .starting)
      (generation : sh'.generation = sh.generation) (control : sh'.control = sh.control) :=
    before.stopped (t := t) stopping flags suspended starting generation control
  have restart (restarts : (task t).restartsEngine = true) (restarts' : pc'.restartsEngine = true)
      (suspended : sh'.engineSuspended = sh.engineSuspended)
      (starting : sh'.token ≠ 0 → sh'.engine sh'.token = .starting → pc'.awaits sh'.token = true)
      (generation : sh.generation ≠ 0 → sh'.generation ≠ 0) (control : sh'.control = sh.control) :=
    before.restarting (t := t) restarts restarts' suspended starting generation control
  have begun := engaged.begun
  generalize here : task t = pc at move keep suspend read leave fail stop restart begun
  cases move with
  | reads reads => exact read reads
  | leaves leaves => exact leave leaves
  | fails fails => exact fail fails
  | @returns caller _ returns =>
      refine keep (by cases caller <;> exact ⟨rfl, rfl, rfl, rfl, rfl, rfl⟩) ?_
      cases caller <;> cases returns <;> exact passes_of_none rfl rfl rfl rfl
  | @pushes caller =>
      refine keep (by cases caller <;> exact ⟨rfl, rfl, rfl, rfl, rfl, rfl⟩) ?_
      cases caller <;> exact passes_of_none rfl rfl rfl rfl
  | enters enters =>
      refine keep ⟨rfl, rfl, rfl, rfl, rfl, rfl⟩ ?_
      cases enters <;> exact passes_of_none rfl rfl rfl rfl
  | suspends suspends =>
      cases suspends with
      | lost next =>
          refine suspend rfl rfl rfl rfl rfl rfl ?_
          rcases next with ⟨_, rfl⟩ | ⟨_, rfl⟩ <;> exact passes_of_none rfl rfl rfl rfl
      | _ => exact suspend rfl rfl rfl rfl rfl rfl (passes_of_none rfl rfl rfl rfl)
  | pauses =>
      rw [pause_eq] at keep ⊢
      exact keep ⟨rfl, rfl, rfl, rfl, rfl, rfl⟩ (passes_of_none rfl rfl rfl rfl)
  | unpauses =>
      rw [pause_eq] at keep ⊢
      exact keep ⟨rfl, rfl, rfl, rfl, rfl, rfl⟩ (passes_of_none rfl rfl rfl rfl)
  | resumes next =>
      rw [pause_eq] at keep ⊢
      refine keep ⟨rfl, rfl, rfl, rfl, rfl, rfl⟩ ?_
      rcases next with rfl | rfl <;> exact passes_of_none rfl rfl rfl rfl
  | executes pushes =>
      refine keep ⟨rfl, rfl, rfl, rfl, rfl, rfl⟩ ?_
      rcases pushes with rfl | rfl <;> exact passes_of_none rfl rfl rfl rfl
  | starts =>
      obtain ⟨up, generation⟩ := start_up
      refine ⟨fun stops => ?_, fun _ _ => .inl up, fun _ _ => .here rfl, fun _ => generation⟩
      obtain ⟨flagged, none⟩ := before.stops (stops.of_update (by simp [Pc.stopsEngine]))
      exact ⟨flagged, fun there => none (there.of_update (by simp [Pc.unflagged]))⟩
  | publishes =>
      have moved := @Runs.keep t _ _ .published _ before ⟨rfl, rfl, rfl, rfl, rfl, rfl⟩
        (passes_of_none rfl rfl (by rw [here]; rfl) (by rw [here]; rfl))
      exact ⟨moved.stops, moved.up, moved.starting, fun _ => begun rfl⟩
  | stops stops =>
      rcases stops with ⟨rfl, rfl⟩ | ⟨rfl, rfl⟩
      · rw [requestStop_eq] at stop ⊢
        exact stop rfl rfl rfl (@engine_requestStop sh) rfl rfl
      · rw [requestStop_eq] at restart ⊢
        exact restart rfl rfl rfl (fun started now => absurd now (engine_requestStop started)) id rfl
  | stopped => exact stop rfl rfl rfl (fun started => absurd rfl started) rfl rfl
  | restartStopped => exact restart rfl rfl rfl (fun started => absurd rfl started) id rfl
  | restarts => exact restart rfl rfl rfl (fun _ _ => rfl) (fun _ => Nat.succ_ne_zero _) rfl
  | wakes => exact before.wakes here
  | closes =>
      have failed := engaged.failed here
      refine ⟨fun stops => ?_, by simp [Shared.leave, failed], fun started => absurd rfl started,
        before.published⟩
      obtain ⟨flagged, none⟩ := before.stops (stops.of_update (by simp [Pc.stopsEngine]))
      exact ⟨flagged, fun there => none (there.of_update (by simp [Pc.unflagged]))⟩
  | @takes job =>
      refine keep ⟨rfl, rfl, rfl, rfl, rfl, rfl⟩ ?_
      cases job <;> exact passes_of_none rfl rfl rfl rfl
  | readies => exact before.readies here
  | _ => exact keep ⟨rfl, rfl, rfl, rfl, rfl, rfl⟩ (passes_of_none rfl rfl rfl rfl)

/-- The token changes under `engineStartLock`, and a restart that waits has one. -/
theorem Move.token (move : Move t sh pc sh' pc') :
    (sh'.token = sh.token ∨ pc.holds = true) ∧
      (pc' = .restartReady → sh'.token ≠ 0 ∨ pc = .restartReady ∧ sh'.token = sh.token) := by
  cases move with
  | reads reads => exact ⟨.inl rfl, by cases reads <;> simp⟩
  | @returns caller =>
      exact ⟨.inl (by cases caller <;> rfl), by cases caller <;> simp [Caller.done]⟩
  | @pushes caller =>
      exact ⟨.inl (by cases caller <;> rfl), by cases caller <;> simp [Caller.done]⟩
  | enters enters => exact ⟨.inl rfl, by cases enters <;> simp⟩
  | leaves leaves => exact ⟨.inl rfl, by cases leaves <;> simp⟩
  | fails fails => cases fails <;> exact ⟨.inl rfl, by simp⟩
  | suspends suspends =>
      cases suspends with
      | lost next => exact ⟨.inl rfl, by rcases next with ⟨_, rfl⟩ | ⟨_, rfl⟩ <;> simp⟩
      | _ => exact ⟨.inl rfl, by simp⟩
  | pauses => exact ⟨.inl (by rw [pause_eq]; rfl), by simp⟩
  | unpauses => exact ⟨.inl (by rw [pause_eq]; rfl), by simp⟩
  | resumes next =>
      exact ⟨.inl (by rw [pause_eq]; rfl), by rcases next with rfl | rfl <;> simp⟩
  | starts => exact ⟨.inr rfl, by simp⟩
  | stops stops =>
      exact ⟨.inl (by rw [requestStop_eq]), by rcases stops with ⟨_, rfl⟩ | ⟨_, rfl⟩ <;> simp⟩
  | stopped => exact ⟨.inr rfl, by simp⟩
  | closes => exact ⟨.inr rfl, by simp⟩
  | restartStopped => exact ⟨.inr rfl, by simp⟩
  | restarts => exact ⟨.inr rfl, fun _ => .inl (Nat.succ_ne_zero _)⟩
  | @takes job => exact ⟨.inl rfl, by cases job <;> simp [Job.begins]⟩
  | readies => exact ⟨.inl rfl, fun waits => .inr ⟨waits, rfl⟩⟩
  | _ => exact ⟨.inl rfl, by simp⟩

theorem Move.generation (move : Move t sh pc sh' pc') :
    (sh.generation ≠ 0 → sh'.generation ≠ 0) ∧
      (pc'.hasStarted = true → sh'.generation ≠ 0 ∨ pc.hasStarted = true) := by
  cases move with
  | reads reads => exact ⟨id, by cases reads <;> simp [Pc.hasStarted]⟩
  | @returns caller =>
      exact ⟨by cases caller <;> exact id, by cases caller <;> simp [Caller.done, Pc.hasStarted]⟩
  | @pushes caller =>
      exact ⟨by cases caller <;> exact id, by cases caller <;> simp [Caller.done, Pc.hasStarted]⟩
  | enters enters => exact ⟨id, by cases enters <;> simp [Pc.hasStarted]⟩
  | leaves leaves => exact ⟨id, by cases leaves <;> simp [Pc.hasStarted]⟩
  | fails fails => cases fails <;> exact ⟨id, by simp [Pc.hasStarted]⟩
  | suspends suspends =>
      cases suspends with
      | lost next => exact ⟨id, by rcases next with ⟨_, rfl⟩ | ⟨_, rfl⟩ <;> simp [Pc.hasStarted]⟩
      | _ => exact ⟨id, by simp [Pc.hasStarted]⟩
  | pauses => exact ⟨by rw [pause_eq]; exact id, by simp [Pc.hasStarted]⟩
  | unpauses => exact ⟨by rw [pause_eq]; exact id, by simp [Pc.hasStarted]⟩
  | resumes next =>
      exact ⟨by rw [pause_eq]; exact id, by rcases next with rfl | rfl <;> simp [Pc.hasStarted]⟩
  | starts => exact ⟨fun _ => Nat.succ_ne_zero _, fun _ => .inl (Nat.succ_ne_zero _)⟩
  | restarts => exact ⟨fun _ => Nat.succ_ne_zero _, by simp [Pc.hasStarted]⟩
  | stops stops =>
      rw [requestStop_eq]
      exact ⟨id, by rcases stops with ⟨_, rfl⟩ | ⟨_, rfl⟩ <;> simp [Pc.hasStarted]⟩
  | @takes job => exact ⟨id, by cases job <;> simp [Job.begins, Pc.hasStarted]⟩
  | readies => exact ⟨id, .inr⟩
  | _ => exact ⟨id, by simp [Pc.hasStarted]⟩

end

section
variable {asleep : Bool} {ok : Config Thread Shared Pc → Thread × Action → Prop}
  {c : Config Thread Shared Pc} {k : Thread}

theorem token_of_reachable (reached : (session asleep).system.Reachable ok c)
    (waits : c.task k = .restartReady) : c.shared.token ≠ 0 := by
  refine (Tasks.system_invariant_of_reachable (I := fun _ => True)
    (J := fun _ sh pc => pc = .restartReady → sh.token ≠ 0) trivial (by rintro k ⟨⟩) ?_
    reached).2 k waits
  intro c t a sh pc reached _ _ known taken
  obtain ⟨changes, waits⟩ := (move_of_step taken).token
  refine ⟨trivial, fun now => ?_, fun k ne there => ?_⟩
  · rcases waits now with started | ⟨before, same⟩
    · exact started
    · rw [same]
      exact known t before
  · rcases changes with same | holds
    · rw [same]
      exact known k there
    · have other := alone_of_reachable reached holds ne
      simp [there, Pc.holds] at other

theorem generation_of_reachable (reached : (session asleep).system.Reachable ok c)
    (started : (c.task k).hasStarted = true) : c.shared.generation ≠ 0 := by
  refine (Tasks.system_invariant (I := fun _ => True)
    (J := fun _ sh pc => pc.hasStarted = true → sh.generation ≠ 0) trivial (by rintro k ⟨⟩) ?_
    reached).2 k started
  intro c t a sh pc _ _ known taken
  obtain ⟨grows, starts⟩ := (move_of_step taken).generation
  refine ⟨trivial, fun now => ?_, fun k _ there => grows (known k there)⟩
  rcases starts now with begun | before
  · exact begun
  · exact grows (known t before)

end

/-- The initialisation suspends the engine only while the headset sleeps, and a suspension does
not find the flag up between a restart and the clearing of it. -/
def InTime (c : Config Thread Shared Pc) (a : Thread × Action) : Prop :=
  (c.task a.1 = .suspends → c.shared.screenSuspended = true) ∧
    (c.task a.1 = .suspendingRead → c.shared.engineSuspended = true →
      ¬ Somewhere Pc.unflagged c.task)

instance (c : Config Thread Shared Pc) (a : Thread × Action) : Decidable (InTime c a) :=
  inferInstanceAs (Decidable ((_ → _) ∧ (_ → _ → ¬ _)))

/-- No task runs, is queued or posted, and no callback or screen event is under way. -/
def Quiescent (c : Config Thread Shared Pc) : Prop :=
  (∀ k, c.task k = .idle) ∧ c.shared.jobs = [] ∧ c.shared.posted = 0

structure Settles (c : Config Thread Shared Pc) : Prop where
  queued : Queued c.shared c.task
  awake : Awake c.shared c.task
  follows : Follows c.shared c.task
  runs : Runs c.shared c.task

theorem settles_of_reachable {asleep : Bool} {c : Config Thread Shared Pc}
    (reached : (session asleep).system.Reachable InTime c) : Settles c := by
  refine (reached.invariant (I := fun c => (session asleep).system.Reachable InTime c ∧ Settles c)
    ⟨⟨[], .nil⟩, ?_⟩ ?_).2
  · refine ⟨⟨?_⟩, ⟨?_⟩, ⟨?_, ?_, ?_⟩, ⟨?_, ?_, ?_, ?_⟩⟩
    any_goals simp [Tasks.system, session, Shared.committed]
    · rintro ⟨k, ⟨⟩⟩
    · rintro ⟨k, ⟨⟩⟩
  · rintro c ⟨t, a⟩ c' ⟨reached, settles⟩ meets taken
    refine ⟨reached.extend (.snoc .nil meets taken), ?_⟩
    obtain ⟨sh, pc, stepped, rfl⟩ := Tasks.system_step taken
    have move := move_of_step stepped
    have knows : Knows c.shared (c.task t) :=
      ⟨fun _ => screen_of_reachable reached, meets.1⟩
    have engaged : Engaged t c.shared c.task := by
      exact ⟨fun holds _ ne => alone_of_reachable reached holds ne, token_of_reachable reached,
        generation_of_reachable reached,
        fun here => (failed_of_reachable reached).2 t (by rw [here]; rfl), meets.2⟩
    exact ⟨queued_move settles.queued move, awake_move settles.awake settles.queued knows move,
      follows_move settles.follows knows move, runs_move settles.runs engaged move⟩

theorem Quiescent.nowhere {c : Config Thread Shared Pc} (quiet : Quiescent c) {f : Pc → Bool}
    (idle : f .idle = false) : ¬ Somewhere f c.task := by
  rintro ⟨k, there⟩
  simp [quiet.1 k, idle] at there

/-- In a quiescent state the engine and the supervisor are as the screen says: no wake is
lost. -/
theorem sleep_wake_converges {asleep : Bool} {c : Config Thread Shared Pc}
    (reached : (session asleep).system.Reachable InTime c) (quiet : Quiescent c)
    (active : c.shared.failed = false) (published : c.shared.control = true) :
    (c.shared.screenSuspended = false → c.shared.engineSuspended = false ∧
        (c.shared.token ≠ 0 ∧ c.shared.engine c.shared.token = .ready) ∧
        c.shared.paused = false) ∧
      (c.shared.screenSuspended = true → c.shared.paused = true ∧
        c.shared.engineSuspended = true) := by
  obtain ⟨queued, awake, follows, runs⟩ := settles_of_reachable reached
  refine ⟨fun on => ?_, fun off => ?_⟩
  · have running : c.shared.engineSuspended = false := by
      cases suspended : c.shared.engineSuspended with
      | false => rfl
      | true =>
          rcases awake.pending active on suspended with posted | job | pending
          · simp [quiet.2.2] at posted
          · simp [quiet.2.1] at job
          · exact absurd pending (quiet.nowhere rfl)
    refine ⟨running, ?_, ?_⟩
    · rcases runs.up active (.inl ⟨runs.published published, running⟩) with ⟨started, up⟩ | restarts
      · rcases up with starting | ready
        · exact absurd (runs.starting started starting) (quiet.nowhere rfl)
        · exact ⟨started, ready⟩
      · exact absurd restarts (quiet.nowhere rfl)
    · rcases follows.unpaused active published on running with unpaused | next
      · exact unpaused
      · exact absurd next (quiet.nowhere rfl)
  · refine ⟨?_, ?_⟩
    · rcases follows.paused active published off with paused | next
      · exact paused
      · exact absurd next (quiet.nowhere rfl)
    · rcases follows.suspended active published off with suspended | next
      · exact suspended
      · exact absurd next (quiet.nowhere rfl)

/-- A session that sleeps once and wakes up. -/
theorem sleep_wake_converges_once :
    ∃ c, (session false).system.Reachable InTime c ∧ c.shared.generation = 2 ∧
      c.shared.engineSuspended = false ∧ c.shared.engine c.shared.token = .ready := by
  obtain ⟨c, reached, quiet, active, published, on, generation⟩ :
      ∃ c, (session false).system.Reachable InTime c ∧ Quiescent c ∧ c.shared.failed = false ∧
        c.shared.control = true ∧ c.shared.screenSuspended = false ∧ c.shared.generation = 2 := by
    refine ⟨_, System.reachable_of_replay (Schedule.publish ++ Schedule.goes (.worker false) 1 ++
      Schedule.sleep ++ Schedule.wake) rfl, ⟨fun k => ?_, rfl, rfl⟩, rfl, rfl, rfl, rfl⟩
    cases k with
    | main | control => rfl
    | worker second => cases second <;> rfl
  have converges := (sleep_wake_converges reached quiet active published).1 on
  exact ⟨c, reached, generation, converges.1, converges.2.1.2⟩

/-- The initialisation has seen the headset asleep; it wakes up, and the engine is suspended
after that, for good. -/
theorem wake_lost :
    ∃ c, (session true).system.Reachable Free c ∧ Quiescent c ∧ c.shared.failed = false ∧
      c.shared.control = true ∧ c.shared.screenSuspended = false ∧
      c.shared.engineSuspended = true ∧ c.shared.token = 0 := by
  refine ⟨_, System.reachable_of_replay (Schedule.publish ++ Schedule.goes (.worker false) 1 ++
    (.main, .screen false) :: Schedule.goes .main 2 ++ Schedule.goes (.worker false) 2 ++
    (.worker false, .take) :: Schedule.goes (.worker false) 5) rfl, ⟨fun k => ?_, rfl, rfl⟩, rfl, rfl,
    rfl, rfl, rfl⟩
  cases k with
  | main | control => rfl
  | worker second => cases second <;> rfl

end QuestVdWired.Android.Sleep
