import QuestVdWired.Android.SleepLocks

/-!
Sleep does not end a session whose start-up it leaves alone: no resume starts an engine before
the initialisation has, and none is stopped between that start and the moment it is ready.
-/

namespace QuestVdWired.Android.Sleep
open Transition

namespace Pc

/-- The initialisation, before it has started an engine. -/
def unstarted : Pc → Bool
  | .starting | .startingChecked | .startingTunnel => true
  | _ => false

/-- The initialisation, before it has read the token of its engine. -/
def untold : Pc → Bool
  | .awaiting => true
  | _ => false

/-- About to stop an engine. -/
def requestsStop : Pc → Bool
  | .stopping | .restartStop => true
  | _ => false

/-- An engine has been stopped and its token is to be dropped, or has been. -/
def dropsToken : Pc → Bool
  | .stopped | .restartStopped | .restartStart => true
  | _ => false

/-- The initialisation waits for an engine that is not ready, or will. -/
def waits (sh : Shared) : Pc → Bool
  | .awaiting => true
  | .awaitingReady token => sh.engine token = .starting
  | _ => false

end Pc

/-- The initialisation is still to start an engine. -/
def Unstarted (sh : Shared) (task : Thread → Pc) : Prop :=
  .initializeNativeEngine ∈ sh.jobs ∨ Somewhere Pc.unstarted task

instance (sh : Shared) (task : Thread → Pc) : Decidable (Unstarted sh task) :=
  inferInstanceAs (Decidable (_ ∨ _))

/-- A resume does not start an engine before the initialisation has, and no engine is stopped
while the initialisation waits for it. -/
def Undisturbed (c : Config Thread Shared Pc) (a : Thread × Action) : Prop :=
  (c.task a.1 = .restartStart → ¬ Unstarted c.shared c.task) ∧
    ((c.task a.1).requestsStop = true → c.shared.token ≠ 0 →
      ¬ Somewhere (Pc.waits c.shared) c.task)

instance (c : Config Thread Shared Pc) (a : Thread × Action) : Decidable (Undisturbed c a) :=
  inferInstanceAs (Decidable ((_ → ¬ _) ∧ (_ → _ → ¬ _)))

section
variable {t : Thread} {sh sh' : Shared} {pc pc' : Pc} {task : Thread → Pc}

/-- The initialisation is queued once, and taken once. -/
theorem Move.initializes (move : Move t sh pc sh' pc') :
    sh'.jobs.count .initializeNativeEngine = sh.jobs.count .initializeNativeEngine ∧
        (pc'.unstarted = true → pc.unstarted = true) ∨
      sh.jobs.count .initializeNativeEngine =
        sh'.jobs.count .initializeNativeEngine + 1 := by
  have pushed {job : Job} (other : job ≠ .initializeNativeEngine) :
      (sh.jobs ++ [job]).count .initializeNativeEngine =
        sh.jobs.count .initializeNativeEngine := by
    simp [other]
  cases move with
  | reads reads => exact .inl ⟨rfl, by cases reads <;> simp [Pc.unstarted]⟩
  | @returns caller =>
      cases caller <;> exact .inl ⟨rfl, by simp [Caller.done, Pc.unstarted]⟩
  | @pushes caller =>
      cases caller <;> exact .inl ⟨pushed (by simp), by simp [Caller.done, Pc.unstarted]⟩
  | enters enters => exact .inl ⟨rfl, by cases enters <;> simp [Pc.unstarted]⟩
  | leaves leaves => exact .inl ⟨rfl, by cases leaves <;> simp [Pc.unstarted]⟩
  | fails fails => cases fails <;> exact .inl ⟨pushed (by simp), by simp [Pc.unstarted]⟩
  | suspends suspends =>
      cases suspends with
      | lost next =>
          exact .inl ⟨rfl, by rcases next with ⟨_, rfl⟩ | ⟨_, rfl⟩ <;> simp [Pc.unstarted]⟩
      | _ => exact .inl ⟨rfl, by simp [Pc.unstarted]⟩
  | pauses =>
      rw [pause_eq]
      exact .inl ⟨rfl, by simp [Pc.unstarted]⟩
  | unpauses =>
      rw [pause_eq]
      exact .inl ⟨rfl, by simp [Pc.unstarted]⟩
  | resumes next =>
      rw [pause_eq]
      exact .inl ⟨rfl, by rcases next with rfl | rfl <;> simp [Pc.unstarted]⟩
  | executes => exact .inl ⟨pushed (by simp), by simp [Pc.unstarted]⟩
  | stops stops =>
      rw [requestStop_eq]
      exact .inl ⟨rfl, by rcases stops with ⟨_, rfl⟩ | ⟨_, rfl⟩ <;> simp [Pc.unstarted]⟩
  | @takes job jobs next =>
      rw [next]
      cases job with
      | initializeNativeEngine => exact .inr (by simp)
      | _ => exact .inl ⟨by simp, by simp [Job.begins, Pc.unstarted]⟩
  | readies => exact .inl ⟨rfl, id⟩
  | _ => exact .inl ⟨rfl, by simp [Pc.unstarted]⟩

end

section
variable {asleep : Bool} {ok : Config Thread Shared Pc → Thread × Action → Prop}
  {c : Config Thread Shared Pc}

/-- There is one initialisation, queued or on one of the workers. -/
structure Sole (c : Config Thread Shared Pc) : Prop where
  queued : c.shared.jobs.count .initializeNativeEngine ≤ 1
  taken : ∀ k, (c.task k).unstarted = true →
    c.shared.jobs.count .initializeNativeEngine = 0
  alone : ∀ k l, (c.task k).unstarted = true → (c.task l).unstarted = true → k = l

theorem sole_of_reachable (reached : (session asleep).system.Reachable ok c) : Sole c := by
  refine reached.invariant ?_ ?_
  · refine ⟨by simp [Tasks.system, session, Shared.committed], ?_, ?_⟩
    · rintro k ⟨⟩
    · rintro k l ⟨⟩
  · rintro c ⟨t, a⟩ c' ⟨queued, taken, alone⟩ _ went
    obtain ⟨sh, pc, stepped, rfl⟩ := Tasks.system_step went
    have other {k : Thread} (ne : k ≠ t) : Function.update c.task t pc k = c.task k :=
      Function.update_of_ne ne _ _
    rcases (move_of_step stepped).initializes with ⟨same, entered⟩ | fewer
    · -- whoever is before its start was there before the step
      have before {k : Thread} (there : (Function.update c.task t pc k).unstarted = true) :
          (c.task k).unstarted = true := by
        by_cases acting : k = t
        · subst acting
          exact entered (by simpa using there)
        · rwa [other acting] at there
      refine ⟨by rw [same]; exact queued, fun k there => ?_, fun k l first second => ?_⟩
      · rw [same]
        exact taken k (before there)
      · exact alone k l (before first) (before second)
    · -- the initialisation was still queued, so only its taker can be there
      have here {k : Thread} (there : (Function.update c.task t pc k).unstarted = true) :
          k = t := by
        by_contra ne
        rw [other ne] at there
        have := taken k there
        omega
      refine ⟨by dsimp only; omega, fun _ _ => by dsimp only; omega, fun k l first second => ?_⟩
      rw [here first, here second]

end

section
variable {t : Thread} {sh sh' : Shared} {pc pc' : Pc} {task : Thread → Pc}

/-- The engine that the initialisation starts and waits for is there. -/
structure Startup (sh : Shared) (task : Thread → Pc) : Prop where
  failed : sh.failed = false
  unstarted : Unstarted sh task → sh.token = 0
  untold : Somewhere Pc.untold task →
    (sh.token ≠ 0 ∧ sh.engine sh.token ≠ .aborted) ∧ ¬ Somewhere Pc.dropsToken task
  told : ∀ k token, task k = .awaitingReady token → sh.engine token ≠ .aborted

/-- What the acting thread knows beside them. -/
structure Acts (t : Thread) (sh : Shared) (task : Thread → Pc) : Prop where
  alone : (task t).holds = true → ∀ k, k ≠ t → (task k).holds = false
  sole : (task t).unstarted = true →
    .initializeNativeEngine ∉ sh.jobs ∧ ∀ k, k ≠ t → (task k).unstarted = false
  after : task t = .restartStart → ¬ Unstarted sh task
  ready : (task t).requestsStop = true → sh.token ≠ 0 → ¬ Somewhere (Pc.waits sh) task
  failed : task t = .closing → sh.failed = true

/-- The engines stay, and the thread goes on without starting or stopping one. -/
theorem Startup.keep (before : Startup sh task) (failed : sh'.failed = sh.failed)
    (token : sh'.token = sh.token) (engine : sh'.engine = sh.engine)
    (jobs : Job.initializeNativeEngine ∈ sh'.jobs → Job.initializeNativeEngine ∈ sh.jobs)
    (starts : pc'.unstarted = true → Unstarted sh task)
    (awaits : pc'.untold = true → (task t).untold = true)
    (drops : pc'.dropsToken = true → (task t).dropsToken = true)
    (told : ∀ token, pc' = .awaitingReady token → sh.engine token ≠ .aborted) :
    Startup sh' (Function.update task t pc') := by
  refine ⟨failed.trans before.failed, fun unstarted => ?_, fun untold => ?_, fun k n there => ?_⟩
  · rw [token]
    refine before.unstarted ?_
    rcases unstarted with job | there
    · exact .inl (jobs job)
    · rcases there.cases_update with now | ⟨k, _, there⟩
      · exact starts now
      · exact .inr ⟨k, there⟩
  · rw [token, engine]
    obtain ⟨up, none⟩ := before.untold (untold.of_update awaits)
    exact ⟨up, fun there => none (there.of_update drops)⟩
  · rw [engine]
    by_cases acting : k = t
    · subst acting
      exact told n (by simpa using there)
    · exact before.told k n (by rwa [Function.update_of_ne acting] at there)

theorem holds_of_dropsToken (drops : pc.dropsToken = true) : pc.holds = true := by
  cases pc <;> first | rfl | cases drops

theorem start_engine {token : Nat} (before : sh.engine token ≠ .aborted) :
    sh.start.engine token ≠ .aborted := by
  by_cases new : token = sh.generation + 1
  · simp [Shared.start, Shared.setEngine, new]
  · simpa [Shared.start, Shared.setEngine, new] using before

theorem requestStop_engine {token : Nat} (before : sh.engine token ≠ .aborted)
    (other : sh.token ≠ 0 → sh.engine token ≠ .starting) :
    sh.requestStop.engine token ≠ .aborted := by
  unfold Shared.requestStop
  split
  · exact before
  · rename_i started
    by_cases same : token = sh.token
    · subst same
      have unready := other started
      cases there : sh.engine sh.token <;> simp_all [Shared.setEngine]
    · cases sh.engine sh.token <;> simpa [Shared.setEngine, same] using before

/-- No engine is waited for that an undisturbed run has not kept. -/
theorem Startup.not_fails (before : Startup sh task) (fails : Fails sh (task t) sh') : False := by
  generalize here : task t = pc at fails
  cases fails with
  | twice started => exact started (before.unstarted (.inr ⟨t, by rw [here]; rfl⟩))
  | unstarted stopped => exact (before.untold ⟨t, by rw [here]; rfl⟩).1.1 stopped
  | aborted aborted => exact before.told t _ here aborted

/-- The initialisation starts its engine. -/
theorem Startup.starts (before : Startup sh task) (acts : Acts t sh task)
    (here : task t = .startingTunnel) :
    Startup sh.start.leave (Function.update task t .awaiting) := by
  obtain ⟨taken, others⟩ := acts.sole (by rw [here]; rfl)
  have alone := acts.alone (by rw [here]; rfl)
  refine ⟨before.failed, fun unstarted => ?_, fun _ => ⟨⟨Nat.succ_ne_zero _, ?_⟩, fun drops => ?_⟩,
    fun k token there => ?_⟩
  · rcases unstarted with job | there
    · exact absurd job taken
    · rcases there.cases_update with now | ⟨k, ne, there⟩
      · cases now
      · simp [others k ne] at there
  · simp [Shared.start, Shared.setEngine, Shared.leave]
  · rcases drops.cases_update with now | ⟨k, ne, there⟩
    · cases now
    · have other := alone k ne
      simp [holds_of_dropsToken there] at other
  · by_cases acting : k = t
    · subst acting
      simp at there
    · exact start_engine (before.told k token (by rwa [Function.update_of_ne acting] at there))

/-- A stop finds no engine, or one that the initialisation does not wait for. -/
theorem Startup.stops (before : Startup sh task) (acts : Acts t sh task)
    (stops : (task t).requestsStop = true) (drops : pc'.dropsToken = true) :
    Startup sh.requestStop (Function.update task t pc') := by
  have plain : pc'.unstarted = false ∧ pc'.untold = false ∧ ∀ n, pc' ≠ .awaitingReady n := by
    cases pc' <;> first | (cases drops; done) | exact ⟨rfl, rfl, nofun⟩
  have jobs : sh.requestStop.jobs = sh.jobs := by rw [requestStop_eq]
  have token : sh.requestStop.token = sh.token := by rw [requestStop_eq]
  have told (k : Thread) (n : Nat) (there : Function.update task t pc' k = .awaitingReady n) :
      task k = .awaitingReady n := by
    by_cases acting : k = t
    · subst acting
      exact absurd (by simpa using there) (plain.2.2 n)
    · rwa [Function.update_of_ne acting] at there
  refine ⟨by rw [requestStop_eq]; exact before.failed, fun unstarted => ?_, fun untold => ?_,
    fun k n there => ?_⟩
  · rw [token]
    refine before.unstarted (unstarted.imp (by rw [jobs]; exact id) fun there => ?_)
    exact there.of_update (by simp [plain.1])
  · have waiting : Somewhere Pc.untold task := untold.of_update (by simp [plain.2.1])
    refine absurd ?_ (acts.ready stops (before.untold waiting).1.1)
    obtain ⟨k, there⟩ := waiting
    refine ⟨k, ?_⟩
    cases here : task k <;> rw [here] at there <;> first | rfl | cases there
  · refine requestStop_engine (before.told k n (told k n there)) fun started starting => ?_
    exact acts.ready stops started ⟨k, by simp [told k n there, Pc.waits, starting]⟩

/-- A token is dropped, or an engine started, where no one waits for the token. -/
theorem Startup.drops (before : Startup sh task) (drops : (task t).dropsToken = true)
    (plain : pc'.untold = false ∧ ∀ n, pc' ≠ .awaitingReady n) (failed : sh'.failed = sh.failed)
    (unstarted : Unstarted sh' (Function.update task t pc') → sh'.token = 0)
    (engine : ∀ n, sh.engine n ≠ .aborted → sh'.engine n ≠ .aborted) :
    Startup sh' (Function.update task t pc') := by
  refine ⟨failed.trans before.failed, unstarted, fun untold => ?_, fun k n there => ?_⟩
  · have waiting : Somewhere Pc.untold task := untold.of_update (by simp [plain.1])
    exact absurd ⟨t, drops⟩ (before.untold waiting).2
  · by_cases acting : k = t
    · subst acting
      exact absurd (by simpa using there) (plain.2 n)
    · exact engine n (before.told k n (by rwa [Function.update_of_ne acting] at there))

theorem Startup.readies {token : Nat} (before : Startup sh task) (here : task t = pc) :
    Startup (sh.setEngine token .ready) (Function.update task t pc) := by
  have kept (n : Nat) (known : sh.engine n ≠ .aborted) :
      (sh.setEngine token .ready).engine n ≠ .aborted := by
    by_cases same : n = token
    · simp [Shared.setEngine, same]
    · simpa [Shared.setEngine, same] using known
  subst here
  rw [Function.update_eq_self]
  refine ⟨before.failed, before.unstarted, fun untold => ?_,
    fun k n there => kept n (before.told k n there)⟩
  obtain ⟨⟨started, up⟩, none⟩ := before.untold untold
  exact ⟨⟨started, kept _ up⟩, none⟩

theorem startup_move (before : Startup sh task) (acts : Acts t sh task)
    (move : Move t sh (task t) sh' pc') : Startup sh' (Function.update task t pc') := by
  have keep (failed : sh'.failed = sh.failed) (token : sh'.token = sh.token)
      (engine : sh'.engine = sh.engine)
      (jobs : Job.initializeNativeEngine ∈ sh'.jobs → Job.initializeNativeEngine ∈ sh.jobs)
      (starts : pc'.unstarted = true → Unstarted sh task)
      (awaits : pc'.untold = true → (task t).untold = true)
      (drops : pc'.dropsToken = true → (task t).dropsToken = true)
      (told : ∀ token, pc' = .awaitingReady token → sh.engine token ≠ .aborted) :=
    before.keep (t := t) failed token engine jobs starts awaits drops told
  -- most threads go on without any of this
  have pass (failed : sh'.failed = sh.failed) (token : sh'.token = sh.token)
      (engine : sh'.engine = sh.engine)
      (jobs : Job.initializeNativeEngine ∈ sh'.jobs → Job.initializeNativeEngine ∈ sh.jobs)
      (plain : pc'.unstarted = false ∧ pc'.untold = false ∧ pc'.dropsToken = false)
      (told : ∀ token, pc' ≠ .awaitingReady token) :=
    keep failed token engine jobs (by simp [plain.1]) (by simp [plain.2.1]) (by simp [plain.2.2])
      fun n now => absurd now (told n)
  have starting (here : (task t).unstarted = true) : Unstarted sh task := .inr ⟨t, here⟩
  have fail (fails : Fails sh (task t) sh') : False := before.not_fails fails
  have stop (stops : (task t).requestsStop = true) (drops : pc'.dropsToken = true) :=
    before.stops acts stops drops
  have drop (drops : (task t).dropsToken = true)
      (plain : pc'.untold = false ∧ ∀ n, pc' ≠ .awaitingReady n) (failed : sh'.failed = sh.failed)
      (unstarted : Unstarted sh' (Function.update task t pc') → sh'.token = 0)
      (engine : ∀ n, sh.engine n ≠ .aborted → sh'.engine n ≠ .aborted) :=
    before.drops drops plain failed unstarted engine
  generalize here : task t = pc at move keep starting fail stop drop
  cases move with
  | reads reads =>
      cases reads with
      | checked => exact keep rfl rfl rfl id (fun _ => starting rfl) id id (by simp)
      | token =>
          refine keep rfl rfl rfl id (by simp [Pc.unstarted]) (by simp [Pc.untold])
            (by simp [Pc.dropsToken]) fun n now => ?_
          cases now
          exact (before.untold ⟨t, by rw [here]; rfl⟩).1.2
      | _ => exact pass rfl rfl rfl id ⟨rfl, rfl, rfl⟩ (by simp)
  | @returns caller =>
      cases caller <;> exact pass rfl rfl rfl id ⟨rfl, rfl, rfl⟩ (by simp [Caller.done])
  | @pushes caller =>
      refine pass ?_ ?_ ?_ ?_ ?_ ?_ <;> cases caller <;>
        simp [Caller.done, Shared.execute, Shared.unlock, Pc.unstarted, Pc.untold, Pc.dropsToken]
  | enters enters =>
      cases enters with
      | starting =>
          exact keep rfl rfl rfl id (fun _ => starting rfl) (by simp [Pc.untold])
            (by simp [Pc.dropsToken]) (by simp)
      | _ => exact pass rfl rfl rfl id ⟨rfl, rfl, rfl⟩ (by simp)
  | leaves leaves => cases leaves <;> exact pass rfl rfl rfl id ⟨rfl, rfl, rfl⟩ (by simp)
  | fails fails => exact (fail fails).elim
  | suspends suspends =>
      cases suspends with
      | lost next =>
          rcases next with ⟨_, rfl⟩ | ⟨_, rfl⟩ <;>
            exact pass rfl rfl rfl id ⟨rfl, rfl, rfl⟩ (by simp)
      | _ => exact pass rfl rfl rfl id ⟨rfl, rfl, rfl⟩ (by simp)
  | pauses =>
      rw [pause_eq] at pass ⊢
      exact pass rfl rfl rfl id ⟨rfl, rfl, rfl⟩ (by simp)
  | unpauses =>
      rw [pause_eq] at pass ⊢
      exact pass rfl rfl rfl id ⟨rfl, rfl, rfl⟩ (by simp)
  | resumes next =>
      rw [pause_eq] at pass ⊢
      rcases next with rfl | rfl <;> exact pass rfl rfl rfl id ⟨rfl, rfl, rfl⟩ (by simp)
  | executes =>
      exact pass rfl rfl rfl (by simp [Shared.execute]) ⟨rfl, rfl, rfl⟩ (by simp)
  | starts => exact before.starts acts here
  | stops stops => rcases stops with ⟨rfl, rfl⟩ | ⟨rfl, rfl⟩ <;> exact stop rfl rfl
  | stopped => exact drop rfl ⟨rfl, by simp⟩ rfl (fun _ => rfl) fun _ => id
  | restartStopped => exact drop rfl ⟨rfl, by simp⟩ rfl (fun _ => rfl) fun _ => id
  | restarts =>
      refine drop rfl ⟨rfl, by simp⟩ rfl (fun unstarted => ?_) fun _ => start_engine
      refine absurd (unstarted.imp id fun there => ?_) (acts.after here)
      exact there.of_update (by simp [Pc.unstarted])
  | closes =>
      have failed := acts.failed here
      simp [before.failed] at failed
  | @takes job jobs next =>
      have later : Job.initializeNativeEngine ∈ jobs → .initializeNativeEngine ∈ sh.jobs := by
        rw [next]
        exact List.mem_cons_of_mem _
      cases job with
      | initializeNativeEngine =>
          exact keep rfl rfl rfl later (fun _ => .inl (by simp [next]))
            (by simp [Job.begins, Pc.untold]) (by simp [Job.begins, Pc.dropsToken])
            (by simp [Job.begins])
      | _ => exact pass rfl rfl rfl later ⟨rfl, rfl, rfl⟩ (by simp [Job.begins])
  | readies => exact before.readies here
  | _ => exact pass rfl rfl rfl id ⟨rfl, rfl, rfl⟩ (by simp)

end

theorem startup_of_reachable {asleep : Bool} {c : Config Thread Shared Pc}
    (reached : (session asleep).system.Reachable Undisturbed c) : Startup c.shared c.task := by
  refine (reached.invariant
    (I := fun c => (session asleep).system.Reachable Undisturbed c ∧ Startup c.shared c.task)
    ⟨⟨[], .nil⟩, rfl, fun _ => rfl, ?_, ?_⟩ ?_).2
  · rintro ⟨k, ⟨⟩⟩
  · rintro k token ⟨⟩
  · rintro c ⟨t, a⟩ c' ⟨reached, startup⟩ meets taken
    refine ⟨reached.extend (.snoc .nil meets taken), ?_⟩
    obtain ⟨sh, pc, stepped, rfl⟩ := Tasks.system_step taken
    have sole := sole_of_reachable reached
    have acts : Acts t c.shared c.task := by
      refine ⟨fun holds _ ne => alone_of_reachable reached holds ne, fun here => ⟨?_, ?_⟩, meets.1,
        meets.2, fun here => (failed_of_reachable reached).2 t (by rw [here]; rfl)⟩
      · exact List.count_eq_zero.mp (sole.taken t here)
      · intro k ne
        cases there : (c.task k).unstarted with
        | false => rfl
        | true => exact absurd (sole.alone k t there here) ne
    exact startup_move startup acts (move_of_step stepped)

/-- Sleep ends no session: its start-up does not fail, and its descriptor stays open. -/
theorem sleep_keeps_session {asleep : Bool} {c : Config Thread Shared Pc}
    (reached : (session asleep).system.Reachable Undisturbed c) :
    c.shared.failed = false ∧ c.shared.vpnInterfaceOpen = true := by
  have current := (startup_of_reachable reached).failed
  refine ⟨current, ?_⟩
  cases there : c.shared.vpnInterfaceOpen with
  | true => rfl
  | false =>
      have failed := (failed_of_reachable reached).1 (.inr there)
      simp [current] at failed

/-- The headset falls asleep during the start-up; the engine is suspended once it is ready, and
restarted. -/
theorem sleep_keeps_session_startup :
    ∃ c, (session false).system.Reachable Undisturbed c ∧ c.shared.generation = 2 ∧
      c.shared.failed = false ∧ c.shared.vpnInterfaceOpen = true := by
  obtain ⟨c, reached, generation⟩ :
      ∃ c, (session false).system.Reachable Undisturbed c ∧ c.shared.generation = 2 := by
    refine ⟨_, System.reachable_of_replay ((.worker false, .take) ::
      Schedule.goes (.worker false) 4 ++ (.main, .screen true) :: Schedule.goes .main 3 ++
      (.main, .engineReady 1) :: Schedule.goes (.worker false) 6 ++
      -- two suspensions are queued, by the screen and by the initialisation
      (.worker true, .take) :: Schedule.goes (.worker true) 5 ++
      (.worker true, .take) :: Schedule.goes (.worker true) 5 ++
      (.main, .screen false) :: Schedule.goes .main 3 ++
      (.worker true, .take) :: Schedule.goes (.worker true) 7) rfl, rfl⟩
  exact ⟨c, reached, generation, sleep_keeps_session reached⟩

/-- The headset falls asleep during the start-up, and the engine is suspended before it is
waited for. -/
theorem sleep_ends_session :
    ∃ c, (session false).system.Reachable Free c ∧ c.shared.failed = true ∧
      c.shared.vpnInterfaceOpen = false := by
  exact ⟨_, System.reachable_of_replay ((.worker false, .take) ::
    Schedule.goes (.worker false) 3 ++ (.main, .screen true) :: Schedule.goes .main 3 ++
    (.worker true, .take) :: Schedule.goes (.worker true) 5 ++ Schedule.goes (.worker false) 1 ++
    (.worker true, .take) :: Schedule.goes (.worker true) 2) rfl, rfl, rfl⟩

end QuestVdWired.Android.Sleep
