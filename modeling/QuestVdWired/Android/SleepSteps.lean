import QuestVdWired.Android.SleepWake

/-!
What a step of the sleeping and waking session can do, said once.
-/

namespace QuestVdWired.Android.Sleep
open Transition

/-- A thread reads and moves on. -/
inductive Reads (sh : Shared) : Pc → Pc → Prop
  | nothing : Reads sh .idle .idle
  | connects (control : sh.control = true) : Reads sh .idle (.connected .connected)
  | suspended (suspended : sh.engineSuspended = true) : Reads sh .waking (.queueing .screen)
  | unsuspended (running : sh.engineSuspended = false) : Reads sh .waking .unpausing
  | current {caller : Caller} : Reads sh (.connected caller) (.connectedAwake caller)
  | awake {caller : Caller} : Reads sh (.connectedAwake caller) (.connectedReady caller)
  | ready {caller : Caller} : Reads sh (.connectedReady caller) (.connectedReset caller)
  | reset {caller : Caller} : Reads sh (.connectedReset caller) (.connectedSuspends caller)
  | checked : Reads sh .startingChecked .startingTunnel
  | token (started : sh.token ≠ 0) : Reads sh .awaiting (.awaitingReady sh.token)
  | engine {token : Nat} (ready : sh.engine token = .ready ∨ sh.engine token = .stopped) :
      Reads sh (.awaitingReady token) .checking
  | publish : Reads sh .checking .publishing
  | unchecked (failed : sh.failed = true) : Reads sh .checking .idle
  | unpublished (failed : sh.failed = true) : Reads sh .publishing .idle
  | asleep (asleep : sh.screenSuspended = true) : Reads sh .published .suspends
  | started (awake : sh.screenSuspended = false) : Reads sh .published .idle
  | suspending : Reads sh .suspendingChecked .suspendingRead
  | stopping (suspended : sh.engineSuspended = true) : Reads sh .suspendingRead .stopping
  | resuming : Reads sh .resumingChecked .resumingAwake
  | resumingAwake (awake : sh.screenSuspended = false) : Reads sh .resumingAwake .resumingRead
  | restarts (suspended : sh.engineSuspended = true) : Reads sh .resumingRead .restartStop
  | overslept (stale : sh.failed = true ∨ sh.screenSuspended = true) :
      Reads sh .restarted .finalizing
  | finalSuspended (suspended : sh.engineSuspended = true) : Reads sh .finalRead .finalChecked
  | finalRunning (running : sh.engineSuspended = false) : Reads sh .finalRead .idle
  | finalCurrent : Reads sh .finalChecked .finalAwake
  | finalStale (failed : sh.failed = true) : Reads sh .finalChecked .idle
  | finalAsleep (asleep : sh.screenSuspended = true) : Reads sh .finalAwake .idle
  | finalAwake (awake : sh.screenSuspended = false) : Reads sh .finalAwake .finalPost

/-- A call returns without having queued or asked for anything. -/
inductive Returns (sh : Shared) (caller : Caller) : Pc → Prop
  | queued (queued : sh.engineResumeQueued = true) : Returns sh caller (.queueing caller)
  | connected : Returns sh caller (.connected caller)
  | asleep : Returns sh caller (.connectedAwake caller)
  | unready : Returns sh caller (.connectedReady caller)
  | unrequired : Returns sh caller (.connectedReset caller)

/-- A thread takes `engineStartLock`. -/
inductive Enters : Pc → Pc → Prop
  | starting : Enters .starting .startingChecked
  | suspending : Enters .suspending .suspendingChecked
  | resuming : Enters .resuming .resumingChecked
  | tearing : Enters .tearing .closing

/-- A thread leaves `engineStartLock`, and nothing else. -/
inductive Leaves (sh : Shared) : Pc → Pc → Prop
  | unstarted (failed : sh.failed = true) : Leaves sh .startingChecked .idle
  | unsuspended (failed : sh.failed = true) : Leaves sh .suspendingChecked .idle
  | running (running : sh.engineSuspended = false) : Leaves sh .suspendingRead .idle
  | stale (failed : sh.failed = true) : Leaves sh .resumingChecked .finalizing
  | asleep (asleep : sh.screenSuspended = true) : Leaves sh .resumingAwake .finalizing
  | unresumed (running : sh.engineSuspended = false) : Leaves sh .resumingRead .finalizing
  | restarted (ready : sh.engine sh.token = .ready) : Leaves sh .restartReady .restarted

/-- The initialisation ends the session. -/
inductive Fails (sh : Shared) : Pc → Shared → Prop
  | twice (started : sh.token ≠ 0) : Fails sh .startingTunnel sh.leave.failGeneration
  | unstarted (stopped : sh.token = 0) : Fails sh .awaiting sh.failGeneration
  | aborted {token : Nat} (aborted : sh.engine token = .aborted) :
      Fails sh (.awaitingReady token) sh.failGeneration

/-- A thread sets `engineSuspended`. -/
inductive Suspends (sh : Shared) : Pc → Shared → Pc → Prop
  | sleeping : Suspends sh .sleeping { sh with engineSuspended := true } .pausing
  | connected {caller : Caller} :
      Suspends sh (.connectedSuspends caller) { sh with engineSuspended := true } (.queueing caller)
  | lost {pc' : Pc} (next : sh.screenSuspended = false ∧ pc' = .queueing .transportLost ∨
      sh.screenSuspended = true ∧ pc' = .idle) :
      Suspends sh .losing { sh with engineSuspended := true }.unlock pc'
  | initial : Suspends sh .suspends { sh with engineSuspended := true } .suspendsJob

inductive Move (t : Thread) (sh : Shared) : Pc → Shared → Pc → Prop
  | reads {pc pc' : Pc} (reads : Reads sh pc pc') : Move t sh pc sh pc'
  | returns {caller : Caller} {pc : Pc} (returns : Returns sh caller pc) :
      Move t sh pc (caller.done sh).1 (caller.done sh).2
  | enters {pc pc' : Pc} (enters : Enters pc pc') (free : sh.engineStartLock = none) :
      Move t sh pc { sh with engineStartLock := some t } pc'
  | leaves {pc pc' : Pc} (leaves : Leaves sh pc pc') : Move t sh pc sh.leave pc'
  | suspends {pc pc' : Pc} {sh' : Shared} (suspends : Suspends sh pc sh' pc') :
      Move t sh pc sh' pc'
  | fails {pc : Pc} {sh' : Shared} (fails : Fails sh pc sh') : Move t sh pc sh' .idle
  | screenOff (free : sh.lifecycleLock = none) (awake : sh.screenSuspended = false) :
      Move t sh .idle { sh with screenSuspended := true, lifecycleLock := some t } .sleeping
  | screenOn (free : sh.lifecycleLock = none) (asleep : sh.screenSuspended = true) :
      Move t sh .idle { sh with screenSuspended := false, lifecycleLock := some t } .waking
  | unheard {suspended : Bool} (free : sh.lifecycleLock = none) (failed : sh.failed = true) :
      Move t sh .idle { sh with screenSuspended := suspended } .idle
  | pauses : Move t sh .pausing (sh.pause true).unlock .suspendJob
  | unpauses : Move t sh .unpausing (sh.pause false).unlock .idle
  | executes {pc : Pc} (pushes : pc = .suspendJob ∨ pc = .suspendsJob) :
      Move t sh pc (sh.execute .suspendNativeEngine) .idle
  | queues {caller : Caller} (free : sh.engineResumeQueued = false) :
      Move t sh (.queueing caller) { sh with engineResumeQueued := true } (.pushing caller)
  | pushes {caller : Caller} :
      Move t sh (.pushing caller) (caller.done (sh.execute .resumeNativeEngine)).1
        (caller.done (sh.execute .resumeNativeEngine)).2
  | loses (free : sh.lifecycleLock = none) :
      Move t sh .idle { sh with transportEngineReset := true, lifecycleLock := some t } .losing
  | starts (unstarted : sh.token = 0) : Move t sh .startingTunnel sh.start.leave .awaiting
  | publishes (free : sh.lifecycleLock = none) :
      Move t sh .publishing { sh with control := true, paused := sh.screenSuspended } .published
  | stops {pc pc' : Pc}
      (stops : pc = .stopping ∧ pc' = .stopped ∨ pc = .restartStop ∧ pc' = .restartStopped) :
      Move t sh pc sh.requestStop pc'
  | stopped : Move t sh .stopped { sh with token := 0 }.leave .idle
  | restartStopped : Move t sh .restartStopped { sh with token := 0 } .restartStart
  | restarts : Move t sh .restartStart sh.start .restartReady
  | wakes (free : sh.lifecycleLock = none) (awake : sh.screenSuspended = false) :
      Move t sh .restarted { sh with engineSuspended := false, lifecycleLock := some t } .completing
  | completes {completed : Bool} :
      Move t sh .completing { sh with transportEngineReset := false } (.resumed completed)
  | resumes {completed : Bool} {pc' : Pc} (next : pc' = .connected .restarted ∨ pc' = .finalizing) :
      Move t sh (.resumed completed) (sh.pause false).unlock pc'
  | finalizes : Move t sh .finalizing { sh with engineResumeQueued := false } .finalRead
  | posts : Move t sh .finalPost { sh with posted := sh.posted + 1 } .idle
  | runsPosted (posted : 0 < sh.posted) :
      Move t sh .idle { sh with posted := sh.posted - 1 } (.queueing .posted)
  | takes {job : Job} {jobs : List Job} (next : sh.jobs = job :: jobs) :
      Move t sh .idle { sh with jobs := jobs } job.begins
  | closes :
      Move t sh .closing { sh with token := 0, vpnInterfaceOpen := false }.leave .idle
  | readies {token : Nat} {pc : Pc} (starting : sh.engine token = .starting) :
      Move t sh pc (sh.setEngine token .ready) pc

section
variable {t : Thread} {a : Action} {ok : Bool} {sh sh' : Shared} {pc pc' : Pc}

theorem look_eq_some {α : Type} {result x : α} (taken : sh.look result = some x) :
    sh.lifecycleLock = none ∧ result = x := by
  unfold Shared.look at taken
  split at taken
  · rename_i free
    exact ⟨free, Option.some.inj taken⟩
  · cases taken

theorem enter_eq_some {p : Pc} (taken : enter t sh p = some (sh', pc')) :
    sh.engineStartLock = none ∧ sh' = { sh with engineStartLock := some t } ∧ pc' = p := by
  unfold enter at taken
  split at taken
  · rename_i free
    cases taken
    exact ⟨free, rfl, rfl⟩
  · cases taken

theorem move_of_look {p q : Shared × Pc} (taken : sh.look p = some q)
    (move : sh.lifecycleLock = none → Move t sh pc p.1 p.2) : Move t sh pc q.1 q.2 := by
  obtain ⟨free, rfl⟩ := look_eq_some taken
  exact move free

theorem move_of_proceed (taken : proceed t ok sh pc = some (sh', pc')) :
    Move t sh pc sh' pc' := by
  cases pc with
  | idle => cases taken
  | sleeping =>
      cases taken
      exact .suspends .sleeping
  | pausing =>
      cases taken
      exact .pauses
  | suspendJob =>
      cases taken
      exact .executes (.inl rfl)
  | waking =>
      cases taken
      split
      · rename_i suspended
        exact .reads (.suspended suspended)
      · rename_i running
        exact .reads (.unsuspended (by simpa using running))
  | unpausing =>
      cases taken
      exact .unpauses
  | queueing caller =>
      simp only [proceed, Option.some.injEq] at taken
      split at taken
      · rename_i queued
        have move : Move t sh (.queueing caller) _ _ := .returns (.queued queued)
        rwa [taken] at move
      · rename_i free
        cases taken
        exact .queues (by simpa using free)
  | pushing caller =>
      have move : Move t sh (.pushing caller) _ _ := .pushes
      rwa [Option.some.inj taken] at move
  | connected caller =>
      refine move_of_look (q := (sh', pc')) taken fun _ => ?_
      split
      · exact .reads .current
      · exact .returns .connected
  | connectedAwake caller =>
      simp only [proceed, Option.some.injEq] at taken
      split at taken
      · have move : Move t sh (.connectedAwake caller) _ _ := .returns .asleep
        rwa [taken] at move
      · cases taken
        exact .reads .awake
  | connectedReady caller =>
      simp only [proceed, Option.some.injEq] at taken
      split at taken
      · cases taken
        exact .reads .ready
      · have move : Move t sh (.connectedReady caller) _ _ := .returns .unready
        rwa [taken] at move
  | connectedReset caller =>
      simp only [proceed, Option.some.injEq] at taken
      split at taken
      · cases taken
        exact .reads .reset
      · have move : Move t sh (.connectedReset caller) _ _ := .returns .unrequired
        rwa [taken] at move
  | connectedSuspends caller =>
      cases taken
      exact .suspends .connected
  | losing =>
      cases taken
      refine .suspends (.lost ?_)
      cases sh.screenSuspended with
      | false => exact .inl ⟨rfl, rfl⟩
      | true => exact .inr ⟨rfl, rfl⟩
  | starting =>
      obtain ⟨free, rfl, rfl⟩ := enter_eq_some taken
      exact .enters .starting free
  | startingChecked =>
      refine move_of_look (q := (sh', pc')) taken fun _ => ?_
      split
      · exact .reads .checked
      · rename_i stale
        exact .leaves (.unstarted (by simpa [Shared.isCurrent] using stale))
  | startingTunnel =>
      simp only [proceed, Option.some.injEq] at taken
      split at taken
      · rename_i started
        cases taken
        exact .fails (.twice started)
      · rename_i unstarted
        cases taken
        exact .starts (by simpa using unstarted)
  | awaiting =>
      simp only [proceed, Option.some.injEq] at taken
      split at taken
      · rename_i stopped
        cases taken
        exact .fails (.unstarted stopped)
      · rename_i started
        cases taken
        exact .reads (.token started)
  | awaitingReady token =>
      simp only [proceed] at taken
      split at taken
      · rename_i ready
        cases taken
        exact .reads (.engine (.inl ready))
      · rename_i stopped
        cases taken
        exact .reads (.engine (.inr stopped))
      · rename_i aborted
        cases taken
        exact .fails (.aborted aborted)
      · cases taken
      · cases taken
  | checking =>
      refine move_of_look (q := (sh', pc')) taken fun _ => ?_
      dsimp only
      split
      · exact .reads .publish
      · rename_i stale
        exact .reads (.unchecked (by simpa [Shared.isCurrent] using stale))
  | publishing =>
      refine move_of_look (q := (sh', pc')) taken fun free => ?_
      split
      · exact .publishes free
      · rename_i stale
        exact .reads (.unpublished (by simpa [Shared.isCurrent] using stale))
  | published =>
      cases taken
      split
      · rename_i asleep
        exact .reads (.asleep asleep)
      · rename_i awake
        exact .reads (.started (by simpa using awake))
  | suspends =>
      cases taken
      exact .suspends .initial
  | suspendsJob =>
      cases taken
      exact .executes (.inr rfl)
  | suspending =>
      obtain ⟨free, rfl, rfl⟩ := enter_eq_some taken
      exact .enters .suspending free
  | suspendingChecked =>
      refine move_of_look (q := (sh', pc')) taken fun _ => ?_
      split
      · exact .reads .suspending
      · rename_i stale
        exact .leaves (.unsuspended (by simpa [Shared.isCurrent] using stale))
  | suspendingRead =>
      simp only [proceed, Option.some.injEq] at taken
      split at taken
      · rename_i suspended
        cases taken
        exact .reads (.stopping suspended)
      · rename_i running
        cases taken
        exact .leaves (.running (by simpa using running))
  | stopping =>
      cases taken
      exact .stops (.inl ⟨rfl, rfl⟩)
  | stopped =>
      cases taken
      exact .stopped
  | resuming =>
      obtain ⟨free, rfl, rfl⟩ := enter_eq_some taken
      exact .enters .resuming free
  | resumingChecked =>
      refine move_of_look (q := (sh', pc')) taken fun _ => ?_
      split
      · exact .reads .resuming
      · rename_i stale
        exact .leaves (.stale (by simpa [Shared.isCurrent] using stale))
  | resumingAwake =>
      simp only [proceed, Option.some.injEq] at taken
      split at taken
      · rename_i asleep
        cases taken
        exact .leaves (.asleep asleep)
      · rename_i awake
        cases taken
        exact .reads (.resumingAwake (by simpa using awake))
  | resumingRead =>
      simp only [proceed, Option.some.injEq] at taken
      split at taken
      · rename_i suspended
        cases taken
        exact .reads (.restarts suspended)
      · rename_i running
        cases taken
        exact .leaves (.unresumed (by simpa using running))
  | restartStop =>
      cases taken
      exact .stops (.inr ⟨rfl, rfl⟩)
  | restartStopped =>
      cases taken
      exact .restartStopped
  | restartStart =>
      cases taken
      exact .restarts
  | restartReady =>
      simp only [proceed] at taken
      split at taken
      · rename_i ready
        cases taken
        exact .leaves (.restarted ready)
      · cases taken
  | restarted =>
      refine move_of_look (q := (sh', pc')) taken fun free => ?_
      split
      · rename_i awake
        simp only [Bool.and_eq_true, Bool.not_eq_true'] at awake
        exact .wakes free awake.2
      · rename_i stale
        refine .reads (.overslept ?_)
        cases failed : sh.failed with
        | true => exact .inl rfl
        | false => exact .inr (by simpa [Shared.isCurrent, failed] using stale)
  | completing =>
      cases taken
      exact .completes
  | resumed completed =>
      cases taken
      refine .resumes ?_
      split
      · exact .inl rfl
      · exact .inr rfl
  | finalizing =>
      cases taken
      exact .finalizes
  | finalRead =>
      cases taken
      split
      · rename_i suspended
        exact .reads (.finalSuspended suspended)
      · rename_i running
        exact .reads (.finalRunning (by simpa using running))
  | finalChecked =>
      refine move_of_look (q := (sh', pc')) taken fun _ => ?_
      dsimp only
      split
      · exact .reads .finalCurrent
      · rename_i stale
        exact .reads (.finalStale (by simpa [Shared.isCurrent] using stale))
  | finalAwake =>
      cases taken
      split
      · rename_i asleep
        exact .reads (.finalAsleep asleep)
      · rename_i awake
        exact .reads (.finalAwake (by simpa using awake))
  | finalPost =>
      cases taken
      exact .posts
  | tearing =>
      obtain ⟨free, rfl, rfl⟩ := enter_eq_some taken
      exact .enters .tearing free
  | closing =>
      cases taken
      exact .closes

theorem move_of_screen {suspended : Bool}
    (taken : step t (.screen suspended) sh .idle = some (sh', pc')) :
    Move t sh .idle sh' pc' := by
  cases t with
  | main =>
      refine move_of_look (q := (sh', pc')) taken fun free => ?_
      split
      · exact .reads .nothing
      · rename_i edge
        dsimp only
        split
        · cases suspended with
          | true => exact .screenOff free (by simpa using edge)
          | false => exact .screenOn free (by simpa using edge)
        · rename_i stale
          exact .unheard free (by simpa [Shared.isCurrent] using stale)
  | control => cases taken
  | worker _ => cases taken

theorem move_of_step (taken : step t a sh pc = some (sh', pc')) : Move t sh pc sh' pc' := by
  cases a with
  | go ok => exact move_of_proceed (by simpa [step] using taken)
  | engineReady token =>
      cases t with
      | main =>
          simp only [step] at taken
          split at taken
          · rename_i starting
            cases taken
            exact .readies starting
          · cases taken
      | control => cases pc <;> cases taken
      | worker _ => cases pc <;> cases taken
  | screen suspended =>
      cases pc with
      | idle => exact move_of_screen taken
      | _ => cases taken
  | runPosted =>
      cases pc with
      | idle =>
          cases t with
          | main =>
              simp only [step] at taken
              split at taken
              · rename_i posted
                cases taken
                exact .runsPosted posted
              · cases taken
          | control => cases taken
          | worker _ => cases taken
      | _ => cases taken
  | controlConnected =>
      cases pc with
      | idle =>
          cases t with
          | control =>
              simp only [step] at taken
              split at taken
              · rename_i control
                cases taken
                exact .reads (.connects control)
              · cases taken
          | main => cases taken
          | worker _ => cases taken
      | _ => cases taken
  | controlTransportLost =>
      cases pc with
      | idle =>
          cases t with
          | control =>
              simp only [step] at taken
              split at taken
              · refine move_of_look (q := (sh', pc')) taken fun free => ?_
                split
                · exact .loses free
                · exact .reads .nothing
              · cases taken
          | main => cases taken
          | worker _ => cases taken
      | _ => cases taken
  | take =>
      cases pc with
      | idle =>
          cases t with
          | worker second =>
              simp only [step] at taken
              split at taken
              · cases taken
              · rename_i next
                cases taken
                exact .takes next
          | main => cases taken
          | control => cases taken
      | _ => cases taken

end
end QuestVdWired.Android.Sleep
