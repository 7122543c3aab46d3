import QuestVdWired.Transition.System

/-!
The lifecycle of the native engine in the patched `hev-jni.c`. Every call and every callback of a
worker thread is one section under the mutex, a wait on the condition a section before and one
after each wake-up. When and with what a worker's tunnel main returns is left open. Generations
are `uint64_t` and wrap past 0.
-/

namespace QuestVdWired.Android.HevJni
open Transition

inductive State
  | stopped | starting | running | stopping | failed
  deriving DecidableEq, Repr

def State.isActive : State → Bool
  | starting | running | stopping => true
  | stopped | failed => false

/-- Where a worker thread is: before, in and behind its tunnel main, and behind its last section. -/
inductive Pc
  | created
  | inside
  | left (result : Int)
  | done
  deriving DecidableEq, Repr

structure Worker where
  generation : UInt64
  pc : Pc
  deriving DecidableEq, Repr

inductive Await
  | ready | stopped
  deriving DecidableEq, Repr

/-- A call that waits for the state to change. -/
structure Waiting where
  kind : Await
  token : UInt64
  deriving DecidableEq, Repr

/-- What a call or a callback returned, with the token it carried or the worker's generation. -/
inductive Return
  | start (token : UInt64)
  | stop (token : UInt64) (accepted : Bool)
  | await (kind : Await) (token : UInt64) (result : Int)
  | ready (generation : UInt64) (cancelled : Bool)
  deriving DecidableEq, Repr

/-- How far a start comes: the first failures are those of its allocations, the second that of
`pthread_create`. -/
inductive StartOutcome
  | allocationFailed | threadFailed | created
  deriving DecidableEq, Repr

/-- `workers` are all that were ever created. The last two are ghosts: the starts that took a
generation, and what was returned. -/
structure Engine where
  state : State
  exitCode : Int
  generation : UInt64
  workers : List Worker
  waiting : Nat → Option Waiting
  quits : Nat
  starts : Nat
  returns : List Return

/-- `generation++`, once more at 0. -/
def nextGeneration (generation : UInt64) : UInt64 :=
  if generation + 1 = 0 then generation + 1 + 1 else generation + 1

namespace Engine
variable (e : Engine)

def give (r : Return) : Engine := { e with returns := e.returns ++ [r] }

def startFailed : Engine := { e with exitCode := -1, state := .failed }.give (.start 0)

def nativeStartService (outcome : StartOutcome) : Engine :=
  if e.state.isActive then e.give (.start 0)
  else
    match outcome with
    | .allocationFailed => e.startFailed
    | outcome =>
        let token := nextGeneration e.generation
        let e :=
          { e with
            generation := token
            exitCode := 0
            state := .starting
            starts := e.starts + 1 }
        match outcome with
        | .created =>
            { e with workers := e.workers ++ [Worker.mk token .created] }.give (.start token)
        | _ => e.startFailed

def nativeStopService (token : UInt64) : Engine :=
  if token = e.generation then
    match e.state with
    | .starting => { e with state := .stopping }.give (.stop token true)
    | .running => { e with state := .stopping, quits := e.quits + 1 }.give (.stop token true)
    | _ => e.give (.stop token true)
  else e.give (.stop token false)

/-- `none` while the loop of `native_await_ready` goes on. -/
def awaitReady (token : UInt64) (timedOut : Bool) : Option Int :=
  if token = e.generation ∧ e.state = .starting ∧ timedOut = false then none
  else some <|
    if token ≠ e.generation then -2
    else if e.state = .running then 1
    else if e.state = .starting then 0
    else -1

/-- `none` while the loop of `native_await_stopped` goes on. -/
def awaitStopped (token : UInt64) (timedOut : Bool) : Option Int :=
  if token = e.generation ∧ e.state.isActive = true ∧ timedOut = false then none
  else some <|
    if token ≠ e.generation then -2
    else if e.state = .stopped then 1
    else if e.state = .failed then -1
    else 0

/-- One section of a call that waits. -/
def await (thread : Nat) (w : Waiting) (timedOut : Bool) : Engine :=
  let result :=
    match w.kind with
    | .ready => e.awaitReady w.token timedOut
    | .stopped => e.awaitStopped w.token timedOut
  match result with
  | none => { e with waiting := Function.update e.waiting thread (some w) }
  | some result =>
      { e with waiting := Function.update e.waiting thread none }.give (.await w.kind w.token result)

def setPc (i : Nat) (w : Worker) (pc : Pc) : Engine :=
  { e with workers := e.workers.set i { w with pc := pc } }

def readyCallback (w : Worker) : Engine :=
  let cancelled := w.generation ≠ e.generation ∨ e.state = .stopping
  if cancelled then e.give (.ready w.generation true)
  else { e with state := .running }.give (.ready w.generation false)

/-- What `thread_handler` does when the tunnel main has returned. -/
def finish (w : Worker) (result : Int) : Engine :=
  if w.generation = e.generation then
    { e with
      exitCode := result
      state := if e.state = .stopping ∨ result = 0 then .stopped else .failed }
  else e

end Engine

inductive Action
  | start (outcome : StartOutcome)
  | stop (token : UInt64)
  /-- an await with a timeout, which may be negative -/
  | await (thread : Nat) (waiting : Waiting) (timeout : Int)
  /-- the wait on the condition ends, for whatever reason -/
  | wake (thread : Nat) (timedOut : Bool)
  | enter (i : Nat)
  | ready (i : Nat)
  | leave (i : Nat) (result : Int)
  | finish (i : Nat)
  deriving DecidableEq

namespace Engine

def step (action : Action) (e : Engine) : Option Engine :=
  match action with
  | .start outcome => some (e.nativeStartService outcome)
  | .stop token => some (e.nativeStopService token)
  | .await thread w timeout =>
      if e.waiting thread ≠ none then none
      else if timeout < 0 then some (e.give (.await w.kind w.token (-3)))
      else some (e.await thread w false)
  | .wake thread timedOut => (e.waiting thread).map fun w => e.await thread w timedOut
  | .enter i =>
      match e.workers[i]? with
      | some w => if w.pc = .created then some (e.setPc i w .inside) else none
      | none => none
  | .ready i =>
      match e.workers[i]? with
      | some w => if w.pc = .inside then some (e.readyCallback w) else none
      | none => none
  | .leave i result =>
      match e.workers[i]? with
      | some w => if w.pc = .inside then some (e.setPc i w (.left result)) else none
      | none => none
  | .finish i =>
      match e.workers[i]? with
      | some w =>
          match w.pc with
          | .left result => some ((e.finish w result).setPc i w .done)
          | _ => none
      | none => none

end Engine

def engineSystem : System Engine Action where
  init := ⟨.stopped, 0, 0, [], fun _ => none, 0, 0, []⟩
  step := Engine.step

/-- Fewer than `2 ^ 64` starts. -/
def FewStarts (e : Engine) : Action → Prop
  | .start _ => e.starts + 1 < 2 ^ 64
  | _ => True

instance (e : Engine) : ∀ action, Decidable (FewStarts e action)
  | .start _ => inferInstanceAs (Decidable (_ < _))
  | .stop _ | .await _ _ _ | .wake _ _ | .enter _ | .ready _ | .leave _ _ | .finish _ =>
      inferInstanceAs (Decidable True)

/-- The token a call carries. -/
def carries (e : Engine) : Action → Option UInt64
  | .stop token => some token
  | .await _ w _ => some w.token
  | .wake thread _ => (e.waiting thread).map Waiting.token
  | _ => none

def Worker.active (w : Worker) : Prop := w.pc ≠ .done

/-- The worker is behind its tunnel main. -/
def Worker.hasLeft (w : Worker) : Prop := w.pc ≠ .created ∧ w.pc ≠ .inside

/-- Nothing but what was returned, and who waits, is another. -/
structure Unchanged (e e' : Engine) : Prop where
  state : e'.state = e.state
  exitCode : e'.exitCode = e.exitCode
  generation : e'.generation = e.generation
  workers : e'.workers = e.workers
  quits : e'.quits = e.quits

/-- What the Kotlin side counts on, of the calls made now and of those behind them. -/
structure Safe (e : Engine) : Prop where
  single : ∀ (i j : Nat) (v w : Worker), e.workers[i]? = some v → e.workers[j]? = some w →
    v.active → w.active → i = j
  running : e.state = .stopping → ∀ acts d, engineSystem.Path FewStarts e acts d →
    d.generation = e.generation → d.state ≠ .running
  stale : ∀ action token e', carries e action = some token → token ≠ e.generation →
    e.step action = some e' → Unchanged e e'
  stopped : ∀ action token result e', e.step action = some e' →
    e'.returns = e.returns ++ [.await .stopped token result] →
    result = 1 ∨ result = -1 ∨ result = -2 →
    ∀ w ∈ e.workers, w.generation = token → w.hasLeft
  started : ∀ action token e', e.step action = some e' →
    e'.returns = e.returns ++ [.start token] → token ≠ 0 → ∀ w ∈ e.workers, w.pc ≠ .inside
  cancels : ∀ token e', e.state = .starting → e.step (.stop token) = some e' →
    e'.returns = e.returns ++ [.stop token true] →
    ∀ acts d, engineSystem.Path FewStarts e' acts d →
    ∀ (i : Nat) (w : Worker) d', d.workers[i]? = some w → w.generation = token →
      d.step (.ready i) = some d' →
      d'.returns = d.returns ++ [.ready token true] ∧ Unchanged d d'

/-- Only the worker of the generation is active, and only while the state is. -/
structure Coherent (e : Engine) : Prop where
  counted : e.generation.toNat = e.starts
  numbered : ∀ w ∈ e.workers, w.generation.toNat ≤ e.starts
  distinct : ∀ (i j : Nat) (v w : Worker), e.workers[i]? = some v → e.workers[j]? = some w →
    v.generation = w.generation → i = j
  active : ∀ w ∈ e.workers, w.active → w.generation = e.generation ∧ e.state.isActive = true

/-- The generation was started, and is no longer on its way to RUNNING. -/
def Ended (g : UInt64) (e : Engine) : Prop :=
  g.toNat ≤ e.starts ∧ (g = e.generation → e.state ≠ .starting ∧ e.state ≠ .running)

section
variable {e e' : Engine} {w : Worker} {token : UInt64} {i : Nat}

/-- The sections, with what is so when one is taken. -/
inductive Takes (e : Engine) : Action → Engine → Prop
  | start (outcome : StartOutcome) : Takes e (.start outcome) (e.nativeStartService outcome)
  | stop (token : UInt64) : Takes e (.stop token) (e.nativeStopService token)
  | negative (thread : Nat) (w : Waiting) (timeout : Int) :
      Takes e (.await thread w timeout) (e.give (.await w.kind w.token (-3)))
  | await (thread : Nat) (w : Waiting) (timeout : Int) :
      Takes e (.await thread w timeout) (e.await thread w false)
  | wake (thread : Nat) (w : Waiting) (timedOut : Bool) (waits : e.waiting thread = some w) :
      Takes e (.wake thread timedOut) (e.await thread w timedOut)
  | enter {i : Nat} {w : Worker} (own : e.workers[i]? = some w) (active : w.active) :
      Takes e (.enter i) (e.setPc i w .inside)
  | ready {i : Nat} {w : Worker} (own : e.workers[i]? = some w) (active : w.active) :
      Takes e (.ready i) (e.readyCallback w)
  | leave {i : Nat} {w : Worker} (own : e.workers[i]? = some w) (active : w.active) (result : Int) :
      Takes e (.leave i result) (e.setPc i w (.left result))
  | finish {i : Nat} {w : Worker} (own : e.workers[i]? = some w) (active : w.active)
      (result : Int) : Takes e (.finish i) ((e.finish w result).setPc i w .done)

theorem takes_of_step {action : Action} (taken : e.step action = some e') :
    Takes e action e' := by
  have active {pc : Pc} {w : Worker} (there : w.pc = pc) (before : pc ≠ .done) : w.active := by
    rw [Worker.active, there]
    exact before
  cases action with
  | start outcome =>
      cases taken
      exact .start outcome
  | stop token =>
      cases taken
      exact .stop token
  | await thread w timeout =>
      simp only [Engine.step] at taken
      split at taken
      · cases taken
      · split at taken
        · cases taken
          exact .negative thread w timeout
        · cases taken
          exact .await thread w timeout
  | wake thread timedOut =>
      obtain ⟨w, waits, rfl⟩ := Option.map_eq_some_iff.mp taken
      exact .wake thread w timedOut waits
  | enter i =>
      simp only [Engine.step] at taken
      split at taken
      · rename_i w own
        split at taken
        · rename_i there
          cases taken
          exact .enter own (active there nofun)
        · cases taken
      · cases taken
  | ready i =>
      simp only [Engine.step] at taken
      split at taken
      · rename_i w own
        split at taken
        · rename_i there
          cases taken
          exact .ready own (active there nofun)
        · cases taken
      · cases taken
  | leave i result =>
      simp only [Engine.step] at taken
      split at taken
      · rename_i w own
        split at taken
        · rename_i there
          cases taken
          exact .leave own (active there nofun) result
        · cases taken
      · cases taken
  | finish i =>
      simp only [Engine.step] at taken
      split at taken
      · rename_i w own
        split at taken
        · rename_i result there
          cases taken
          exact .finish own (active there nofun) result
        · cases taken
      · cases taken

theorem nextGeneration_eq {generation : UInt64} (few : generation.toNat + 1 < 2 ^ 64) :
    (nextGeneration generation).toNat = generation.toNat + 1 := by
  have next : (generation + 1).toNat = generation.toNat + 1 := by
    rw [UInt64.toNat_add]
    exact Nat.mod_eq_of_lt few
  rw [nextGeneration, if_neg, next]
  intro zero
  rw [zero] at next
  exact absurd next (by simp)

theorem Coherent.idle (h : Coherent e) (inactive : e.state.isActive = false) :
    ∀ w ∈ e.workers, ¬ w.active := by
  intro w member active
  rw [(h.active w member active).2] at inactive
  cases inactive

/-- What the section of a call without an effect leaves. -/
theorem Coherent.unchanged (h : Coherent e) (same : Unchanged e e')
    (starts : e'.starts = e.starts) : Coherent e' := by
  constructor
  · rw [same.generation, starts, h.counted]
  · rw [same.workers, starts]
    exact h.numbered
  · rw [same.workers]
    exact h.distinct
  · rw [same.workers, same.generation, same.state]
    exact h.active

theorem Coherent.startFailed (counted : e.generation.toNat = e.starts)
    (numbered : ∀ w ∈ e.workers, w.generation.toNat ≤ e.starts)
    (distinct : ∀ (i j : Nat) (v w : Worker), e.workers[i]? = some v → e.workers[j]? = some w →
      v.generation = w.generation → i = j) (idle : ∀ w ∈ e.workers, ¬ w.active) :
    Coherent e.startFailed where
  counted := counted
  numbered := numbered
  distinct := distinct
  active w member active := absurd active (idle w member)

theorem Coherent.start (h : Coherent e) (few : e.starts + 1 < 2 ^ 64) (outcome : StartOutcome) :
    Coherent (e.nativeStartService outcome) := by
  have next : (nextGeneration e.generation).toNat = e.starts + 1 := by
    rw [nextGeneration_eq (by rw [h.counted]; exact few), h.counted]
  have fresh {g : UInt64} (old : g.toNat ≤ e.starts) : g ≠ nextGeneration e.generation := by
    rintro rfl
    omega
  unfold Engine.nativeStartService
  split
  · exact h.unchanged ⟨rfl, rfl, rfl, rfl, rfl⟩ rfl
  rename_i inactive
  have idle := h.idle (Bool.eq_false_iff.mpr inactive)
  have later : ∀ w ∈ e.workers, w.generation.toNat ≤ e.starts + 1 :=
    fun w member => Nat.le_succ_of_le (h.numbered w member)
  cases outcome with
  | allocationFailed => exact .startFailed h.counted h.numbered h.distinct idle
  | threadFailed => exact .startFailed next later h.distinct idle
  | created =>
      have entry (j : Nat) (v : Worker)
          (there : (e.workers ++ [⟨nextGeneration e.generation, .created⟩])[j]? = some v) :
          (j < e.workers.length ∧ e.workers[j]? = some v ∧ v.generation ≠
            nextGeneration e.generation) ∨
            (j = e.workers.length ∧ v = ⟨nextGeneration e.generation, .created⟩) := by
        by_cases old : j < e.workers.length
        · rw [List.getElem?_append_left old] at there
          exact .inl ⟨old, there, fresh (h.numbered v (List.mem_of_getElem? there))⟩
        · have bound := (List.getElem?_eq_some_iff.mp there).1
          rw [List.length_append, List.length_singleton] at bound
          obtain rfl : j = e.workers.length := by omega
          rw [List.getElem?_append_right (Nat.le_refl _), Nat.sub_self] at there
          exact .inr ⟨rfl, (Option.some.inj there).symm⟩
      refine ⟨next, ?_, ?_, ?_⟩
      · intro w member
        rcases List.mem_append.mp member with old | new
        · exact later w old
        · rw [List.mem_singleton.mp new]
          exact Nat.le_of_eq next
      · intro i j v w there there' same
        rcases entry i v there with ⟨_, before, other⟩ | ⟨rfl, rfl⟩
        · rcases entry j w there' with ⟨_, before', _⟩ | ⟨rfl, rfl⟩
          · exact h.distinct i j v w before before' same
          · exact absurd same other
        · rcases entry j w there' with ⟨_, _, other⟩ | ⟨rfl, rfl⟩
          · exact absurd same.symm other
          · rfl
      · intro w member active
        rcases List.mem_append.mp member with old | new
        · exact absurd active (idle w old)
        · rw [List.mem_singleton.mp new]
          exact ⟨rfl, rfl⟩

theorem Coherent.stopping (h : Coherent e) (quits : Nat) :
    Coherent ({ e with state := .stopping, quits := quits }.give (.stop token true)) :=
  ⟨h.counted, h.numbered, h.distinct, fun w member active => ⟨(h.active w member active).1, rfl⟩⟩

theorem Coherent.stop (h : Coherent e) (token : UInt64) : Coherent (e.nativeStopService token) := by
  unfold Engine.nativeStopService
  split
  · split
    · exact h.stopping e.quits
    · exact h.stopping (e.quits + 1)
    · exact h.unchanged ⟨rfl, rfl, rfl, rfl, rfl⟩ rfl
  · exact h.unchanged ⟨rfl, rfl, rfl, rfl, rfl⟩ rfl

theorem unchanged_await (e : Engine) (thread : Nat) (w : Waiting) (timedOut : Bool) :
    Unchanged e (e.await thread w timedOut) := by
  unfold Engine.await
  dsimp only
  split <;> exact ⟨rfl, rfl, rfl, rfl, rfl⟩

theorem starts_await (e : Engine) (thread : Nat) (w : Waiting) (timedOut : Bool) :
    (e.await thread w timedOut).starts = e.starts := by
  unfold Engine.await
  dsimp only
  split <;> rfl

theorem Coherent.await (h : Coherent e) (thread : Nat) (w : Waiting) (timedOut : Bool) :
    Coherent (e.await thread w timedOut) :=
  h.unchanged (unchanged_await e thread w timedOut) (starts_await e thread w timedOut)

/-- One worker goes on; another that is active would be of its generation. -/
theorem Coherent.setPc (h : Coherent e) (own : e.workers[i]? = some w) {pc : Pc} {state : State}
    {exitCode : Int} (was : w.active)
    (stays : pc ≠ .done → state.isActive = true) :
    Coherent ({ e with state := state, exitCode := exitCode }.setPc i w pc) := by
  have entry (j : Nat) (v : Worker)
      (there : (e.workers.set i { w with pc := pc })[j]? = some v) :
      (j = i ∧ v = { w with pc := pc }) ∨ (j ≠ i ∧ e.workers[j]? = some v) := by
    by_cases mine : j = i
    · subst mine
      rw [List.getElem?_set_self (List.getElem?_eq_some_iff.mp own).1] at there
      exact .inl ⟨rfl, (Option.some.inj there).symm⟩
    · rw [List.getElem?_set_ne fun same => mine same.symm] at there
      exact .inr ⟨mine, there⟩
  have generation := (h.active w (List.mem_of_getElem? own) was).1
  refine ⟨h.counted, ?_, ?_, ?_⟩
  · intro v member
    obtain ⟨j, there⟩ := List.getElem?_of_mem member
    rcases entry j v there with ⟨_, rfl⟩ | ⟨_, before⟩
    · exact h.numbered w (List.mem_of_getElem? own)
    · exact h.numbered v (List.mem_of_getElem? before)
  · intro j k u v there there' same
    rcases entry j u there with ⟨rfl, rfl⟩ | ⟨_, before⟩
    · rcases entry k v there' with ⟨rfl, rfl⟩ | ⟨_, before'⟩
      · rfl
      · exact h.distinct _ k w v own before' same
    · rcases entry k v there' with ⟨rfl, rfl⟩ | ⟨_, before'⟩
      · exact h.distinct j _ u w before own same
      · exact h.distinct j k u v before before' same
  · intro v member active
    obtain ⟨j, there⟩ := List.getElem?_of_mem member
    rcases entry j v there with ⟨_, rfl⟩ | ⟨other, before⟩
    · exact ⟨generation, stays active⟩
    · have also := (h.active v (List.mem_of_getElem? before) active).1
      exact absurd (h.distinct j i v w before own (also.trans generation.symm)) other

/-- A worker that goes into its tunnel main or comes out of it. -/
theorem Coherent.move (h : Coherent e) (own : e.workers[i]? = some w) (was : w.active) (pc : Pc) :
    Coherent (e.setPc i w pc) := by
  have active := (h.active w (List.mem_of_getElem? own) was).2
  exact h.setPc own was fun _ => active

theorem Coherent.ready (h : Coherent e) (w : Worker) : Coherent (e.readyCallback w) := by
  unfold Engine.readyCallback
  dsimp only
  split
  · exact h.unchanged ⟨rfl, rfl, rfl, rfl, rfl⟩ rfl
  · exact ⟨h.counted, h.numbered, h.distinct,
      fun v member active => ⟨(h.active v member active).1, rfl⟩⟩

theorem Coherent.finish (h : Coherent e) (own : e.workers[i]? = some w) (was : w.active)
    (result : Int) : Coherent ((e.finish w result).setPc i w .done) := by
  obtain ⟨current, active⟩ := h.active w (List.mem_of_getElem? own) was
  unfold Engine.finish
  rw [if_pos current]
  exact h.setPc own was fun stays => absurd rfl stays

theorem Coherent.step {action : Action} (h : Coherent e) (few : FewStarts e action)
    (taken : e.step action = some e') : Coherent e' := by
  cases takes_of_step taken with
  | start outcome => exact h.start few outcome
  | stop token => exact h.stop token
  | negative => exact h.unchanged ⟨rfl, rfl, rfl, rfl, rfl⟩ rfl
  | await thread w timeout => exact h.await thread w false
  | wake thread w timedOut waits => exact h.await thread w timedOut
  | enter own active => exact h.move own active .inside
  | @ready i w own active => exact h.ready w
  | leave own active result => exact h.move own active (.left result)
  | finish own active result => exact h.finish own active result

theorem coherent_initial : Coherent engineSystem.init := by
  refine ⟨rfl, ?_, ?_, ?_⟩ <;> simp [engineSystem]

/-- A worker that is still active in an ended generation is one that is being stopped. -/
theorem Ended.stopping {g : UInt64} (ended : Ended g e) (h : Coherent e)
    (own : e.workers[i]? = some w) (was : w.active) (same : g = e.generation) :
    e.state = .stopping := by
  obtain ⟨notStarting, notRunning⟩ := ended.2 same
  have active := (h.active w (List.mem_of_getElem? own) was).2
  cases state : e.state <;> simp_all [State.isActive]

theorem Ended.unchanged {g : UInt64} (ended : Ended g e) (same : Unchanged e e')
    (starts : e'.starts = e.starts) : Ended g e' := by
  rw [Ended, starts, same.generation, same.state]
  exact ended

theorem Ended.start {g : UInt64} (ended : Ended g e) (h : Coherent e)
    (few : e.starts + 1 < 2 ^ 64) (outcome : StartOutcome) :
    Ended g (e.nativeStartService outcome) := by
  have next : (nextGeneration e.generation).toNat = e.starts + 1 := by
    rw [nextGeneration_eq (by rw [h.counted]; exact few), h.counted]
  have fresh : g ≠ nextGeneration e.generation := by
    rintro rfl
    have old := ended.1
    omega
  unfold Engine.nativeStartService
  split
  · exact ended.unchanged ⟨rfl, rfl, rfl, rfl, rfl⟩ rfl
  · cases outcome with
    | allocationFailed => exact ⟨ended.1, fun _ => ⟨nofun, nofun⟩⟩
    | threadFailed => exact ⟨Nat.le_succ_of_le ended.1, fun _ => ⟨nofun, nofun⟩⟩
    | created => exact ⟨Nat.le_succ_of_le ended.1, fun same => absurd same fresh⟩

theorem Ended.stop {g : UInt64} (ended : Ended g e) (token : UInt64) :
    Ended g (e.nativeStopService token) := by
  unfold Engine.nativeStopService
  split
  · split
    · exact ⟨ended.1, fun _ => ⟨nofun, nofun⟩⟩
    · exact ⟨ended.1, fun _ => ⟨nofun, nofun⟩⟩
    · exact ended.unchanged ⟨rfl, rfl, rfl, rfl, rfl⟩ rfl
  · exact ended.unchanged ⟨rfl, rfl, rfl, rfl, rfl⟩ rfl

/-- A generation that has ended stays so: only the ready callback of a worker that was not stopped
leads to RUNNING. -/
theorem Ended.step {g : UInt64} {action : Action} (ended : Ended g e) (h : Coherent e)
    (few : FewStarts e action) (taken : e.step action = some e') : Ended g e' := by
  cases takes_of_step taken with
  | start outcome => exact ended.start h few outcome
  | stop token => exact ended.stop token
  | negative => exact ended.unchanged ⟨rfl, rfl, rfl, rfl, rfl⟩ rfl
  | await thread w timeout =>
      exact ended.unchanged (unchanged_await e thread w false) (starts_await e thread w false)
  | wake thread w timedOut waits =>
      exact ended.unchanged (unchanged_await e thread w timedOut) (starts_await e thread w timedOut)
  | enter | leave => exact ended
  | @ready i w own active =>
      unfold Engine.readyCallback
      dsimp only
      split
      · exact ended
      · rename_i goesOn
        exact ⟨ended.1, fun same => absurd (.inr (ended.stopping h own active same)) goesOn⟩
  | @finish i w own active result =>
      unfold Engine.finish
      rw [if_pos (h.active w (List.mem_of_getElem? own) active).1]
      refine ⟨ended.1, fun _ => ?_⟩
      simp only [Engine.setPc]
      split
      · exact ⟨nofun, nofun⟩
      · exact ⟨nofun, nofun⟩

theorem Ended.path {g : UInt64} {acts : List Action} {d : Engine} (ended : Ended g e)
    (h : Coherent e) (path : engineSystem.Path FewStarts e acts d) : Coherent d ∧ Ended g d := by
  refine path.invariant (I := fun e => Coherent e ∧ Ended g e) ?_ ⟨h, ended⟩
  intro e action e' ⟨h, ended⟩ few taken
  exact ⟨h.step few taken, ended.step h few taken⟩

/-- What a section may return, and what is so when it does. -/
inductive Gives (e : Engine) : Return → Prop
  | start (token : UInt64) (free : token ≠ 0 → e.state.isActive = false) : Gives e (.start token)
  | stop (token : UInt64) (accepted : Bool) : Gives e (.stop token accepted)
  | negative (kind : Await) (token : UInt64) : Gives e (.await kind token (-3))
  | awaitReady (token : UInt64) (result : Int) : Gives e (.await .ready token result)
  | awaitStopped (token : UInt64) (timedOut : Bool) (result : Int)
      (ends : e.awaitStopped token timedOut = some result) : Gives e (.await .stopped token result)
  | ready (generation : UInt64) (cancelled : Bool) : Gives e (.ready generation cancelled)

theorem gives_start (e : Engine) (outcome : StartOutcome) :
    ∃ r, (e.nativeStartService outcome).returns = e.returns ++ [r] ∧ Gives e r := by
  unfold Engine.nativeStartService
  split
  · exact ⟨_, rfl, .start 0 fun nonzero => absurd rfl nonzero⟩
  · rename_i inactive
    have free := Bool.eq_false_iff.mpr inactive
    cases outcome with
    | allocationFailed => exact ⟨_, rfl, .start 0 fun _ => free⟩
    | threadFailed => exact ⟨_, rfl, .start 0 fun _ => free⟩
    | created => exact ⟨_, rfl, .start _ fun _ => free⟩

theorem gives_stop (e : Engine) (token : UInt64) :
    ∃ r, (e.nativeStopService token).returns = e.returns ++ [r] ∧ Gives e r := by
  unfold Engine.nativeStopService
  split
  · split <;> exact ⟨_, rfl, .stop token true⟩
  · exact ⟨_, rfl, .stop token false⟩

theorem gives_await (e : Engine) (thread : Nat) (w : Waiting) (timedOut : Bool) :
    (e.await thread w timedOut).returns = e.returns ∨
      ∃ r, (e.await thread w timedOut).returns = e.returns ++ [r] ∧ Gives e r := by
  obtain ⟨kind, token⟩ := w
  cases kind with
  | ready =>
      unfold Engine.await
      dsimp only
      split
      · exact .inl rfl
      · exact .inr ⟨_, rfl, .awaitReady token _⟩
  | stopped =>
      unfold Engine.await
      dsimp only
      split
      · exact .inl rfl
      · rename_i ends
        exact .inr ⟨_, rfl, .awaitStopped token timedOut _ ends⟩

theorem gives_ready (e : Engine) (w : Worker) :
    ∃ r, (e.readyCallback w).returns = e.returns ++ [r] ∧ Gives e r := by
  unfold Engine.readyCallback
  dsimp only
  split
  · exact ⟨_, rfl, .ready w.generation true⟩
  · exact ⟨_, rfl, .ready w.generation false⟩

theorem returns_finish (e : Engine) (w : Worker) (result : Int) :
    ((e.finish w result).setPc i w .done).returns = e.returns := by
  unfold Engine.finish
  split <;> rfl

theorem step_gives {action : Action} (taken : e.step action = some e') :
    e'.returns = e.returns ∨ ∃ r, e'.returns = e.returns ++ [r] ∧ Gives e r := by
  cases takes_of_step taken with
  | start outcome => exact .inr (gives_start e outcome)
  | stop token => exact .inr (gives_stop e token)
  | negative thread w timeout => exact .inr ⟨_, rfl, .negative w.kind w.token⟩
  | await thread w timeout => exact gives_await e thread w false
  | wake thread w timedOut waits => exact gives_await e thread w timedOut
  | enter own active => exact .inl rfl
  | @ready i w own active => exact .inr (gives_ready e w)
  | leave own active result => exact .inl rfl
  | @finish i w own active result => exact .inl (returns_finish e w result)

theorem gives_of_returns {action : Action} {r : Return} (taken : e.step action = some e')
    (returned : e'.returns = e.returns ++ [r]) : Gives e r := by
  rcases step_gives taken with same | ⟨r', gave, gives⟩
  · exact absurd (returned.symm.trans same) (by simp)
  · have equal := List.append_cancel_left (returned.symm.trans gave)
    rwa [List.singleton_inj.mp equal]

/-- A call with a token of another generation is behind its check without an effect. -/
theorem unchanged_stale {action : Action} (carried : carries e action = some token)
    (stale : token ≠ e.generation) (taken : e.step action = some e') : Unchanged e e' := by
  cases takes_of_step taken with
  | stop token' =>
      cases carried
      unfold Engine.nativeStopService
      rw [if_neg stale]
      exact ⟨rfl, rfl, rfl, rfl, rfl⟩
  | negative => exact ⟨rfl, rfl, rfl, rfl, rfl⟩
  | await thread w timeout => exact unchanged_await e thread w false
  | wake thread w timedOut waits => exact unchanged_await e thread w timedOut
  | start => cases carried
  | enter => cases carried
  | ready => cases carried
  | leave => cases carried
  | finish => cases carried

theorem hasLeft_of_not_active (idle : ¬ w.active) : w.hasLeft := by
  have done : w.pc = .done := Decidable.not_not.mp idle
  rw [Worker.hasLeft, done]
  exact ⟨nofun, nofun⟩

/-- The results other than 0 and -3 say that no worker of the token is active. -/
theorem Coherent.stopped (h : Coherent e) {timedOut : Bool} {result : Int}
    (ends : e.awaitStopped token timedOut = some result)
    (final : result = 1 ∨ result = -1 ∨ result = -2) :
    ∀ w ∈ e.workers, w.generation = token → ¬ w.active := by
  intro w member own active
  obtain ⟨current, stillActive⟩ := h.active w member active
  have same : token = e.generation := own.symm.trans current
  simp only [Engine.awaitStopped] at ends
  split at ends
  · cases ends
  · rw [if_neg (not_not_intro same)] at ends
    cases state : e.state <;> simp_all [State.isActive] <;> omega

/-- A stop that is accepted while STARTING ends the generation. -/
theorem Coherent.ended (h : Coherent e) (starting : e.state = .starting)
    (taken : e.step (.stop token) = some e')
    (accepted : e'.returns = e.returns ++ [.stop token true]) : Coherent e' ∧ Ended token e' := by
  cases taken
  refine ⟨h.stop token, ?_⟩
  unfold Engine.nativeStopService at accepted ⊢
  split
  · rename_i current
    rw [starting, current]
    exact ⟨Nat.le_of_eq h.counted, fun _ => ⟨nofun, nofun⟩⟩
  · rename_i stale
    rw [if_neg stale] at accepted
    cases List.singleton_inj.mp (List.append_cancel_left accepted)

theorem Ended.cancels (ended : Ended token e) (h : Coherent e) (own : e.workers[i]? = some w)
    (mine : w.generation = token) (taken : e.step (.ready i) = some e') :
    e'.returns = e.returns ++ [.ready token true] ∧ Unchanged e e' := by
  subst mine
  cases takes_of_step taken with
  | ready own' active =>
      cases own.symm.trans own'
      have current := (h.active w (List.mem_of_getElem? own) active).1
      have stopping := ended.stopping h own active current
      simp only [Engine.readyCallback, stopping, or_true, if_true]
      exact ⟨rfl, rfl, rfl, rfl, rfl, rfl⟩

theorem Coherent.safe (h : Coherent e) : Safe e where
  single i j v w there there' active active' := by
    have first := (h.active v (List.mem_of_getElem? there) active).1
    have second := (h.active w (List.mem_of_getElem? there') active').1
    exact h.distinct i j v w there there' (first.trans second.symm)
  running stopping acts d path same := by
    have ended : Ended e.generation e :=
      ⟨Nat.le_of_eq h.counted, fun _ => by rw [stopping]; exact ⟨nofun, nofun⟩⟩
    exact ((ended.path h path).2.2 same.symm).2
  stale action token e' := unchanged_stale
  stopped action token result e' taken returned final w member own := by
    refine hasLeft_of_not_active ?_
    cases gives_of_returns taken returned with
    | negative => omega
    | awaitStopped _ timedOut _ ends => exact h.stopped ends final w member own
  started action token e' taken returned nonzero w member inside := by
    cases gives_of_returns taken returned with
    | start _ free => exact h.idle (free nonzero) w member (by rw [Worker.active, inside]; nofun)
  cancels token e' starting taken accepted acts d path i w d' own mine ready := by
    obtain ⟨h', ended⟩ := h.ended starting taken accepted
    obtain ⟨h', ended⟩ := ended.path h' path
    exact ended.cancels h' own mine ready

end

/-- In every interleaving of calls and workers the engine keeps what its callers count on. -/
theorem engine_safe {e : Engine} (reached : engineSystem.Reachable FewStarts e) : Safe e := by
  refine (reached.invariant (I := Coherent) coherent_initial ?_).safe
  intro e action e' coherent few taken
  exact coherent.step few taken

/-- A start that is stopped before it is ready, and awaited, and the next one. -/
def stoppedStart : List Action :=
  [.start .created, .enter 0, .stop 1, .ready 0, .await 5 ⟨.stopped, 1⟩ 10, .leave 0 0, .finish 0,
    .wake 5 false, .start .created]

theorem engine_safe_stoppedStart :
    ∃ e, engineSystem.replay FewStarts engineSystem.init stoppedStart = some e ∧
      e.workers = [⟨1, .done⟩, ⟨2, .created⟩] ∧
      e.returns = [.start 1, .stop 1 true, .ready 1 true, .await .stopped 1 1, .start 2] ∧
      Safe e :=
  ⟨_, rfl, rfl, rfl, engine_safe (System.reachable_of_replay stoppedStart rfl)⟩

end QuestVdWired.Android.HevJni
