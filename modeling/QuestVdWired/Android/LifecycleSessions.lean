import QuestVdWired.Android.LifecycleSteps

/-!
Where the sessions are: at most one is active or torn down, a teardown is in exactly one pair of
hands, and `startVpn` gets past its first block only while there is neither.
-/

namespace QuestVdWired.Android.Lifecycle
open Transition

structure Core (sh : Shared) : Prop where
  gate : sh.generationGate.current = 0 ∨ sh.generationGate.current = sh.generationGate.sequence
  active : ∀ n, sh.active = some n →
    sh.generationGate.current = n ∧ n ≠ 0 ∧ sh.teardownInProgress = false
  closed : sh.teardownInProgress = true → sh.generationGate.current = 0
  busy : sh.teardownInProgress = true ↔ sh.duty ≠ .nobody
  queue : sh.jobs.filter Job.isTeardown =
    if sh.duty = .queued then [.teardown sh.closingGeneration] else []

structure Stands (t : Thread) (sh : Shared) (pc : Pc) : Prop where
  owner : pc.starts = true → t = .main
  launch : ∀ n, pc.launches = some n ↔ sh.duty = .launching t ∧ sh.closingGeneration = n
  tears : ∀ n, pc.tears = some n ↔ sh.duty = .running t ∧ sh.closingGeneration = n
  prepares : ∀ g, pc.prepares = some g → sh.active = none ∧ sh.teardownInProgress = false ∧
    g = sh.generationGate.sequence ∧ g ≠ 0
  finishes : pc = .finishing → sh.active = none ∧ sh.teardownInProgress = false

/-- The fields that tell where the sessions are stay as they are. -/
structure SameCore (sh sh' : Shared) : Prop where
  gate : sh'.generationGate = sh.generationGate
  active : sh'.active = sh.active
  teardown : sh'.teardownInProgress = sh.teardownInProgress
  closing : sh'.closingGeneration = sh.closingGeneration
  duty : sh'.duty = sh.duty
  jobs : sh'.jobs.filter Job.isTeardown = sh.jobs.filter Job.isTeardown

/-- A thread moves on without a new task. -/
structure Onward (t : Thread) (sh : Shared) (pc pc' : Pc) : Prop where
  owner : pc'.starts = true → t = .main ∨ pc.starts = true
  launches : pc'.launches = pc.launches
  tears : pc'.tears = pc.tears
  prepares : pc'.prepares = none ∨ pc'.prepares = pc.prepares
  finishes : pc' = .finishing → sh.active = none ∧ sh.teardownInProgress = false

section
variable {c : Config Thread Shared Pc} {t k : Thread} {a : Action} {sh sh' : Shared} {pc pc' : Pc}

theorem Core.same (core : Core sh) (same : SameCore sh sh') : Core sh' := by
  obtain ⟨gate, active, teardown, closing, duty, jobs⟩ := same
  constructor
  · rw [gate]
    exact core.gate
  · rw [gate, active, teardown]
    exact core.active
  · rw [gate, teardown]
    exact core.closed
  · rw [teardown, duty]
    exact core.busy
  · rw [jobs, duty, closing]
    exact core.queue

theorem Stands.same (stands : Stands t sh pc) (same : SameCore sh sh') : Stands t sh' pc := by
  obtain ⟨gate, active, teardown, closing, duty, _⟩ := same
  constructor
  · exact stands.owner
  · rw [duty, closing]
    exact stands.launch
  · rw [duty, closing]
    exact stands.tears
  · rw [active, teardown, gate]
    exact stands.prepares
  · rw [active, teardown]
    exact stands.finishes

theorem Stands.onward (stands : Stands t sh pc) (onward : Onward t sh pc pc') :
    Stands t sh pc' := by
  constructor
  · intro starts
    rcases onward.owner starts with main | before
    · exact main
    · exact stands.owner before
  · rw [onward.launches]
    exact stands.launch
  · rw [onward.tears]
    exact stands.tears
  · rcases onward.prepares with nothing | same
    · simp [nothing]
    · rw [same]
      exact stands.prepares
  · exact onward.finishes

theorem Turn.onward (turn : Turn t sh pc pc') : Onward t sh pc pc' := by
  cases turn with
  | @start parses main =>
      cases parses <;> constructor <;> simp [main, Pc.launches, Pc.tears, Pc.prepares]
  | rejects empty still =>
      constructor <;> simp [Pc.starts, Pc.launches, Pc.tears, Pc.prepares, empty, still]
  | _ => constructor <;> simp [Pc.starts, Pc.launches, Pc.tears, Pc.prepares]

theorem Leaves.onward {n : Nat} (leaves : Leaves n pc pc') : Onward t sh pc pc' := by
  cases leaves with
  | _ => constructor <;> simp [Pc.starts, Pc.launches, Pc.tears, Pc.prepares]

theorem Enters.onward {n : Nat} (enters : Enters n pc pc') : Onward t sh pc pc' := by
  cases enters with
  | _ => constructor <;> simp [Pc.starts, Pc.launches, Pc.tears, Pc.prepares]

theorem sameCore_register {n : Nat} : SameCore sh (sh.register t n).1 := by
  cases state : sh.stopAcknowledgements.descriptorState <;>
    simp [Shared.register, StopAcknowledgements.register, state] <;>
    exact ⟨rfl, rfl, rfl, rfl, rfl, rfl⟩


variable {task : Thread → Pc}

/-- What a step owes the invariant: the acting thread keeps it and disturbs no other. -/
def Kept (t : Thread) (task : Thread → Pc) (sh : Shared) (pc : Pc) : Prop :=
  Core sh ∧ Stands t sh pc ∧ ∀ k, k ≠ t → Stands k sh (task k)

theorem Kept.onward (kept : Kept t task sh pc) (same : SameCore sh sh')
    (onward : Onward t sh pc pc') : Kept t task sh' pc' :=
  ⟨kept.1.same same, (kept.2.1.onward onward).same same, fun k ne => (kept.2.2 k ne).same same⟩

/-- While `t` is in `startVpn` no other thread is. -/
theorem Kept.alone (kept : Kept t task sh pc) (starts : pc.starts = true) (other : k ≠ t) :
    (task k).starts = false := by
  cases there : (task k).starts with
  | false => rfl
  | true => exact absurd (((kept.2.2 k other).owner there).trans (kept.2.1.owner starts).symm) other

theorem prepares_starts {g : Nat} (prepares : pc.prepares = some g) : pc.starts = true := by
  cases pc <;> first | rfl | cases prepares

/-- What `startVpn` does to the sessions concerns no thread that is not in it. -/
theorem Stands.elsewhere (stands : Stands k sh pc) (away : pc.starts = false)
    (duty : sh'.duty = sh.duty) (closing : sh'.closingGeneration = sh.closingGeneration) :
    Stands k sh' pc := by
  constructor
  · simp [away]
  · rw [duty, closing]
    exact stands.launch
  · rw [duty, closing]
    exact stands.tears
  · intro g prepares
    simp [prepares_starts prepares] at away
  · rintro rfl
    cases away

/-- A thread without the teardown does not care whose it becomes. -/
theorem Stands.bystander (stands : Stands k sh pc)
    (before : sh.duty ≠ .launching k ∧ sh.duty ≠ .running k)
    (after : sh'.duty ≠ .launching k ∧ sh'.duty ≠ .running k)
    (starting : sh.active = none ∧ sh.teardownInProgress = false →
      sh'.active = none ∧ sh'.teardownInProgress = false)
    (sequence : sh'.generationGate.sequence = sh.generationGate.sequence) : Stands k sh' pc := by
  constructor
  · exact stands.owner
  · intro n
    simp [stands.launch, before.1, after.1]
  · intro n
    simp [stands.tears, before.2, after.2]
  · intro g prepares
    obtain ⟨empty, still, last, nonzero⟩ := stands.prepares g prepares
    obtain ⟨empty', still'⟩ := starting ⟨empty, still⟩
    exact ⟨empty', still', last.trans sequence.symm, nonzero⟩
  · intro finishing
    exact starting (stands.finishes finishing)

@[simp] theorem invalidate_sequence {g : GenerationGate} {n : Nat} :
    (g.invalidate n).sequence = g.sequence := by
  simp only [GenerationGate.invalidate]
  split <;> rfl

theorem invalidate_current {g : GenerationGate} {n : Nat} :
    (g.invalidate n).current = 0 ∨ (g.invalidate n).current = g.current := by
  simp only [GenerationGate.invalidate]
  split
  · exact .inl rfl
  · exact .inr rfl

theorem invalidate_of_current {g : GenerationGate} {n : Nat} (current : g.current = n) :
    (g.invalidate n).current = 0 := by
  by_cases zero : n = 0
  · subst zero
    rcases invalidate_current (g := g) (n := 0) with h | h
    · exact h
    · exact h.trans current
  · simp [GenerationGate.invalidate, GenerationGate.isCurrent, current, zero]

theorem invalidated_sequence {expected : Option Nat} :
    (sh.invalidated expected).sequence = sh.generationGate.sequence := by
  cases expected with
  | none => rfl
  | some n => exact invalidate_sequence

theorem invalidated_current {expected : Option Nat} :
    (sh.invalidated expected).current = 0 ∨
      (sh.invalidated expected).current = sh.generationGate.current := by
  cases expected with
  | none => exact .inr rfl
  | some n => exact invalidate_current

theorem Core.nobody (core : Core sh) (still : sh.teardownInProgress = false) :
    sh.duty = .nobody := by
  by_contra busy
  have := core.busy.mpr busy
  simp [still] at this

theorem Core.empty (core : Core sh) (busy : sh.teardownInProgress = true) : sh.active = none := by
  cases active : sh.active with
  | none => rfl
  | some n =>
      have := (core.active n active).2.2
      simp [busy] at this

theorem Kept.stops {expected : Option Nat} {close : Option Nat} {callback : Option Callback}
    (kept : Kept t task sh pc) (stops : Stops t sh expected sh' close)
    (onward : Onward t sh pc (.stopped callback none)) :
    Kept t task sh' (.stopped callback close) := by
  cases stops with
  | busy closing => exact kept.onward ⟨rfl, rfl, rfl, rfl, rfl, rfl⟩ onward
  | empty empty still =>
      obtain ⟨core, own, others⟩ := kept
      refine ⟨?_, ?_, fun k ne => ?_⟩
      · constructor
        · dsimp only
          rw [invalidated_sequence]
          rcases invalidated_current with h | h
          · exact .inl h
          · rw [h]
            exact core.gate
        · simp [empty]
        · simp [still]
        · exact core.busy
        · exact core.queue
      · have stood := own.onward onward
        exact ⟨stood.owner, stood.launch, stood.tears, by simp [Pc.prepares], by simp⟩
      · have nobody := core.nobody still
        exact (others k ne).bystander (by simp [nobody]) (by simp [nobody]) id
          invalidated_sequence
  | @closes n active still =>
      obtain ⟨core, own, others⟩ := kept
      have nobody := core.nobody still
      refine ⟨?_, ?_, fun k ne => ?_⟩
      · constructor
        · exact .inl (invalidate_of_current (core.active n active).1)
        · simp
        · exact fun _ => invalidate_of_current (core.active n active).1
        · simp
        · simpa [nobody] using core.queue
      · constructor <;> simp [Pc.starts, Pc.launches, Pc.tears, Pc.prepares]
      · refine (others k ne).bystander (by simp [nobody]) ?_ ?_ invalidate_sequence
        · simpa using ne.symm
        · simp [active]

theorem Kept.takesTeardown {n : Nat} {jobs : List Job} (kept : Kept t task sh .idle)
    (next : sh.jobs = .teardown n :: jobs) :
    Kept t task { sh with jobs := jobs, duty := .running t } (.tearing n) := by
  obtain ⟨core, own, others⟩ := kept
  have queue := core.queue
  rw [next, List.filter_cons_of_pos rfl] at queue
  have queued : sh.duty = .queued := by
    by_contra other
    simp [other] at queue
  obtain ⟨rfl, rest⟩ : n = sh.closingGeneration ∧ jobs.filter Job.isTeardown = [] := by
    simpa [queued] using queue
  have busy := core.busy.mpr (by simp [queued])
  refine ⟨?_, ?_, fun k ne => ?_⟩
  · exact ⟨core.gate, core.active, core.closed, by simp [busy], by simpa using rest⟩
  · constructor <;> simp [Pc.starts, Pc.launches, Pc.tears, Pc.prepares]
  · exact (others k ne).bystander (by simp [queued]) (by simpa using ne.symm) id rfl

theorem Kept.launches {n : Nat} (kept : Kept t task sh (.stopped none (some n))) :
    Kept t task { sh.execute (.teardown n) with duty := .queued } .idle := by
  obtain ⟨core, own, others⟩ := kept
  obtain ⟨launching, rfl⟩ := (own.launch n).mp rfl
  have busy := core.busy.mpr (by simp [launching])
  refine ⟨?_, ?_, fun k ne => ?_⟩
  · refine ⟨core.gate, core.active, core.closed, by simp [Shared.execute, busy], ?_⟩
    have queue := core.queue
    simp only [launching, reduceCtorEq, if_false] at queue
    simp [Shared.execute, queue, Job.isTeardown]
  · constructor <;> simp [Pc.starts, Pc.launches, Pc.tears, Pc.prepares]
  · exact (others k ne).bystander (by simpa [launching] using ne.symm) (by simp) id rfl

theorem Kept.ends {n : Nat} (kept : Kept t task sh (.acknowledging n [])) :
    Kept t task sh.endTeardown .idle := by
  obtain ⟨core, own, others⟩ := kept
  have running := ((own.tears n).mp rfl).1
  have busy := core.busy.mpr (by simp [running])
  refine ⟨?_, ?_, fun k ne => ?_⟩
  · refine ⟨core.gate, ?_, by simp [Shared.endTeardown], by simp [Shared.endTeardown], ?_⟩
    · simp [Shared.endTeardown, core.empty busy]
    · simpa [Shared.endTeardown, running] using core.queue
  · constructor <;> simp [Shared.endTeardown, Pc.starts, Pc.launches, Pc.tears, Pc.prepares]
  · refine (others k ne).bystander ?_ (by simp [Shared.endTeardown]) ?_ rfl
    · simpa [running] using ne.symm
    · simp [busy]

theorem Kept.begins {acknowledgements : StopAcknowledgements} (kept : Kept t task sh .beginning)
    (empty : sh.active = none) (still : sh.teardownInProgress = false) :
    Kept t task
      { sh with
        stopAcknowledgements := acknowledgements
        generationGate := sh.generationGate.begin }
      (.foreground (sh.generationGate.sequence + 1)) := by
  refine ⟨?_, ?_, fun k ne => ?_⟩
  · exact ⟨.inr rfl, by simp [empty], by simp [still], kept.1.busy, kept.1.queue⟩
  · have own := kept.2.1
    exact ⟨fun _ => own.owner rfl, own.launch, own.tears,
      by simp [Pc.prepares, empty, still, GenerationGate.begin], by simp⟩
  · exact (kept.2.2 k ne).elsewhere (kept.alone rfl ne) rfl rfl

theorem Kept.commits {g : Nat} (kept : Kept t task sh (.committing g))
    (current : sh.generationGate.isCurrent g = true) (still : sh.teardownInProgress = false) :
    Kept t task { sh.describe g .committed with active := some g, vpnDescriptorOpen := true }
      (.launching g) := by
  obtain ⟨nonzero, current⟩ : g ≠ 0 ∧ sh.generationGate.current = g := by
    simpa [GenerationGate.isCurrent] using current
  refine ⟨?_, ?_, fun k ne => ?_⟩
  · refine ⟨kept.1.gate, ?_, kept.1.closed, kept.1.busy, kept.1.queue⟩
    rintro n active
    cases active
    exact ⟨current, nonzero, still⟩
  · have own := kept.2.1
    exact ⟨fun _ => own.owner rfl, own.launch, own.tears, by simp [Pc.prepares], by simp⟩
  · exact (kept.2.2 k ne).elsewhere (kept.alone rfl ne) rfl rfl

theorem core_move (kept : Kept t task sh pc) (move : Move t sh pc sh' pc') :
    Kept t task sh' pc' := by
  have same : SameCore sh sh := ⟨rfl, rfl, rfl, rfl, rfl, rfl⟩
  cases move with
  | turns turn => exact kept.onward same turn.onward
  | enters enters free => exact kept.onward ⟨rfl, rfl, rfl, rfl, rfl, rfl⟩ enters.onward
  | leaves leaves => exact kept.onward ⟨rfl, rfl, rfl, rfl, rfl, rfl⟩ leaves.onward
  | begins empty still reset => exact kept.begins empty still
  | commits current still => exact kept.commits current still
  | queues plain idle =>
      refine kept.onward ⟨rfl, rfl, rfl, rfl, rfl, by simp [Shared.execute, plain]⟩ ?_
      rcases idle with rfl | ⟨g, rfl⟩ <;>
        constructor <;> simp [Pc.starts, Pc.launches, Pc.tears, Pc.prepares]
  | stops on plain stops =>
      refine kept.stops stops ?_
      constructor <;> simp [Pc.starts, Pc.launches, Pc.tears, Pc.prepares]
  | @registers n _ _ on stops =>
      -- the registration leaves the sessions where they are
      have registered := kept.onward (sameCore_register (t := t) (n := n))
        ⟨.inr, rfl, rfl, .inr rfl, by simp⟩
      refine registered.stops stops ?_
      constructor <;> simp [Pc.starts, Pc.launches, Pc.tears, Pc.prepares]
  | launches => exact kept.launches
  | @takes job jobs next plain =>
      refine kept.onward ⟨rfl, rfl, rfl, rfl, rfl, by simp [next, plain]⟩ ?_
      cases job with
      | teardown => cases plain
      | _ => constructor <;> simp [Job.begins, Pc.starts, Pc.launches, Pc.tears, Pc.prepares]
  | takesTeardown next => exact kept.takesTeardown next
  | ends => exact kept.ends
  | initializes after =>
      refine kept.onward ⟨rfl, rfl, rfl, rfl, rfl, rfl⟩ ?_
      rcases after with rfl | rfl <;>
        constructor <;> simp [Pc.starts, Pc.launches, Pc.tears, Pc.prepares]
  | _ =>
      refine kept.onward ⟨rfl, rfl, rfl, rfl, rfl, rfl⟩ ?_
      constructor <;> simp [Pc.starts, Pc.launches, Pc.tears, Pc.prepares]

theorem core_of_reachable {ok : Config Thread Shared Pc → Thread × Action → Prop}
    {c : Config Thread Shared Pc} (reached : lifecycle.system.Reachable ok c) :
    Core c.shared ∧ ∀ k, Stands k c.shared (c.task k) := by
  refine Tasks.system_invariant ?_ (fun k => ?_) ?_ reached
  · constructor <;> simp [lifecycle, Shared.created]
  · constructor <;>
      simp [lifecycle, Shared.created, Pc.starts, Pc.launches, Pc.tears, Pc.prepares]
  · intro c t a sh pc _ core stands taken
    exact core_move ⟨core, stands t, fun k _ => stands k⟩ (move_of_step taken)

theorem Stops.sequence {expected close : Option Nat} (stops : Stops t sh expected sh' close) :
    sh'.generationGate.sequence = sh.generationGate.sequence := by
  cases stops with
  | busy => rfl
  | empty => exact invalidated_sequence
  | closes => exact invalidate_sequence

theorem Move.sequence_le (move : Move t sh pc sh' pc') :
    sh'.generationGate.sequence ≤ sh.generationGate.sequence + 1 := by
  cases move with
  | begins => exact Nat.le_refl _
  | stops on plain stops => exact Nat.le_succ_of_le (Nat.le_of_eq stops.sequence)
  | @registers n _ _ on stops =>
      have registered : (sh.register t n).1.generationGate = sh.generationGate :=
        sameCore_register.gate
      exact Nat.le_succ_of_le (Nat.le_of_eq (stops.sequence.trans (congrArg _ registered)))
  | _ => exact Nat.le_succ _

/-- In a run of fewer than `2 ^ 63 - 1` steps the sequence does not begin again. -/
theorem begin_eq {ok : Config Thread Shared Pc → Thread × Action → Prop}
    {c : Config Thread Shared Pc} {acts : List (Thread × Action)}
    (path : lifecycle.system.Path ok lifecycle.system.init acts c)
    (short : acts.length < 2 ^ 63 - 1) :
    c.shared.generationGate.begin = ⟨GenerationGate.next c.shared.generationGate.sequence,
      GenerationGate.next c.shared.generationGate.sequence⟩ := by
  have bound : c.shared.generationGate.sequence ≤ 0 + acts.length := by
    refine path.count_le (f := fun c => c.shared.generationGate.sequence) ?_
    rintro c ⟨t, a⟩ c' _ taken
    obtain ⟨sh, pc, step, rfl⟩ := Tasks.system_step taken
    exact (move_of_step step).sequence_le
  have below : c.shared.generationGate.sequence ≠ 2 ^ 63 - 1 := by omega
  rw [GenerationGate.next, if_neg below]
  rfl

end
end QuestVdWired.Android.Lifecycle
