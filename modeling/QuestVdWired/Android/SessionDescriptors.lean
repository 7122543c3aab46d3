import QuestVdWired.Android.LifecycleSessions

/-!
What becomes of the descriptors: which session still has one, what each thread may rely on
about the descriptor it works with, and the starts of the native engine.
-/

namespace QuestVdWired.Android.Lifecycle
open Transition

namespace Pc

/-- What the thread relies on: a session, and what its descriptor may be. -/
def expects : Pc → Option (Nat × List Descriptor)
  | .foreground g | .establishing g => some (g, [.absent])
  | .committing g | .discarding g => some (g, [.established])
  | .discardingAgain g => some (g, [.failed])
  | .initializingStart n | .resumingStart n | .tearing n | .closing n => some (n, [.committed])
  | .leaving n closed | .draining n closed => some (n, [if closed then .closed else .failed])
  | .acknowledging n _ => some (n, [.closed, .failed])
  | _ => none

/-- The session whose descriptor the thread has from `establish` and not committed. -/
def keeps : Pc → Option Nat
  | .committing g | .discarding g => some g
  | _ => none

end Pc

/-- Who holds `engineStartLock` is told by where it stands. -/
def Holds (t : Thread) (sh : Shared) (pc : Pc) : Prop :=
  ∀ n, pc.holds = some n → sh.engineStartLock n = some t

structure Described (sh : Shared) : Prop where
  active : ∀ n, sh.active = some n → sh.descriptor n = .committed
  unclosed : sh.teardownInProgress = true → (∀ t, sh.duty ≠ .running t) →
    sh.descriptor sh.closingGeneration = .committed
  committed : ∀ n, sh.descriptor n = .committed →
    sh.active = some n ∨ sh.teardownInProgress = true ∧ sh.closingGeneration = n
  torn : ∀ n, sh.tornDown n = true → sh.descriptor n = .closed ∨ sh.descriptor n = .failed
  fresh : ∀ n, sh.generationGate.sequence < n → sh.descriptor n = .absent
  starts : ∀ e ∈ sh.starts, e.descriptor = .committed ∧ e.tornDown = false

structure Knows (t : Thread) (sh : Shared) (pc : Pc) : Prop where
  expects : ∀ n ds, pc.expects = some (n, ds) → sh.descriptor n ∈ ds
  keeps : t = .main → ∀ n, sh.descriptor n = .established → pc.keeps = some n

structure SameDescriptors (sh sh' : Shared) : Prop where
  descriptor : sh'.descriptor = sh.descriptor
  active : sh'.active = sh.active
  teardown : sh'.teardownInProgress = sh.teardownInProgress
  closing : sh'.closingGeneration = sh.closingGeneration
  duty : sh'.duty = sh.duty
  tornDown : sh'.tornDown = sh.tornDown
  starts : sh'.starts = sh.starts
  sequence : sh'.generationGate.sequence = sh.generationGate.sequence

section
variable {t k : Thread} {sh sh' : Shared} {pc pc' : Pc} {n g : Nat} {ds : List Descriptor}

theorem Holds.free (free : pc.holds = none) : Holds t sh pc := by
  intro n held
  rw [free] at held
  cases held

theorem Holds.same (held : Holds t sh pc) (holds : pc'.holds = pc.holds)
    (lock : sh'.engineStartLock = sh.engineStartLock) : Holds t sh' pc' := by
  intro n h
  rw [lock]
  exact held n (holds ▸ h)

/-- The lock of `n` changes hands while nobody else has it. -/
theorem Holds.update {owner : Option Thread} (held : Holds k sh pc)
    (away : sh.engineStartLock n ≠ some k)
    (lock : sh'.engineStartLock = Function.update sh.engineStartLock n owner) :
    Holds k sh' pc := by
  intro m h
  have mine := held m h
  have other : m ≠ n := by
    rintro rfl
    exact away mine
  rw [lock, Function.update_of_ne other]
  exact mine

theorem lock_register : (sh.register t n).1.engineStartLock = sh.engineStartLock := by
  cases state : sh.stopAcknowledgements.descriptorState <;>
    simp [Shared.register, StopAcknowledgements.register, state, Shared.book]

theorem Stops.lock {expected close : Option Nat} (stops : Stops t sh expected sh' close) :
    sh'.engineStartLock = sh.engineStartLock := by
  cases stops <;> rfl

theorem Leaves.holds (leaves : Leaves n pc pc') : pc.holds = some n ∧ pc'.holds = none := by
  cases leaves <;> exact ⟨rfl, rfl⟩

theorem Enters.holds (enters : Enters n pc pc') : pc'.holds = some n := by
  cases enters <;> rfl

theorem Turn.holds (turn : Turn t sh pc pc') : pc'.holds = pc.holds := by
  cases turn with
  | @start parses => cases parses <;> rfl
  | _ => rfl

theorem holds_move {task : Thread → Pc} (own : Holds t sh pc)
    (others : ∀ k, k ≠ t → Holds k sh (task k)) (move : Move t sh pc sh' pc') :
    Holds t sh' pc' ∧ ∀ k, k ≠ t → Holds k sh' (task k) := by
  have leaves {m : Nat} (held : pc.holds = some m) {k : Thread} (ne : k ≠ t) :
      sh.engineStartLock m ≠ some k := by
    rw [own m held]
    simpa using ne.symm
  cases move with
  | turns turn => exact ⟨own.same turn.holds rfl, others⟩
  | enters enters free =>
      refine ⟨fun m h => ?_, fun k ne => (others k ne).update (by simp [free]) rfl⟩
      obtain rfl : _ = m := Option.some.inj (enters.holds.symm.trans h)
      exact Function.update_self ..
  | leaves step =>
      exact ⟨.free step.holds.2, fun k ne => (others k ne).update (leaves step.holds.1 ne) rfl⟩
  | initializes after =>
      refine ⟨?_, fun k ne => (others k ne).update (leaves rfl ne) rfl⟩
      rcases after with rfl | rfl <;> exact .free rfl
  | tornDown => exact ⟨.free rfl, fun k ne => (others k ne).update (leaves rfl ne) rfl⟩
  | stops on plain stops =>
      exact ⟨.free rfl, fun k ne => (others k ne).same rfl stops.lock⟩
  | registers on stops =>
      exact ⟨.free rfl, fun k ne => (others k ne).same rfl (stops.lock.trans lock_register)⟩
  | @takes job jobs next plain =>
      refine ⟨.free ?_, others⟩
      cases job <;> rfl
  | resumes => exact ⟨own.same rfl rfl, others⟩
  | closes => exact ⟨own.same rfl rfl, others⟩
  | _ => exact ⟨.free rfl, fun k ne => (others k ne).same rfl rfl⟩

theorem holds_of_reachable {ok : Config Thread Shared Pc → Thread × Action → Prop}
    {c : Config Thread Shared Pc} (reached : lifecycle.system.Reachable ok c) :
    ∀ k, Holds k c.shared (c.task k) := by
  refine (Tasks.system_invariant (I := fun _ => True) trivial (fun k => ?_) ?_ reached).2
  · intro n held
    cases held
  · intro c t a sh pc _ _ held taken
    exact ⟨trivial, holds_move (held t) (fun k _ => held k) (move_of_step taken)⟩

theorem expects_cases (expects : pc.expects = some (n, ds)) :
    pc.prepares = some n ∨ pc.tears = some n ∨ pc.holds = some n ∧ ds = [.committed] := by
  cases pc <;> simp_all [Pc.expects, Pc.prepares, Pc.tears, Pc.holds]


/-- What every thread knows, and what the core says of it. -/
structure Facts (t : Thread) (task : Thread → Pc) (sh : Shared) (pc : Pc) : Prop where
  kept : Kept t task sh pc
  held : Holds t sh pc ∧ ∀ k, k ≠ t → Holds k sh (task k)
  described : Described sh
  own : Knows t sh pc
  others : ∀ k, k ≠ t → Knows k sh (task k)

variable {task : Thread → Pc}

theorem Described.same (described : Described sh) (same : SameDescriptors sh sh') :
    Described sh' := by
  obtain ⟨descriptor, active, teardown, closing, duty, tornDown, starts, sequence⟩ := same
  constructor
  · rw [active, descriptor]
    exact described.active
  · rw [teardown, duty, closing, descriptor]
    exact described.unclosed
  · rw [descriptor, active, teardown, closing]
    exact described.committed
  · rw [tornDown, descriptor]
    exact described.torn
  · rw [sequence, descriptor]
    exact described.fresh
  · rw [starts]
    exact described.starts

theorem Knows.same (knows : Knows t sh pc) (descriptor : sh'.descriptor = sh.descriptor) :
    Knows t sh' pc := by
  constructor
  · rw [descriptor]
    exact knows.expects
  · rw [descriptor]
    exact knows.keeps

theorem Knows.onward (knows : Knows t sh pc)
    (expects : pc'.expects = none ∨ pc'.expects = pc.expects) (keeps : pc'.keeps = pc.keeps) :
    Knows t sh pc' := by
  constructor
  · intro n ds expected
    rcases expects with nothing | same
    · rw [nothing] at expected
      cases expected
    · exact knows.expects n ds (same ▸ expected)
  · rw [keeps]
    exact knows.keeps

/-- What a thread writes to a descriptor, no other thread relied on. -/
theorem Facts.apart (facts : Facts t task sh pc)
    (writes : pc.prepares = some n ∧ sh.descriptor n ≠ .committed ∨ pc = .closing n) (ne : k ≠ t)
    (expects : (task k).expects = some (g, ds)) : g ≠ n := by
  rintro rfl
  have stands := facts.kept.2.2 k ne
  rcases writes with ⟨prepares, uncommitted⟩ | rfl
  · have alone := facts.kept.alone (prepares_starts prepares) ne
    obtain ⟨_, still, _⟩ := facts.kept.2.1.prepares g prepares
    rcases expects_cases expects with there | there | ⟨_, rfl⟩
    · simp [prepares_starts there] at alone
    · have running := ((stands.tears g).mp there).1
      simp [facts.kept.1.nobody still] at running
    · exact uncommitted (by simpa using (facts.others k ne).expects g _ expects)
  · have running := ((facts.kept.2.1.tears g).mp rfl).1
    rcases expects_cases expects with there | there | ⟨there, _⟩
    · obtain ⟨_, still, _⟩ := stands.prepares g there
      simp [facts.kept.1.nobody still] at running
    · have other := ((stands.tears g).mp there).1
      rw [running] at other
      exact ne (Duty.running.inj other).symm
    · have mine := facts.held.1 g rfl
      rw [(facts.held.2 k ne) g there] at mine
      exact ne (Option.some.inj mine)

theorem Facts.tell {d : Descriptor} (facts : Facts t task sh pc)
    (writes : pc.prepares = some n ∧ sh.descriptor n ≠ .committed ∨ pc = .closing n)
    (descriptor : sh'.descriptor = Function.update sh.descriptor n d)
    (established : d = .established → t = .main) (ne : k ≠ t) : Knows k sh' (task k) := by
  have knows := facts.others k ne
  constructor
  · intro m ds expects
    rw [descriptor, Function.update_of_ne (facts.apart writes ne expects)]
    exact knows.expects m ds expects
  · rintro rfl m there
    rw [descriptor] at there
    by_cases same : m = n
    · subst same
      rw [Function.update_self] at there
      exact absurd (established there).symm ne
    · rw [Function.update_of_ne same] at there
      exact knows.keeps rfl m there

/-- `startVpn` takes a descriptor up, or gives up the one it did not commit. -/
theorem Facts.prepared {d : Descriptor} (facts : Facts t task sh pc)
    (prepares : pc.prepares = some g) (uncommitted : d ≠ .committed)
    (torn : sh.tornDown g = true → d = .closed ∨ d = .failed) : Described (sh.describe g d) := by
  obtain ⟨empty, still, last, _⟩ := facts.kept.2.1.prepares g prepares
  have described := facts.described
  constructor
  · simp [Shared.describe, empty]
  · simp [Shared.describe, still]
  · intro n there
    by_cases same : n = g
    · subst same
      exact absurd (by simpa [Shared.describe] using there) uncommitted
    · exact described.committed n (by simpa [Shared.describe, same] using there)
  · intro n tornDown
    by_cases same : n = g
    · subst same
      simpa [Shared.describe] using torn tornDown
    · simpa [Shared.describe, same] using described.torn n tornDown
  · intro n later
    have other : n ≠ g := by
      rintro rfl
      simp [Shared.describe, last] at later
    simpa [Shared.describe, other] using described.fresh n later
  · exact described.starts

/-- The descriptor of the thread's start is none of those that stay with `startVpn`. -/
theorem Knows.drop {d : Descriptor} (knows : Knows t sh pc) (keeps : ∀ m, pc.keeps = some m → m = g)
    (gone : d ≠ .established) (expects : ∀ n ds, pc'.expects = some (n, ds) → n = g ∧ d ∈ ds) :
    Knows t (sh.describe g d) pc' := by
  constructor
  · intro n ds expected
    obtain ⟨rfl, known⟩ := expects n ds expected
    simpa [Shared.describe] using known
  · intro main n there
    by_cases same : n = g
    · subst same
      exact absurd (by simpa [Shared.describe] using there) gone
    · have before := knows.keeps main n (by simpa [Shared.describe, same] using there)
      exact absurd (keeps n before) same

theorem Facts.untorn (facts : Facts t task sh pc) (there : sh.descriptor n = .absent ∨
    sh.descriptor n = .established ∨ sh.descriptor n = .committed) : sh.tornDown n = false := by
  cases torn : sh.tornDown n with
  | false => rfl
  | true =>
      have closed := facts.described.torn n torn
      rcases there with there | there | there <;> simp [there] at closed

/-- What a step owes the descriptors. -/
def Told (t : Thread) (task : Thread → Pc) (sh : Shared) (pc : Pc) : Prop :=
  Described sh ∧ Knows t sh pc ∧ ∀ k, k ≠ t → Knows k sh (task k)

theorem Facts.onward (facts : Facts t task sh pc) (same : SameDescriptors sh sh')
    (expects : pc'.expects = none ∨ pc'.expects = pc.expects) (keeps : pc'.keeps = pc.keeps) :
    Told t task sh' pc' :=
  ⟨facts.described.same same, (facts.own.onward expects keeps).same same.descriptor,
    fun k ne => (facts.others k ne).same same.descriptor⟩

theorem Facts.establishes (facts : Facts t task sh (.establishing g)) :
    Told t task (sh.describe g .established) (.committing g) := by
  have absent : sh.descriptor g = .absent := by
    simpa using facts.own.expects g _ rfl
  have main := facts.kept.2.1.owner rfl
  refine ⟨facts.prepared rfl (by simp) ?_, ?_, fun k ne => ?_⟩
  · simp [facts.untorn (.inl absent)]
  · constructor
    · rintro n ds ⟨⟩
      simp [Shared.describe]
    · intro _ n there
      by_cases same : n = g
      · subst same
        rfl
      · have before := facts.own.keeps main n (by simpa [Shared.describe, same] using there)
        cases before
  · exact facts.tell (.inl ⟨rfl, by simp [absent]⟩) rfl (fun _ => main) ne

theorem Facts.discards {d : Descriptor} (facts : Facts t task sh pc)
    (prepares : pc.prepares = some g) (keeps : ∀ m, pc.keeps = some m → m = g)
    (uncommitted : sh.descriptor g ≠ .committed) (gone : d = .closed ∨ d = .failed)
    (expects : ∀ n ds, pc'.expects = some (n, ds) → n = g ∧ d ∈ ds) :
    Told t task (sh.describe g d) pc' := by
  refine ⟨facts.prepared prepares ?_ fun _ => gone, facts.own.drop keeps ?_ expects,
    fun k ne => facts.tell (.inl ⟨prepares, uncommitted⟩) rfl ?_ ne⟩
  · rcases gone with rfl | rfl <;> simp
  · rcases gone with rfl | rfl <;> simp
  · rcases gone with rfl | rfl <;> simp

theorem Facts.commits (facts : Facts t task sh (.committing g)) :
    Told t task { sh.describe g .committed with active := some g, vpnDescriptorOpen := true }
      (.launching g) := by
  obtain ⟨empty, still, last, _⟩ := facts.kept.2.1.prepares g rfl
  have established : sh.descriptor g = .established := by
    simpa using facts.own.expects g _ rfl
  have described := facts.described
  refine ⟨?_, ?_, fun k ne => ?_⟩
  · constructor
    · rintro n active
      cases active
      simp [Shared.describe]
    · simp [Shared.describe, still]
    · intro n there
      by_cases same : n = g
      · exact .inl (by simp [same])
      · have before := described.committed n (by simpa [Shared.describe, same] using there)
        simp [empty, still] at before
    · intro n torn
      have other : n ≠ g := by
        rintro rfl
        simp [Shared.describe, facts.untorn (.inr (.inl established))] at torn
      simpa [Shared.describe, other] using described.torn n torn
    · intro n later
      have other : n ≠ g := by
        rintro rfl
        simp [Shared.describe, last] at later
      simpa [Shared.describe, other] using described.fresh n later
    · exact described.starts
  · refine (facts.own.drop (g := g) (d := .committed) ?_ (by simp) ?_).same rfl
    · rintro m ⟨⟩
      rfl
    · rintro n ds ⟨⟩
  · exact facts.tell (.inl ⟨rfl, by simp [established]⟩) rfl (by simp) ne

theorem Facts.begins {acknowledgements : StopAcknowledgements}
    (facts : Facts t task sh .beginning) :
    Told t task
      { sh with
        stopAcknowledgements := acknowledgements
        generationGate := sh.generationGate.begin }
      (.foreground (sh.generationGate.sequence + 1)) := by
  have described := facts.described
  refine ⟨?_, ?_, fun k ne => (facts.others k ne).same rfl⟩
  · refine ⟨described.active, described.unclosed, described.committed, described.torn, ?_,
      described.starts⟩
    intro n later
    exact described.fresh n (Nat.lt_of_succ_lt later)
  · constructor
    · rintro n ds ⟨⟩
      simpa using described.fresh _ (Nat.lt_succ_self _)
    · exact facts.own.keeps

theorem Facts.stops {expected close : Option Nat} {callback : Option Callback}
    (facts : Facts t task sh pc) (stops : Stops t sh expected sh' close)
    (keeps : pc.keeps = none) : Told t task sh' (.stopped callback close) := by
  have onward : Knows t sh (.stopped callback close) :=
    facts.own.onward (.inl rfl) keeps.symm
  have described := facts.described
  cases stops with
  | busy closing =>
      exact ⟨described.same ⟨rfl, rfl, rfl, rfl, rfl, rfl, rfl, rfl⟩, onward.same rfl,
        fun k ne => (facts.others k ne).same rfl⟩
  | empty empty still =>
      exact ⟨described.same ⟨rfl, rfl, rfl, rfl, rfl, rfl, rfl, invalidated_sequence⟩,
        onward.same rfl, fun k ne => (facts.others k ne).same rfl⟩
  | @closes n active still =>
      refine ⟨?_, onward.same rfl, fun k ne => (facts.others k ne).same rfl⟩
      constructor
      · simp
      · exact fun _ _ => described.active n active
      · intro m there
        have before := described.committed m there
        simp only [active, still, Option.some.injEq] at before
        exact .inr ⟨rfl, by simpa using before⟩
      · exact described.torn
      · simpa using described.fresh
      · exact described.starts

theorem Facts.launches (facts : Facts t task sh (.stopped none (some n))) :
    Told t task { sh.execute (.teardown n) with duty := .queued } .idle := by
  have described := facts.described
  have own : Knows t sh .idle := facts.own.onward (.inl rfl) rfl
  refine ⟨?_, own.same rfl, fun k ne => (facts.others k ne).same rfl⟩
  refine ⟨described.active, fun busy _ => ?_, described.committed, described.torn, described.fresh,
    described.starts⟩
  have launching := ((facts.kept.2.1.launch n).mp rfl).1
  exact described.unclosed busy (by simp [launching])

theorem Facts.takesTeardown {jobs : List Job} (facts : Facts t task sh .idle)
    (next : sh.jobs = .teardown n :: jobs) :
    Told t task { sh with jobs := jobs, duty := .running t } (.tearing n) := by
  have described := facts.described
  have queue := facts.kept.1.queue
  rw [next, List.filter_cons_of_pos rfl] at queue
  have queued : sh.duty = .queued := by
    by_contra other
    simp [other] at queue
  obtain rfl : n = sh.closingGeneration := by
    simp [queued] at queue
    exact queue.1
  refine ⟨?_, ?_, fun k ne => (facts.others k ne).same rfl⟩
  · exact ⟨described.active, fun _ other => absurd rfl (other t), described.committed,
      described.torn, described.fresh, described.starts⟩
  · constructor
    · rintro m ds ⟨⟩
      have busy := facts.kept.1.busy.mpr (by simp [queued])
      simpa using described.unclosed busy (by simp [queued])
    · exact facts.own.keeps

/-- The engine is started on a descriptor that was committed and not closed. -/
theorem Facts.startsEngine (facts : Facts t task sh pc)
    (expects : pc.expects = some (n, [.committed])) : Described (sh.startEngine n) := by
  have described := facts.described
  have committed : sh.descriptor n = .committed := by
    simpa using facts.own.expects n _ expects
  refine ⟨described.active, described.unclosed, described.committed, described.torn,
    described.fresh, ?_⟩
  intro e there
  simp only [Shared.startEngine, List.mem_append, List.mem_singleton] at there
  rcases there with before | rfl
  · exact described.starts e before
  · exact ⟨committed, facts.untorn (.inr (.inr committed))⟩

theorem Facts.closes {ok : Bool} (facts : Facts t task sh (.closing n)) :
    Told t task
      { sh.describe n (if ok then .closed else .failed) with vpnDescriptorOpen := !ok }
      (.leaving n ok) := by
  obtain ⟨running, closing⟩ := (facts.kept.2.1.tears n).mp rfl
  have busy := facts.kept.1.busy.mpr (by simp [running])
  have empty := facts.kept.1.empty busy
  have described := facts.described
  have committed : sh.descriptor n = .committed := by
    simpa using facts.own.expects n _ rfl
  refine ⟨?_, ?_, fun k ne => ?_⟩
  · constructor
    · simp [Shared.describe, empty]
    · exact fun _ other => absurd running (other t)
    · intro m there
      by_cases same : m = n
      · subst same
        cases ok <;> simp [Shared.describe] at there
      · exact described.committed m (by simpa [Shared.describe, same] using there)
    · intro m torn
      by_cases same : m = n
      · subst same
        cases ok <;> simp [Shared.describe]
      · simpa [Shared.describe, same] using described.torn m torn
    · intro m later
      have absent := described.fresh m later
      have other : m ≠ n := by
        rintro rfl
        simp [committed] at absent
      simpa [Shared.describe, other] using absent
    · exact described.starts
  · refine (facts.own.drop (g := n) (d := if ok then .closed else .failed) ?_ ?_ ?_).same rfl
    · rintro m ⟨⟩
    · cases ok <;> simp
    · rintro m ds ⟨⟩
      simp
  · refine facts.tell (.inr rfl) rfl ?_ ne
    cases ok <;> simp

theorem Facts.tornDown {ok : Bool} (facts : Facts t task sh (.leaving n ok)) :
    Told t task { sh.leave n with tornDown := Function.update sh.tornDown n true }
      (.draining n ok) := by
  have described := facts.described
  have own : Knows t sh (.draining n ok) := facts.own.onward (.inr rfl) rfl
  refine ⟨?_, own.same rfl, fun k ne => (facts.others k ne).same rfl⟩
  refine ⟨described.active, described.unclosed, described.committed, ?_, described.fresh,
    described.starts⟩
  intro m torn
  change sh.descriptor m = .closed ∨ sh.descriptor m = .failed
  by_cases same : m = n
  · subst same
    have known := facts.own.expects m _ rfl
    cases ok with
    | true => exact .inl (by simpa using known)
    | false => exact .inr (by simpa using known)
  · exact described.torn m (by simpa [Function.update_of_ne same] using torn)

theorem Facts.ends (facts : Facts t task sh (.acknowledging n [])) :
    Told t task sh.endTeardown .idle := by
  have described := facts.described
  have own : Knows t sh .idle := facts.own.onward (.inl rfl) rfl
  refine ⟨?_, own.same rfl, fun k ne => (facts.others k ne).same rfl⟩
  refine ⟨described.active, by simp [Shared.endTeardown], fun m there => ?_, described.torn,
    described.fresh, described.starts⟩
  rcases described.committed m there with active | ⟨_, closing⟩
  · exact .inl active
  · -- the session torn down is no longer committed
    obtain ⟨_, own⟩ := (facts.kept.2.1.tears n).mp rfl
    have known := facts.own.expects n _ rfl
    rw [← own, closing] at known
    change sh.descriptor m = .committed at there
    simp [there] at known

theorem Turn.expects (turn : Turn t sh pc pc') (facts : Facts t task sh pc) :
    Knows t sh pc' := by
  have started {n : Nat} (current : sh.isCurrent n = true) : sh.descriptor n = .committed := by
    simp only [Shared.isCurrent, Bool.and_eq_true, decide_eq_true_eq] at current
    exact facts.described.active n current.2
  cases turn with
  | @start parses main => cases parses <;> exact facts.own.onward (.inl rfl) rfl
  | checked current =>
      constructor
      · rintro m ds ⟨⟩
        simpa using started current
      · exact facts.own.keeps
  | resume current =>
      constructor
      · rintro m ds ⟨⟩
        simpa using started current
      · exact facts.own.keeps
  | stale | foreground => exact facts.own.onward (.inr rfl) rfl
  | _ => exact facts.own.onward (.inl rfl) rfl

theorem Leaves.expects (leaves : Leaves n pc pc') : pc'.expects = none ∧ pc'.keeps = pc.keeps := by
  cases leaves <;> exact ⟨rfl, rfl⟩

theorem Enters.expects (enters : Enters n pc pc') :
    (pc'.expects = none ∨ pc'.expects = pc.expects) ∧ pc'.keeps = pc.keeps := by
  cases enters with
  | teardown => exact ⟨.inr rfl, rfl⟩
  | _ => exact ⟨.inl rfl, rfl⟩

theorem sameDescriptors_register : SameDescriptors sh (sh.register t n).1 := by
  cases state : sh.stopAcknowledgements.descriptorState <;>
    simp [Shared.register, StopAcknowledgements.register, state] <;>
    exact ⟨rfl, rfl, rfl, rfl, rfl, rfl, rfl, rfl⟩

theorem Facts.registered (facts : Facts t task sh pc) :
    Facts t task (sh.register t n).1 pc := by
  have same := @sameDescriptors_register t sh n
  refine ⟨?_, ⟨facts.held.1.same rfl lock_register, fun k ne => ?_⟩, facts.described.same same,
    facts.own.same same.descriptor, fun k ne => (facts.others k ne).same same.descriptor⟩
  · exact ⟨facts.kept.1.same sameCore_register, facts.kept.2.1.same sameCore_register,
      fun k ne => (facts.kept.2.2 k ne).same sameCore_register⟩
  · exact (facts.held.2 k ne).same rfl lock_register

theorem Facts.drained {ok : Bool} {acknowledgements : StopAcknowledgements}
    {callbacks drained : List Callback} {place : Place} (facts : Facts t task sh (.draining n ok))
    (registered : sh' =
      { sh with stopAcknowledgements := acknowledgements }.book callbacks place) :
    Told t task sh' (.acknowledging n drained) := by
  subst registered
  refine ⟨facts.described.same ⟨rfl, rfl, rfl, rfl, rfl, rfl, rfl, rfl⟩, ?_,
    fun k ne => (facts.others k ne).same rfl⟩
  constructor
  · rintro m ds ⟨⟩
    have known := facts.own.expects n _ rfl
    cases ok <;> simp_all [Shared.book]
  · exact facts.own.keeps

theorem told_move (facts : Facts t task sh pc) (move : Move t sh pc sh' pc') :
    Told t task sh' pc' := by
  cases move with
  | turns turn => exact ⟨facts.described, turn.expects facts, facts.others⟩
  | begins empty still reset => exact facts.begins
  | establishes => exact facts.establishes
  | commits current still => exact facts.commits
  | queues plain idle =>
      refine facts.onward ⟨rfl, rfl, rfl, rfl, rfl, rfl, rfl, rfl⟩ (.inl rfl) ?_
      rcases idle with rfl | ⟨g, rfl⟩ <;> rfl
  | @discards g =>
      have established := facts.own.expects g _ rfl
      refine facts.discards rfl ?_ (by simp_all) (.inl rfl) ?_
      · rintro m ⟨⟩
        rfl
      · rintro n ds ⟨⟩
  | @discardFails g =>
      have established := facts.own.expects g _ rfl
      refine facts.discards rfl ?_ (by simp_all) (.inr rfl) ?_
      · rintro m ⟨⟩
        rfl
      · rintro n ds ⟨⟩
        simp
  | @discardsAgain g d closes =>
      have failed := facts.own.expects g _ rfl
      refine facts.discards rfl ?_ (by simp_all) closes ?_
      · rintro m ⟨⟩
      · rintro n ds ⟨⟩
  | stops on plain stops => exact facts.stops stops rfl
  | registers on stops => exact facts.registered.stops stops rfl
  | launches => exact facts.launches
  | @takes job jobs next plain =>
      refine facts.onward ⟨rfl, rfl, rfl, rfl, rfl, rfl, rfl, rfl⟩ ?_ ?_ <;> cases job with
      | teardown => cases plain
      | _ => first | exact .inl rfl | rfl
  | takesTeardown next => exact facts.takesTeardown next
  | enters enters free =>
      exact facts.onward ⟨rfl, rfl, rfl, rfl, rfl, rfl, rfl, rfl⟩ enters.expects.1 enters.expects.2
  | leaves leaves =>
      exact facts.onward ⟨rfl, rfl, rfl, rfl, rfl, rfl, rfl, rfl⟩ (.inl leaves.expects.1)
        leaves.expects.2
  | initializes after =>
      have own : Knows t sh pc' := by
        rcases after with rfl | rfl <;> exact facts.own.onward (.inl rfl) rfl
      refine ⟨(facts.startsEngine rfl).same ⟨rfl, rfl, rfl, rfl, rfl, rfl, rfl, rfl⟩,
        own.same rfl, fun k ne => (facts.others k ne).same rfl⟩
  | @resumes n =>
      have own : Knows t sh (.resumingReady n) := facts.own.onward (.inl rfl) rfl
      exact ⟨facts.startsEngine rfl, own.same rfl, fun k ne => (facts.others k ne).same rfl⟩
  | closes => exact facts.closes
  | tornDown => exact facts.tornDown
  | drains => exact facts.drained rfl
  | drops all => exact facts.drained rfl
  | ends => exact facts.ends
  | acknowledges => exact facts.onward ⟨rfl, rfl, rfl, rfl, rfl, rfl, rfl, rfl⟩ (.inr rfl) rfl
  | _ => exact facts.onward ⟨rfl, rfl, rfl, rfl, rfl, rfl, rfl, rfl⟩ (.inl rfl) rfl

/-- Both sides of the invariant in a reachable state, and the lock behind it. -/
theorem facts_of_reachable {ok : Config Thread Shared Pc → Thread × Action → Prop}
    {c : Config Thread Shared Pc} (reached : lifecycle.system.Reachable ok c) (t : Thread) :
    Facts t c.task c.shared (c.task t) := by
  have told : Described c.shared ∧ ∀ k, Knows k c.shared (c.task k) := by
    refine Tasks.system_invariant_of_reachable ?_ (fun k => ?_) ?_ reached
    · constructor <;> simp [lifecycle, Shared.created]
    · constructor <;> simp [lifecycle, Shared.created, Pc.expects, Pc.keeps]
    · intro c t a sh pc reached _ described knows taken
      obtain ⟨core, stands⟩ := core_of_reachable reached
      have held := holds_of_reachable reached
      exact told_move ⟨⟨core, stands t, fun k _ => stands k⟩, ⟨held t, fun k _ => held k⟩,
        described, knows t, fun k _ => knows k⟩ (move_of_step taken)
  obtain ⟨core, stands⟩ := core_of_reachable reached
  have held := holds_of_reachable reached
  exact ⟨⟨core, stands t, fun k _ => stands k⟩, ⟨held t, fun k _ => held k⟩, told.1, told.2 t,
    fun k _ => told.2 k⟩

end
end QuestVdWired.Android.Lifecycle
