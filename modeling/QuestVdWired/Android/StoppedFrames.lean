import QuestVdWired.Android.StopRequests

/-!
The callbacks that write STOPPED: where each registered callback is, and what became of its
session's descriptor by then.
-/

namespace QuestVdWired.Android.Lifecycle
open Transition

/-- A session with a supervisor was committed, and is active for as long as its generation is
current. -/
structure Publications (sh : Shared) : Prop where
  nonzero : ∀ n, sh.published n = true → n ≠ 0
  committed : ∀ n, sh.published n = true →
    sh.descriptor n ≠ .absent ∧ sh.descriptor n ≠ .established
  active : ∀ n, sh.published n = true → sh.generationGate.current = n → sh.active = some n

structure Frames (t : Thread) (sh : Shared) (pc : Pc) : Prop where
  prepares : ∀ g, pc.prepares = some g → sh.published g = false
  brings : ∀ n, pc.brings = some n → sh.published n = true

section
variable {t k : Thread} {sh sh' : Shared} {pc pc' : Pc} {task : Thread → Pc} {n g : Nat}

structure SamePublications (sh sh' : Shared) : Prop where
  published : sh'.published = sh.published
  descriptor : sh'.descriptor = sh.descriptor
  gate : sh'.generationGate.current = 0 ∨
    sh'.generationGate.current = sh.generationGate.current ∧ sh'.active = sh.active

theorem Publications.same (publications : Publications sh) (same : SamePublications sh sh') :
    Publications sh' := by
  obtain ⟨published, descriptor, gate⟩ := same
  constructor
  · rw [published]
    exact publications.nonzero
  · rw [published, descriptor]
    exact publications.committed
  · intro n there current
    rw [published] at there
    rcases gate with zero | ⟨same, active⟩
    · exact absurd (current.symm.trans zero) (publications.nonzero n there)
    · rw [active]
      exact publications.active n there (same ▸ current)

theorem Frames.onward (frames : Frames t sh pc) (published : sh'.published = sh.published)
    (prepares : pc'.prepares = none ∨ pc'.prepares = pc.prepares)
    (brings : pc'.brings = none ∨ pc'.brings = pc.brings) : Frames t sh' pc' := by
  constructor
  · intro g there
    rw [published]
    rcases prepares with nothing | same
    · rw [nothing] at there
      cases there
    · exact frames.prepares g (same ▸ there)
  · intro n there
    rw [published]
    rcases brings with nothing | same
    · rw [nothing] at there
      cases there
    · exact frames.brings n (same ▸ there)

/-- What a step owes the publications. -/
def Read (t : Thread) (task : Thread → Pc) (sh : Shared) (pc : Pc) : Prop :=
  Publications sh ∧ Frames t sh pc ∧ ∀ k, k ≠ t → Frames k sh (task k)

theorem Read.onward (read : Read t task sh pc) (same : SamePublications sh sh')
    (prepares : pc'.prepares = none ∨ pc'.prepares = pc.prepares)
    (brings : pc'.brings = none ∨ pc'.brings = pc.brings) : Read t task sh' pc' :=
  ⟨read.1.same same, read.2.1.onward same.published prepares brings,
    fun k ne => (read.2.2 k ne).onward same.published (.inr rfl) (.inr rfl)⟩

/-- `startVpn` works on a descriptor whose session has no supervisor. -/
theorem Read.describes {d : Descriptor} (read : Read t task sh pc) (prepares : pc.prepares = some g)
    (onward : pc'.prepares = none ∨ pc'.prepares = pc.prepares) (brings : pc'.brings = none) :
    Read t task (sh.describe g d) pc' := by
  have unpublished := read.2.1.prepares g prepares
  refine ⟨?_, read.2.1.onward rfl onward (.inl brings),
    fun k ne => (read.2.2 k ne).onward rfl (.inr rfl) (.inr rfl)⟩
  refine ⟨read.1.nonzero, fun n there => ?_, read.1.active⟩
  have other : n ≠ g := by
    rintro rfl
    simp [Shared.describe, unpublished] at there
  simpa [Shared.describe, other] using read.1.committed n there

theorem Read.stops {expected close : Option Nat} {callback : Option Callback} (core : Core sh)
    (read : Read t task sh pc) (stops : Stops t sh expected sh' close) :
    Read t task sh' (.stopped callback close) := by
  cases stops with
  | busy closing => exact read.onward ⟨rfl, rfl, .inr ⟨rfl, rfl⟩⟩ (.inl rfl) (.inl rfl)
  | empty empty still =>
      refine read.onward ⟨rfl, rfl, ?_⟩ (.inl rfl) (.inl rfl)
      exact invalidated_current.imp id fun same => ⟨same, rfl⟩
  | @closes n active still =>
      exact read.onward ⟨rfl, rfl, .inl (invalidate_of_current (core.active n active).1)⟩
        (.inl rfl) (.inl rfl)

theorem published_register : (sh.register t n).1.published = sh.published := by
  cases state : sh.stopAcknowledgements.descriptorState <;>
    simp [Shared.register, StopAcknowledgements.register, state, Shared.book]

theorem Read.begins {acknowledgements : StopAcknowledgements} (facts : Facts t task sh .beginning)
    (read : Read t task sh .beginning) :
    Read t task
      { sh with
        stopAcknowledgements := acknowledgements
        generationGate := sh.generationGate.begin }
      (.foreground (sh.generationGate.sequence + 1)) := by
  have unpublished : sh.published (sh.generationGate.sequence + 1) = false := by
    cases there : sh.published (sh.generationGate.sequence + 1) with
    | false => rfl
    | true =>
        exact absurd (facts.described.fresh _ (Nat.lt_succ_self _)) (read.1.committed _ there).1
  refine ⟨⟨read.1.nonzero, read.1.committed, ?_⟩, ?_,
    fun k ne => (read.2.2 k ne).onward rfl (.inr rfl) (.inr rfl)⟩
  · rintro n there rfl
    change sh.published (sh.generationGate.sequence + 1) = true at there
    simp [unpublished] at there
  · constructor
    · rintro g ⟨⟩
      exact unpublished
    · rintro n ⟨⟩

theorem Read.commits (read : Read t task sh (.committing g))
    (current : sh.generationGate.isCurrent g = true) :
    Read t task { sh.describe g .committed with active := some g, vpnDescriptorOpen := true }
      (.launching g) := by
  obtain ⟨publications, own, others⟩ :=
    @Read.describes _ _ _ (.launching g) _ _ .committed read rfl (.inl rfl) rfl
  refine ⟨⟨publications.nonzero, publications.committed, ?_⟩, own.onward rfl (.inl rfl) (.inl rfl),
    fun k ne => (others k ne).onward rfl (.inr rfl) (.inr rfl)⟩
  intro n _ there
  have same : sh.generationGate.current = g := by
    simp only [GenerationGate.isCurrent, Bool.and_eq_true, decide_eq_true_eq] at current
    exact current.2
  exact congrArg some (same.symm.trans there)

theorem Read.publishes (facts : Facts t task sh (.publishing n))
    (read : Read t task sh (.publishing n)) (current : sh.isCurrent n = true) :
    Read t task { sh with published := Function.update sh.published n true } .idle := by
  obtain ⟨⟨nonzero, _⟩, active⟩ :
      (n ≠ 0 ∧ sh.generationGate.current = n) ∧ sh.active = some n := by
    simpa [Shared.isCurrent, GenerationGate.isCurrent] using current
  have committed := facts.described.active n active
  refine ⟨⟨?_, ?_, ?_⟩, ⟨by simp [Pc.prepares], by simp [Pc.brings]⟩, fun k ne => ⟨?_, ?_⟩⟩
  · intro m there
    by_cases same : m = n
    · rw [same]
      exact nonzero
    · exact read.1.nonzero m (by simpa [same] using there)
  · intro m there
    by_cases same : m = n
    · subst same
      simp [committed]
    · exact read.1.committed m (by simpa [same] using there)
  · intro m there now
    by_cases same : m = n
    · subst same
      exact active
    · exact read.1.active m (by simpa [same] using there) now
  · intro g prepares
    have empty := ((facts.kept.2.2 k ne).prepares g prepares).1
    simp [active] at empty
  · intro m brings
    have there := (read.2.2 k ne).brings m brings
    by_cases same : m = n
    · subst same
      simp
    · simpa [same] using there

theorem Turn.reads (turn : Turn t sh pc pc') (read : Read t task sh pc) : Frames t sh pc' := by
  have own := read.2.1
  cases turn with
  | @start parses => cases parses <;> exact own.onward rfl (.inl rfl) (.inl rfl)
  | frame _ published =>
      refine ⟨by simp [Pc.prepares], ?_⟩
      rintro m ⟨⟩
      exact published
  | foreground => exact own.onward rfl (.inr rfl) (.inl rfl)
  | stale => exact own.onward rfl (.inr rfl) (.inl rfl)
  | _ => exact own.onward rfl (.inl rfl) (.inl rfl)

theorem read_move (facts : Facts t task sh pc) (read : Read t task sh pc)
    (move : Move t sh pc sh' pc') : Read t task sh' pc' := by
  cases move with
  | turns turn => exact ⟨read.1, turn.reads read, read.2.2⟩
  | begins empty still reset => exact read.begins facts
  | establishes => exact read.describes rfl (.inr rfl) rfl
  | commits current still => exact read.commits current
  | discards => exact read.describes rfl (.inl rfl) rfl
  | discardFails => exact read.describes rfl (.inr rfl) rfl
  | discardsAgain closes => exact read.describes rfl (.inl rfl) rfl
  | stops on plain stops => exact read.stops facts.kept.1 stops
  | @registers n _ _ on stops =>
      have core := @sameCore_register t sh n
      have registered : Read t task (sh.register t n).1 (.stopping (some n) true) := by
        refine read.onward ⟨published_register, sameDescriptors_register.descriptor, ?_⟩
          (.inr rfl) (.inr rfl)
        exact .inr ⟨congrArg _ core.gate, core.active⟩
      exact registered.stops (facts.kept.1.same core) stops
  | @takes job jobs next plain =>
      refine read.onward ⟨rfl, rfl, .inr ⟨rfl, rfl⟩⟩ ?_ ?_ <;> cases job <;> exact .inl rfl
  | enters enters free =>
      refine read.onward ⟨rfl, rfl, .inr ⟨rfl, rfl⟩⟩ ?_ ?_ <;> cases enters <;> exact .inl rfl
  | leaves leaves =>
      refine read.onward ⟨rfl, rfl, .inr ⟨rfl, rfl⟩⟩ ?_ ?_ <;> cases leaves <;> exact .inl rfl
  | initializes after =>
      refine read.onward ⟨rfl, rfl, .inr ⟨rfl, rfl⟩⟩ ?_ ?_ <;>
        rcases after with rfl | rfl <;> exact .inl rfl
  | publishes current => exact read.publishes facts current
  | @closes n ok =>
      have committed : sh.descriptor n = .committed := by
        simpa using facts.own.expects n _ rfl
      refine ⟨⟨read.1.nonzero, fun m there => ?_, read.1.active⟩,
        read.2.1.onward rfl (.inl rfl) (.inl rfl),
        fun k ne => (read.2.2 k ne).onward rfl (.inr rfl) (.inr rfl)⟩
      by_cases same : m = n
      · subst same
        cases ok <;> simp [Shared.describe]
      · simpa [Shared.describe, same] using read.1.committed m there
  | _ => exact read.onward ⟨rfl, rfl, .inr ⟨rfl, rfl⟩⟩ (.inl rfl) (.inl rfl)

end

theorem read_of_reachable {ok : Config Thread Shared Pc → Thread × Action → Prop}
    {c : Config Thread Shared Pc} (reached : lifecycle.system.Reachable ok c) :
    Publications c.shared ∧ ∀ k, Frames k c.shared (c.task k) := by
  refine Tasks.system_invariant_of_reachable ?_ (fun k => ?_) ?_ reached
  · constructor <;> simp [lifecycle, Shared.created]
  · constructor <;> simp [lifecycle, Pc.prepares, Pc.brings]
  · intro c t a sh pc reached _ publications frames taken
    exact read_move (facts_of_reachable reached t) ⟨publications, frames t, fun k _ => frames k⟩
      (move_of_step taken)

/-- What became of the session's descriptor when a callback is there. -/
def Place.due : Place → Option Descriptor
  | .waiting => none
  | .hand _ | .ran => some .closed
  | .refused => some .failed

/-- Whether the waiters still wait for the descriptor, where the thread can tell. -/
def Pc.awaits : Pc → Option Bool
  | .foreground _ | .establishing _ | .committing _ | .discarding _ | .discardingAgain _
  | .tearing _ | .closing _ | .leaving _ _ | .draining _ _ => some true
  | .acknowledging _ _ => some false
  | _ => none

structure Booked (sh : Shared) : Prop where
  opened : ∀ n, sh.active = some n → sh.stopAcknowledgements.descriptorState = .opened
  undrained : sh.teardownInProgress = true → (∀ t, sh.duty ≠ .running t) →
    sh.stopAcknowledgements.descriptorState = .opened
  closed : sh.teardownInProgress = true → sh.stopAcknowledgements.descriptorState = .closed →
    sh.descriptor sh.closingGeneration = .closed
  failed : sh.teardownInProgress = true → sh.stopAcknowledgements.descriptorState = .failed →
    sh.descriptor sh.closingGeneration = .failed
  waiters : ∀ w ∈ sh.stopAcknowledgements.waiters,
    sh.stopAcknowledgements.descriptorState = .opened ∧
      (sh.active = some w.session ∨ sh.teardownInProgress = true ∧ sh.closingGeneration = w.session)
  nodup : sh.stopAcknowledgements.waiters.Nodup
  waiting : ∀ w, sh.ledger w = some .waiting ↔ w ∈ sh.stopAcknowledgements.waiters
  issued : ∀ w p, sh.ledger w = some p → w.id < sh.callbacks ∧ sh.published w.session = true
  settled : ∀ w p d, sh.ledger w = some p → p.due = some d → sh.descriptor w.session = d
  counted : ∀ w, sh.ran.count w = if sh.ledger w = some .ran then 1 else 0

structure Bears (t : Thread) (sh : Shared) (pc : Pc) : Prop where
  hand : ∀ w, w ∈ pc.hand ↔ sh.ledger w = some (.hand t)
  nodup : pc.hand.Nodup
  awaits : ∀ b, pc.awaits = some b →
    (sh.stopAcknowledgements.descriptorState = .opened ↔ b = true)

section
variable {t k : Thread} {sh sh' : Shared} {pc pc' : Pc} {task : Thread → Pc} {n g : Nat}

/-- What a step owes the books. -/
def Balanced (t : Thread) (task : Thread → Pc) (sh : Shared) (pc : Pc) : Prop :=
  Booked sh ∧ Bears t sh pc ∧ ∀ k, k ≠ t → Bears k sh (task k)

structure SameBooks (sh sh' : Shared) : Prop where
  acknowledgements : sh'.stopAcknowledgements = sh.stopAcknowledgements
  ledger : sh'.ledger = sh.ledger
  callbacks : sh'.callbacks = sh.callbacks
  ran : sh'.ran = sh.ran

/-- The sessions are where they were, as far as the books can tell. -/
structure SameSessions (sh sh' : Shared) : Prop where
  active : sh'.active = sh.active
  teardown : sh'.teardownInProgress = sh.teardownInProgress
  closing : sh'.closingGeneration = sh.closingGeneration
  descriptor : sh'.descriptor = sh.descriptor
  published : ∀ n, sh.published n = true → sh'.published n = true
  running : (∀ t, sh'.duty ≠ .running t) → ∀ t, sh.duty ≠ .running t

theorem Booked.same (booked : Booked sh) (books : SameBooks sh sh') (same : SameSessions sh sh') :
    Booked sh' := by
  obtain ⟨acknowledgements, ledger, callbacks, ran⟩ := books
  obtain ⟨active, teardown, closing, descriptor, published, running⟩ := same
  constructor
  · rw [active, acknowledgements]
    exact booked.opened
  · rw [teardown, acknowledgements]
    exact fun busy idle => booked.undrained busy (running idle)
  · rw [teardown, acknowledgements, closing, descriptor]
    exact booked.closed
  · rw [teardown, acknowledgements, closing, descriptor]
    exact booked.failed
  · rw [acknowledgements, active, teardown, closing]
    exact booked.waiters
  · rw [acknowledgements]
    exact booked.nodup
  · rw [ledger, acknowledgements]
    exact booked.waiting
  · rw [ledger, callbacks]
    intro w p there
    exact ⟨(booked.issued w p there).1, published _ (booked.issued w p there).2⟩
  · rw [ledger, descriptor]
    exact booked.settled
  · rw [ran, ledger]
    exact booked.counted

theorem Bears.same (bears : Bears t sh pc) (books : SameBooks sh sh') : Bears t sh' pc := by
  constructor
  · rw [books.ledger]
    exact bears.hand
  · exact bears.nodup
  · rw [books.acknowledgements]
    exact bears.awaits

theorem Bears.onward (bears : Bears t sh pc) (hand : pc'.hand = pc.hand)
    (awaits : pc'.awaits = none ∨ pc'.awaits = pc.awaits) : Bears t sh pc' := by
  constructor
  · rw [hand]
    exact bears.hand
  · rw [hand]
    exact bears.nodup
  · intro b there
    rcases awaits with nothing | same
    · rw [nothing] at there
      cases there
    · exact bears.awaits b (same ▸ there)

theorem Balanced.onward (balanced : Balanced t task sh pc) (books : SameBooks sh sh')
    (same : SameSessions sh sh') (hand : pc'.hand = pc.hand)
    (awaits : pc'.awaits = none ∨ pc'.awaits = pc.awaits) : Balanced t task sh' pc' :=
  ⟨balanced.1.same books same, (balanced.2.1.onward hand awaits).same books,
    fun k ne => (balanced.2.2 k ne).same books⟩

/-- A descriptor changes on which nothing in the books rests. -/
theorem Booked.describe {d : Descriptor} (booked : Booked sh)
    (unbooked : ∀ w p e, sh.ledger w = some p → p.due = some e → w.session ≠ n)
    (elsewhere : sh.teardownInProgress = true →
      sh.stopAcknowledgements.descriptorState ≠ .opened → sh.closingGeneration ≠ n) :
    Booked (sh.describe n d) := by
  refine ⟨booked.opened, booked.undrained, ?_, ?_, booked.waiters, booked.nodup, booked.waiting,
    booked.issued, ?_, booked.counted⟩
  · intro busy closed
    have unopened : sh.stopAcknowledgements.descriptorState ≠ .opened := by
      simp [show sh.stopAcknowledgements.descriptorState = .closed from closed]
    have other := elsewhere busy unopened
    simpa [Shared.describe, other] using booked.closed busy closed
  · intro busy failed
    have unopened : sh.stopAcknowledgements.descriptorState ≠ .opened := by
      simp [show sh.stopAcknowledgements.descriptorState = .failed from failed]
    have other := elsewhere busy unopened
    simpa [Shared.describe, other] using booked.failed busy failed
  · intro w p e there due
    have other := unbooked w p e there due
    simpa [Shared.describe, other] using booked.settled w p e there due

/-- `startVpn` works on a descriptor no callback is about. -/
theorem Balanced.describes {d : Descriptor} (facts : Facts t task sh pc)
    (read : Read t task sh pc) (balanced : Balanced t task sh pc) (prepares : pc.prepares = some g)
    (hand : pc'.hand = pc.hand) (awaits : pc'.awaits = none ∨ pc'.awaits = pc.awaits) :
    Balanced t task (sh.describe g d) pc' := by
  have books : SameBooks sh (sh.describe g d) := ⟨rfl, rfl, rfl, rfl⟩
  refine ⟨balanced.1.describe ?_ ?_, (balanced.2.1.onward hand awaits).same books,
    fun k ne => (balanced.2.2 k ne).same books⟩
  · rintro w p e there _ rfl
    have published := (balanced.1.issued w p there).2
    simp [read.2.1.prepares _ prepares] at published
  · intro busy
    simp [(facts.kept.2.1.prepares g prepares).2.1] at busy

theorem Balanced.commits (facts : Facts t task sh (.committing g))
    (read : Read t task sh (.committing g)) (balanced : Balanced t task sh (.committing g)) :
    Balanced t task { sh.describe g .committed with active := some g, vpnDescriptorOpen := true }
      (.launching g) := by
  obtain ⟨empty, still, _⟩ := facts.kept.2.1.prepares g rfl
  have opened := (balanced.2.1.awaits true rfl).mpr rfl
  obtain ⟨booked, own, others⟩ :=
    @Balanced.describes _ _ _ (.launching g) _ _ .committed facts read balanced rfl rfl (.inl rfl)
  refine ⟨?_, own.same ⟨rfl, rfl, rfl, rfl⟩, fun k ne => (others k ne).same ⟨rfl, rfl, rfl, rfl⟩⟩
  refine ⟨fun _ _ => opened, booked.undrained, booked.closed, booked.failed, ?_, booked.nodup,
    booked.waiting, booked.issued, booked.settled, booked.counted⟩
  intro w there
  have before := (balanced.1.waiters w there).2
  simp [empty, still] at before

/-- No other thread can tell how the waiters stand when a start resets them or the teardown
drains them. -/
theorem Facts.unaware (facts : Facts t task sh pc)
    (drains : pc = .beginning ∧ sh.active = none ∧ sh.teardownInProgress = false ∨
      pc.tears = some n) (ne : k ≠ t) : (task k).awaits = none := by
  have stands := facts.kept.2.2 k ne
  have split : (task k).awaits = none ∨ (∃ g, (task k).prepares = some g) ∨
      ∃ m, (task k).tears = some m := by
    cases task k <;> simp [Pc.awaits, Pc.prepares, Pc.tears]
  rcases split with nothing | ⟨g, prepares⟩ | ⟨m, tears⟩
  · exact nothing
  · rcases drains with ⟨rfl, _⟩ | running
    · have alone := facts.kept.alone rfl ne
      simp [prepares_starts prepares] at alone
    · have still := (stands.prepares g prepares).2.1
      have duty := ((facts.kept.2.1.tears n).mp running).1
      simp [facts.kept.1.nobody still] at duty
  · have other := ((stands.tears m).mp tears).1
    rcases drains with ⟨_, _, still⟩ | running
    · simp [facts.kept.1.nobody still] at other
    · rw [((facts.kept.2.1.tears n).mp running).1] at other
      exact absurd (Duty.running.inj other).symm ne

theorem Balanced.begins {acknowledgements : StopAcknowledgements}
    (facts : Facts t task sh .beginning) (balanced : Balanced t task sh .beginning)
    (empty : sh.active = none) (still : sh.teardownInProgress = false)
    (reset : sh.stopAcknowledgements.reset = some acknowledgements) :
    Balanced t task
      { sh with
        stopAcknowledgements := acknowledgements
        generationGate := sh.generationGate.begin }
      (.foreground (sh.generationGate.sequence + 1)) := by
  obtain ⟨booked, own, others⟩ := balanced
  obtain ⟨none, rfl⟩ : sh.stopAcknowledgements.waiters = [] ∧
      { sh.stopAcknowledgements with descriptorState := .opened } = acknowledgements := by
    simpa [StopAcknowledgements.reset] using reset
  refine ⟨?_, ?_, fun k ne => ?_⟩
  · refine ⟨by simp [empty], by simp [still], by simp [still], by simp [still], by simp [none],
      booked.nodup, booked.waiting, booked.issued, booked.settled, booked.counted⟩
  · exact ⟨own.hand, own.nodup, by rintro b ⟨⟩; simp⟩
  · have unaware := facts.unaware (n := 0) (.inl ⟨rfl, empty, still⟩) ne
    exact ⟨(others k ne).hand, (others k ne).nodup, by simp [unaware]⟩

theorem Balanced.stops {expected close : Option Nat} {callback : Option Callback}
    (balanced : Balanced t task sh (.stopped callback none))
    (stops : Stops t sh expected sh' close) : Balanced t task sh' (.stopped callback close) := by
  cases stops with
  | busy closing =>
      exact balanced.onward ⟨rfl, rfl, rfl, rfl⟩ ⟨rfl, rfl, rfl, rfl, fun _ => id, id⟩ rfl
        (.inl rfl)
  | empty empty still =>
      exact balanced.onward ⟨rfl, rfl, rfl, rfl⟩ ⟨rfl, rfl, rfl, rfl, fun _ => id, id⟩ rfl
        (.inl rfl)
  | @closes n active still =>
      obtain ⟨booked, own, others⟩ := balanced
      have books : SameBooks sh
          { sh with
            stoppedUpTo := sh.counted expected
            active := none
            generationGate := sh.generationGate.invalidate n
            teardownInProgress := true
            closingGeneration := n
            duty := .launching t } := ⟨rfl, rfl, rfl, rfl⟩
      refine ⟨?_, (own.onward ?_ (.inl rfl)).same books,
        fun k ne => (others k ne).same books⟩
      · have opened := booked.opened n active
        refine ⟨by simp, fun _ _ => opened, ?_, ?_, ?_, booked.nodup, booked.waiting, booked.issued,
          booked.settled, booked.counted⟩
        · simp [opened]
        · simp [opened]
        · intro w there
          have before := (booked.waiters w there).2
          simp only [active, still, Option.some.injEq] at before
          exact ⟨opened, .inr ⟨rfl, by simpa using before⟩⟩
      · cases callback <;> rfl

/-- The session a STOP frame names is active or being torn down. -/
theorem Publications.named (publications : Publications sh) (published : sh.published n = true)
    (on : sh.targets (some n) = true) :
    sh.active = some n ∨ sh.teardownInProgress = true ∧ sh.closingGeneration = n := by
  simp only [Shared.targets, stopTargetsGeneration, Shared.expectedIsCurrent,
    GenerationGate.isCurrent, Bool.or_eq_true, Bool.and_eq_true, decide_eq_true_eq,
    Option.some.injEq, reduceCtorEq, false_or] at on
  rcases on with (⟨_, current⟩ | active) | closing
  · exact .inl (publications.active n published current)
  · exact .inl active
  · exact .inr closing

theorem Booked.unknown {w : Callback} (booked : Booked sh) (fresh : w.id = sh.callbacks)
    (p : Place) : sh.ledger w ≠ some p := by
  intro there
  have := (booked.issued w p there).1
  omega

section Entered
variable {w v : Callback} {place p : Place} {d : Descriptor}

theorem Booked.issued_book (booked : Booked sh) (fresh : w.id = sh.callbacks)
    (published : sh.published w.session = true)
    (there : (sh.book [w] place).ledger v = some p) :
    v.id < sh.callbacks + 1 ∧ sh.published v.session = true := by
  by_cases same : v = w
  · subst same
    exact ⟨by omega, published⟩
  · obtain ⟨before, session⟩ := booked.issued v p (by simpa [Shared.book, same] using there)
    exact ⟨Nat.lt_succ_of_lt before, session⟩

theorem Booked.settled_book (booked : Booked sh)
    (due : ∀ d, place.due = some d → sh.descriptor w.session = d)
    (there : (sh.book [w] place).ledger v = some p) (owed : p.due = some d) :
    sh.descriptor v.session = d := by
  by_cases same : v = w
  · subst same
    obtain rfl : place = p := by simpa [Shared.book] using there
    exact due d owed
  · exact booked.settled v p d (by simpa [Shared.book, same] using there) owed

theorem Booked.counted_book (booked : Booked sh) (fresh : w.id = sh.callbacks)
    (unrun : place ≠ .ran) (v : Callback) :
    sh.ran.count v = if (sh.book [w] place).ledger v = some .ran then 1 else 0 := by
  by_cases same : v = w
  · subst same
    simpa [Shared.book, unrun, booked.unknown fresh] using booked.counted v
  · simpa [Shared.book, same] using booked.counted v

end Entered

/-- A callback that was not in the books is entered. -/
theorem Booked.enters {w : Callback} {place : Place} (booked : Booked sh)
    (fresh : w.id = sh.callbacks) (published : sh.published w.session = true)
    (place' : place ≠ .waiting ∧ place ≠ .ran)
    (due : ∀ d, place.due = some d → sh.descriptor w.session = d) :
    Booked ({ sh with callbacks := sh.callbacks + 1 }.book [w] place) := by
  have unknown := booked.unknown fresh
  refine ⟨booked.opened, booked.undrained, booked.closed, booked.failed, booked.waiters,
    booked.nodup, ?_, ?_, ?_, ?_⟩
  · intro v
    by_cases same : v = w
    · subst same
      have away : v ∉ sh.stopAcknowledgements.waiters :=
        fun there => unknown _ ((booked.waiting v).mpr there)
      simp [Shared.book, place'.1, away]
    · simpa [Shared.book, same] using booked.waiting v
  · exact fun v p there => booked.issued_book fresh published there
  · exact fun v p d there owed => booked.settled_book due there owed
  · exact booked.counted_book fresh place'.2

/-- A callback joins the waiters. -/
theorem Booked.queues {w : Callback} (booked : Booked sh) (fresh : w.id = sh.callbacks)
    (published : sh.published w.session = true)
    (session : sh.active = some w.session ∨
      sh.teardownInProgress = true ∧ sh.closingGeneration = w.session) :
    Booked
      ({ sh with
        callbacks := sh.callbacks + 1
        stopAcknowledgements := ⟨.opened, sh.stopAcknowledgements.waiters ++ [w]⟩ }.book [w]
          .waiting) := by
  have unknown := booked.unknown fresh
  have away : w ∉ sh.stopAcknowledgements.waiters :=
    fun there => unknown _ ((booked.waiting w).mpr there)
  refine ⟨fun _ _ => rfl, fun _ _ => rfl, fun _ => nofun, fun _ => nofun, ?_, ?_, ?_, ?_, ?_, ?_⟩
  · intro v there
    simp only [Shared.book, List.mem_append, List.mem_singleton] at there
    rcases there with before | rfl
    · exact ⟨rfl, (booked.waiters v before).2⟩
    · exact ⟨rfl, session⟩
  · refine List.nodup_append.mpr ⟨booked.nodup, by simp, ?_⟩
    intro v there u last
    obtain rfl := List.mem_singleton.mp last
    exact fun same => away (same ▸ there)
  · intro v
    by_cases same : v = w
    · simp [Shared.book, same]
    · simpa [Shared.book, same] using booked.waiting v
  · exact fun v p there => booked.issued_book fresh published there
  · have idle : ∀ d, Place.waiting.due = some d → sh.descriptor w.session = d := by
      intro d owes
      cases owes
    exact fun v p d there owed => booked.settled_book idle there owed
  · exact booked.counted_book fresh (by simp)

/-- What is entered for one thread is in no other's hand. -/
theorem Bears.enters {w : Callback} {place : Place} (bears : Bears k sh pc)
    (unknown : ∀ p, sh.ledger w ≠ some p) (elsewhere : place ≠ .hand k)
    (ledger : sh'.ledger = fun v => if v ∈ [w] then some place else sh.ledger v)
    (state : sh'.stopAcknowledgements.descriptorState =
      sh.stopAcknowledgements.descriptorState) : Bears k sh' pc := by
  refine ⟨fun v => ?_, bears.nodup, ?_⟩
  · rw [ledger, bears.hand]
    by_cases same : v = w
    · subst same
      simp [unknown, elsewhere]
    · simp [same]
  · rw [state]
    exact bears.awaits

theorem Balanced.registers (read : Read t task sh (.stopping (some n) true))
    (balanced : Balanced t task sh (.stopping (some n) true)) (on : sh.targets (some n) = true) :
    Balanced t task (sh.register t n).1 (.stopped (sh.register t n).2 none) := by
  obtain ⟨booked, own, others⟩ := balanced
  have published := read.2.1.brings n rfl
  have session := read.1.named published on
  have unknown := booked.unknown (w := ⟨n, sh.callbacks⟩) rfl
  have idle : Bears t sh (.stopped none none) := own.onward rfl (.inl rfl)
  -- after the drain the session is the one being torn down
  have closing (drained : sh.stopAcknowledgements.descriptorState ≠ .opened) :
      sh.teardownInProgress = true ∧ sh.closingGeneration = n := by
    rcases session with active | closing
    · exact absurd (booked.opened n active) drained
    · exact closing
  cases state : sh.stopAcknowledgements.descriptorState with
  | opened =>
      simp only [Shared.register, StopAcknowledgements.register, state]
      exact ⟨booked.queues (w := ⟨n, sh.callbacks⟩) rfl published session,
        idle.enters unknown (by simp) rfl state.symm,
        fun k ne => (others k ne).enters unknown (by simp) rfl state.symm⟩
  | failed =>
      simp only [Shared.register, StopAcknowledgements.register, state]
      obtain ⟨busy, rfl⟩ := closing (by simp [state])
      refine ⟨booked.enters rfl published (by simp) ?_, idle.enters unknown (by simp) rfl rfl,
        fun k ne => (others k ne).enters unknown (by simp) rfl rfl⟩
      rintro d ⟨⟩
      exact booked.failed busy state
  | closed =>
      simp only [Shared.register, StopAcknowledgements.register, state]
      obtain ⟨busy, rfl⟩ := closing (by simp [state])
      refine ⟨booked.enters rfl published (by simp) ?_, ⟨fun v => ?_, by simp [Pc.hand], ?_⟩,
        fun k ne => (others k ne).enters unknown (by simpa using ne.symm) rfl rfl⟩
      · rintro d ⟨⟩
        exact booked.closed busy state
      · have empty := idle.hand v
        by_cases same : v = ⟨sh.closingGeneration, sh.callbacks⟩
        · simp [Pc.hand, Shared.book, same]
        · simp only [Pc.hand, List.mem_singleton, same, false_iff, Shared.book, if_false]
          simpa [Pc.hand] using empty
      · rintro b ⟨⟩

theorem Booked.runs {w : Callback} (booked : Booked sh) (held : sh.ledger w = some (.hand t)) :
    Booked (sh.run w) := by
  refine ⟨booked.opened, booked.undrained, booked.closed, booked.failed, booked.waiters,
    booked.nodup, ?_, ?_, ?_, ?_⟩
  · intro v
    by_cases same : v = w
    · subst same
      have away := booked.waiting v
      simp only [held, Option.some.injEq, reduceCtorEq, false_iff] at away
      simp [Shared.run, Shared.book, away]
    · simpa [Shared.run, Shared.book, same] using booked.waiting v
  · intro v p there
    by_cases same : v = w
    · subst same
      exact booked.issued v _ held
    · exact booked.issued v p (by simpa [Shared.run, Shared.book, same] using there)
  · intro v p d there owed
    by_cases same : v = w
    · subst same
      obtain rfl : Place.ran = p := by simpa [Shared.run, Shared.book] using there
      exact booked.settled v _ d held owed
    · exact booked.settled v p d (by simpa [Shared.run, Shared.book, same] using there) owed
  · intro v
    by_cases same : v = w
    · subst same
      simpa [Shared.run, Shared.book, held] using booked.counted v
    · simpa [Shared.run, Shared.book, same, List.count_singleton, Ne.symm same] using
        booked.counted v

/-- The first of the callbacks in a thread's hand is run. -/
theorem Balanced.runs {w : Callback} {rest : List Callback} (balanced : Balanced t task sh pc)
    (hand : pc.hand = w :: rest) (hand' : pc'.hand = rest)
    (awaits : pc'.awaits = none ∨ pc'.awaits = pc.awaits) : Balanced t task (sh.run w) pc' := by
  obtain ⟨booked, own, others⟩ := balanced
  have held : sh.ledger w = some (.hand t) := (own.hand w).mp (by simp [hand])
  obtain ⟨once, nodup⟩ : w ∉ rest ∧ rest.Nodup := by
    simpa [hand] using own.nodup
  refine ⟨booked.runs held, ⟨fun v => ?_, hand' ▸ nodup, fun b there => ?_⟩,
    fun k ne => ⟨fun v => ?_, (others k ne).nodup, (others k ne).awaits⟩⟩
  · rw [hand']
    by_cases same : v = w
    · subst same
      simp [Shared.run, Shared.book, once]
    · have before := own.hand v
      simpa [Shared.run, Shared.book, same, hand] using before
  · rcases awaits with nothing | same
    · rw [nothing] at there
      cases there
    · exact own.awaits b (same ▸ there)
  · rw [(others k ne).hand]
    by_cases same : v = w
    · subst same
      simp [Shared.run, Shared.book, held, ne.symm]
    · simp [Shared.run, Shared.book, same]

theorem Balanced.closes {ok : Bool} (facts : Facts t task sh (.closing n))
    (balanced : Balanced t task sh (.closing n)) :
    Balanced t task
      { sh.describe n (if ok then .closed else .failed) with vpnDescriptorOpen := !ok }
      (.leaving n ok) := by
  have committed : sh.descriptor n = .committed := by
    simpa using facts.own.expects n _ rfl
  have opened := (balanced.2.1.awaits true rfl).mpr rfl
  obtain ⟨booked, own, others⟩ := balanced
  have described : Booked (sh.describe n (if ok then .closed else .failed)) := by
    refine booked.describe ?_ (fun _ drained => absurd opened drained)
    rintro w p d there due rfl
    have settled := booked.settled w p d there due
    rw [committed] at settled
    subst settled
    cases p <;> cases due
  have bears : Bears t sh (.leaving n ok) := own.onward rfl (.inr rfl)
  exact ⟨described.same ⟨rfl, rfl, rfl, rfl⟩ ⟨rfl, rfl, rfl, rfl, fun _ => id, id⟩,
    bears.same ⟨rfl, rfl, rfl, rfl⟩, fun k ne => (others k ne).same ⟨rfl, rfl, rfl, rfl⟩⟩

theorem Balanced.takesTeardown {jobs : List Job} (facts : Facts t task sh .idle)
    (balanced : Balanced t task sh .idle) (next : sh.jobs = .teardown n :: jobs) :
    Balanced t task { sh with jobs := jobs, duty := .running t } (.tearing n) := by
  obtain ⟨booked, own, others⟩ := balanced
  have queue := facts.kept.1.queue
  rw [next, List.filter_cons_of_pos rfl] at queue
  have queued : sh.duty = .queued := by
    by_contra other
    simp [other] at queue
  have busy := facts.kept.1.busy.mpr (by simp [queued])
  have opened := booked.undrained busy (by simp [queued])
  refine ⟨⟨booked.opened, fun _ other => absurd rfl (other t), booked.closed, booked.failed,
    booked.waiters, booked.nodup, booked.waiting, booked.issued, booked.settled, booked.counted⟩,
    ⟨own.hand, own.nodup, ?_⟩, fun k ne => (others k ne).same ⟨rfl, rfl, rfl, rfl⟩⟩
  rintro b ⟨⟩
  simp [opened]

theorem Balanced.ends (balanced : Balanced t task sh (.acknowledging n [])) :
    Balanced t task sh.endTeardown .idle := by
  obtain ⟨booked, own, others⟩ := balanced
  have drained : sh.stopAcknowledgements.descriptorState ≠ .opened := by
    have := own.awaits false rfl
    simpa using this
  have idle : Bears t sh .idle := own.onward rfl (.inl rfl)
  refine ⟨⟨booked.opened, by simp [Shared.endTeardown], by simp [Shared.endTeardown],
    by simp [Shared.endTeardown], ?_, booked.nodup, booked.waiting, booked.issued, booked.settled,
    booked.counted⟩, idle.same ⟨rfl, rfl, rfl, rfl⟩,
    fun k ne => (others k ne).same ⟨rfl, rfl, rfl, rfl⟩⟩
  intro w there
  exact absurd (booked.waiters w there).1 drained

/-- The waiters all go to one place, as the descriptor's `close` went. -/
theorem Booked.settles {place : Place} {d : Descriptor} {state : DescriptorState}
    (booked : Booked sh) (empty : sh.active = none) (running : sh.duty = .running t)
    (closing : sh.descriptor sh.closingGeneration = d) (due : place.due = some d)
    (unwaiting : place ≠ .waiting ∧ place ≠ .ran)
    (closed : state = .closed → d = .closed) (failed : state = .failed → d = .failed) :
    Booked ({ sh with stopAcknowledgements := ⟨state, []⟩ }.book
      sh.stopAcknowledgements.waiters place) := by
  have session (w : Callback) (there : w ∈ sh.stopAcknowledgements.waiters) :
      sh.closingGeneration = w.session := by
    have := (booked.waiters w there).2
    simp only [empty, reduceCtorEq, false_or] at this
    exact this.2
  refine ⟨by simp [Shared.book, empty], fun _ other => absurd running (other t), ?_, ?_, ?_, ?_,
    ?_, ?_, ?_, ?_⟩
  · exact fun _ now => closing.trans (closed now)
  · exact fun _ now => closing.trans (failed now)
  · simp [Shared.book]
  · simp [Shared.book]
  · intro w
    by_cases there : w ∈ sh.stopAcknowledgements.waiters
    · simp [Shared.book, there, unwaiting.1]
    · simpa [Shared.book, there] using booked.waiting w
  · intro w p there
    by_cases waits : w ∈ sh.stopAcknowledgements.waiters
    · exact booked.issued w _ ((booked.waiting w).mpr waits)
    · exact booked.issued w p (by simpa [Shared.book, waits] using there)
  · intro w p e there owed
    by_cases waits : w ∈ sh.stopAcknowledgements.waiters
    · obtain rfl : place = p := by simpa [Shared.book, waits] using there
      obtain rfl : d = e := Option.some.inj (due.symm.trans owed)
      rw [← session w waits]
      exact closing
    · exact booked.settled w p e (by simpa [Shared.book, waits] using there) owed
  · intro w
    by_cases waits : w ∈ sh.stopAcknowledgements.waiters
    · have before := booked.counted w
      rw [(booked.waiting w).mpr waits] at before
      simpa [Shared.book, waits, unwaiting.2] using before
    · simpa [Shared.book, waits] using booked.counted w

theorem Bears.settles {place : Place} {acknowledgements : StopAcknowledgements}
    (booked : Booked sh) (bears : Bears k sh pc) (elsewhere : place ≠ .hand k)
    (unaware : pc.awaits = none) :
    Bears k ({ sh with stopAcknowledgements := acknowledgements }.book
      sh.stopAcknowledgements.waiters place) pc := by
  refine ⟨fun w => ?_, bears.nodup, by simp [unaware]⟩
  rw [bears.hand]
  by_cases waits : w ∈ sh.stopAcknowledgements.waiters
  · simp [Shared.book, waits, (booked.waiting w).mpr waits, elsewhere]
  · simp [Shared.book, waits]

theorem Balanced.drains (facts : Facts t task sh (.draining n true))
    (balanced : Balanced t task sh (.draining n true)) :
    Balanced t task
      ({ sh with stopAcknowledgements := sh.stopAcknowledgements.descriptorClosed.1 }.book
        sh.stopAcknowledgements.descriptorClosed.2 (.hand t))
      (.acknowledging n sh.stopAcknowledgements.descriptorClosed.2) := by
  have opened := (balanced.2.1.awaits true rfl).mpr rfl
  obtain ⟨running, closing⟩ := (facts.kept.2.1.tears n).mp rfl
  have empty := facts.kept.1.empty (facts.kept.1.busy.mpr (by simp [running]))
  have closed : sh.descriptor n = .closed := by
    simpa using facts.own.expects n _ rfl
  obtain ⟨booked, own, others⟩ := balanced
  simp only [StopAcknowledgements.descriptorClosed, opened, ne_eq, not_true_eq_false, if_false]
  refine ⟨booked.settles empty running (closing ▸ closed) rfl (by simp) (by simp) (by simp),
    ⟨fun w => ?_, booked.nodup, by rintro b ⟨⟩; simp [Shared.book]⟩, fun k ne =>
      (others k ne).settles booked (by simpa using ne.symm) (facts.unaware (.inr rfl) ne)⟩
  by_cases waits : w ∈ sh.stopAcknowledgements.waiters
  · simp [Pc.hand, Shared.book, waits]
  · have before := own.hand w
    simpa [Pc.hand, Shared.book, waits] using before

theorem Balanced.drops {dropped : List Callback} (facts : Facts t task sh (.draining n false))
    (balanced : Balanced t task sh (.draining n false))
    (all : dropped = if sh.stopAcknowledgements.descriptorCloseFailed.waiters = [] then
      sh.stopAcknowledgements.waiters else []) :
    Balanced t task
      ({ sh with stopAcknowledgements := sh.stopAcknowledgements.descriptorCloseFailed }.book
        dropped .refused)
      (.acknowledging n []) := by
  have opened := (balanced.2.1.awaits true rfl).mpr rfl
  obtain ⟨running, closing⟩ := (facts.kept.2.1.tears n).mp rfl
  have empty := facts.kept.1.empty (facts.kept.1.busy.mpr (by simp [running]))
  have failed : sh.descriptor n = .failed := by
    simpa using facts.own.expects n _ rfl
  obtain ⟨booked, own, others⟩ := balanced
  simp only [StopAcknowledgements.descriptorCloseFailed, opened, if_true] at all ⊢
  subst all
  have idle : Bears t sh .idle := own.onward rfl (.inl rfl)
  obtain ⟨hand, nodup, _⟩ := @Bears.settles _ _ _ .refused _ booked idle
    (by simp) rfl
  exact ⟨booked.settles empty running (closing ▸ failed) rfl (by simp) (by simp) (by simp),
    ⟨hand, nodup, by rintro b ⟨⟩; simp [Shared.book]⟩, fun k ne =>
      (others k ne).settles booked (by simp) (facts.unaware (.inr rfl) ne)⟩

theorem Turn.bears (turn : Turn t sh pc pc') (bears : Bears t sh pc) : Bears t sh pc' := by
  cases turn with
  | @start parses => cases parses <;> exact bears.onward rfl (.inl rfl)
  | foreground => exact bears.onward rfl (.inr rfl)
  | stale => exact bears.onward rfl (.inr rfl)
  | _ => exact bears.onward rfl (.inl rfl)

theorem balanced_move (facts : Facts t task sh pc) (read : Read t task sh pc)
    (balanced : Balanced t task sh pc) (move : Move t sh pc sh' pc') :
    Balanced t task sh' pc' := by
  cases move with
  | turns turn => exact ⟨balanced.1, turn.bears balanced.2.1, balanced.2.2⟩
  | begins empty still reset => exact balanced.begins facts empty still reset
  | establishes => exact balanced.describes facts read rfl rfl (.inr rfl)
  | commits current still => exact balanced.commits facts read
  | queues plain idle =>
      refine balanced.onward ⟨rfl, rfl, rfl, rfl⟩ ⟨rfl, rfl, rfl, rfl, fun _ => id, id⟩ ?_
        (.inl rfl)
      rcases idle with rfl | ⟨g, rfl⟩ <;> rfl
  | discards => exact balanced.describes facts read rfl rfl (.inl rfl)
  | discardFails => exact balanced.describes facts read rfl rfl (.inr rfl)
  | discardsAgain closes => exact balanced.describes facts read rfl rfl (.inl rfl)
  | stops on plain stops =>
      have before : Balanced t task sh (.stopped none none) :=
        balanced.onward ⟨rfl, rfl, rfl, rfl⟩ ⟨rfl, rfl, rfl, rfl, fun _ => id, id⟩ rfl (.inl rfl)
      exact before.stops stops
  | registers on stops => exact (balanced.registers read on).stops stops
  | runs => exact balanced.runs rfl rfl (.inl rfl)
  | launches =>
      have launching := ((facts.kept.2.1.launch _).mp rfl).1
      exact balanced.onward ⟨rfl, rfl, rfl, rfl⟩
        ⟨rfl, rfl, rfl, rfl, fun _ => id, fun _ t => by simp [launching]⟩ rfl (.inl rfl)
  | @takes job jobs next plain =>
      refine balanced.onward ⟨rfl, rfl, rfl, rfl⟩ ⟨rfl, rfl, rfl, rfl, fun _ => id, id⟩ ?_ ?_ <;>
        cases job with
        | teardown => cases plain
        | _ => first | rfl | exact .inl rfl
  | takesTeardown next => exact balanced.takesTeardown facts next
  | enters enters free =>
      refine balanced.onward ⟨rfl, rfl, rfl, rfl⟩ ⟨rfl, rfl, rfl, rfl, fun _ => id, id⟩ ?_ ?_ <;>
        cases enters <;> first | rfl | exact .inl rfl | exact .inr rfl
  | leaves leaves =>
      refine balanced.onward ⟨rfl, rfl, rfl, rfl⟩ ⟨rfl, rfl, rfl, rfl, fun _ => id, id⟩ ?_ ?_ <;>
        cases leaves <;> first | rfl | exact .inl rfl
  | initializes after =>
      refine balanced.onward ⟨rfl, rfl, rfl, rfl⟩ ⟨rfl, rfl, rfl, rfl, fun _ => id, id⟩ ?_ ?_ <;>
        rcases after with rfl | rfl <;> first | rfl | exact .inl rfl
  | @publishes n current =>
      refine balanced.onward ⟨rfl, rfl, rfl, rfl⟩ ⟨rfl, rfl, rfl, rfl, fun m there => ?_, id⟩ rfl
        (.inl rfl)
      by_cases same : m = n
      · simp [same]
      · simpa [same] using there
  | closes => exact balanced.closes facts
  | tornDown =>
      exact balanced.onward ⟨rfl, rfl, rfl, rfl⟩ ⟨rfl, rfl, rfl, rfl, fun _ => id, id⟩ rfl
        (.inr rfl)
  | drains => exact balanced.drains facts
  | drops all => exact balanced.drops facts all
  | acknowledges => exact balanced.runs rfl rfl (.inr rfl)
  | ends => exact balanced.ends
  | _ =>
      exact balanced.onward ⟨rfl, rfl, rfl, rfl⟩ ⟨rfl, rfl, rfl, rfl, fun _ => id, id⟩ rfl
        (.inl rfl)

end

theorem booked_of_reachable {ok : Config Thread Shared Pc → Thread × Action → Prop}
    {c : Config Thread Shared Pc} (reached : lifecycle.system.Reachable ok c) :
    Booked c.shared ∧ ∀ k, Bears k c.shared (c.task k) := by
  refine Tasks.system_invariant_of_reachable ?_ (fun k => ?_) ?_ reached
  · constructor <;> simp [lifecycle, Shared.created]
  · constructor <;> simp [lifecycle, Shared.created, Pc.hand, Pc.awaits]
  · intro c t a sh pc reached _ booked bears taken
    obtain ⟨publications, frames⟩ := read_of_reachable reached
    exact balanced_move (facts_of_reachable reached t)
      ⟨publications, frames t, fun k _ => frames k⟩ ⟨booked, bears t, fun k _ => bears k⟩
      (move_of_step taken)

/-- A thread takes its next step. -/
theorem goes_on {c : Config Thread Shared Pc} {t : Thread} {sh : Shared} {pc pc' : Pc}
    (here : c.task t = pc) (next : proceed t true c.shared pc = some (sh, pc')) :
    ∃ c', lifecycle.system.Path Free c [(t, .go true)] c' ∧ c'.shared = sh ∧ c'.task t = pc' := by
  have taken : lifecycle.step t (.go true) c.shared (c.task t) = some (sh, pc') := by
    rw [here, ← next]
    cases pc <;> rfl
  obtain ⟨c', path, shared, task, _⟩ := Tasks.exists_path taken
  exact ⟨c', path, shared, task⟩

/-- Some steps of one thread lead to a state in which `P` holds. -/
def Comes (c : Config Thread Shared Pc) (t : Thread) (P : Config Thread Shared Pc → Prop) : Prop :=
  ∃ steps c', lifecycle.system.Path Free c (List.replicate steps (t, .go true)) c' ∧ P c'

theorem Comes.next {c : Config Thread Shared Pc} {t : Thread} {sh : Shared} {pc pc' : Pc}
    {P : Config Thread Shared Pc → Prop} (here : c.task t = pc)
    (next : proceed t true c.shared pc = some (sh, pc'))
    (rest : ∀ c', c'.shared = sh → c'.task t = pc' → Comes c' t P) : Comes c t P := by
  obtain ⟨c', path, shared, task⟩ := goes_on here next
  obtain ⟨steps, last, after, holds⟩ := rest c' shared task
  exact ⟨steps + 1, last, (by simpa [List.replicate_succ] using path.trans after), holds⟩

/-- A teardown runs every callback it has in hand. -/
theorem acknowledging_runs {n : Nat} {w : Callback} {callbacks : List Callback} {t : Thread}
    (there : w ∈ callbacks) {c : Config Thread Shared Pc}
    (here : c.task t = .acknowledging n callbacks) : Comes c t fun c' => w ∈ c'.shared.ran := by
  induction callbacks generalizing c with
  | nil => cases there
  | cons v callbacks ih =>
      refine .next here rfl fun c' shared task => ?_
      by_cases first : w = v
      · refine ⟨0, c', .nil, ?_⟩
        simp [shared, Shared.run, first]
      · exact ih (by simpa [first] using there) task

theorem hand_runs {w : Callback} {t : Thread} {c : Config Thread Shared Pc}
    (there : w ∈ (c.task t).hand) : Comes c t fun c' => w ∈ c'.shared.ran := by
  cases here : c.task t with
  | acknowledging n callbacks =>
      rw [here] at there
      exact acknowledging_runs there here
  | stopped runAcknowledgement close =>
      rw [here] at there
      cases runAcknowledgement with
      | none => cases there
      | some v =>
          obtain rfl : w = v := by simpa [Pc.hand] using there
          refine .next here rfl fun c' shared _ => ⟨0, c', .nil, ?_⟩
          simp [shared, Shared.run]
  | _ =>
      rw [here] at there
      cases there

theorem draining_runs {n : Nat} {w : Callback} {t : Thread} {c : Config Thread Shared Pc}
    (here : c.task t = .draining n true)
    (opened : c.shared.stopAcknowledgements.descriptorState = .opened)
    (there : w ∈ c.shared.stopAcknowledgements.waiters) :
    Comes c t fun c' => w ∈ c'.shared.ran := by
  have drains : proceed t true c.shared (.draining n true) =
      some ({ c.shared with stopAcknowledgements := ⟨.closed, []⟩ }.book
        c.shared.stopAcknowledgements.waiters (.hand t),
        .acknowledging n c.shared.stopAcknowledgements.waiters) := by
    simp [proceed, Shared.drain, StopAcknowledgements.descriptorClosed, opened]
  exact .next here drains fun c' _ task => acknowledging_runs there task

section
variable {ok : Config Thread Shared Pc → Thread × Action → Prop} {c : Config Thread Shared Pc}
  {w : Callback} {n : Nat}

/-- A waiter whose session's `close` succeeded is drained by the thread that closed it. -/
theorem waiting_runs (reached : lifecycle.system.Reachable ok c)
    (there : w ∈ c.shared.stopAcknowledgements.waiters)
    (closed : c.shared.descriptor w.session = .closed) :
    ∃ t, Comes c t fun c' => w ∈ c'.shared.ran := by
  obtain ⟨core, stands⟩ := core_of_reachable reached
  obtain ⟨booked, bears⟩ := booked_of_reachable reached
  obtain ⟨opened, session⟩ := booked.waiters w there
  have described := (facts_of_reachable reached .main).described
  rcases session with active | ⟨busy, closing⟩
  · simp [described.active _ active] at closed
  · cases duty : c.shared.duty with
    | running t =>
        refine ⟨t, ?_⟩
        have expects := (facts_of_reachable reached t).own.expects
        have awaits := (bears t).awaits
        have tears := ((stands t).tears w.session).mpr ⟨duty, closing⟩
        cases here : c.task t with
        | tearing n | closing n =>
            rw [here] at tears expects
            cases tears
            have committed := expects _ _ rfl
            simp [closed] at committed
        | leaving n done =>
            rw [here] at tears expects
            cases tears
            have known := expects _ _ rfl
            cases done with
            | false => simp [closed] at known
            | true =>
                refine .next here rfl fun c' shared task => draining_runs task ?_ ?_ <;> rw [shared]
                · exact opened
                · exact there
        | draining n done =>
            rw [here] at tears expects
            cases tears
            have known := expects _ _ rfl
            cases done with
            | false => simp [closed] at known
            | true => exact draining_runs here opened there
        | acknowledging n callbacks =>
            rw [here] at awaits
            have := awaits false rfl
            simp [opened] at this
        | _ =>
            rw [here] at tears
            cases tears
    | nobody => exact absurd duty (core.busy.mp busy)
    | launching _ | queued =>
        have committed := described.unclosed busy (by simp [duty])
        simp [closing, closed] at committed

theorem count_of_ran (reached : lifecycle.system.Reachable ok c) (ran : w ∈ c.shared.ran) :
    c.shared.ran.count w = 1 := by
  have counted := (booked_of_reachable reached).1.counted w
  have := List.count_pos_iff.mpr ran
  split at counted <;> omega

theorem closed_of_ran (reached : lifecycle.system.Reachable ok c) (ran : w ∈ c.shared.ran) :
    c.shared.descriptor w.session = .closed := by
  have booked := (booked_of_reachable reached).1
  have counted := booked.counted w
  have := List.count_pos_iff.mpr ran
  split at counted
  · rename_i there
    exact booked.settled w _ _ there rfl
  · omega

/-- The descriptor of a session with a supervisor is written once. -/
theorem failed_stays {t : Thread} {task : Thread → Pc} {sh sh' : Shared} {pc pc' : Pc}
    (facts : Facts t task sh pc) (read : Read t task sh pc)
    (published : sh.published n = true) (failed : sh.descriptor n = .failed)
    (move : Move t sh pc sh' pc') :
    sh'.published n = true ∧ sh'.descriptor n = .failed := by
  have describes {g : Nat} {d : Descriptor} (prepares : pc.prepares = some g) :
      (sh.describe g d).descriptor n = .failed := by
    have other : n ≠ g := by
      rintro rfl
      simp [read.2.1.prepares _ prepares] at published
    simpa [Shared.describe, other] using failed
  have stops {sh₁ : Shared} {expected close : Option Nat} (stops : Stops t sh₁ expected sh' close)
      (published : sh₁.published = sh.published) (descriptor : sh₁.descriptor = sh.descriptor) :
      sh'.published n = sh.published n ∧ sh'.descriptor n = sh.descriptor n := by
    rw [← published, ← descriptor]
    cases stops <;> exact ⟨rfl, rfl⟩
  cases move with
  | establishes | commits | discards | discardFails | discardsAgain =>
      exact ⟨published, describes rfl⟩
  | stops on plain step =>
      obtain ⟨p, d⟩ := stops step rfl rfl
      exact ⟨p.trans published, d.trans failed⟩
  | registers on step =>
      obtain ⟨p, d⟩ := stops step published_register sameDescriptors_register.descriptor
      exact ⟨p.trans published, d.trans failed⟩
  | @publishes m =>
      refine ⟨?_, failed⟩
      by_cases same : n = m
      · simp [same]
      · simpa [same] using published
  | @closes m ok =>
      have other : n ≠ m := by
        rintro rfl
        have committed := facts.own.expects n _ rfl
        simp [failed] at committed
      exact ⟨published, by simpa [Shared.describe, other] using failed⟩
  | _ => exact ⟨published, failed⟩

theorem failed_of_path {acts : List (Thread × Action)} {c' : Config Thread Shared Pc}
    (reached : lifecycle.system.Reachable Free c) (published : c.shared.published n = true)
    (failed : c.shared.descriptor n = .failed) (path : lifecycle.system.Path Free c acts c') :
    c'.shared.published n = true ∧ c'.shared.descriptor n = .failed := by
  induction path with
  | nil => exact ⟨published, failed⟩
  | @snoc acts mid last a before _ taken ih =>
      obtain ⟨sh, pc, step, rfl⟩ := Tasks.system_step taken
      have there := reached.extend before
      obtain ⟨publications, frames⟩ := read_of_reachable there
      exact failed_stays (facts_of_reachable there a.1)
        ⟨publications, frames a.1, fun k _ => frames k⟩ ih.1 ih.2 (move_of_step step)

theorem Move.threw {t : Thread} {sh sh' : Shared} {pc pc' : Pc} (move : Move t sh pc sh' pc')
    (threw : pc' = .threw) : sh.active = none ∧ sh.teardownInProgress = false ∧
      sh.stopAcknowledgements.reset = none := by
  cases move with
  | turns turn =>
      cases turn with
      | @start parses => cases parses <;> cases threw
      | throws empty still fails => exact ⟨empty, still, fails⟩
      | _ => cases threw
  | @takes job => cases job <;> cases threw
  | enters enters => cases enters <;> cases threw
  | leaves leaves => cases leaves <;> cases threw
  | initializes after => rcases after with rfl | rfl <;> cases threw
  | _ => cases threw

/-- `reset` finds no waiters. -/
theorem never_threw (reached : lifecycle.system.Reachable ok c) (t : Thread) :
    c.task t ≠ .threw := by
  refine (Tasks.system_invariant_of_reachable (I := fun _ => True)
    (J := fun _ _ pc => pc ≠ .threw) trivial (fun _ => by simp [lifecycle]) ?_ reached).2 t
  intro c t a sh pc reached _ _ others taken
  refine ⟨trivial, ?_, fun k _ => others k⟩
  intro threw
  obtain ⟨empty, still, fails⟩ := (move_of_step taken).threw threw
  have waiters : c.shared.stopAcknowledgements.waiters = [] := by
    rw [List.eq_nil_iff_forall_not_mem]
    intro w there
    have session := ((booked_of_reachable reached).1.waiters w there).2
    simp [empty, still] at session
  simp [StopAcknowledgements.reset, waiters] at fails

end

/-- The STOPPED callbacks of every session: a callback runs only once its session's descriptor
is closed, and at most once; one registered for a session whose `close` succeeds has run or has
a thread that comes to run it, one of a session whose `close` threw never runs. A stop for a
generation that is gone does nothing, and no waiter is there when a start resets them. -/
theorem stopped_after_close {c : Config Thread Shared Pc}
    (reached : lifecycle.system.Reachable Free c) :
    (∀ w ∈ c.shared.ran, c.shared.descriptor w.session = .closed) ∧
      (∀ w, c.shared.ran.count w ≤ 1) ∧
      (∀ w, c.shared.ledger w ≠ none → c.shared.descriptor w.session = .closed →
        c.shared.ran.count w = 1 ∨ ∃ t, Comes c t fun c' => c'.shared.ran.count w = 1) ∧
      (∀ w acts c', c.shared.ledger w ≠ none → c.shared.descriptor w.session = .failed →
        lifecycle.system.Path Free c acts c' → w ∉ c'.shared.ran) ∧
      (∀ t g sendStopped ok, c.task t = .stopping (some g) sendStopped →
        c.shared.generationGate.isCurrent g = false → c.shared.active ≠ some g →
        ¬ (c.shared.teardownInProgress = true ∧ c.shared.closingGeneration = g) →
        step t (.go ok) c.shared (c.task t) = some (c.shared, .stopped none none) ∧
          step t (.go ok) c.shared (.stopped none none) = some (c.shared, .idle)) ∧
      (∀ w ∈ c.shared.stopAcknowledgements.waiters, c.shared.active = some w.session ∨
        c.shared.teardownInProgress = true ∧ c.shared.closingGeneration = w.session) ∧
      ∀ t, c.task t ≠ .threw := by
  obtain ⟨booked, bears⟩ := booked_of_reachable reached
  refine ⟨fun w => closed_of_ran reached, fun w => ?_, fun w registered closed => ?_,
    fun w acts c' registered failed path ran => ?_,
    fun t g sendStopped ok here stale other gone => ?_,
    fun w there => (booked.waiters w there).2, never_threw reached⟩
  · rw [booked.counted]
    split <;> omega
  · have counts {t : Thread} (comes : Comes c t fun c' => w ∈ c'.shared.ran) :
        Comes c t fun c' => c'.shared.ran.count w = 1 := by
      obtain ⟨steps, c', path, ran⟩ := comes
      exact ⟨steps, c', path, count_of_ran (reached.extend path) ran⟩
    cases place : c.shared.ledger w with
    | none => exact absurd place registered
    | some p =>
        cases p with
        | waiting =>
            obtain ⟨t, comes⟩ := waiting_runs reached ((booked.waiting w).mp place) closed
            exact .inr ⟨t, counts comes⟩
        | hand t => exact .inr ⟨t, counts (hand_runs (((bears t).hand w).mpr place))⟩
        | ran => exact .inl (by simp [booked.counted, place])
        | refused =>
            have failed := booked.settled w _ _ place rfl
            simp [closed] at failed
  · obtain ⟨p, place⟩ := Option.ne_none_iff_exists'.mp registered
    have published := (booked.issued w p place).2
    have stays := (failed_of_path reached published failed path).2
    have closed := closed_of_ran (reached.extend path) ran
    simp [stays] at closed
  · have off : c.shared.targets (some g) = false := by
      simp only [not_and] at gone
      simpa [Shared.targets, stopTargetsGeneration, Shared.expectedIsCurrent, stale, other]
        using gone
    rw [here]
    exact ⟨by simp [step, proceed, Shared.requestStop, off], rfl⟩

namespace Schedule

/-- The worker that starts the engine, up to the supervisor. -/
def engine : List (Thread × Action) := (.worker false, .take) :: goes (.worker false) 6

/-- A STOP frame of session 1, the job it leaves, and the teardown that runs its callback. -/
def stopFrame : List (Thread × Action) :=
  (.control 1, .stopFrame) :: goes (.control 1) 2 ++ (.worker true, .take) :: goes (.worker true) 5

end Schedule

/-- A session that is started, stopped by a STOP frame and torn down. -/
theorem stopped_after_close_frame :
    ∃ c, lifecycle.system.Reachable Free c ∧ c.shared.ran = [⟨1, 0⟩] ∧
      c.shared.descriptor 1 = .closed := by
  obtain ⟨c, reached, ran⟩ : ∃ c, lifecycle.system.Reachable Free c ∧ c.shared.ran = [⟨1, 0⟩] :=
    ⟨_, System.reachable_of_replay
      (Schedule.prepare ++ Schedule.commit ++ Schedule.engine ++ Schedule.stopFrame) rfl, rfl⟩
  exact ⟨c, reached, ran, (stopped_after_close reached).1 ⟨1, 0⟩ (by simp [ran])⟩

end QuestVdWired.Android.Lifecycle
