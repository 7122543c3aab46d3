import QuestVdWired.Android.StopRequests

/-!
`vpnDescriptorOpen`, which `dump` prints as `vpnFdOpen`, against the descriptors there are. The
flag follows the committed session: a descriptor that `startVpn` has from `establish` is not
counted before the commit.
-/

namespace QuestVdWired.Android.Lifecycle
open Transition

structure Flagged (sh : Shared) : Prop where
  committed : ∀ n, sh.descriptor n = .committed → sh.vpnDescriptorOpen = true
  failed : sh.teardownInProgress = true → sh.descriptor sh.closingGeneration = .failed →
    sh.vpnDescriptorOpen = true

section
variable {t : Thread} {sh sh' : Shared} {pc pc' : Pc} {task : Thread → Pc} {n g : Nat}

theorem Flagged.same (flagged : Flagged sh) (descriptor : sh'.descriptor = sh.descriptor)
    (teardown : sh'.teardownInProgress = sh.teardownInProgress)
    (closing : sh'.closingGeneration = sh.closingGeneration)
    (flag : sh'.vpnDescriptorOpen = sh.vpnDescriptorOpen) : Flagged sh' := by
  constructor
  · rw [descriptor, flag]
    exact flagged.committed
  · rw [descriptor, teardown, closing, flag]
    exact flagged.failed

/-- Without a session and without a teardown there is nothing to flag. -/
theorem Described.nothing (described : Described sh) (empty : sh.active = none)
    (still : sh.teardownInProgress = false) (descriptor : sh'.descriptor = sh.descriptor)
    (teardown : sh'.teardownInProgress = false) : Flagged sh' := by
  constructor
  · intro n there
    rw [descriptor] at there
    have before := described.committed n there
    simp [empty, still] at before
  · simp [teardown]

theorem Flagged.stops {expected close : Option Nat} (flagged : Flagged sh)
    (described : Described sh) (stops : Stops t sh expected sh' close) : Flagged sh' := by
  cases stops with
  | busy closing => exact flagged.same rfl rfl rfl rfl
  | empty empty still => exact described.nothing empty still rfl still
  | @closes n active still =>
      refine ⟨flagged.committed, fun _ failed => ?_⟩
      have committed := described.active n active
      simp [committed] at failed

/-- A descriptor that `startVpn` did not commit is not flagged. -/
theorem Flagged.prepared {d : Descriptor} (flagged : Flagged sh) (uncommitted : d ≠ .committed)
    (still : sh.teardownInProgress = false) : Flagged (sh.describe g d) := by
  constructor
  · intro n there
    by_cases same : n = g
    · subst same
      exact absurd (by simpa [Shared.describe] using there) uncommitted
    · exact flagged.committed n (by simpa [Shared.describe, same] using there)
  · simp [Shared.describe, still]

theorem Facts.flagged_closes {ok : Bool} (facts : Facts t task sh (.closing n)) :
    Flagged
      { sh.describe n (if ok then .closed else .failed) with vpnDescriptorOpen := !ok } := by
  obtain ⟨running, closing⟩ := (facts.kept.2.1.tears n).mp rfl
  have busy := facts.kept.1.busy.mpr (by simp [running])
  constructor
  · intro m there
    by_cases same : m = n
    · subst same
      cases ok <;> simp [Shared.describe] at there
    · have before := facts.described.committed m (by simpa [Shared.describe, same] using there)
      rw [facts.kept.1.empty busy, closing] at before
      simp [Ne.symm same] at before
  · intro _ failed
    cases ok with
    | true => simp [Shared.describe, closing] at failed
    | false => rfl

theorem flagged_move (facts : Facts t task sh pc) (flagged : Flagged sh)
    (move : Move t sh pc sh' pc') : Flagged sh' := by
  cases move with
  | finishes =>
      obtain ⟨empty, still⟩ := facts.kept.2.1.finishes rfl
      exact facts.described.nothing empty still rfl still
  | @establishes g => exact flagged.prepared (by simp) (facts.kept.2.1.prepares g rfl).2.1
  | commits current still => exact ⟨fun _ _ => rfl, fun _ _ => rfl⟩
  | @discards g => exact flagged.prepared (by simp) (facts.kept.2.1.prepares g rfl).2.1
  | @discardFails g => exact flagged.prepared (by simp) (facts.kept.2.1.prepares g rfl).2.1
  | @discardsAgain g d closes =>
      refine flagged.prepared ?_ (facts.kept.2.1.prepares g rfl).2.1
      rcases closes with rfl | rfl <;> simp
  | stops on plain stops => exact flagged.stops facts.described stops
  | @registers n _ _ on stops =>
      refine Flagged.stops ?_ facts.registered.described stops
      have core := @sameCore_register t sh n
      refine flagged.same sameDescriptors_register.descriptor core.teardown core.closing ?_
      cases state : sh.stopAcknowledgements.descriptorState <;>
        simp [Shared.register, StopAcknowledgements.register, state, Shared.book]
  | closes => exact facts.flagged_closes
  | ends => exact ⟨flagged.committed, by simp [Shared.endTeardown]⟩
  | _ => exact flagged.same rfl rfl rfl rfl

/-- A step that clears the flag closed the session's descriptor, or found no session. -/
theorem Move.clears (facts : Facts t task sh pc) (move : Move t sh pc sh' pc')
    (before : sh.vpnDescriptorOpen = true) (after : sh'.vpnDescriptorOpen = false) :
    (∃ n, pc = .closing n ∧ sh'.descriptor n = .closed) ∨
      sh.active = none ∧ sh.teardownInProgress = false := by
  have unchanged (same : sh'.vpnDescriptorOpen = sh.vpnDescriptorOpen) : False := by
    simp [same, before] at after
  have stops {sh₁ : Shared} {expected close : Option Nat} (stops : Stops t sh₁ expected sh' close)
      (same : sh₁.vpnDescriptorOpen = sh.vpnDescriptorOpen) :
      sh₁.active = none ∧ sh₁.teardownInProgress = false := by
    cases stops with
    | busy => exact (unchanged same).elim
    | empty empty still => exact ⟨empty, still⟩
    | closes => exact (unchanged same).elim
  cases move with
  | finishes => exact .inr (facts.kept.2.1.finishes rfl)
  | commits => cases after
  | stops on plain step => exact .inr (stops step rfl)
  | @registers n _ _ on step =>
      have core := @sameCore_register t sh n
      rw [← core.active, ← core.teardown]
      refine .inr (stops step ?_)
      cases state : sh.stopAcknowledgements.descriptorState <;>
        simp [Shared.register, StopAcknowledgements.register, state, Shared.book]
  | @closes n ok =>
      cases ok with
      | true => exact .inl ⟨n, rfl, by simp [Shared.describe]⟩
      | false => cases after
  | _ => exact (unchanged rfl).elim

end

theorem flagged_of_reachable {ok : Config Thread Shared Pc → Thread × Action → Prop}
    {c : Config Thread Shared Pc} (reached : lifecycle.system.Reachable ok c) :
    Flagged c.shared := by
  refine (Tasks.system_invariant_of_reachable (J := fun _ _ _ => True) ?_ (fun _ => trivial) ?_
    reached).1
  · constructor <;> simp [lifecycle, Shared.created]
  · intro c t a sh pc reached _ flagged _ taken
    exact ⟨flagged_move (facts_of_reachable reached t) flagged (move_of_step taken), trivial,
      fun _ _ => trivial⟩

/-- The flag is up while the service holds a committed descriptor: until its `close` returns,
and through the rest of the teardown where `close` threw. No step lowers it but a `close` that
succeeded and one that finds neither a session nor a teardown. -/
theorem vpnDescriptorOpen_of_committed {c : Config Thread Shared Pc}
    (reached : lifecycle.system.Reachable Free c) :
    (∀ n, c.shared.descriptor n = .committed → c.shared.vpnDescriptorOpen = true) ∧
      (∀ n, UnderTeardown c n → c.shared.descriptor n = .failed →
        c.shared.vpnDescriptorOpen = true) ∧
      ∀ t a c', lifecycle.system.step (t, a) c = some c' → c.shared.vpnDescriptorOpen = true →
        c'.shared.vpnDescriptorOpen = false →
        (∃ n, c.task t = .closing n ∧ c'.shared.descriptor n = .closed) ∨
          c.shared.active = none ∧ c.shared.teardownInProgress = false := by
  have flagged := flagged_of_reachable reached
  refine ⟨flagged.committed, ?_, ?_⟩
  · rintro n ⟨busy, rfl, _⟩ failed
    exact flagged.failed busy failed
  · intro t a c' taken before after
    obtain ⟨sh, pc, step, rfl⟩ := Tasks.system_step taken
    exact (move_of_step step).clears (facts_of_reachable reached t) before after

/-- A session whose `close` threw, before its teardown ends. -/
theorem vpnDescriptorOpen_of_committed_failed :
    ∃ c, lifecycle.system.Reachable Free c ∧ c.shared.descriptor 1 = .failed ∧
      UnderTeardown c 1 ∧ c.shared.vpnDescriptorOpen = true := by
  obtain ⟨c, reached, failed, under⟩ : ∃ c, lifecycle.system.Reachable Free c ∧
      c.shared.descriptor 1 = .failed ∧ UnderTeardown c 1 :=
    ⟨_, System.reachable_of_replay
      (Schedule.prepare ++ Schedule.commit ++ Schedule.revoke ++ Schedule.goes (.binder 0) 1 ++
        [(.worker false, .take), (.worker true, .take), (.worker true, .go true),
          (.worker true, .go false)]) rfl,
      rfl, rfl, rfl, .inr (.inr ⟨.worker true, rfl⟩)⟩
  exact ⟨c, reached, failed, under, (vpnDescriptorOpen_of_committed reached).2.1 1 under failed⟩

/-- `establish` has returned, the commit is to come: the descriptor is there, the flag down. -/
theorem established_unflagged :
    ∃ c, lifecycle.system.Reachable Free c ∧ c.shared.descriptor 1 = .established ∧
      c.shared.vpnDescriptorOpen = false :=
  ⟨_, System.reachable_of_replay Schedule.prepare rfl, rfl, rfl⟩

/-- A `close` threw and its teardown is over: a stop that finds no session lowers the flag of the
descriptor that is still open. -/
theorem failed_unflagged :
    ∃ c c', lifecycle.system.Reachable Free c ∧ c.shared.teardownInProgress = false ∧
      c.shared.vpnDescriptorOpen = true ∧ lifecycle.system.step (.main, .go true) c = some c' ∧
      c'.shared.descriptor 1 = .failed ∧ c'.shared.vpnDescriptorOpen = false :=
  ⟨_, _, System.reachable_of_replay
    (Schedule.prepare ++ Schedule.commit ++ Schedule.revoke ++ Schedule.goes (.binder 0) 1 ++
      [(.worker false, .take), (.worker true, .take), (.worker true, .go true),
        (.worker true, .go false)] ++ Schedule.goes (.worker true) 3 ++ [(.main, .stopCommand)])
    rfl, rfl, rfl, rfl, rfl, rfl⟩

end QuestVdWired.Android.Lifecycle
