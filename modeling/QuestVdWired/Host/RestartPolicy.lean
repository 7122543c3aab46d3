import QuestVdWired.Host.HostRuntime

/-!
When the daemon restarts a silent headset: what must have been seen before, and how long it waits
until it does so again.
-/

namespace QuestVdWired.Host

/-- What one call of `supervise_android` meets: the flags and states that it reads, the times at
which it looks at the clock, and what the headset answers if it is asked. -/
structure SupervisionTick where
  stopping : Bool
  lifecycle : HostState
  deviceAvailable : Bool
  recovery : TransportRecoveryState
  silentAt : Instant
  dueAt : Instant
  awake : Bool
  observedAt : Instant
  stopped : Bool
  restartedAt : Instant
  inOrder : silentAt ≤ dueAt ∧ dueAt ≤ observedAt ∧ observedAt ≤ restartedAt

namespace SupervisionTick

def recovering (tick : SupervisionTick) : Bool :=
  tick.recovery ∈ [.pending, .waitingForDevice, .rebuildingMappings, .awaitingControl]

/-- The control lane is silent and nobody else is responsible for the headset. -/
def eligible (tick : SupervisionTick) : Bool :=
  tick.lifecycle = .degraded && tick.deviceAvailable && !tick.recovering

/-- The flag is set once, and no tick comes before one that is over. -/
def Before (tick later : SupervisionTick) : Prop :=
  tick.restartedAt ≤ later.silentAt ∧ (tick.stopping = true → later.stopping = true)

end SupervisionTick

/-- A tick with what came of it: what the probe reported, if there was one, and whether it led to a
restart. -/
structure Supervised where
  tick : SupervisionTick
  probe : Option Bool
  restarted : Bool

namespace Supervised

def connected (x : Supervised) : Bool := !x.tick.stopping && x.tick.lifecycle = .connected

/-- It saw the control lane degraded, and the headset was the daemon's to restart. -/
def sawEligible (x : Supervised) : Bool := !x.tick.stopping && x.tick.eligible

end Supervised

/-- `supervise_android` with `restart_android` up to the point where the attempt is counted. -/
def superviseAndroid (tick : SupervisionTick) (liveness : AndroidLiveness) :
    Supervised × AndroidLiveness :=
  if tick.stopping then (⟨tick, none, false⟩, liveness)
  else if tick.lifecycle = .connected then (⟨tick, none, false⟩, liveness.connected)
  else if tick.lifecycle ≠ .degraded ∨ ¬tick.deviceAvailable ∨ tick.recovering then
    (⟨tick, none, false⟩, liveness.ineligible)
  else
    let liveness := liveness.silent tick.silentAt
    if liveness.probeDue tick.dueAt then
      let liveness := liveness.observed tick.awake tick.observedAt
      if liveness.restartDue tick.observedAt ∧ ¬tick.stopped then
        (⟨tick, some tick.awake, true⟩, liveness.restarted tick.restartedAt)
      else (⟨tick, some tick.awake, false⟩, liveness)
    else (⟨tick, none, false⟩, liveness)

/-- The ticks that were, from the first on, and what is kept of them. -/
structure Supervision where
  past : List Supervised
  liveness : AndroidLiveness

namespace Supervision

def initial : Supervision := ⟨[], .initial⟩

def step (s : Supervision) (tick : SupervisionTick) : Supervision :=
  ⟨s.past ++ [(superviseAndroid tick s.liveness).1], (superviseAndroid tick s.liveness).2⟩

def run (ticks : List SupervisionTick) : Supervision := ticks.foldl step initial

end Supervision

/-- The restarts behind the last tick that saw the headset connected. -/
def restartsSinceConnected (past : List Supervised) : Nat :=
  (past.reverse.takeWhile fun x => !x.connected).countP (·.restarted)

/-! ### What a tick can do -/

/-- The ways a tick can go. -/
inductive TickStep (tick : SupervisionTick) (l : AndroidLiveness) :
    Supervised → AndroidLiveness → Prop
  | stopping (stops : tick.stopping = true) : TickStep tick l ⟨tick, none, false⟩ l
  | connected (goesOn : tick.stopping = false) (is : tick.lifecycle = .connected) :
      TickStep tick l ⟨tick, none, false⟩ .initial
  | ineligible (goesOn : tick.stopping = false) (other : tick.lifecycle ≠ .connected) :
      TickStep tick l ⟨tick, none, false⟩ l.ineligible
  | silent (goesOn : tick.stopping = false) (eligible : tick.eligible = true) :
      TickStep tick l ⟨tick, none, false⟩ (l.silent tick.silentAt)
  | probed (goesOn : tick.stopping = false) (eligible : tick.eligible = true) :
      TickStep tick l ⟨tick, some tick.awake, false⟩
        ((l.silent tick.silentAt).observed tick.awake tick.observedAt)
  | restarted (goesOn : tick.stopping = false) (eligible : tick.eligible = true)
      (due : ((l.silent tick.silentAt).observed tick.awake tick.observedAt).restartDue
        tick.observedAt = true) :
      TickStep tick l ⟨tick, some tick.awake, true⟩
        (((l.silent tick.silentAt).observed tick.awake tick.observedAt).restarted
          tick.restartedAt)

theorem superviseAndroid_step (tick : SupervisionTick) (l : AndroidLiveness) :
    TickStep tick l (superviseAndroid tick l).1 (superviseAndroid tick l).2 := by
  rw [superviseAndroid]
  split
  · rename_i stops
    exact .stopping stops
  · rename_i goesOn
    rw [Bool.not_eq_true] at goesOn
    split
    · rename_i is
      exact .connected goesOn is
    · rename_i other
      split
      · exact .ineligible goesOn other
      · rename_i apart
        have eligible : tick.eligible = true := by
          simp only [not_or, not_not, ne_eq, Bool.not_eq_true] at apart
          simp [SupervisionTick.eligible, apart]
        dsimp only
        split
        · split
          · rename_i due
            exact .restarted goesOn eligible due.1
          · exact .probed goesOn eligible
        · exact .silent goesOn eligible

/-! ### What the record says of the past -/

/-- The wait behind the `k`-th restart. -/
def restartSpacing (k : Nat) : Nat :=
  min (ANDROID_RESTART_INITIAL_BACKOFF * 2 ^ (k - 1)) ANDROID_RESTART_MAX_BACKOFF

/-- Neither the bound on the doublings nor that on the count shows. -/
theorem androidRestartBackoff_eq {k : Nat} :
    androidRestartBackoff (min k (2 ^ 32 - 1)) = restartSpacing k := by
  rw [androidRestartBackoff, restartSpacing]
  by_cases few : k ≤ 9
  · rw [show min k (2 ^ 32 - 1) = k by omega, Nat.min_eq_left (show k - 1 ≤ 8 by omega)]
  · have many : ANDROID_RESTART_INITIAL_BACKOFF * 2 ^ 8 ≤
        ANDROID_RESTART_INITIAL_BACKOFF * 2 ^ (k - 1) :=
      Nat.mul_le_mul_left _ (Nat.pow_le_pow_right (by decide) (by omega))
    have most : ANDROID_RESTART_MAX_BACKOFF ≤ ANDROID_RESTART_INITIAL_BACKOFF * 2 ^ 8 := by decide
    rw [show min (min k (2 ^ 32 - 1) - 1) 8 = 8 by omega, Nat.min_eq_right most,
      Nat.min_eq_right (Nat.le_trans most many)]

theorem restartsSinceConnected_append {past : List Supervised} {x : Supervised} :
    restartsSinceConnected (past ++ [x]) =
      if x.connected then 0 else restartsSinceConnected past + if x.restarted then 1 else 0 := by
  rw [restartsSinceConnected, restartsSinceConnected, List.reverse_append, List.reverse_singleton,
    List.singleton_append, List.takeWhile_cons]
  by_cases connected : x.connected = true
  · simp [connected]
  · simp [connected, List.countP_cons]

theorem append_singleton_eq {l a b : List Supervised} {x r : Supervised}
    (same : l ++ [x] = a ++ r :: b) :
    (b = [] ∧ l = a ∧ x = r) ∨ ∃ b', b = b' ++ [x] ∧ l = a ++ r :: b' := by
  rcases List.eq_nil_or_concat b with rfl | ⟨b', last, rfl⟩
  · obtain ⟨rfl, is⟩ := List.append_inj' same rfl
    exact .inl ⟨rfl, rfl, List.head_eq_of_cons_eq is⟩
  · rw [List.concat_eq_append, ← List.cons_append, ← List.append_assoc] at same
    obtain ⟨rfl, is⟩ := List.append_inj' same rfl
    exact .inr ⟨b', by rw [List.concat_eq_append, List.head_eq_of_cons_eq is], rfl⟩

/-- The ticks from one on, up to the last. -/
def EndsIn (past : List Supervised) (first : Supervised) (span : List Supervised) : Prop :=
  span <:+ past ∧ span.head? = some first

theorem EndsIn.append {past span : List Supervised} {first x : Supervised}
    (ends : EndsIn past first span) : EndsIn (past ++ [x]) first (span ++ [x]) := by
  obtain ⟨⟨before, rfl⟩, head⟩ := ends
  refine ⟨⟨before, by rw [List.append_assoc]⟩, ?_⟩
  rw [List.head?_append, head]
  rfl

theorem EndsIn.single {past : List Supervised} {x : Supervised} : EndsIn (past ++ [x]) x [x] :=
  ⟨List.suffix_append .., rfl⟩

theorem EndsIn.cases {past span : List Supervised} {first x : Supervised}
    (ends : EndsIn (past ++ [x]) first span) :
    (first = x ∧ span = [x]) ∨ ∃ middle, span = first :: (middle ++ [x]) := by
  obtain ⟨⟨before, whole⟩, head⟩ := ends
  cases span with
  | nil => cases head
  | cons y rest =>
      cases head
      obtain ⟨rfl, _, rfl⟩ | ⟨middle, rfl, _⟩ := append_singleton_eq whole.symm
      · exact .inl ⟨rfl, rfl⟩
      · exact .inr ⟨middle, rfl⟩

/-- The times that are kept are those of ticks since which nothing has spoken against a restart. -/
structure Watched (s : Supervision) : Prop where
  silent : ∀ {since}, s.liveness.silentSince = some since → ∃ first span,
    EndsIn s.past first span ∧ first.tick.silentAt ≤ since ∧ ∀ x ∈ span, x.sawEligible = true
  awake : ∀ {since}, s.liveness.awakeSince = some since → ∃ first span,
    EndsIn s.past first span ∧ first.tick.observedAt = since ∧ first.probe = some true ∧
      ∀ x ∈ span, x.probe ≠ some false
  count : s.liveness.restarts = min (restartsSinceConnected s.past) (2 ^ 32 - 1)
  spaced : ∀ {before r between}, s.past = before ++ r :: between → r.restarted = true →
    (∀ x ∈ between, x.connected = false) → ∃ due, s.liveness.nextRestartAt = some due ∧
      r.tick.restartedAt + restartSpacing (restartsSinceConnected (before ++ [r])) ≤ due

theorem initial_watched : Watched .initial where
  silent is := by cases is
  awake is := by cases is
  count := rfl
  spaced split := by simp [Supervision.initial] at split

section
variable {s : Supervision} {tick : SupervisionTick} {l : AndroidLiveness} {x : Supervised}

/-- What is kept of the silence, where a tick counts towards it. -/
theorem Watched.silent_append (watched : Watched s) (saw : x.sawEligible = true)
    {since : Instant} (is : s.liveness.silentSince.getD x.tick.silentAt = since) :
    ∃ first span, EndsIn (s.past ++ [x]) first span ∧ first.tick.silentAt ≤ since ∧
      ∀ y ∈ span, y.sawEligible = true := by
  cases was : s.liveness.silentSince with
  | none =>
      rw [was, Option.getD_none] at is
      exact ⟨x, [x], .single, Nat.le_of_eq is, by simpa using saw⟩
  | some since' =>
      rw [was, Option.getD_some] at is
      subst is
      obtain ⟨first, span, ends, le, each⟩ := watched.silent was
      refine ⟨first, span ++ [x], ends.append, le, ?_⟩
      rw [List.forall_mem_append]
      exact ⟨each, by simpa using saw⟩

/-- What is kept of the wakefulness, where a probe reports it. -/
theorem Watched.awake_append (watched : Watched s) (reports : x.probe = some true)
    {since : Instant} (is : s.liveness.awakeSince.getD x.tick.observedAt = since) :
    ∃ first span, EndsIn (s.past ++ [x]) first span ∧ first.tick.observedAt = since ∧
      first.probe = some true ∧ ∀ y ∈ span, y.probe ≠ some false := by
  cases was : s.liveness.awakeSince with
  | none =>
      rw [was, Option.getD_none] at is
      exact ⟨x, [x], .single, is, reports, by simp [reports]⟩
  | some since' =>
      rw [was, Option.getD_some] at is
      subst is
      obtain ⟨first, span, ends, at_, probe, each⟩ := watched.awake was
      refine ⟨first, span ++ [x], ends.append, at_, probe, ?_⟩
      rw [List.forall_mem_append]
      exact ⟨each, by simp [reports]⟩

theorem Watched.unprobed_append (watched : Watched s) (none_ : x.probe = none) {since : Instant}
    (is : s.liveness.awakeSince = some since) :
    ∃ first span, EndsIn (s.past ++ [x]) first span ∧ first.tick.observedAt = since ∧
      first.probe = some true ∧ ∀ y ∈ span, y.probe ≠ some false := by
  obtain ⟨first, span, ends, at_, probe, each⟩ := watched.awake is
  refine ⟨first, span ++ [x], ends.append, at_, probe, ?_⟩
  rw [List.forall_mem_append]
  exact ⟨each, by simp [none_]⟩

/-- A tick without a restart that saw no connection keeps the wait. -/
theorem Watched.spaced_append (watched : Watched s) (plain : x.restarted = false)
    {before between : List Supervised} {r : Supervised}
    (split : s.past ++ [x] = before ++ r :: between) (restarted : r.restarted = true)
    (apart : ∀ y ∈ between, y.connected = false) :
    ∃ due, s.liveness.nextRestartAt = some due ∧
      r.tick.restartedAt + restartSpacing (restartsSinceConnected (before ++ [r])) ≤ due := by
  obtain ⟨_, _, rfl⟩ | ⟨between', rfl, past⟩ := append_singleton_eq split
  · rw [plain] at restarted
    cases restarted
  · rw [List.forall_mem_append] at apart
    exact watched.spaced past restarted apart.1

theorem eligible_not_connected (eligible : tick.eligible = true) :
    tick.lifecycle ≠ .connected := by
  intro is
  simp [SupervisionTick.eligible, is] at eligible

theorem restartDue_times (due : l.restartDue tick.observedAt = true) :
    ∃ silent awake, l.silentSince = some silent ∧
      silent + ANDROID_LIVENESS_GRACE ≤ tick.observedAt ∧
      l.awakeSince = some awake ∧ awake + ANDROID_LIVENESS_GRACE ≤ tick.observedAt ∧
      ∀ at_, l.nextRestartAt = some at_ → at_ ≤ tick.observedAt := by
  simp only [AndroidLiveness.restartDue, Bool.and_eq_true, Option.any_eq_true, Option.all_eq_true,
    decide_eq_true_eq] at due
  obtain ⟨⟨⟨silent, is, long⟩, awake, is', long'⟩, waited⟩ := due
  have some_ : 0 < ANDROID_LIVENESS_GRACE := by decide
  have past {since now : Nat} (long : ANDROID_LIVENESS_GRACE ≤ now - since) :
      since + ANDROID_LIVENESS_GRACE ≤ now := by
    omega
  exact ⟨silent, awake, is, past long, is', past long', waited⟩

theorem step_watched (watched : Watched s) (goesOn : tick.stopping = false) :
    Watched (s.step tick) := by
  have steps := superviseAndroid_step tick s.liveness
  rw [Supervision.step]
  generalize (superviseAndroid tick s.liveness).1 = x at steps ⊢
  generalize (superviseAndroid tick s.liveness).2 = l at steps ⊢
  cases steps with
  | stopping stops =>
      rw [goesOn] at stops
      cases stops
  | connected _ is =>
      have connects : Supervised.connected ⟨tick, none, false⟩ = true := by
        simp [Supervised.connected, goesOn, is]
      refine ⟨fun is => (by cases is), fun is => (by cases is), ?_, fun {before r between} split
        restarted apart => ?_⟩
      · rw [restartsSinceConnected_append, if_pos connects]
        rfl
      · obtain ⟨_, _, rfl⟩ | ⟨between', rfl, _⟩ := append_singleton_eq split
        · cases restarted
        · rw [List.forall_mem_append, List.forall_mem_singleton, connects] at apart
          cases apart.2
  | ineligible _ other =>
      have apart : Supervised.connected ⟨tick, none, false⟩ = false := by
        simp [Supervised.connected, other]
      refine ⟨fun is => (by cases is), fun is => (by cases is), ?_, fun split restarted between =>
        watched.spaced_append rfl split restarted between⟩
      rw [restartsSinceConnected_append, if_neg (by rw [apart]; decide)]
      exact watched.count
  | silent _ eligible =>
      have apart : Supervised.connected ⟨tick, none, false⟩ = false := by
        simp [Supervised.connected, eligible_not_connected eligible]
      have saw : Supervised.sawEligible ⟨tick, none, false⟩ = true := by
        simp [Supervised.sawEligible, goesOn, eligible]
      refine ⟨fun is => ?_, fun is => ?_, ?_, fun split restarted between =>
        watched.spaced_append rfl split restarted between⟩
      · exact watched.silent_append saw (Option.some.inj is)
      · exact watched.unprobed_append rfl is
      · rw [restartsSinceConnected_append, if_neg (by rw [apart]; decide)]
        exact watched.count
  | probed _ eligible =>
      have apart : Supervised.connected ⟨tick, some tick.awake, false⟩ = false := by
        simp [Supervised.connected, eligible_not_connected eligible]
      have saw : Supervised.sawEligible ⟨tick, some tick.awake, false⟩ = true := by
        simp [Supervised.sawEligible, goesOn, eligible]
      refine ⟨fun is => ?_, fun {since} is => ?_, ?_, fun split restarted between =>
        watched.spaced_append rfl split restarted between⟩
      · exact watched.silent_append saw (Option.some.inj is)
      · cases awake : tick.awake with
        | false =>
            rw [awake] at is
            cases is
        | true =>
            rw [awake] at is
            have since : s.liveness.awakeSince.getD tick.observedAt = since := Option.some.inj is
            exact watched.awake_append rfl since
      · rw [restartsSinceConnected_append, if_neg (by rw [apart]; decide)]
        exact watched.count
  | restarted _ eligible due =>
      have apart : Supervised.connected ⟨tick, some tick.awake, true⟩ = false := by
        simp [Supervised.connected, eligible_not_connected eligible]
      have saw : Supervised.sawEligible ⟨tick, some tick.awake, true⟩ = true := by
        simp [Supervised.sawEligible, goesOn, eligible]
      have counts : restartsSinceConnected (s.past ++ [⟨tick, some tick.awake, true⟩]) =
          restartsSinceConnected s.past + 1 := by
        rw [restartsSinceConnected_append, if_neg (by rw [apart]; decide), if_pos rfl]
      have restarts : min (s.liveness.restarts + 1) (2 ^ 32 - 1) =
          min (restartsSinceConnected s.past + 1) (2 ^ 32 - 1) := by
        rw [watched.count]
        omega
      refine ⟨fun {since} is => ?_, fun is => (by cases is), ?_, fun {before r between} split
        restarted between => ?_⟩
      · have since : tick.restartedAt = since := Option.some.inj is
        refine ⟨_, _, .single, ?_, by simpa using saw⟩
        rw [← since]
        exact Nat.le_trans tick.inOrder.1 (Nat.le_trans tick.inOrder.2.1 tick.inOrder.2.2)
      · rw [counts]
        exact restarts
      · refine ⟨tick.restartedAt + androidRestartBackoff (min (s.liveness.restarts + 1)
          (2 ^ 32 - 1)), rfl, ?_⟩
        rw [restarts, androidRestartBackoff_eq]
        obtain ⟨_, rfl, rfl⟩ | ⟨between', rfl, past⟩ := append_singleton_eq split
        · refine Nat.le_of_eq ?_
          rw [counts]
        · -- the wait of an earlier restart was over
          rw [List.forall_mem_append] at between
          obtain ⟨at_, next, le⟩ := watched.spaced past restarted between.1
          obtain ⟨_, _, _, _, _, _, waited⟩ := restartDue_times due
          have waits : at_ ≤ tick.restartedAt := Nat.le_trans (waited at_ next) tick.inOrder.2.2
          exact Nat.le_trans le (Nat.le_trans waits (Nat.le_add_right ..))

/-! ### The policy -/

/-- What came before a restart. -/
structure Justified (past : List Supervised) (r : Supervised) : Prop where
  silent : ∃ first span, EndsIn (past ++ [r]) first span ∧
    first.tick.silentAt + ANDROID_LIVENESS_GRACE ≤ r.tick.observedAt ∧
    ∀ x ∈ span, x.sawEligible = true
  awake : ∃ first span, EndsIn (past ++ [r]) first span ∧
    first.tick.observedAt + ANDROID_LIVENESS_GRACE ≤ r.tick.observedAt ∧
    (∀ x ∈ span, x.probe ≠ some false) ∧ 2 ≤ span.countP (·.probe.isSome)

theorem Watched.justified (watched : Watched s)
    (restarts : (superviseAndroid tick s.liveness).1.restarted = true) :
    Justified s.past (superviseAndroid tick s.liveness).1 := by
  have steps := superviseAndroid_step tick s.liveness
  generalize (superviseAndroid tick s.liveness).1 = x at steps restarts ⊢
  generalize (superviseAndroid tick s.liveness).2 = l at steps
  cases steps with
  | stopping | connected | ineligible | silent | probed => cases restarts
  | restarted goesOn eligible due =>
      have saw : Supervised.sawEligible ⟨tick, some tick.awake, true⟩ = true := by
        simp [Supervised.sawEligible, goesOn, eligible]
      obtain ⟨silent, awake, is, long, is', long', _⟩ := restartDue_times due
      obtain ⟨first, span, ends, le, each⟩ := watched.silent_append saw (Option.some.inj is)
      refine ⟨⟨first, span, ends, Nat.le_trans (Nat.add_le_add_right le _) long, each⟩, ?_⟩
      cases reports : tick.awake with
      | false =>
          rw [reports] at is'
          cases is'
      | true =>
          rw [reports] at is'
          have since : s.liveness.awakeSince.getD tick.observedAt = awake := Option.some.inj is'
          obtain ⟨first, span, ends, at_, probe, each⟩ :=
            watched.awake_append (x := ⟨tick, some true, true⟩) rfl since
          refine ⟨first, span, ends, at_ ▸ long', each, ?_⟩
          obtain ⟨rfl, _⟩ | ⟨middle, rfl⟩ := ends.cases
          · -- the first of the probes is not the last, which came later
            have short : tick.observedAt = awake := at_
            rw [short] at long'
            exact absurd long' (Nat.not_le_of_gt (Nat.lt_add_of_pos_right (by decide)))
          · rw [List.countP_cons_of_pos (by rw [probe]; rfl), List.countP_append,
              List.countP_singleton]
            simp

theorem Watched.waits (watched : Watched s) {before between : List Supervised} {r : Supervised}
    (past : s.past = before ++ r :: between) (restarted : r.restarted = true)
    (apart : ∀ x ∈ between, x.connected = false)
    (restarts : (superviseAndroid tick s.liveness).1.restarted = true) :
    r.tick.restartedAt + restartSpacing (restartsSinceConnected (before ++ [r])) ≤
      (superviseAndroid tick s.liveness).1.tick.restartedAt := by
  obtain ⟨at_, next, le⟩ := watched.spaced past restarted apart
  have steps := superviseAndroid_step tick s.liveness
  generalize (superviseAndroid tick s.liveness).1 = x at steps restarts ⊢
  generalize (superviseAndroid tick s.liveness).2 = l at steps
  cases steps with
  | stopping | connected | ineligible | silent | probed => cases restarts
  | restarted goesOn eligible due =>
      obtain ⟨_, _, _, _, _, _, waited⟩ := restartDue_times due
      exact Nat.le_trans le (Nat.le_trans (waited at_ next) tick.inOrder.2.2)

end

/-- Every restart is justified by what came before, and none comes before the wait behind an earlier
one is over. -/
structure Policy (past : List Supervised) : Prop where
  justified : ∀ {before r later}, past = before ++ r :: later → r.restarted = true →
    Justified before r
  spaced : ∀ {before r between r' later}, past = before ++ r :: (between ++ r' :: later) →
    r.restarted = true → r'.restarted = true → (∀ x ∈ between, x.connected = false) →
    r.tick.restartedAt + restartSpacing (restartsSinceConnected (before ++ [r])) ≤
      r'.tick.restartedAt

theorem Policy.append {past : List Supervised} {x : Supervised} (policy : Policy past)
    (justified : x.restarted = true → Justified past x)
    (waits : x.restarted = true → ∀ {before r between}, past = before ++ r :: between →
      r.restarted = true → (∀ y ∈ between, y.connected = false) →
      r.tick.restartedAt + restartSpacing (restartsSinceConnected (before ++ [r])) ≤
        x.tick.restartedAt) : Policy (past ++ [x]) where
  justified split restarted := by
    obtain ⟨_, rfl, rfl⟩ | ⟨later, _, was⟩ := append_singleton_eq split
    · exact justified restarted
    · exact policy.justified was restarted
  spaced {before r between r' later} split restarted restarted' apart := by
    have split' : past ++ [x] = (before ++ r :: between) ++ r' :: later := by
      rw [split, List.append_assoc, List.cons_append]
    obtain ⟨_, rfl, rfl⟩ | ⟨later', rfl, was⟩ := append_singleton_eq split'
    · exact waits restarted' rfl restarted apart
    · rw [List.append_assoc, List.cons_append] at was
      exact policy.spaced was restarted restarted' apart

theorem run_append {ticks : List SupervisionTick} {tick : SupervisionTick} :
    Supervision.run (ticks ++ [tick]) = (Supervision.run ticks).step tick := by
  rw [Supervision.run, List.foldl_append]
  rfl

theorem run_policy {ticks : List SupervisionTick}
    (inOrder : ticks.Pairwise SupervisionTick.Before) :
    Policy (Supervision.run ticks).past ∧
      ((∀ tick ∈ ticks, tick.stopping = false) → Watched (Supervision.run ticks)) := by
  induction ticks using List.reverseRecOn with
  | nil => exact ⟨⟨fun split => by simp [Supervision.run, Supervision.initial] at split,
      fun split => by simp [Supervision.run, Supervision.initial] at split⟩,
      fun _ => initial_watched⟩
  | append_singleton ticks tick ih =>
      obtain ⟨inOrder, _, before⟩ := List.pairwise_append.mp inOrder
      obtain ⟨policy, watched⟩ := ih inOrder
      rw [run_append]
      cases stopping : tick.stopping with
      | true =>
          have plain : (superviseAndroid tick (Supervision.run ticks).liveness).1.restarted =
              false := by
            rw [superviseAndroid, if_pos stopping]
          refine ⟨policy.append (fun restarted => ?_) (fun restarted => ?_), fun none_ => ?_⟩
          · rw [plain] at restarted
            cases restarted
          · rw [plain] at restarted
            cases restarted
          · have goesOn := none_ tick (by simp)
            rw [stopping] at goesOn
            cases goesOn
      | false =>
          -- the flag is set once, so no tick before was stopped
          have earlier : ∀ t ∈ ticks, t.stopping = false := by
            intro t member
            rw [← Bool.not_eq_true]
            intro stops
            have later := (before t member tick (by simp)).2 stops
            rw [stopping] at later
            cases later
          have watched := watched earlier
          exact ⟨policy.append watched.justified fun restarted {_ _ _} past restarted' apart =>
            watched.waits past restarted' apart restarted, fun _ => step_watched watched stopping⟩

/-- Over all ticks: before a restart every tick of a span of at least the grace saw the lane
degraded and the headset eligible, and of a span of at least the grace every probe, of at
least two, reported it awake. The `k`-th restart behind the last connected tick is followed by
the next, whatever ticks come between, not before its wait is over. A headset that never
reports to be awake is never restarted. -/
theorem restart_policy {ticks : List SupervisionTick}
    (inOrder : ticks.Pairwise SupervisionTick.Before) :
    (∀ before r later, (Supervision.run ticks).past = before ++ r :: later → r.restarted = true →
      (∃ first span, EndsIn (before ++ [r]) first span ∧
        first.tick.silentAt + ANDROID_LIVENESS_GRACE ≤ r.tick.observedAt ∧
        ∀ x ∈ span, x.sawEligible = true) ∧
      ∃ first span, EndsIn (before ++ [r]) first span ∧
        first.tick.observedAt + ANDROID_LIVENESS_GRACE ≤ r.tick.observedAt ∧
        (∀ x ∈ span, x.probe ≠ some false) ∧ 2 ≤ span.countP (·.probe.isSome)) ∧
    (∀ before r between r' later,
      (Supervision.run ticks).past = before ++ r :: (between ++ r' :: later) →
      r.restarted = true → r'.restarted = true → (∀ x ∈ between, x.connected = false) →
      r.tick.restartedAt + restartSpacing (restartsSinceConnected (before ++ [r])) ≤
        r'.tick.restartedAt) ∧
    ((∀ x ∈ (Supervision.run ticks).past, x.probe ≠ some true) →
      ∀ x ∈ (Supervision.run ticks).past, x.restarted = false) := by
  obtain ⟨policy, _⟩ := run_policy inOrder
  refine ⟨fun before r later split restarted => ?_, fun before r between r' later split restarted
    restarted' apart => policy.spaced split restarted restarted' apart, fun asleep x member => ?_⟩
  · have justified := policy.justified split restarted
    exact ⟨justified.silent, justified.awake⟩
  · rw [← Bool.not_eq_true]
    intro restarted
    obtain ⟨before, later, split⟩ := List.append_of_mem member
    obtain ⟨first, span, ends, _, each, two⟩ := (policy.justified split restarted).awake
    obtain ⟨y, there, probed⟩ := List.countP_pos_iff.mp (Nat.lt_of_lt_of_le Nat.zero_lt_two two)
    have past : y ∈ (Supervision.run ticks).past := by
      have known := ends.1.subset there
      rw [split, List.append_cons]
      exact List.mem_append_left _ known
    obtain ⟨reported, is⟩ := Option.isSome_iff_exists.mp probed
    cases reported with
    | false => exact each y there is
    | true => exact asleep y past is

/-- A tick that finds the headset silent and awake. -/
def awakeTick (now : Instant) : SupervisionTick where
  stopping := false
  lifecycle := .degraded
  deviceAvailable := true
  recovery := .idle
  silentAt := now
  dueAt := now
  awake := true
  observedAt := now
  stopped := false
  restartedAt := now
  inOrder := ⟨Nat.le_refl _, Nat.le_refl _, Nat.le_refl _⟩

/-- The second of two ticks at the distance of the grace restarts the headset. -/
theorem restart_policy_two :
    (Supervision.run [awakeTick 0, awakeTick (10 * 10 ^ 9)]).past.map (·.restarted) =
      [false, true] ∧
    ∀ before r later, (Supervision.run [awakeTick 0, awakeTick (10 * 10 ^ 9)]).past =
      before ++ r :: later → r.restarted = true → ∃ first span, EndsIn (before ++ [r]) first span ∧
        first.tick.silentAt + ANDROID_LIVENESS_GRACE ≤ r.tick.observedAt := by
  refine ⟨by decide +kernel, fun before r later split restarted => ?_⟩
  have inOrder : [awakeTick 0, awakeTick (10 * 10 ^ 9)].Pairwise SupervisionTick.Before := by
    simp [SupervisionTick.Before, awakeTick]
  obtain ⟨⟨first, span, ends, long, _⟩, _⟩ :=
    (restart_policy inOrder).1 before r later split restarted
  exact ⟨first, span, ends, long⟩

/-! ### The monitor -/

/-- The steps of the monitor in `supervise_android` are those of a tick. -/
theorem superviseAndroid_monitor {m : Monitor} {e : HostEnv} {tick : SupervisionTick}
    {s s' : Segment}
    (goesOn : e.stopping = false) (goesOn' : tick.stopping = false)
    (device : tick.deviceAvailable = cachedDeviceIsAvailable m.deviceAvailable)
    (recovery : tick.recovery = e.transportRecovery.state) (due : tick.dueAt = tick.silentAt)
    (supervised : s = m.onSupervise e tick.lifecycle tick.silentAt)
    (probed : s' = s.monitor.onHeadset s.env tick.awake tick.observedAt) :
    (s.monitor.pc = .selecting ∧
      superviseAndroid tick e.androidLiveness = (⟨tick, none, false⟩, s.env.androidLiveness)) ∨
    s.monitor.pc = .headsetProbing ∧
      ((s'.monitor.pc = .restarting ∧ tick.stopped = false ∧
        superviseAndroid tick e.androidLiveness =
          (⟨tick, some tick.awake, true⟩, s'.env.androidLiveness.restarted tick.restartedAt)) ∨
      (s'.monitor.pc = .selecting ∨ tick.stopped = true) ∧
        superviseAndroid tick e.androidLiveness =
          (⟨tick, some tick.awake, false⟩, s'.env.androidLiveness)) := by
  have ends (e' : HostEnv) (same : e'.stopping = e.stopping) :
      (m.loopEnd e').monitor.pc = .selecting := by
    rw [Monitor.loopEnd, same, goesOn]
    rfl
  have first : s = if tick.lifecycle = .connected then
        m.loopEnd (e.updateAndroidLiveness .connected)
      else if tick.lifecycle ≠ .degraded ∨ ¬tick.deviceAvailable ∨ tick.recovering then
        m.loopEnd (e.updateAndroidLiveness .ineligible)
      else if (e.androidLiveness.silent tick.silentAt).probeDue tick.dueAt then
        m.goto (e.updateAndroidLiveness (·.silent tick.silentAt)) .headsetProbing
      else m.loopEnd (e.updateAndroidLiveness (·.silent tick.silentAt)) := by
    simp only [SupervisionTick.recovering, recovery, device, due, decide_eq_true_eq]
    exact supervised
  rw [superviseAndroid, if_neg (by rw [goesOn']; decide)]
  split
  · rename_i is
    rw [if_pos is] at first
    rw [first]
    exact .inl ⟨ends _ rfl, rfl⟩
  · rename_i other
    rw [if_neg other] at first
    split
    · rename_i apart
      rw [if_pos apart] at first
      rw [first]
      exact .inl ⟨ends _ rfl, rfl⟩
    · rename_i eligible
      rw [if_neg eligible] at first
      dsimp only
      split
      · rename_i probes
        rw [if_pos probes] at first
        have second : s' = if ((e.androidLiveness.silent tick.silentAt).observed tick.awake
              tick.observedAt).restartDue tick.observedAt then
            (s.monitor).goto (s.env.updateAndroidLiveness (·.observed tick.awake tick.observedAt))
              .restarting
          else s.monitor.loopEnd
            (s.env.updateAndroidLiveness (·.observed tick.awake tick.observedAt)) := by
          rw [probed, first]
          rfl
        refine .inr ⟨by rw [first]; rfl, ?_⟩
        split
        · rename_i restarts
          rw [if_pos restarts.1] at second
          rw [second, first]
          exact .inl ⟨rfl, by simpa using restarts.2, rfl⟩
        · rename_i stays
          rw [not_and_or, not_not] at stays
          by_cases due' : ((e.androidLiveness.silent tick.silentAt).observed tick.awake
              tick.observedAt).restartDue tick.observedAt = true
          · rw [if_pos due'] at second
            rw [second, first]
            exact .inr ⟨.inr (stays.resolve_left (not_not.mpr due')), rfl⟩
          · rw [if_neg due'] at second
            rw [second, first]
            refine .inr ⟨.inl ?_, rfl⟩
            rw [Monitor.loopEnd]
            exact (congrArg (fun stops : Bool => if stops then MonitorPc.returned
              else .selecting) goesOn)
      · rename_i rests
        rw [if_neg rests] at first
        rw [first]
        exact .inl ⟨ends _ rfl, rfl⟩

end QuestVdWired.Host
