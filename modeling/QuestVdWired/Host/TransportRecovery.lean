import QuestVdWired.Host.RelayGateController

/-!
The transport recovery state, one operation for each critical section of its
mutex. An operation that refuses says so in its result and, as the source has it,
may still have written the state; that none does is proved, not assumed.
-/

namespace QuestVdWired.Host

def TRANSPORT_RECOVERY_MAX_ATTEMPTS : Nat := 2

inductive TransportRecoveryState
  | idle | pending | waitingForDevice | rebuildingMappings | awaitingControl | recovered
  | failed
  deriving DecidableEq, Repr

inductive TransportRecoveryTrigger
  | hostResume | usbReconnect
  deriving DecidableEq, Repr

structure TransportRecoverySnapshot where
  generation : Nat
  attempt : Nat
  state : TransportRecoveryState
  trigger : Option TransportRecoveryTrigger
  deriving DecidableEq, Repr

namespace TransportRecoverySnapshot

/-- `TransportRecoverySnapshot::default`. -/
def initial : TransportRecoverySnapshot := ⟨0, 0, .idle, none⟩

def requiresRecovery (r : TransportRecoverySnapshot) : Bool :=
  r.state ∈ [.pending, .waitingForDevice, .rebuildingMappings, .failed]

/-- A new generation, to be recovered from its first attempt. -/
def renew (r : TransportRecoverySnapshot) (trigger : TransportRecoveryTrigger) :
    TransportRecoverySnapshot :=
  { generation := wrappingSucc r.generation, attempt := 0, state := .pending,
    trigger := some trigger }

/-- `notify_transport_recovery`. -/
def notify (r : TransportRecoverySnapshot) (trigger : TransportRecoveryTrigger) :
    TransportRecoverySnapshot :=
  r.renew trigger

/-- `rearm_failed_transport`. -/
def rearmFailed (r : TransportRecoverySnapshot) (generation : Nat)
    (trigger : TransportRecoveryTrigger) : Option Nat × TransportRecoverySnapshot :=
  if r.generation ≠ generation ∨ r.state ≠ .failed then (none, r)
  else (some (wrappingSucc r.generation), r.renew trigger)

/-- `rearm_failed_transport_from_authenticated_control`. -/
def rearmAuthenticated (r : TransportRecoverySnapshot) :
    Option (Nat × Nat × TransportRecoveryTrigger) × TransportRecoverySnapshot :=
  if r.state ≠ .failed then (none, r)
  else
    match r.trigger with
    | none => (none, r)
    | some trigger =>
        (some (r.generation, wrappingSucc r.generation, trigger),
          { r with
            generation := wrappingSucc r.generation
            attempt := 1
            state := .awaitingControl })

/-- `wait_for_recovery_device`. -/
def waitForDevice (r : TransportRecoverySnapshot) : TransportRecoverySnapshot :=
  { r with attempt := 0, state := .waitingForDevice }

/-- `begin_transport_recovery_attempt`. The trigger is read after the state was
written. -/
def beginAttempt (r : TransportRecoverySnapshot) :
    Option (Nat × Nat × TransportRecoveryTrigger) × TransportRecoverySnapshot :=
  if r.state ∉ [.pending, .waitingForDevice] ∨ TRANSPORT_RECOVERY_MAX_ATTEMPTS ≤ r.attempt
  then (none, r)
  else
    let begun := { r with attempt := r.attempt + 1, state := .rebuildingMappings }
    (begun.trigger.map fun trigger => (begun.generation, begun.attempt, trigger), begun)

/-- The state after a failed attempt or an unanswered one, and whether there is
another. -/
def failAttempt (r : TransportRecoverySnapshot) : Bool × TransportRecoverySnapshot :=
  if r.attempt < TRANSPORT_RECOVERY_MAX_ATTEMPTS then (true, { r with state := .pending })
  else (false, { r with state := .failed })

/-- `finish_transport_recovery_attempt`. -/
def finishAttempt (r : TransportRecoverySnapshot) (generation : Nat) (succeeded : Bool) :
    Bool × TransportRecoverySnapshot :=
  if r.generation ≠ generation then (false, r)
  else if succeeded then (false, { r with state := .awaitingControl })
  else r.failAttempt

/-- `complete_authenticated_transport_recovery`. -/
def complete (r : TransportRecoverySnapshot) : Bool × TransportRecoverySnapshot :=
  if r.state ≠ .awaitingControl then (false, r)
  else
    match r.trigger with
    | none => (false, r)
    | some _ => (true, { r with state := .recovered })

/-- `expire_transport_recovery_control`. -/
def expireControl (r : TransportRecoverySnapshot) (generation attempt : Nat) :
    Option Bool × TransportRecoverySnapshot :=
  if r.generation ≠ generation ∨ r.attempt ≠ attempt ∨ r.state ≠ .awaitingControl then
    (none, r)
  else (some r.failAttempt.1, r.failAttempt.2)

/-- What every reachable recovery state satisfies. -/
structure WellFormed (r : TransportRecoverySnapshot) : Prop where
  attempt : r.attempt ≤ TRANSPORT_RECOVERY_MAX_ATTEMPTS
  trigger : r.state ≠ .idle → r.trigger.isSome = true

theorem wrappingSucc_of_lt {n : Nat} (below : n + 1 < 2 ^ 64) : wrappingSucc n = n + 1 :=
  Nat.mod_eq_of_lt below

theorem wellFormed_initial : WellFormed initial := ⟨by decide, fun h => absurd rfl h⟩

theorem wellFormed_renew (r : TransportRecoverySnapshot) (trigger : TransportRecoveryTrigger) :
    WellFormed (r.renew trigger) :=
  ⟨Nat.zero_le _, fun _ => rfl⟩

theorem rearmFailed_cases (r : TransportRecoverySnapshot) (generation : Nat)
    (trigger : TransportRecoveryTrigger) :
    r.rearmFailed generation trigger = (none, r) ∨
      (r.generation = generation ∧ r.state = .failed ∧
        r.rearmFailed generation trigger =
          (some (wrappingSucc r.generation), r.renew trigger)) := by
  unfold rearmFailed
  split
  · exact Or.inl rfl
  · rename_i ready
    obtain ⟨same, failed⟩ := not_or.mp ready
    exact Or.inr ⟨Classical.not_not.mp same, Classical.not_not.mp failed, rfl⟩

theorem rearmAuthenticated_cases (r : TransportRecoverySnapshot) :
    r.rearmAuthenticated = (none, r) ∨
      (r.state = .failed ∧ ∃ trigger, r.trigger = some trigger ∧
        r.rearmAuthenticated =
          (some (r.generation, wrappingSucc r.generation, trigger),
            { r with
              generation := wrappingSucc r.generation
              attempt := 1
              state := .awaitingControl })) := by
  unfold rearmAuthenticated
  split
  · exact Or.inl rfl
  · rename_i failed
    split
    · exact Or.inl rfl
    · rename_i trigger found
      exact Or.inr ⟨Classical.not_not.mp failed, trigger, found, rfl⟩

/-- An attempt that is refused changes nothing, given a trigger. -/
theorem beginAttempt_cases {r : TransportRecoverySnapshot} (wf : r.WellFormed) :
    r.beginAttempt = (none, r) ∨
      (r.state ∈ [.pending, .waitingForDevice] ∧
        r.attempt < TRANSPORT_RECOVERY_MAX_ATTEMPTS ∧ ∃ trigger, r.trigger = some trigger ∧
        r.beginAttempt =
          (some (r.generation, r.attempt + 1, trigger),
            { r with attempt := r.attempt + 1, state := .rebuildingMappings })) := by
  unfold beginAttempt
  split
  · exact Or.inl rfl
  · rename_i ready
    obtain ⟨state, attempt⟩ := not_or.mp ready
    have state := Classical.not_not.mp state
    have present : r.trigger.isSome = true := wf.trigger (by rintro idle; simp [idle] at state)
    obtain ⟨trigger, found⟩ := Option.isSome_iff_exists.mp present
    exact Or.inr ⟨state, Nat.not_le.mp attempt, trigger, found, by simp [found]⟩

theorem failAttempt_cases (r : TransportRecoverySnapshot) :
    (r.attempt < TRANSPORT_RECOVERY_MAX_ATTEMPTS ∧
        r.failAttempt = (true, { r with state := .pending })) ∨
      (TRANSPORT_RECOVERY_MAX_ATTEMPTS ≤ r.attempt ∧
        r.failAttempt = (false, { r with state := .failed })) := by
  unfold failAttempt
  split
  · exact Or.inl ⟨‹_›, rfl⟩
  · exact Or.inr ⟨Nat.not_lt.mp ‹_›, rfl⟩

theorem finishAttempt_stale {r : TransportRecoverySnapshot} {generation : Nat}
    (stale : r.generation ≠ generation) (succeeded : Bool) :
    r.finishAttempt generation succeeded = (false, r) := by
  simp [finishAttempt, stale]

theorem expireControl_cases (r : TransportRecoverySnapshot) (generation attempt : Nat) :
    r.expireControl generation attempt = (none, r) ∨
      (r.generation = generation ∧ r.attempt = attempt ∧ r.state = .awaitingControl ∧
        r.expireControl generation attempt = (some r.failAttempt.1, r.failAttempt.2)) := by
  unfold expireControl
  split
  · exact Or.inl rfl
  · rename_i ready
    simp only [not_or, ne_eq, Classical.not_not] at ready
    exact Or.inr ⟨ready.1, ready.2.1, ready.2.2, rfl⟩

theorem expireControl_stale {r : TransportRecoverySnapshot} {generation : Nat}
    (stale : r.generation ≠ generation) (attempt : Nat) :
    r.expireControl generation attempt = (none, r) := by
  simp [expireControl, stale]

theorem complete_cases (r : TransportRecoverySnapshot) :
    ((r.state ≠ .awaitingControl ∨ r.trigger = none) ∧ r.complete = (false, r)) ∨
      (r.state = .awaitingControl ∧ r.complete = (true, { r with state := .recovered })) := by
  unfold complete
  split
  · exact Or.inl ⟨Or.inl ‹_›, rfl⟩
  · rename_i awaiting
    split
    · exact Or.inl ⟨Or.inr ‹_›, rfl⟩
    · exact Or.inr ⟨Classical.not_not.mp awaiting, rfl⟩

theorem not_requiresRecovery_awaiting {r : TransportRecoverySnapshot}
    (required : r.requiresRecovery = true) :
    r.state ≠ .awaitingControl ∧ r.state ≠ .recovered := by
  simp only [requiresRecovery, decide_eq_true_eq] at required
  constructor <;> (intro state; simp [state] at required)

end TransportRecoverySnapshot
end QuestVdWired.Host
