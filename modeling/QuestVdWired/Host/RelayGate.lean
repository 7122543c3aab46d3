import QuestVdWired.Host.Protocol

/-!
The relay gate: the watch value that relay flows lease. Every operation is a
`send_if_modified` closure; `none` is the closure that reports no modification,
after which the channel keeps its value and wakes nobody.
-/

namespace QuestVdWired.Host

structure RelayGateState where
  enabled : Bool
  awaitingActivation : Bool
  generation : Nat
  deriving DecidableEq, Repr

namespace RelayGateState

/-- `RelayGateState::default`. -/
def initial : RelayGateState := ⟨false, false, 0⟩

/-- `u64::saturating_add(1)`. -/
def saturatingSucc (generation : Nat) : Nat := min (generation + 1) (2 ^ 64 - 1)

inductive Operation
  | setEnabled (enabled : Bool)
  | waitForActivation
  | invalidateAndWaitForActivation
  deriving DecidableEq, Repr

def modify (gate : RelayGateState) : Operation → Option RelayGateState
  | .setEnabled enabled =>
      if gate.enabled = enabled ∧ ¬ gate.awaitingActivation then none
      else some ⟨enabled, false, saturatingSucc gate.generation⟩
  | .waitForActivation =>
      if gate.enabled ∨ gate.awaitingActivation then none
      else some { gate with
        awaitingActivation := true
        generation := saturatingSucc gate.generation }
  | .invalidateAndWaitForActivation =>
      if ¬ gate.enabled ∧ gate.awaitingActivation then none
      else some ⟨false, true, saturatingSucc gate.generation⟩

def apply (gate : RelayGateState) (op : Operation) : RelayGateState :=
  (gate.modify op).getD gate

def setEnabled (gate : RelayGateState) (enabled : Bool) : RelayGateState :=
  gate.apply (.setEnabled enabled)

def waitForActivation (gate : RelayGateState) : RelayGateState :=
  gate.apply .waitForActivation

def invalidateAndWaitForActivation (gate : RelayGateState) : RelayGateState :=
  gate.apply .invalidateAndWaitForActivation

def activeGeneration (gate : RelayGateState) : Option Nat :=
  if gate.enabled then some gate.generation else none

/-- The test on which `wait_for_invalidation` returns. -/
def Invalidated (gate : RelayGateState) (lease : Nat) : Prop :=
  gate.enabled = false ∨ gate.generation ≠ lease

instance (gate : RelayGateState) (lease : Nat) : Decidable (gate.Invalidated lease) :=
  inferInstanceAs (Decidable (_ ∨ _))

/-- `wait_for_invalidation` over the values its receiver gets to see. The watch
channel coalesces, so these are some of the values the gate took, in order. -/
def waitForInvalidation (lease : Nat) : List RelayGateState → Bool
  | [] => false
  | seen :: later => decide (seen.Invalidated lease) || waitForInvalidation lease later

def run (gate : RelayGateState) (ops : List Operation) : RelayGateState :=
  ops.foldl apply gate

/-- How often a sequence of operations moves the generation. -/
def bumps (gate : RelayGateState) : List Operation → Nat
  | [] => 0
  | op :: ops => (if (gate.modify op).isSome then 1 else 0) + bumps (gate.apply op) ops

/-- The operation finds the gate enabled and leaves it disabled. -/
def Disables (gate : RelayGateState) (op : Operation) : Prop :=
  gate.enabled = true ∧ (gate.apply op).enabled = false

attribute [local grind =] waitForInvalidation bumps

theorem run_append (gate : RelayGateState) (ops more : List Operation) :
    gate.run (ops ++ more) = (gate.run ops).run more := List.foldl_append

theorem bumps_append (gate : RelayGateState) (ops more : List Operation) :
    gate.bumps (ops ++ more) = gate.bumps ops + (gate.run ops).bumps more := by
  induction ops generalizing gate with
  | nil => simp [bumps, run]
  | cons op ops ih =>
      simp only [List.cons_append, bumps, ih, run, List.foldl_cons]
      omega

theorem modify_generation {gate next : RelayGateState} {op : Operation}
    (h : gate.modify op = some next) : next.generation = saturatingSucc gate.generation := by
  cases op <;> simp only [modify] at h <;> split at h <;> cases h <;> rfl

theorem modify_exclusive {gate next : RelayGateState} {op : Operation}
    (h : gate.modify op = some next) :
    ¬ (next.enabled = true ∧ next.awaitingActivation = true) := by
  cases op <;> simp only [modify] at h <;> split at h <;> cases h <;> simp_all

theorem modify_of_enabled {gate next : RelayGateState} {op : Operation}
    (h : gate.modify op = some next) (enabled : gate.enabled = true)
    (exclusive : ¬ (gate.enabled = true ∧ gate.awaitingActivation = true)) :
    next.enabled = false := by
  cases op with
  | setEnabled value =>
      simp only [modify] at h
      split at h
      · cases h
      · cases h
        cases value <;> simp_all
  | waitForActivation => simp [modify, enabled] at h
  | invalidateAndWaitForActivation =>
      simp only [modify] at h
      split at h <;> cases h
      rfl

/-- The facts a gate keeps after `n` bumps. -/
structure Reached (n : Nat) (gate : RelayGateState) : Prop where
  generation : gate.generation = min n (2 ^ 64 - 1)
  exclusive : ¬ (gate.enabled = true ∧ gate.awaitingActivation = true)

theorem reached_apply {n : Nat} {gate : RelayGateState} (h : Reached n gate)
    (op : Operation) :
    Reached (n + if (gate.modify op).isSome then 1 else 0) (gate.apply op) := by
  unfold apply
  cases hm : gate.modify op with
  | none => simpa using h
  | some next =>
      refine ⟨?_, modify_exclusive hm⟩
      have := modify_generation hm
      simp only [Option.getD_some, Option.isSome_some, if_true, this, h.generation,
        saturatingSucc]
      omega

theorem reached_run {n : Nat} {gate : RelayGateState} (h : Reached n gate)
    (ops : List Operation) : Reached (n + gate.bumps ops) (gate.run ops) := by
  induction ops generalizing n gate with
  | nil => simpa [bumps, run] using h
  | cons op ops ih =>
      have := ih (reached_apply h op)
      simpa [bumps, run, Nat.add_assoc] using this

theorem reached_initial (ops : List Operation) :
    Reached (initial.bumps ops) (initial.run ops) := by
  have start : Reached 0 initial := ⟨by simp [initial], by simp [initial]⟩
  simpa using reached_run start ops

/-- While a gate is enabled an operation either leaves it alone or disables it. -/
theorem apply_of_enabled {gate : RelayGateState} (enabled : gate.enabled = true)
    (exclusive : ¬ (gate.enabled = true ∧ gate.awaitingActivation = true))
    (op : Operation) : gate.apply op = gate ∨
      ((gate.modify op).isSome = true ∧ Disables gate op) := by
  cases hm : gate.modify op with
  | none => exact Or.inl (by simp [apply, hm])
  | some next =>
      refine Or.inr ⟨rfl, enabled, ?_⟩
      simpa [apply, hm] using modify_of_enabled hm enabled exclusive

/-- Either some operation of the sequence disabled the gate, and then its
generation moved, or the gate never changed. -/
theorem run_of_enabled {n : Nat} {gate : RelayGateState} (reached : Reached n gate)
    (enabled : gate.enabled = true) (ops : List Operation) :
    (gate.bumps ops = 0 ∧ gate.run ops = gate ∧
        ∀ l op r, ops = l ++ op :: r → ¬ Disables (gate.run l) op) ∨
      (0 < gate.bumps ops ∧ ∃ l op r, ops = l ++ op :: r ∧ Disables (gate.run l) op) := by
  induction ops with
  | nil => exact Or.inl ⟨rfl, rfl, by simp⟩
  | cons op ops ih =>
      rcases apply_of_enabled enabled reached.exclusive op with same | ⟨moved, disables⟩
      · have still : gate.modify op = none := by
          cases hm : gate.modify op with
          | none => rfl
          | some next =>
              have off := modify_of_enabled hm enabled reached.exclusive
              simp [apply, hm] at same
              simp [same, enabled] at off
        have unmoved : gate.bumps (op :: ops) = gate.bumps ops := by
          simp [bumps, still, same]
        have through : ∀ l, gate.run (op :: l) = gate.run l := by
          intro l
          simp [run, same]
        rw [unmoved]
        rcases ih with ⟨zero, stays, never⟩ | ⟨positive, l, op', r, rfl, h⟩
        · refine Or.inl ⟨zero, (through ops).trans stays, ?_⟩
          intro l op' r split
          cases l with
          | nil =>
              cases split
              intro disables
              simp [Disables, run, same] at disables
          | cons head l =>
              cases split
              rw [through]
              exact never l op' r rfl
        · exact Or.inr ⟨positive, op :: l, op', r, rfl, by rw [through]; exact h⟩
      · refine Or.inr ⟨?_, [], op, ops, rfl, disables⟩
        simp only [bumps, moved, if_true]
        omega

theorem invalidated_iff_bumped {n : Nat} {gate : RelayGateState} (reached : Reached n gate)
    (enabled : gate.enabled = true) (ops : List Operation)
    (bound : n + gate.bumps ops < 2 ^ 64) :
    (gate.run ops).Invalidated gate.generation ↔ 0 < gate.bumps ops := by
  have later := reached_run reached ops
  rcases run_of_enabled reached enabled ops with ⟨zero, same, _⟩ | ⟨positive, _⟩
  · simp [Invalidated, same, enabled, zero]
  · refine ⟨fun _ => positive, fun _ => Or.inr ?_⟩
    rw [later.generation, reached.generation]
    omega

theorem waitForInvalidation_iff {lease : Nat} {seen : List RelayGateState} :
    waitForInvalidation lease seen = true ↔ ∃ gate ∈ seen, gate.Invalidated lease := by
  induction seen with
  | nil => simp [waitForInvalidation]
  | cons gate seen ih => simp [waitForInvalidation, ih]

/-- Leases are sound. A flow that leased the gate after `before` finds its lease
invalidated after `after` exactly when an operation of `after` disabled the
gate; that verdict is final; a watcher that has seen the current value reaches
it whatever values the channel coalesced away; re-enabling an enabled gate and
waiting for activation never invalidate. -/
theorem relay_lease_sound (before after : List Operation) (lease : Nat)
    (leased : (initial.run before).activeGeneration = some lease)
    (bound : initial.bumps (before ++ after) < 2 ^ 64) :
    let gate := initial.run before
    let later := initial.run (before ++ after)
    (later.Invalidated lease ↔
        ∃ l op r, after = l ++ op :: r ∧ Disables (gate.run l) op) ∧
      (later.Invalidated lease → ∀ rest, initial.bumps (before ++ after ++ rest) < 2 ^ 64 →
        (initial.run (before ++ after ++ rest)).Invalidated lease) ∧
      (∀ seen : List RelayGateState, later ∈ seen →
        (∀ value ∈ seen, ∃ l r, after = l ++ r ∧ value = gate.run l) →
        (waitForInvalidation lease seen = true ↔ later.Invalidated lease)) ∧
      (¬ later.Invalidated lease →
        ¬ (later.setEnabled true).Invalidated lease ∧
          ¬ later.waitForActivation.Invalidated lease) ∧
      ¬ (later.enabled = true ∧ later.awaitingActivation = true) := by
  intro gate later
  have reached : Reached (initial.bumps before) gate := reached_initial before
  have reachedLater := reached_initial (before ++ after)
  obtain ⟨enabled, rfl⟩ : gate.enabled = true ∧ gate.generation = lease := by
    simp only [activeGeneration] at leased
    split at leased
    · exact ⟨by assumption, Option.some.inj leased⟩
    · cases leased
  have bumped : ∀ ops, initial.bumps (before ++ ops) < 2 ^ 64 →
      ((initial.run (before ++ ops)).Invalidated gate.generation ↔ 0 < gate.bumps ops) := by
    intro ops small
    rw [run_append]
    rw [bumps_append] at small
    exact invalidated_iff_bumped reached enabled ops small
  refine ⟨?_, ?_, ?_, ?_, reachedLater.exclusive⟩
  · rw [bumped after bound]
    rcases run_of_enabled reached enabled after with ⟨zero, _, never⟩ | ⟨positive, found⟩
    · refine ⟨fun h => absurd h (by omega), ?_⟩
      rintro ⟨l, op, r, split, disables⟩
      exact absurd disables (never l op r split)
    · exact ⟨fun _ => found, fun _ => positive⟩
  · intro invalid rest small
    rw [bumped after bound] at invalid
    rw [List.append_assoc] at small ⊢
    rw [bumped _ small, bumps_append]
    omega
  · intro seen current visited
    rw [waitForInvalidation_iff]
    refine ⟨?_, fun h => ⟨later, current, h⟩⟩
    rintro ⟨value, member, invalid⟩
    obtain ⟨l, r, rfl, rfl⟩ := visited value member
    have whole : initial.bumps (before ++ (l ++ r)) =
        initial.bumps before + gate.bumps (l ++ r) := bumps_append initial before (l ++ r)
    have part : initial.bumps (before ++ l) = initial.bumps before + gate.bumps l :=
      bumps_append initial before l
    have inner := bumps_append gate l r
    have small : initial.bumps (before ++ l) < 2 ^ 64 := by omega
    rw [bumped _ bound]
    rw [← run_append, bumped l small] at invalid
    omega
  · intro valid
    have on : later.enabled = true := by
      by_contra off
      exact valid (Or.inl (by simpa using off))
    have off : later.awaitingActivation = false := by
      by_contra waiting
      exact reachedLater.exclusive ⟨on, by simpa using waiting⟩
    constructor
    · simpa [setEnabled, apply, modify, on, off] using valid
    · simpa [RelayGateState.waitForActivation, apply, modify, on] using valid

theorem relay_lease_sound_after_reenable :
    let ops : List Operation := [.setEnabled false, .setEnabled true]
    (initial.run ([.setEnabled true] ++ ops)).enabled = true ∧
      (initial.run ([.setEnabled true] ++ ops)).Invalidated 1 := by
  refine ⟨by decide, ?_⟩
  exact (relay_lease_sound [.setEnabled true] [.setEnabled false, .setEnabled true] 1
    (by decide) (by decide)).1.mpr ⟨[], .setEnabled false, _, rfl, by decide, by decide⟩

end RelayGateState
end QuestVdWired.Host
