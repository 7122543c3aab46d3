import QuestVdWired.Transition.System
import QuestVdWired.Host.RelayGate
import QuestVdWired.Host.StateMachine

/-!
The controller that decides when the relay gate is open, and the grace timers
it spawns. Each method runs under the eligibility lock and is one step. The
control epoch is a wrapping `u64`; the ghost counter `bumps` counts its moves
without wrapping, so that staleness of a timer can be stated.
-/

namespace QuestVdWired.Host

open Transition

structure RelayEligibility where
  carrierHealthy : Bool
  controlAuthenticated : Bool
  controlLossPending : Bool
  screenSuspended : Bool
  controlEpoch : Nat
  deriving DecidableEq, Repr

/-- `u64::wrapping_add(1)`. -/
def wrappingSucc (n : Nat) : Nat := (n + 1) % 2 ^ 64

structure RelayGateController where
  gate : RelayGateState
  eligibility : RelayEligibility
  deriving DecidableEq, Repr

namespace RelayGateController

def new (gate : RelayGateState) : RelayGateController where
  gate := gate
  eligibility :=
    { carrierHealthy := true, controlAuthenticated := false, controlLossPending := false,
      screenSuspended := false, controlEpoch := 0 }

def controlConnected (c : RelayGateController) : RelayGateController where
  eligibility := { c.eligibility with
    controlEpoch := wrappingSucc c.eligibility.controlEpoch
    controlLossPending := false
    controlAuthenticated := true
    screenSuspended := false }
  gate := if c.eligibility.carrierHealthy then c.gate.setEnabled true
    else c.gate.waitForActivation

/-- The updates that withdraw authentication share this shape. -/
def withdraw (c : RelayGateController) (carrierHealthy screenSuspended : Bool)
    (gate : RelayGateState) : RelayGateController where
  eligibility :=
    { carrierHealthy := carrierHealthy
      controlAuthenticated := false
      controlLossPending := false
      screenSuspended := screenSuspended
      controlEpoch := wrappingSucc c.eligibility.controlEpoch }
  gate := gate

def screenSuspended (c : RelayGateController) : RelayGateController :=
  c.withdraw c.eligibility.carrierHealthy true c.gate.invalidateAndWaitForActivation

def screenSuspendedIfEpoch (c : RelayGateController) (epoch : Nat) :
    RelayGateController × Bool :=
  if c.eligibility.controlEpoch ≠ epoch ∨ ¬ c.eligibility.controlAuthenticated then (c, false)
  else (c.screenSuspended, true)

def authenticatedWake (c : RelayGateController) : RelayGateController where
  eligibility := { c.eligibility with
    controlEpoch := wrappingSucc c.eligibility.controlEpoch
    controlLossPending := false
    screenSuspended := false }
  gate := c.gate.waitForActivation

/-- The epoch a grace timer was spawned for, if one was. -/
def controlDegraded (c : RelayGateController) : RelayGateController × Option Nat :=
  if ¬ c.eligibility.controlAuthenticated ∨ c.eligibility.controlLossPending ∨
      c.eligibility.screenSuspended then (c, none)
  else
    let epoch := wrappingSucc c.eligibility.controlEpoch
    ({ c with eligibility := { c.eligibility with
        controlEpoch := epoch
        controlLossPending := true } }, some epoch)

def pendingControlEpoch (c : RelayGateController) : Option Nat :=
  if c.eligibility.controlAuthenticated ∧ c.eligibility.controlLossPending then
    some c.eligibility.controlEpoch
  else none

def controlInactiveIfEpoch (c : RelayGateController) (epoch : Nat) :
    RelayGateController × Bool :=
  if c.eligibility.controlEpoch ≠ epoch ∨ ¬ c.eligibility.controlAuthenticated ∨
      c.eligibility.screenSuspended then (c, false)
  else
    (c.withdraw c.eligibility.carrierHealthy c.eligibility.screenSuspended
      (c.gate.setEnabled false), true)

def expireControlLoss (c : RelayGateController) (epoch : Nat) : RelayGateController :=
  (c.controlInactiveIfEpoch epoch).1

def controlInactive (c : RelayGateController) : RelayGateController :=
  c.withdraw c.eligibility.carrierHealthy false (c.gate.setEnabled false)

def controlInactiveAwaitingRecovery (c : RelayGateController) : RelayGateController :=
  c.withdraw c.eligibility.carrierHealthy false c.gate.invalidateAndWaitForActivation

def carrierLost (c : RelayGateController) : RelayGateController :=
  c.withdraw false false (c.gate.setEnabled false)

def carrierLostAwaitingRecovery (c : RelayGateController) : RelayGateController :=
  c.withdraw false false c.gate.invalidateAndWaitForActivation

def carrierHealthy (c : RelayGateController) : RelayGateController where
  eligibility := { c.eligibility with carrierHealthy := true }
  gate :=
    if c.eligibility.screenSuspended then c.gate
    else if c.eligibility.controlAuthenticated then c.gate.setEnabled true
    else c.gate.waitForActivation

end RelayGateController

/-- A spawned grace timer; `armedAt` is the ghost count of epoch moves up to and
including the one that armed it. -/
structure GraceTimer where
  epoch : Nat
  armedAt : Nat
  deriving DecidableEq, Repr

structure RelayTimeline where
  controller : RelayGateController
  timers : List GraceTimer
  bumps : Nat
  deriving DecidableEq, Repr

inductive RelayEvent
  | controlConnected
  | screenSuspended
  | screenSuspendedIfEpoch (epoch : Nat)
  | authenticatedWake
  | controlDegraded
  | expireControlLoss (epoch : Nat)
  | controlInactiveIfEpoch (epoch : Nat)
  | controlInactive
  | controlInactiveAwaitingRecovery
  | carrierLost
  | carrierLostAwaitingRecovery
  | carrierHealthy
  | graceElapsed (timer : Nat)
  deriving DecidableEq, Repr

namespace RelayTimeline

/-- The controller a method leaves behind; `none` for a timer that is not armed. -/
def next (s : RelayTimeline) : RelayEvent → Option RelayGateController
  | .controlConnected => some s.controller.controlConnected
  | .screenSuspended => some s.controller.screenSuspended
  | .screenSuspendedIfEpoch epoch => some (s.controller.screenSuspendedIfEpoch epoch).1
  | .authenticatedWake => some s.controller.authenticatedWake
  | .controlDegraded => some s.controller.controlDegraded.1
  | .expireControlLoss epoch => some (s.controller.expireControlLoss epoch)
  | .controlInactiveIfEpoch epoch => some (s.controller.controlInactiveIfEpoch epoch).1
  | .controlInactive => some s.controller.controlInactive
  | .controlInactiveAwaitingRecovery => some s.controller.controlInactiveAwaitingRecovery
  | .carrierLost => some s.controller.carrierLost
  | .carrierLostAwaitingRecovery => some s.controller.carrierLostAwaitingRecovery
  | .carrierHealthy => some s.controller.carrierHealthy
  | .graceElapsed timer =>
      s.timers[timer]?.map fun t => s.controller.expireControlLoss t.epoch

/-- The timers that remain armed, with the one the event spawned. -/
def timersAfter (s : RelayTimeline) : RelayEvent → List GraceTimer
  | .controlDegraded =>
      match s.controller.controlDegraded.2 with
      | some epoch => s.timers ++ [⟨epoch, s.bumps + 1⟩]
      | none => s.timers
  | .graceElapsed timer => s.timers.eraseIdx timer
  | _ => s.timers

def step (event : RelayEvent) (s : RelayTimeline) : Option RelayTimeline :=
  (s.next event).map fun controller =>
    { controller := controller
      timers := s.timersAfter event
      bumps := s.bumps +
        if controller.eligibility.controlEpoch = s.controller.eligibility.controlEpoch then 0
        else 1 }

/-- The runtime waits for activation on a fresh gate before it builds the
controller. -/
def initial : RelayTimeline where
  controller := .new RelayGateState.initial.waitForActivation
  timers := []
  bumps := 0

def system : System RelayTimeline RelayEvent := ⟨initial, step⟩

end RelayTimeline

namespace RelayGateController

@[simp] theorem setEnabled_enabled (gate : RelayGateState) (enabled : Bool) :
    (gate.setEnabled enabled).enabled = enabled := by
  unfold RelayGateState.setEnabled RelayGateState.apply RelayGateState.modify
  dsimp only
  split
  · rename_i same
    exact same.1
  · rfl

@[simp] theorem waitForActivation_enabled (gate : RelayGateState) :
    gate.waitForActivation.enabled = gate.enabled := by
  unfold RelayGateState.waitForActivation RelayGateState.apply RelayGateState.modify
  dsimp only
  split <;> rfl

@[simp] theorem invalidateAndWaitForActivation_enabled (gate : RelayGateState) :
    gate.invalidateAndWaitForActivation.enabled = false := by
  unfold RelayGateState.invalidateAndWaitForActivation RelayGateState.apply
    RelayGateState.modify
  dsimp only
  split
  · rename_i off
    simpa using off.1
  · rfl

/-- What the controller keeps: the gate is open exactly for a healthy carrier
with an authenticated control lane. -/
structure Consistent (c : RelayGateController) : Prop where
  tracks : c.gate.enabled =
    (c.eligibility.carrierHealthy && c.eligibility.controlAuthenticated)
  asleep : c.eligibility.screenSuspended = true → c.eligibility.controlAuthenticated = false
  pending : c.eligibility.controlLossPending = true → c.eligibility.controlAuthenticated = true

theorem consistent_withdraw (c : RelayGateController) (carrier suspended : Bool)
    (gate : RelayGateState) (closed : gate.enabled = false) :
    Consistent (c.withdraw carrier suspended gate) := by
  constructor <;> simp [withdraw, closed]

theorem consistent_controlConnected {c : RelayGateController} (h : Consistent c) :
    Consistent c.controlConnected := by
  have tracks := h.tracks
  constructor
  · cases carrier : c.eligibility.carrierHealthy <;> simp_all [controlConnected]
  · simp [controlConnected]
  · simp [controlConnected]

theorem consistent_screenSuspended (c : RelayGateController) :
    Consistent c.screenSuspended :=
  consistent_withdraw c _ _ _ (by simp)

theorem consistent_screenSuspendedIfEpoch {c : RelayGateController} (h : Consistent c)
    (epoch : Nat) : Consistent (c.screenSuspendedIfEpoch epoch).1 := by
  unfold screenSuspendedIfEpoch
  split
  · exact h
  · exact consistent_screenSuspended c

theorem consistent_authenticatedWake {c : RelayGateController} (h : Consistent c) :
    Consistent c.authenticatedWake := by
  constructor <;> simp [authenticatedWake, h.tracks]

theorem consistent_controlDegraded {c : RelayGateController} (h : Consistent c) :
    Consistent c.controlDegraded.1 := by
  unfold controlDegraded
  split
  · exact h
  · rename_i live
    exact ⟨h.tracks, h.asleep, fun _ => by simp_all⟩

theorem consistent_controlInactiveIfEpoch {c : RelayGateController} (h : Consistent c)
    (epoch : Nat) : Consistent (c.controlInactiveIfEpoch epoch).1 := by
  unfold controlInactiveIfEpoch
  split
  · exact h
  · exact consistent_withdraw c _ _ _ (by simp)

theorem consistent_carrierHealthy {c : RelayGateController} (h : Consistent c) :
    Consistent c.carrierHealthy := by
  refine ⟨?_, h.asleep, h.pending⟩
  have tracks := h.tracks
  have asleep := h.asleep
  cases suspended : c.eligibility.screenSuspended <;>
    cases authenticated : c.eligibility.controlAuthenticated <;> simp_all [carrierHealthy]

/-- Every method moves the epoch by exactly one or leaves it. -/
def Moved (c c' : RelayGateController) : Prop :=
  c'.eligibility.controlEpoch = c.eligibility.controlEpoch ∨
    c'.eligibility.controlEpoch = wrappingSucc c.eligibility.controlEpoch

theorem moved_screenSuspendedIfEpoch (c : RelayGateController) (epoch : Nat) :
    Moved c (c.screenSuspendedIfEpoch epoch).1 := by
  unfold screenSuspendedIfEpoch
  split
  · exact Or.inl rfl
  · exact Or.inr rfl

theorem moved_controlDegraded (c : RelayGateController) : Moved c c.controlDegraded.1 := by
  unfold controlDegraded
  split
  · exact Or.inl rfl
  · exact Or.inr rfl

theorem moved_controlInactiveIfEpoch (c : RelayGateController) (epoch : Nat) :
    Moved c (c.controlInactiveIfEpoch epoch).1 := by
  unfold controlInactiveIfEpoch
  split
  · exact Or.inl rfl
  · exact Or.inr rfl

end RelayGateController

namespace RelayTimeline
open RelayGateController

theorem wrappingSucc_ne (n : Nat) : wrappingSucc n ≠ n := by
  unfold wrappingSucc
  omega

theorem next_spec {s : RelayTimeline} {event : RelayEvent} {c : RelayGateController}
    (h : s.next event = some c) (consistent : Consistent s.controller) :
    Consistent c ∧ Moved s.controller c := by
  cases event with
  | controlConnected =>
      cases h
      exact ⟨consistent_controlConnected consistent, Or.inr rfl⟩
  | screenSuspended =>
      cases h
      exact ⟨consistent_screenSuspended _, Or.inr rfl⟩
  | screenSuspendedIfEpoch epoch =>
      cases h
      exact ⟨consistent_screenSuspendedIfEpoch consistent epoch,
        moved_screenSuspendedIfEpoch _ epoch⟩
  | authenticatedWake =>
      cases h
      exact ⟨consistent_authenticatedWake consistent, Or.inr rfl⟩
  | controlDegraded =>
      cases h
      exact ⟨consistent_controlDegraded consistent, moved_controlDegraded _⟩
  | expireControlLoss epoch | controlInactiveIfEpoch epoch =>
      cases h
      exact ⟨consistent_controlInactiveIfEpoch consistent epoch,
        moved_controlInactiveIfEpoch _ epoch⟩
  | controlInactive | controlInactiveAwaitingRecovery | carrierLost
  | carrierLostAwaitingRecovery =>
      cases h
      exact ⟨consistent_withdraw _ _ _ _ (by simp), Or.inr rfl⟩
  | carrierHealthy =>
      cases h
      exact ⟨consistent_carrierHealthy consistent, Or.inl rfl⟩
  | graceElapsed timer =>
      obtain ⟨t, _, rfl⟩ := Option.map_eq_some_iff.mp h
      exact ⟨consistent_controlInactiveIfEpoch consistent t.epoch,
        moved_controlInactiveIfEpoch _ t.epoch⟩

/-- The epochs in circulation against the ghost count. -/
structure Counted (s : RelayTimeline) : Prop where
  consistent : Consistent s.controller
  epoch : s.controller.eligibility.controlEpoch = s.bumps % 2 ^ 64
  armed : ∀ t ∈ s.timers, t.epoch = t.armedAt % 2 ^ 64 ∧ t.armedAt ≤ s.bumps

theorem counted_initial : Counted initial where
  consistent := by constructor <;> decide
  epoch := by decide
  armed := by simp [initial]

theorem timersAfter_counted {s : RelayTimeline} (h : Counted s) {event : RelayEvent}
    {bumps : Nat} (grown : s.bumps ≤ bumps)
    (spawned : ∀ epoch, event = .controlDegraded → s.controller.controlDegraded.2 = some epoch →
      epoch = (s.bumps + 1) % 2 ^ 64 ∧ s.bumps + 1 ≤ bumps) :
    ∀ t ∈ s.timersAfter event, t.epoch = t.armedAt % 2 ^ 64 ∧ t.armedAt ≤ bumps := by
  have old : ∀ t ∈ s.timers, t.epoch = t.armedAt % 2 ^ 64 ∧ t.armedAt ≤ bumps := by
    intro t member
    have := h.armed t member
    exact ⟨this.1, by omega⟩
  intro t member
  unfold timersAfter at member
  split at member
  · split at member
    · rename_i epoch found
      rcases List.mem_append.mp member with earlier | latest
      · exact old t earlier
      · cases List.mem_singleton.mp latest
        exact spawned epoch rfl found
    · exact old t member
  · exact old t (List.mem_of_mem_eraseIdx member)
  · exact old t member

theorem counted_step {s s' : RelayTimeline} {event : RelayEvent} (h : Counted s)
    (taken : step event s = some s') : Counted s' := by
  obtain ⟨c, next, rfl⟩ := Option.map_eq_some_iff.mp taken
  obtain ⟨consistent, moved⟩ := next_spec next h.consistent
  have moves := wrappingSucc_ne s.controller.eligibility.controlEpoch
  have epoch := h.epoch
  refine ⟨consistent, ?_, timersAfter_counted h (Nat.le_add_right _ _) ?_⟩
  · rcases moved with same | bumped
    · simp [same, epoch]
    · simp only [bumped, if_neg moves]
      unfold wrappingSucc
      omega
  · -- The epoch handed to a new timer is the one the same call just set.
    rintro armed rfl spawned
    cases next
    unfold RelayGateController.controlDegraded at spawned ⊢
    split at spawned
    · cases spawned
    · rename_i live
      cases spawned
      simp only [if_neg live, if_neg moves]
      unfold wrappingSucc
      omega

theorem counted_of_reachable {s : RelayTimeline} (h : system.Reachable Free s) : Counted s :=
  h.invariant counted_initial fun s event s' inv _ taken =>
    @counted_step s s' event inv taken

/-- The events after which every timer armed before them is stale. -/
def supersedes : List RelayEvent :=
  [.controlConnected, .screenSuspended, .authenticatedWake, .controlInactive,
    .controlInactiveAwaitingRecovery, .carrierLost, .carrierLostAwaitingRecovery]

theorem bumps_of_supersedes {s s' : RelayTimeline} {event : RelayEvent}
    (member : event ∈ supersedes) (taken : step event s = some s') :
    s'.bumps = s.bumps + 1 := by
  have moves := wrappingSucc_ne s.controller.eligibility.controlEpoch
  simp only [supersedes, List.mem_cons, List.not_mem_nil, or_false] at member
  rcases member with rfl | rfl | rfl | rfl | rfl | rfl | rfl <;>
    (cases taken; exact congrArg (s.bumps + ·) (if_neg moves))

/-- The relay gate tracks eligibility, and a grace timer acts only while no epoch
move has happened since it was armed; re-authentication, suspension, loss and
recovery of the control lane each are such a move. -/
theorem relay_gate_tracks_eligibility {s : RelayTimeline} (h : system.Reachable Free s) :
    (s.controller.gate.enabled = true ↔
        s.controller.eligibility.carrierHealthy = true ∧
          s.controller.eligibility.controlAuthenticated = true) ∧
      (s.controller.eligibility.screenSuspended = true →
        s.controller.eligibility.controlAuthenticated = false) ∧
      (s.controller.eligibility.controlLossPending = true →
        s.controller.eligibility.controlAuthenticated = true) ∧
      (∀ i t s', s.timers[i]? = some t → step (.graceElapsed i) s = some s' →
        s.bumps - t.armedAt < 2 ^ 64 → s'.controller ≠ s.controller →
        s.bumps = t.armedAt) ∧
      (∀ event ∈ supersedes, ∀ s', step event s = some s' → s'.bumps = s.bumps + 1) := by
  have inv := counted_of_reachable h
  refine ⟨?_, inv.consistent.asleep, inv.consistent.pending, ?_,
    fun event member s' taken => bumps_of_supersedes member taken⟩
  · rw [inv.consistent.tracks, Bool.and_eq_true]
  · intro i t s' armed taken young changed
    obtain ⟨epoch, past⟩ := inv.armed t (List.mem_of_getElem? armed)
    have current : s.controller.eligibility.controlEpoch = t.epoch := by
      by_contra stale
      apply changed
      simp only [step, next, armed, Option.map_some, Option.some.injEq] at taken
      subst taken
      simp [expireControlLoss, controlInactiveIfEpoch, stale]
    rw [inv.epoch, epoch] at current
    omega

/-- A timer that is not stale does act: the relay closes when the grace period
of an unanswered degradation elapses. -/
theorem relay_gate_tracks_eligibility_grace :
    ∃ s s' t, system.Reachable Free s ∧ s.timers[0]? = some t ∧
      step (.graceElapsed 0) s = some s' ∧ s'.controller ≠ s.controller ∧
      s.bumps = t.armedAt := by
  have reached := @System.reachable_of_replay _ _ system Free _ _
    [.controlConnected, .controlDegraded] rfl
  refine ⟨_, _, _, reached, rfl, rfl, by decide, ?_⟩
  exact (relay_gate_tracks_eligibility reached).2.2.2.1 0 _ _ rfl rfl (by decide) (by decide)

end RelayTimeline
end QuestVdWired.Host
