import QuestVdWired.Transition.Ledger
import QuestVdWired.Transition.System

/-!
The byte budget of the UDP queues. Every association has a counter of its own and all
share one; `QueueBudget::reserve` takes from both with one atomic update each, gives the
first back when the second refuses, and dropping a reservation gives both back. Calls
and drops of any number of associations interleave between these updates.
-/

namespace QuestVdWired.Host
open Transition

/-- `usize` of the 64-bit host. -/
def USIZE : Nat := 2 ^ 64

/-- `try_reserve`: the new value of the counter, or `none` where the update is refused. -/
def tryReserve (counter limit bytes : Nat) : Option Nat :=
  if counter + bytes < USIZE ∧ counter + bytes ≤ limit then some (counter + bytes) else none

/-- `fetch_sub` wraps around. -/
def fetchSub (counter bytes : Nat) : Nat :=
  (counter + USIZE - bytes) % USIZE

/-- Where a call of `reserve` or the drop of its reservation stands: before each of its
atomic updates, or done. -/
inductive ReserveStage
  | reserveAssociation
  | reserveGlobal
  | rollBack
  | reserved
  | releaseGlobal
  | refused
  | released
  deriving DecidableEq, Repr

/-- A call of `reserve` and what became of it. -/
structure ReserveCall (α : Type) where
  association : α
  bytes : Nat
  stage : ReserveStage
  deriving DecidableEq, Repr

structure QueueBudgets (α : Type) where
  associationBytes : α → Nat
  queuedBytes : Nat
  calls : List (ReserveCall α)

/-- A new call of `reserve`, or the next atomic update of an earlier one; for a live
reservation that is the first update of its drop. -/
inductive BudgetAction (α : Type)
  | reserve (association : α) (bytes : Nat)
  | advance (index : Nat)

section
variable {α : Type} [DecidableEq α] (associationLimit : α → Nat) (maxQueuedBytes : Nat)

namespace QueueBudgets

def setCall (b : QueueBudgets α) (index : Nat) (call : ReserveCall α) (stage : ReserveStage) :
    QueueBudgets α :=
  { b with calls := b.calls.set index { call with stage := stage } }

def advance (index : Nat) (call : ReserveCall α) (b : QueueBudgets α) :
    Option (QueueBudgets α) :=
  let own := b.associationBytes call.association
  match call.stage with
  | .reserveAssociation =>
      match tryReserve own (associationLimit call.association) call.bytes with
      | none => some (b.setCall index call .refused)
      | some next =>
          some { b.setCall index call .reserveGlobal with
            associationBytes := Function.update b.associationBytes call.association next }
  | .reserveGlobal =>
      match tryReserve b.queuedBytes maxQueuedBytes call.bytes with
      | none => some (b.setCall index call .rollBack)
      | some next => some { b.setCall index call .reserved with queuedBytes := next }
  | .rollBack =>
      some { b.setCall index call .refused with
        associationBytes :=
          Function.update b.associationBytes call.association (fetchSub own call.bytes) }
  | .reserved =>
      some { b.setCall index call .releaseGlobal with
        associationBytes :=
          Function.update b.associationBytes call.association (fetchSub own call.bytes) }
  | .releaseGlobal =>
      some { b.setCall index call .released with
        queuedBytes := fetchSub b.queuedBytes call.bytes }
  | .refused | .released => none

def step : BudgetAction α → QueueBudgets α → Option (QueueBudgets α)
  | .reserve association bytes, b =>
      some { b with calls := b.calls ++ [⟨association, bytes, .reserveAssociation⟩] }
  | .advance index, b =>
      match b.calls[index]? with
      | none => none
      | some call => advance associationLimit maxQueuedBytes index call b

end QueueBudgets

def queueBudgets : System (QueueBudgets α) (BudgetAction α) where
  init := ⟨fun _ => 0, 0, []⟩
  step := QueueBudgets.step associationLimit maxQueuedBytes

end

/-! What a call holds of each counter. -/

namespace ReserveCall
variable {α : Type} [DecidableEq α]

def liveBytes (call : ReserveCall α) : Nat :=
  if call.stage = .reserved then call.bytes else 0

/-- Taken from the association by a call that has not finished. -/
def pendingAssociation (call : ReserveCall α) : Nat :=
  if call.stage = .reserveGlobal ∨ call.stage = .rollBack then call.bytes else 0

/-- Not yet given back to the shared counter by a drop under way. -/
def pendingGlobal (call : ReserveCall α) : Nat :=
  if call.stage = .releaseGlobal then call.bytes else 0

def holdsOf (association : α) (call : ReserveCall α) : Nat :=
  if call.association = association then call.liveBytes + call.pendingAssociation else 0

def holdsGlobal (call : ReserveCall α) : Nat :=
  call.liveBytes + call.pendingGlobal

end ReserveCall

theorem tryReserve_eq_some {counter limit bytes next : Nat}
    (h : tryReserve counter limit bytes = some next) :
    next = counter + bytes ∧ next ≤ limit ∧ next < USIZE := by
  unfold tryReserve at h
  split at h
  · rename_i room
    cases h
    exact ⟨rfl, room.2, room.1⟩
  · cases h

theorem fetchSub_of_le {counter bytes : Nat} (enough : bytes ≤ counter) (small : counter < USIZE) :
    fetchSub counter bytes = counter - bytes := by
  have shift : counter + USIZE - bytes = counter - bytes + USIZE := by omega
  rw [fetchSub, shift, Nat.add_mod_right, Nat.mod_eq_of_lt]
  omega

namespace QueueBudgets
variable {α : Type} [DecidableEq α] {associationLimit : α → Nat} {maxQueuedBytes : Nat}

/-- Each counter is what the calls hold of it, and within its limit. -/
structure Balanced (associationLimit : α → Nat) (maxQueuedBytes : Nat) (b : QueueBudgets α) :
    Prop where
  association : ∀ a, b.associationBytes a = total (ReserveCall.holdsOf a) b.calls
  associationBound : ∀ a, b.associationBytes a ≤ associationLimit a ∧ b.associationBytes a < USIZE
  queued : b.queuedBytes = total ReserveCall.holdsGlobal b.calls
  queuedBound : b.queuedBytes ≤ maxQueuedBytes ∧ b.queuedBytes < USIZE

/-- One call moves to another stage and the counters move by what it then holds. -/
theorem Balanced.move {b : QueueBudgets α} {index : Nat} {call : ReserveCall α}
    (balanced : b.Balanced associationLimit maxQueuedBytes) (here : b.calls[index]? = some call)
    (stage : ReserveStage) (own queued : Nat)
    (moveOwn : own + call.holdsOf call.association =
      b.associationBytes call.association +
        ReserveCall.holdsOf call.association { call with stage := stage })
    (ownBound : own ≤ associationLimit call.association ∧ own < USIZE)
    (moveQueued : queued + call.holdsGlobal =
      b.queuedBytes + ReserveCall.holdsGlobal { call with stage := stage })
    (queuedBound : queued ≤ maxQueuedBytes ∧ queued < USIZE) :
    Balanced associationLimit maxQueuedBytes
      ⟨Function.update b.associationBytes call.association own, queued,
        (b.setCall index call stage).calls⟩ where
  association := by
    intro a
    have moved := total_set (ReserveCall.holdsOf a) here { call with stage := stage }
    have before := balanced.association a
    simp only [setCall] at moved ⊢
    by_cases same : a = call.association
    · subst same
      rw [Function.update_self]
      omega
    · have elsewhere : ∀ stage, ReserveCall.holdsOf a { call with stage := stage } = 0 := by
        intro stage
        exact if_neg (Ne.symm same)
      have before_stage : call.holdsOf a = 0 := elsewhere call.stage
      rw [Function.update_of_ne same]
      rw [elsewhere stage, before_stage] at moved
      omega
  associationBound := by
    intro a
    by_cases same : a = call.association
    · subst same
      simpa only [Function.update_self] using ownBound
    · simpa only [Function.update_of_ne same] using balanced.associationBound a
  queued := by
    have moved := total_set ReserveCall.holdsGlobal here { call with stage := stage }
    have before := balanced.queued
    simp only [setCall] at moved ⊢
    omega
  queuedBound := queuedBound

/-- The counters cover what any one call holds of them. -/
theorem Balanced.covers {b : QueueBudgets α} {index : Nat} {call : ReserveCall α}
    (balanced : b.Balanced associationLimit maxQueuedBytes)
    (here : b.calls[index]? = some call) :
    call.holdsOf call.association ≤ b.associationBytes call.association ∧
      call.holdsGlobal ≤ b.queuedBytes := by
  rw [balanced.association, balanced.queued]
  exact ⟨weight_le_total _ here, weight_le_total _ here⟩

theorem Balanced.advance {b b' : QueueBudgets α} {index : Nat} {call : ReserveCall α}
    (balanced : b.Balanced associationLimit maxQueuedBytes) (here : b.calls[index]? = some call)
    (h : b.advance associationLimit maxQueuedBytes index call = some b') :
    b'.Balanced associationLimit maxQueuedBytes := by
  obtain ⟨association, bytes, stage⟩ := call
  have covers := balanced.covers here
  have bound := balanced.associationBound association
  have queuedBound := balanced.queuedBound
  have unchanged : Function.update b.associationBytes association (b.associationBytes association) =
      b.associationBytes := Function.update_eq_self _ _
  simp only [ReserveCall.holdsOf, ReserveCall.holdsGlobal, ReserveCall.liveBytes,
    ReserveCall.pendingAssociation, ReserveCall.pendingGlobal, if_true] at covers
  unfold QueueBudgets.advance at h
  cases stage with
  | reserveAssociation =>
      dsimp only at h
      split at h
      · cases h
        have kept := balanced.move here .refused _ _ rfl bound rfl queuedBound
        rw [unchanged] at kept
        exact kept
      · rename_i next taken
        cases h
        obtain ⟨rfl, within, small⟩ := tryReserve_eq_some taken
        refine balanced.move here .reserveGlobal _ _ ?_ ⟨within, small⟩ rfl queuedBound
        simp [ReserveCall.holdsOf, ReserveCall.liveBytes, ReserveCall.pendingAssociation]
  | reserveGlobal =>
      dsimp only at h
      split at h
      · cases h
        have kept := balanced.move here .rollBack _ _ rfl bound rfl queuedBound
        rw [unchanged] at kept
        exact kept
      · rename_i next taken
        cases h
        obtain ⟨rfl, within, small⟩ := tryReserve_eq_some taken
        have kept := balanced.move here .reserved (b.associationBytes association)
          (b.queuedBytes + bytes) ?_ bound ?_ ⟨within, small⟩
        · rw [unchanged] at kept
          exact kept
        · simp [ReserveCall.holdsOf, ReserveCall.liveBytes, ReserveCall.pendingAssociation]
        · simp [ReserveCall.holdsGlobal, ReserveCall.liveBytes, ReserveCall.pendingGlobal]
  | rollBack =>
      cases h
      have enough : bytes ≤ b.associationBytes association := by simpa using covers.1
      have less : b.associationBytes association - bytes ≤ associationLimit association ∧
          b.associationBytes association - bytes < USIZE := by omega
      rw [fetchSub_of_le enough bound.2]
      refine balanced.move here .refused _ _ ?_ less rfl queuedBound
      simp only [ReserveCall.holdsOf, ReserveCall.liveBytes, ReserveCall.pendingAssociation]
      simp
      omega
  | reserved =>
      cases h
      have enough : bytes ≤ b.associationBytes association := by simpa using covers.1
      have less : b.associationBytes association - bytes ≤ associationLimit association ∧
          b.associationBytes association - bytes < USIZE := by omega
      rw [fetchSub_of_le enough bound.2]
      refine balanced.move here .releaseGlobal _ _ ?_ less ?_ queuedBound
      · simp [ReserveCall.holdsOf, ReserveCall.liveBytes, ReserveCall.pendingAssociation]
        omega
      · simp [setCall, ReserveCall.holdsGlobal, ReserveCall.liveBytes, ReserveCall.pendingGlobal]
  | releaseGlobal =>
      cases h
      have enough : bytes ≤ b.queuedBytes := by simpa using covers.2
      rw [fetchSub_of_le enough queuedBound.2]
      have kept := balanced.move here .released (b.associationBytes association)
        (b.queuedBytes - bytes) ?_ bound ?_ (by omega)
      · rw [unchanged] at kept
        exact kept
      · simp [ReserveCall.holdsOf, ReserveCall.liveBytes, ReserveCall.pendingAssociation]
      · simp [ReserveCall.holdsGlobal, ReserveCall.liveBytes, ReserveCall.pendingGlobal]
        omega
  | refused => cases h
  | released => cases h

theorem Balanced.step {b b' : QueueBudgets α} {action : BudgetAction α}
    (balanced : b.Balanced associationLimit maxQueuedBytes)
    (h : step associationLimit maxQueuedBytes action b = some b') :
    b'.Balanced associationLimit maxQueuedBytes := by
  cases action with
  | reserve association bytes =>
      cases h
      refine ⟨?_, balanced.associationBound, ?_, balanced.queuedBound⟩
      · intro a
        have nothing : ReserveCall.holdsOf a ⟨association, bytes, .reserveAssociation⟩ = 0 := by
          simp [ReserveCall.holdsOf, ReserveCall.liveBytes, ReserveCall.pendingAssociation]
        simp only [total_append, total_cons, total_nil, nothing]
        exact balanced.association a
      · simp only [total_append, total_cons, total_nil]
        exact balanced.queued
  | advance index =>
      simp only [QueueBudgets.step] at h
      split at h
      · cases h
      · rename_i call here
        exact balanced.advance here h

theorem reachable_balanced {b : QueueBudgets α}
    (reached : (queueBudgets associationLimit maxQueuedBytes).Reachable Free b) :
    b.Balanced associationLimit maxQueuedBytes := by
  refine reached.invariant ?_ ?_
  · have small : 0 < USIZE := by decide
    exact ⟨fun _ => rfl, fun _ => ⟨Nat.zero_le _, small⟩, rfl, Nat.zero_le _, small⟩
  · intro b action b' balanced _ taken
    exact balanced.step taken

end QueueBudgets

section
variable {α : Type} [DecidableEq α] {associationLimit : α → Nat} {maxQueuedBytes : Nat}

/-- What the live reservations of an association add up to. -/
def liveOf (association : α) (calls : List (ReserveCall α)) : Nat :=
  total ReserveCall.liveBytes (calls.filter (·.association = association))

/-- Bytes an unfinished call of the association has taken and not given back. -/
def pendingOf (association : α) (calls : List (ReserveCall α)) : Nat :=
  total ReserveCall.pendingAssociation (calls.filter (·.association = association))

theorem total_holdsOf (association : α) (calls : List (ReserveCall α)) :
    total (ReserveCall.holdsOf association) calls =
      liveOf association calls + pendingOf association calls := by
  induction calls with
  | nil => rfl
  | cons call calls ih =>
      rw [total_cons, ih]
      by_cases own : call.association = association
      · simp only [ReserveCall.holdsOf, liveOf, pendingOf, List.filter_cons, own, if_true,
          decide_true, total_cons]
        omega
      · simp [ReserveCall.holdsOf, liveOf, pendingOf, own]

/-- In every interleaving, each counter is the sum of the live reservations it covers and
of what unfinished calls and drops still hold of it, and stays within its limit; every
subtraction a call is about to make is covered; a call that was refused has left both
counters as they would be without it; and when nothing is left, both are zero. -/
theorem queue_budget_exact {b : QueueBudgets α}
    (reached : (queueBudgets associationLimit maxQueuedBytes).Reachable Free b) :
    (∀ a, b.associationBytes a = liveOf a b.calls + pendingOf a b.calls ∧
      b.associationBytes a ≤ associationLimit a) ∧
    (b.queuedBytes =
        total ReserveCall.liveBytes b.calls + total ReserveCall.pendingGlobal b.calls ∧
      b.queuedBytes ≤ maxQueuedBytes) ∧
    (∀ (index : Nat) (call : ReserveCall α), b.calls[index]? = some call →
      ((call.stage = .rollBack ∨ call.stage = .reserved) →
        call.bytes ≤ b.associationBytes call.association) ∧
      ((call.stage = .reserved ∨ call.stage = .releaseGlobal) →
        call.bytes ≤ b.queuedBytes)) ∧
    (∀ (index : Nat) (call : ReserveCall α), b.calls[index]? = some call → call.stage = .refused →
      (∀ a, b.associationBytes a =
        liveOf a (b.calls.eraseIdx index) + pendingOf a (b.calls.eraseIdx index)) ∧
      b.queuedBytes = total ReserveCall.liveBytes (b.calls.eraseIdx index) +
        total ReserveCall.pendingGlobal (b.calls.eraseIdx index)) ∧
    ((∀ call ∈ b.calls, call.stage = .refused ∨ call.stage = .released) →
      (∀ a, b.associationBytes a = 0) ∧ b.queuedBytes = 0) := by
  have balanced := QueueBudgets.reachable_balanced reached
  refine ⟨?_, ?_, ?_, ?_, ?_⟩
  · intro a
    rw [← total_holdsOf]
    exact ⟨balanced.association a, (balanced.associationBound a).1⟩
  · rw [← total_add]
    exact ⟨balanced.queued, balanced.queuedBound.1⟩
  · intro index call here
    have covers := balanced.covers here
    simp only [ReserveCall.holdsOf, ReserveCall.holdsGlobal, ReserveCall.liveBytes,
      ReserveCall.pendingAssociation, ReserveCall.pendingGlobal, if_true] at covers
    constructor
    · rintro (stage | stage)
      · simpa [stage] using covers.1
      · simpa [stage] using covers.1
    · rintro (stage | stage)
      · simpa [stage] using covers.2
      · simpa [stage] using covers.2
  · intro index call here refused
    constructor
    · intro a
      have nothing : call.holdsOf a = 0 := by
        simp [ReserveCall.holdsOf, ReserveCall.liveBytes, ReserveCall.pendingAssociation, refused]
      have without := total_eraseIdx (ReserveCall.holdsOf a) here
      rw [← total_holdsOf, balanced.association a]
      omega
    · have nothing : call.holdsGlobal = 0 := by
        simp [ReserveCall.holdsGlobal, ReserveCall.liveBytes, ReserveCall.pendingGlobal, refused]
      have without := total_eraseIdx ReserveCall.holdsGlobal here
      rw [← total_add, balanced.queued]
      change total ReserveCall.holdsGlobal b.calls =
        total ReserveCall.holdsGlobal (b.calls.eraseIdx index)
      omega
  · intro done
    constructor
    · intro a
      rw [balanced.association a]
      apply total_eq_zero
      intro call mem
      rcases done call mem with stage | stage <;>
        simp [ReserveCall.holdsOf, ReserveCall.liveBytes, ReserveCall.pendingAssociation, stage]
    · rw [balanced.queued]
      apply total_eq_zero
      intro call mem
      rcases done call mem with stage | stage <;>
        simp [ReserveCall.holdsGlobal, ReserveCall.liveBytes, ReserveCall.pendingGlobal, stage]

end

/-- Two associations of 100 bytes share 120: the second reservation takes its own share,
is refused the common one and rolls back; the first is then dropped. -/
theorem queue_budget_exact_refused :
    ∃ b : QueueBudgets Nat, (queueBudgets (fun _ => 100) 120).Reachable Free b ∧
      b.calls.map ReserveCall.stage = [.released, .refused] ∧
      b.associationBytes 0 = 0 ∧ b.associationBytes 1 = 0 ∧ b.queuedBytes = 0 := by
  obtain ⟨b, reached, stages⟩ : ∃ b : QueueBudgets Nat,
      (queueBudgets (fun _ => 100) 120).Reachable Free b ∧
        b.calls.map ReserveCall.stage = [.released, .refused] :=
    ⟨_, System.reachable_of_replay
      [.reserve 0 90, .advance 0, .advance 0, .reserve 1 80, .advance 1, .advance 1, .advance 0,
        .advance 1, .advance 0] rfl, rfl⟩
  have done : ∀ call ∈ b.calls, call.stage = .refused ∨ call.stage = .released := by
    intro call mem
    have stage : call.stage ∈ b.calls.map ReserveCall.stage := List.mem_map_of_mem mem
    rw [stages] at stage
    simpa [or_comm] using stage
  obtain ⟨own, shared⟩ := (queue_budget_exact reached).2.2.2.2 done
  exact ⟨b, reached, stages, own 0, own 1, shared⟩

end QuestVdWired.Host
