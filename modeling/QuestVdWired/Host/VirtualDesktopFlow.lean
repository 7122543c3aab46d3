import QuestVdWired.Transition.Ledger
import QuestVdWired.Transition.System
import Mathlib.Data.List.FinRange

/-!
`VirtualDesktopFlowMonitor`: how many flows to each Streamer port are open, and how many of
them have forwarded bytes. A flow holds a guard, marks it from both directions of its relay
and drops it on every way out. The calls are cut at their atomic operations.
-/

namespace QuestVdWired.Host.VirtualDesktopFlow
open Transition

def VIRTUAL_DESKTOP_STREAMER_PORTS : Vector UInt16 4 := #v[38810, 38820, 38830, 38840]

def streamerPortIndex (destinationPort : UInt16) : Option (Fin 4) :=
  (List.finRange 4).find? fun index => VIRTUAL_DESKTOP_STREAMER_PORTS[index] = destinationPort

/-- Where the call stands that a guard is in. -/
inductive Stage
  | live
  /-- `mark_forwarded` was the first to set the flag and has not counted the guard -/
  | marking
  /-- in `drop`, before the flag is read -/
  | dropping
  /-- the guard is to be taken off `forwarding` -/
  | releasing
  /-- the guard is to be taken off `active` -/
  | leaving
  | dropped
  deriving DecidableEq, Repr

structure VirtualDesktopFlowGuard where
  index : Fin 4
  forwarded : Bool
  stage : Stage
  deriving DecidableEq, Repr

namespace VirtualDesktopFlowGuard

/-- The guard is alive: it has not been taken off `active`. -/
def present (guard : VirtualDesktopFlowGuard) : Bool :=
  guard.stage ≠ .dropped

/-- The guard has been counted in `forwarding` and not been taken off. -/
def counted (guard : VirtualDesktopFlowGuard) : Bool :=
  guard.forwarded ∧ (guard.stage = .live ∨ guard.stage = .dropping ∨ guard.stage = .releasing)

end VirtualDesktopFlowGuard

structure VirtualDesktopFlowSnapshot where
  connected : Bool
  activePorts : Nat
  activeFlows : List UInt64
  deriving DecidableEq, Repr

/-- The counters, and the guards of all flows since the start. -/
structure Flows where
  active : Fin 4 → UInt64
  forwarding : Fin 4 → UInt64
  guards : List VirtualDesktopFlowGuard

inductive FlowEndpoint
  | quest
  | streamer
  deriving DecidableEq, Repr

/-- The result of `poll_write` of the inner stream. -/
inductive PollWrite
  | pending
  | ready (written : Nat)
  | error
  deriving DecidableEq, Repr

inductive Turn
  | begin (destinationPort : UInt16)
  | pollWrite (flow : Nat) (endpoint : FlowEndpoint) (result : PollWrite)
  /-- the Streamer's bytes that reached the chosen candidate before the relay -/
  | settled (flow delivered : Nat)
  | drop (flow : Nat)
  /-- the next operation of the call that a guard is in -/
  | goOn (flow : Nat)
  deriving DecidableEq, Repr

namespace Flows

def set (c : Flows) (flow : Nat) (guard : VirtualDesktopFlowGuard) : Flows :=
  { c with guards := c.guards.set flow guard }

/-- A guard takes memory, so there are never as many as a counter can count. -/
def room (c : Flows) : Prop :=
  c.guards.countP VirtualDesktopFlowGuard.present + 1 < 2 ^ 64

instance (c : Flows) : Decidable c.room :=
  inferInstanceAs (Decidable (_ < _))

def «begin» (c : Flows) (destinationPort : UInt16) : Option Flows :=
  match streamerPortIndex destinationPort with
  | none => some c
  | some index =>
      if c.room then
        some { c with
          active := Function.update c.active index (c.active index + 1)
          guards := c.guards ++ [⟨index, false, .live⟩] }
      else none

/-- `mark_forwarded` up to the counter. Both directions may be in it at the same time. -/
def markForwarded (c : Flows) (flow : Nat) (guard : VirtualDesktopFlowGuard) : Option Flows :=
  if guard.stage = .live ∨ guard.stage = .marking then
    if guard.forwarded then some c
    else some (c.set flow ⟨guard.index, true, .marking⟩)
  else none

def pollWrite (c : Flows) (flow : Nat) (result : PollWrite) : Option Flows :=
  match c.guards[flow]?, result with
  | some guard, .ready written => if 0 < written then c.markForwarded flow guard else some c
  | some _, _ => some c
  | none, _ => none

def settled (c : Flows) (flow delivered : Nat) : Option Flows :=
  match c.guards[flow]? with
  | some guard => if 0 < delivered then c.markForwarded flow guard else some c
  | none => none

/-- The relay has given its references back, so no direction is marking the guard. -/
def drop (c : Flows) (flow : Nat) : Option Flows :=
  match c.guards[flow]? with
  | some ⟨index, forwarded, .live⟩ => some (c.set flow ⟨index, forwarded, .dropping⟩)
  | _ => none

def goOn (c : Flows) (flow : Nat) : Option Flows :=
  match c.guards[flow]? with
  | some ⟨index, forwarded, .marking⟩ =>
      some { c.set flow ⟨index, forwarded, .live⟩ with
        forwarding := Function.update c.forwarding index (c.forwarding index + 1) }
  | some ⟨index, forwarded, .dropping⟩ =>
      some (c.set flow ⟨index, forwarded, if forwarded then .releasing else .leaving⟩)
  | some ⟨index, forwarded, .releasing⟩ =>
      some { c.set flow ⟨index, forwarded, .leaving⟩ with
        forwarding := Function.update c.forwarding index (c.forwarding index - 1) }
  | some ⟨index, forwarded, .leaving⟩ =>
      some { c.set flow ⟨index, forwarded, .dropped⟩ with
        active := Function.update c.active index (c.active index - 1) }
  | _ => none

def step : Turn → Flows → Option Flows
  | .begin destinationPort, c => c.begin destinationPort
  | .pollWrite flow _ result, c => c.pollWrite flow result
  | .settled flow delivered, c => c.settled flow delivered
  | .drop flow, c => c.drop flow
  | .goOn flow, c => c.goOn flow

/-- All counters are loaded while none is changed. -/
def snapshot (c : Flows) : VirtualDesktopFlowSnapshot where
  connected := (List.finRange 4).all fun index => 0 < c.forwarding index
  activePorts := (List.finRange 4).countP fun index => 0 < c.active index
  activeFlows := (List.finRange 4).map c.active

/-- No call is under way. -/
def Quiescent (c : Flows) : Prop :=
  ∀ guard ∈ c.guards, guard.stage = .live ∨ guard.stage = .dropped

end Flows

def flows : System Flows Turn where
  init := ⟨fun _ => 0, fun _ => 0, []⟩
  step := Flows.step

section Counters
variable {p : VirtualDesktopFlowGuard → Bool} {guards : List VirtualDesktopFlowGuard}
  {counter : Fin 4 → UInt64} {flow : Nat} {guard guard' : VirtualDesktopFlowGuard}

/-- One for a guard of a port that is counted. -/
def weight (p : VirtualDesktopFlowGuard → Bool) (index : Fin 4)
    (guard : VirtualDesktopFlowGuard) : Nat :=
  if guard.index = index ∧ p guard then 1 else 0

theorem weight_other {index : Fin 4} (other : ¬ index = guard.index) :
    weight p index guard = 0 := by
  rw [weight, if_neg]
  rintro ⟨same, -⟩
  exact other same.symm

/-- A counter for each port holds the number of its guards. -/
def Counts (p : VirtualDesktopFlowGuard → Bool) (counter : Fin 4 → UInt64)
    (guards : List VirtualDesktopFlowGuard) : Prop :=
  ∀ index, counter index = UInt64.ofNat (total (weight p index) guards)

theorem Counts.same (counts : Counts p counter guards) (there : guards[flow]? = some guard)
    (index : guard'.index = guard.index) (kept : p guard' = p guard) :
    Counts p counter (guards.set flow guard') := by
  intro i
  have moved := total_set (weight p i) there guard'
  have equal : weight p i guard' = weight p i guard := by rw [weight, weight, index, kept]
  rw [counts i]
  exact congrArg _ (by omega)

theorem Counts.raise (counts : Counts p counter guards) (there : guards[flow]? = some guard)
    (index : guard'.index = guard.index) (before : p guard = false) (after : p guard' = true) :
    Counts p (Function.update counter guard.index (counter guard.index + 1))
      (guards.set flow guard') := by
  intro i
  have moved := total_set (weight p i) there guard'
  have off : weight p i guard = 0 := by simp [weight, before]
  by_cases own : i = guard.index
  · subst own
    have on : weight p guard.index guard' = 1 := by simp [weight, index, after]
    have sum : total (weight p guard.index) (guards.set flow guard') =
        total (weight p guard.index) guards + 1 := by omega
    rw [Function.update_self, counts, sum, UInt64.ofNat_add]
    rfl
  · have on : weight p i guard' = 0 := weight_other (by rwa [index])
    rw [Function.update_of_ne own, counts i]
    exact congrArg _ (by omega)

theorem Counts.lower (counts : Counts p counter guards) (there : guards[flow]? = some guard)
    (before : p guard = true) (after : p guard' = false) :
    Counts p (Function.update counter guard.index (counter guard.index - 1))
      (guards.set flow guard') := by
  intro i
  have moved := total_set (weight p i) there guard'
  have off : weight p i guard' = 0 := by simp [weight, after]
  by_cases own : i = guard.index
  · subst own
    have on : weight p guard.index guard = 1 := by simp [weight, before]
    have sum : total (weight p guard.index) guards =
        total (weight p guard.index) (guards.set flow guard') + 1 := by omega
    rw [Function.update_self, counts, sum, UInt64.ofNat_add]
    exact UInt64.add_sub_cancel _ _
  · have on : weight p i guard = 0 := weight_other own
    rw [Function.update_of_ne own, counts i]
    exact congrArg _ (by omega)

theorem Counts.append (counts : Counts p counter guards) (guard : VirtualDesktopFlowGuard)
    (after : p guard = true) :
    Counts p (Function.update counter guard.index (counter guard.index + 1))
      (guards ++ [guard]) := by
  intro i
  rw [total_append, total_cons, total_nil]
  by_cases own : i = guard.index
  · subst own
    have on : weight p guard.index guard = 1 := by simp [weight, after]
    rw [Function.update_self, counts, on, UInt64.ofNat_add]
    rfl
  · rw [Function.update_of_ne own, counts i, weight_other own, Nat.add_zero]

theorem Counts.append_same (counts : Counts p counter guards) (after : p guard = false) :
    Counts p counter (guards ++ [guard]) := by
  intro i
  have off : weight p i guard = 0 := by simp [weight, after]
  rw [total_append, total_cons, total_nil, off, counts i, Nat.add_zero]

theorem Counts.toNat (counts : Counts p counter guards) (index : Fin 4)
    (few : total (weight p index) guards < 2 ^ 64) :
    (counter index).toNat = guards.countP fun guard => guard.index = index ∧ p guard := by
  have count : total (weight p index) guards =
      guards.countP fun guard => guard.index = index ∧ p guard := by
    rw [← total_eq_countP]
    simp only [decide_eq_true_eq]
    rfl
  rw [counts index, UInt64.toNat_ofNat_of_lt' few, count]

theorem weight_le {p' : VirtualDesktopFlowGuard → Bool} {index : Fin 4}
    (weaker : p guard = true → p' guard = true) : weight p index guard ≤ weight p' index guard := by
  unfold weight
  split
  · rename_i both
    rw [if_pos ⟨both.1, weaker both.2⟩]
  · exact Nat.zero_le _

theorem total_weight_le (index : Fin 4) : total (weight p index) guards ≤ guards.countP p := by
  rw [← total_eq_countP]
  refine total_mono fun guard _ => ?_
  unfold weight
  split
  · rename_i both
    rw [if_pos both.2]
  · exact Nat.zero_le _

theorem countP_set_le (there : guards[flow]? = some guard)
    (shrinks : p guard' = true → p guard = true) :
    (guards.set flow guard').countP p ≤ guards.countP p := by
  rw [← total_eq_countP, ← total_eq_countP]
  have moved := total_set (fun guard => if p guard then 1 else 0) there guard'
  have less : (if p guard' then 1 else 0) ≤ (if p guard then 1 else 0) := by
    split
    · rw [if_pos (shrinks (by assumption))]
    · exact Nat.zero_le _
  omega

end Counters

/-- The counters hold the numbers of guards, and a guard is counted or taken off only with
its flag set. -/
structure Accounted (c : Flows) : Prop where
  active : Counts VirtualDesktopFlowGuard.present c.active c.guards
  forwarding : Counts VirtualDesktopFlowGuard.counted c.forwarding c.guards
  room : c.guards.countP VirtualDesktopFlowGuard.present < 2 ^ 64
  flagged : ∀ guard ∈ c.guards, guard.stage = .marking ∨ guard.stage = .releasing →
    guard.forwarded = true

section Steps
variable {c c' : Flows} {flow : Nat} {guard guard' : VirtualDesktopFlowGuard}
  {active forwarding : Fin 4 → UInt64}

theorem accounted_init : Accounted flows.init := by
  refine ⟨fun _ => rfl, fun _ => rfl, ?_, ?_⟩
  · decide
  · intro guard mem
    cases mem

theorem Accounted.replace (accounted : Accounted c) (there : c.guards[flow]? = some guard)
    (counts : Counts VirtualDesktopFlowGuard.present active (c.guards.set flow guard'))
    (counts' : Counts VirtualDesktopFlowGuard.counted forwarding (c.guards.set flow guard'))
    (shrinks : guard'.present = true → guard.present = true)
    (flag : guard'.stage = .marking ∨ guard'.stage = .releasing → guard'.forwarded = true) :
    Accounted ⟨active, forwarding, c.guards.set flow guard'⟩ := by
  refine ⟨counts, counts', ?_, ?_⟩
  · exact Nat.lt_of_le_of_lt (countP_set_le there shrinks) accounted.room
  · intro other mem
    rcases List.mem_or_eq_of_mem_set mem with before | rfl
    · exact accounted.flagged other before
    · exact flag

theorem begin_accounted {destinationPort : UInt16} (accounted : Accounted c)
    (taken : c.begin destinationPort = some c') : Accounted c' := by
  unfold Flows.begin at taken
  split at taken
  · cases taken
    exact accounted
  · split at taken
    · rename_i index _ room
      cases taken
      refine ⟨accounted.active.append ⟨index, false, .live⟩ rfl,
        accounted.forwarding.append_same rfl, ?_, ?_⟩
      · rw [List.countP_append]
        exact room
      · intro guard mem
        rcases List.mem_append.mp mem with before | now
        · exact accounted.flagged guard before
        · rw [List.mem_singleton.mp now]
          rintro (marking | releasing)
          · cases marking
          · cases releasing
    · cases taken

theorem markForwarded_accounted (accounted : Accounted c) (there : c.guards[flow]? = some guard)
    (taken : c.markForwarded flow guard = some c') : Accounted c' := by
  unfold Flows.markForwarded at taken
  split at taken
  · rename_i stage
    split at taken
    · cases taken
      exact accounted
    · rename_i unset
      cases taken
      have live : guard.stage = .live := by
        refine stage.resolve_right fun marking => unset ?_
        exact accounted.flagged guard (List.mem_of_getElem? there) (.inl marking)
      refine accounted.replace there (accounted.active.same there rfl ?_)
        (accounted.forwarding.same there rfl ?_) ?_ ?_
      · simp [VirtualDesktopFlowGuard.present, live]
      · simp [VirtualDesktopFlowGuard.counted, unset]
      · simp [VirtualDesktopFlowGuard.present, live]
      · simp
  · cases taken

theorem drop_accounted (accounted : Accounted c) (taken : c.drop flow = some c') :
    Accounted c' := by
  unfold Flows.drop at taken
  split at taken
  · rename_i index forwarded there
    cases taken
    refine accounted.replace there (accounted.active.same there rfl rfl)
      (accounted.forwarding.same there rfl ?_) (fun _ => rfl) ?_
    · simp [VirtualDesktopFlowGuard.counted]
    · simp
  · cases taken

theorem goOn_accounted (accounted : Accounted c) (taken : c.goOn flow = some c') :
    Accounted c' := by
  unfold Flows.goOn at taken
  split at taken
  · rename_i index forwarded there
    cases taken
    have flag : forwarded = true := accounted.flagged _ (List.mem_of_getElem? there) (.inl rfl)
    refine accounted.replace there (accounted.active.same there rfl rfl)
      (accounted.forwarding.raise there rfl ?_ ?_) (fun _ => rfl) ?_
    · simp [VirtualDesktopFlowGuard.counted]
    · simp [VirtualDesktopFlowGuard.counted, flag]
    · simp
  · rename_i index forwarded there
    cases taken
    refine accounted.replace there (accounted.active.same there rfl ?_)
      (accounted.forwarding.same there rfl ?_) ?_ ?_
    · cases forwarded <;> rfl
    · cases forwarded <;> rfl
    · exact fun _ => rfl
    · cases forwarded <;> simp
  · rename_i index forwarded there
    cases taken
    have flag : forwarded = true := accounted.flagged _ (List.mem_of_getElem? there) (.inr rfl)
    refine accounted.replace there (accounted.active.same there rfl rfl)
      (accounted.forwarding.lower there ?_ ?_) (fun _ => rfl) ?_
    · simp [VirtualDesktopFlowGuard.counted, flag]
    · simp [VirtualDesktopFlowGuard.counted]
    · simp
  · rename_i index forwarded there
    cases taken
    refine accounted.replace there (accounted.active.lower there rfl rfl)
      (accounted.forwarding.same there rfl ?_) (fun _ => rfl) ?_
    · simp [VirtualDesktopFlowGuard.counted]
    · simp
  · cases taken

theorem step_accounted {turn : Turn} (accounted : Accounted c)
    (taken : Flows.step turn c = some c') : Accounted c' := by
  cases turn <;> simp only [Flows.step] at taken
  case begin => exact begin_accounted accounted taken
  case pollWrite =>
      unfold Flows.pollWrite at taken
      split at taken
      · rename_i there
        split at taken
        · exact markForwarded_accounted accounted there taken
        · cases taken
          exact accounted
      · cases taken
        exact accounted
      · cases taken
  case settled =>
      unfold Flows.settled at taken
      split at taken
      · rename_i there
        split at taken
        · exact markForwarded_accounted accounted there taken
        · cases taken
          exact accounted
      · cases taken
  case drop => exact drop_accounted accounted taken
  case goOn => exact goOn_accounted accounted taken

theorem reachable_accounted (reached : flows.Reachable Free c) : Accounted c :=
  reached.invariant accounted_init fun _ _ _ accounted _ taken => step_accounted accounted taken

end Steps

/-! ### The flags and the calls that set them -/

/-- The turn is a call of `mark_forwarded` for the guard. -/
def Turn.marks (flow : Nat) : Turn → Bool
  | .pollWrite own _ (.ready written) => own = flow ∧ 0 < written
  | .settled own delivered => own = flow ∧ 0 < delivered
  | _ => false

def Flagged (guards : List VirtualDesktopFlowGuard) (flow : Nat) : Prop :=
  ∃ guard, guards[flow]? = some guard ∧ guard.forwarded = true

section Flags
variable {c c' : Flows} {own flow : Nat} {guard guard' : VirtualDesktopFlowGuard}
  {guards : List VirtualDesktopFlowGuard}

end Flags

section Counted
variable {c : Flows} {index : Fin 4}

theorem present_of_counted {guard : VirtualDesktopFlowGuard} (counted : guard.counted = true) :
    guard.present = true := by
  simp only [VirtualDesktopFlowGuard.counted, decide_eq_true_eq] at counted
  obtain ⟨-, live | dropping | releasing⟩ := counted
  · simp [VirtualDesktopFlowGuard.present, live]
  · simp [VirtualDesktopFlowGuard.present, dropping]
  · simp [VirtualDesktopFlowGuard.present, releasing]

theorem Accounted.few (accounted : Accounted c) (index : Fin 4) :
    total (weight VirtualDesktopFlowGuard.present index) c.guards < 2 ^ 64 :=
  Nat.lt_of_le_of_lt (total_weight_le index) accounted.room

theorem total_counted_le (guards : List VirtualDesktopFlowGuard) (index : Fin 4) :
    total (weight VirtualDesktopFlowGuard.counted index) guards ≤
      total (weight VirtualDesktopFlowGuard.present index) guards :=
  total_mono fun _ _ => weight_le present_of_counted

theorem Accounted.active_toNat (accounted : Accounted c) (index : Fin 4) :
    (c.active index).toNat = c.guards.countP fun guard => guard.index = index ∧ guard.present :=
  accounted.active.toNat index (accounted.few index)

theorem Accounted.forwarding_toNat (accounted : Accounted c) (index : Fin 4) :
    (c.forwarding index).toNat =
      c.guards.countP fun guard => guard.index = index ∧ guard.counted :=
  accounted.forwarding.toNat index
    (Nat.lt_of_le_of_lt (total_counted_le c.guards index) (accounted.few index))

/-- A counter from which a guard is about to be taken is positive. -/
theorem Accounted.positive (accounted : Accounted c) {guard : VirtualDesktopFlowGuard}
    (mem : guard ∈ c.guards) :
    (guard.counted = true → c.forwarding guard.index ≠ 0) ∧
      (guard.present = true → c.active guard.index ≠ 0) := by
  refine ⟨fun counted => ?_, fun present => ?_⟩
  · rw [ne_eq, ← UInt64.toNat_inj, accounted.forwarding_toNat]
    exact Nat.ne_of_gt (List.countP_pos_iff.mpr ⟨guard, mem, by simp [counted]⟩)
  · rw [ne_eq, ← UInt64.toNat_inj, accounted.active_toNat]
    exact Nat.ne_of_gt (List.countP_pos_iff.mpr ⟨guard, mem, by simp [present]⟩)

end Counted

end QuestVdWired.Host.VirtualDesktopFlow
