import QuestVdWired.Transition.System
import Mathlib.Logic.Relation

/-!
Threads over re-entrant monitors. A thread runs code that enters and leaves monitors, works
on shared data in atomic steps, takes whatever an outcome turns out to be, and ends by jumping
to a label. A thread that stands before a monitor of another thread is blocked, and waits for
that thread.

The discipline of a program is a table: which monitor may be entered with which others held.
It is checked once, over the code, and then holds of every thread in every reachable state.
-/

namespace Monitor
open Transition

inductive Code (M σ L : Type)
  | jump (label : L)
  | enter (m : M) (next : Code M σ L)
  | leave (m : M) (next : Code M σ L)
  | run (f : σ → σ) (next : σ → Code M σ L)
  | choose (next : Nat → Code M σ L)

namespace Code
variable {M σ L : Type}

/-- With the monitors `held`, innermost first, the code enters only what `ok` allows, leaves
them in order, and jumps with none held to a label the thread runs. -/
def Checks (ok : List M → M → Prop) (runs : L → Prop) : List M → Code M σ L → Prop
  | held, jump label => held = [] ∧ runs label
  | held, enter m next => ok held m ∧ next.Checks ok runs (m :: held)
  | held, leave m next => ∃ rest, held = m :: rest ∧ next.Checks ok runs rest
  | held, run _ next => ∀ s, (next s).Checks ok runs held
  | held, choose next => ∀ r, (next r).Checks ok runs held

/-- The code may come to enter `m` before it leaves `outer`. -/
inductive MayEnter (outer m : M) : Code M σ L → Prop
  | now {next : Code M σ L} : MayEnter outer m (enter m next)
  | enter {other : M} {next : Code M σ L} (later : MayEnter outer m next) :
      MayEnter outer m (enter other next)
  | leave {other : M} {next : Code M σ L} (inside : other ≠ outer)
      (later : MayEnter outer m next) : MayEnter outer m (leave other next)
  | run {f : σ → σ} {next : σ → Code M σ L} {s : σ} (later : MayEnter outer m (next s)) :
      MayEnter outer m (run f next)
  | choose {next : Nat → Code M σ L} {r : Nat} (later : MayEnter outer m (next r)) :
      MayEnter outer m (choose next)

attribute [local grind =] Checks

end Code

/-- The data, and for each monitor the thread that holds it. -/
structure Shared (T M σ : Type) where
  data : σ
  owner : M → Option T

/-- What is left to run, and the monitors held, innermost first. -/
structure Thread (M σ L : Type) where
  code : Code M σ L
  held : List M

section Step
variable {T M σ L : Type} [DecidableEq T] [DecidableEq M]

def step (program : L → Code M σ L) (t : T) (r : Nat) (sh : Shared T M σ) (th : Thread M σ L) :
    Option (Shared T M σ × Thread M σ L) :=
  match th.code with
  | .jump label => some (sh, ⟨program label, th.held⟩)
  | .enter m next =>
      if sh.owner m = none ∨ sh.owner m = some t then
        some ({ sh with owner := Function.update sh.owner m (some t) }, ⟨next, m :: th.held⟩)
      else none
  | .leave m next =>
      let rest := th.held.erase m
      some ({ sh with owner :=
        if m ∈ rest then sh.owner else Function.update sh.owner m none }, ⟨next, rest⟩)
  | .run f next => some ({ sh with data := f sh.data }, ⟨next sh.data, th.held⟩)
  | .choose next => some (sh, ⟨next r, th.held⟩)

/-- Every thread begins at its label, with no monitor held. -/
def threads (program : L → Code M σ L) (begins : T → L) (data : σ) :
    Tasks T (Shared T M σ) (Thread M σ L) Nat where
  shared := ⟨data, fun _ => none⟩
  task t := ⟨.jump (begins t), []⟩
  step := step program

end Step

section Discipline
variable {T M σ L : Type} [DecidableEq T] [DecidableEq M] {program : L → Code M σ L}
  {begins : T → L} {data : σ} {ok : T → List M → M → Prop} {runs : T → L → Prop}

/-- The thread keeps to the table, and owns exactly the monitors it holds. -/
structure Disciplined (ok : T → List M → M → Prop) (runs : T → L → Prop) (t : T)
    (sh : Shared T M σ) (th : Thread M σ L) : Prop where
  checks : th.code.Checks (ok t) (runs t) th.held
  owns : ∀ m, sh.owner m = some t ↔ m ∈ th.held

theorem Disciplined.step {t : T} {r : Nat} {sh sh' : Shared T M σ} {th th' : Thread M σ L}
    (checked : ∀ t label, runs t label → (program label).Checks (ok t) (runs t) [])
    (h : Disciplined ok runs t sh th) (taken : Monitor.step program t r sh th = some (sh', th')) :
    Disciplined ok runs t sh' th' ∧
      ∀ k other, k ≠ t → Disciplined ok runs k sh other → Disciplined ok runs k sh' other := by
  obtain ⟨code, held⟩ := th
  have checks := h.checks
  have owns := h.owns
  cases code with
  | jump label =>
      cases taken
      obtain ⟨rfl, mine⟩ := checks
      exact ⟨⟨checked t label mine, owns⟩, fun _ _ _ other => other⟩
  | enter m next =>
      simp only [Monitor.step] at taken
      split at taken
      · rename_i free
        cases taken
        refine ⟨⟨checks.2, fun m' => ?_⟩, fun k other ne before => ⟨before.checks, fun m' => ?_⟩⟩
        · by_cases same : m' = m
          · simp [same]
          · simpa [Function.update_of_ne same, same] using owns m'
        · by_cases same : m' = m
          · subst same
            have apart : sh.owner m' ≠ some k := by
              rcases free with free | free
              · simp [free]
              · simp [free, ne.symm]
            simp [← before.owns, apart, ne.symm]
          · simpa [Function.update_of_ne same] using before.owns m'
      · cases taken
  | leave m next =>
      cases taken
      obtain ⟨rest, rfl, later⟩ := checks
      have mine : sh.owner m = some t := (owns m).mpr List.mem_cons_self
      simp only [List.erase_cons_head]
      refine ⟨⟨later, fun m' => ?_⟩, fun k other ne before => ⟨before.checks, fun m' => ?_⟩⟩
      · by_cases same : m' = m
        · subst same
          by_cases again : m' ∈ rest <;> simp [again, mine]
        · have here := owns m'
          by_cases again : m ∈ rest
          · simpa [again, same] using here
          · simpa [again, Function.update_of_ne same, same] using here
      · by_cases same : m' = m
        · subst same
          have apart : sh.owner m' ≠ some k := by simp [mine, ne.symm]
          by_cases again : m' ∈ rest <;> simp [← before.owns, again, apart]
        · by_cases again : m ∈ rest
          · simpa [again] using before.owns m'
          · simpa [again, Function.update_of_ne same] using before.owns m'
  | run f next =>
      cases taken
      exact ⟨⟨checks sh.data, owns⟩, fun k other _ before => ⟨before.checks, before.owns⟩⟩
  | choose next =>
      cases taken
      exact ⟨⟨checks r, owns⟩, fun _ _ _ other => other⟩

theorem reachable_disciplined {permitted : Config T (Shared T M σ) (Thread M σ L) → T × Nat → Prop}
    (checked : ∀ t label, runs t label → (program label).Checks (ok t) (runs t) [])
    (begun : ∀ t, runs t (begins t)) {c : Config T (Shared T M σ) (Thread M σ L)}
    (reached : (threads program begins data).system.Reachable permitted c) (t : T) :
    Disciplined ok runs t c.shared (c.task t) := by
  refine (Tasks.system_invariant (I := fun _ => True) (J := Disciplined ok runs) trivial ?_ ?_
    reached).2 t
  · exact fun k => ⟨⟨rfl, begun k⟩, by simp [threads]⟩
  · intro c i a sh th _ _ each taken
    obtain ⟨own, others⟩ := (each i).step checked taken
    exact ⟨trivial, own, fun k ne => others k _ ne (each k)⟩

/-- The thread holds `outer`, and may come to enter `m` before it leaves it. -/
def Within (outer m : M) (th : Thread M σ L) : Prop :=
  outer ∈ th.held ∧ th.code.MayEnter outer m

/-- The next step of the thread enters `outer`, with `m` to come inside it. -/
def Entering (outer m : M) (th : Thread M σ L) : Prop :=
  ∃ next, th.code = .enter outer next ∧ next.MayEnter outer m

/-- A thread comes to be within a block by entering it. -/
theorem within_step {t : T} {r : Nat} {sh sh' : Shared T M σ} {th th' : Thread M σ L} {outer m : M}
    (h : Disciplined ok runs t sh th) (once : th.held.Nodup)
    (taken : Monitor.step program t r sh th = some (sh', th')) (inside : Within outer m th') :
    Within outer m th ∨ Entering outer m th := by
  obtain ⟨code, held⟩ := th
  have checks := h.checks
  obtain ⟨mine, later⟩ := inside
  cases code with
  | jump label =>
      cases taken
      obtain ⟨rfl, -⟩ := checks
      cases mine
  | enter k next =>
      simp only [Monitor.step] at taken
      split at taken
      · cases taken
        rcases List.mem_cons.mp mine with rfl | mine
        · exact .inr ⟨next, rfl, later⟩
        · exact .inl ⟨mine, .enter later⟩
      · cases taken
  | leave k next =>
      cases taken
      obtain ⟨rest, rfl, -⟩ := checks
      rw [List.erase_cons_head] at mine
      have other : k ≠ outer := fun same => (List.nodup_cons.mp once).1 (same ▸ mine)
      exact .inl ⟨List.mem_cons_of_mem _ mine, .leave other later⟩
  | run f next =>
      cases taken
      exact .inl ⟨mine, .run later⟩
  | choose next =>
      cases taken
      exact .inl ⟨mine, .choose later⟩

theorem nodup_step {t : T} {r : Nat} {sh sh' : Shared T M σ} {th th' : Thread M σ L}
    (fresh : ∀ held m, ok t held m → m ∉ held) (h : Disciplined ok runs t sh th)
    (once : th.held.Nodup) (taken : Monitor.step program t r sh th = some (sh', th')) :
    th'.held.Nodup := by
  obtain ⟨code, held⟩ := th
  have checks := h.checks
  cases code with
  | enter k next =>
      simp only [Monitor.step] at taken
      split at taken
      · cases taken
        exact List.nodup_cons.mpr ⟨fresh held k checks.1, once⟩
      · cases taken
  | leave k next =>
      cases taken
      exact once.erase k
  | jump _ | run _ _ | choose _ =>
      cases taken
      exact once

end Discipline

section Waiting
variable {T M σ L : Type}

/-- The thread stands before a monitor that another one holds. -/
def WaitsFor (c : Config T (Shared T M σ) (Thread M σ L)) (t t' : T) : Prop :=
  ∃ m next, (c.task t).code = .enter m next ∧ c.shared.owner m = some t' ∧ t' ≠ t

/-- No cycle of a relation along which a measure grows, on the steps that have one before and
one behind them. -/
theorem no_cycle {W : T → T → Prop} (measure : T → Nat)
    (grows : ∀ r s t u, W r s → W s t → W t u → measure s < measure t) (t : T) :
    ¬ Relation.TransGen W t t := by
  intro cycle
  -- Every step of a closed walk has one before and one behind it.
  have along {a b x y : T} (before : W x a) (walk : Relation.TransGen W a b) (behind : W b y) :
      measure a < measure b := by
    induction walk generalizing y with
    | single step => exact grows _ _ _ _ before step behind
    | tail walk step ih =>
        obtain ⟨p, -, last⟩ := Relation.TransGen.tail'_iff.mp walk
        exact Nat.lt_trans (ih step) (grows _ _ _ _ last step behind)
  obtain ⟨x, -, before⟩ := Relation.TransGen.tail'_iff.mp cycle
  obtain ⟨y, behind, -⟩ := Relation.TransGen.head'_iff.mp cycle
  exact Nat.lt_irrefl _ (along before cycle behind)

end Waiting

end Monitor
