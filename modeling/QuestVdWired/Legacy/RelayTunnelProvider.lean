import QuestVdWired.Transition.System

/-!
`RelayTunnelProvider` under the loops of `PersistentRelayTunnel`: the sending thread, the
receiving thread and `close`, split at the monitors, the waits, `open`, `connect` and the reads of
`tunnel` outside of "this". Memory is sequentially consistent. The clock, the result of a connect
or a transfer, and a close of a socket that throws are left open.
-/

namespace QuestVdWired.Legacy.RelayTunnelProvider
open Transition

def DELAY_BETWEEN_ATTEMPTS_MS : Int := 5000

inductive Thread
  | sender | receiver | closer
  deriving DecidableEq, Repr

theorem forall_thread {p : Thread → Prop} :
    (∀ k, p k) ↔ p .sender ∧ p .receiver ∧ p .closer := by
  constructor
  · intro all
    exact ⟨all _, all _, all _⟩
  · rintro ⟨sender, receiver, closer⟩ (_ | _ | _) <;> assumption

instance {p : Thread → Prop} [DecidablePred p] : Decidable (∀ k, p k) :=
  decidable_of_iff _ forall_thread.symm

inductive Notification
  | connected | disconnected
  deriving DecidableEq, Repr

/-- Where a thread stands. -/
inductive Pc
  /-- between two calls of `send` or `receive` -/
  | idle
  /-- before `stopped.get()` -/
  | loop
  /-- before `getCurrentTunnelLock` -/
  | entering
  /-- behind it, before "this" -/
  | locked
  /-- in `wait`, without "this" -/
  | waiting
  /-- before `RelayTunnel.open`, with "this" -/
  | opening
  /-- behind "this", before `connectTunnel` -/
  | opened
  | connecting (tunnel : Nat) (notifyDisconnectedOnError : Bool)
  /-- in the handler of `connectTunnel` -/
  | failing (notifyDisconnectedOnError : Bool)
  | connected
  /-- behind `getCurrentTunnelLock`, before `return tunnel` -/
  | returning
  /-- back in `send` or `receive` -/
  | holding (tunnel : Nat)
  /-- before `invalidateTunnel(tunnel)` -/
  | invalidating (tunnel : Nat)
  /-- before `stopped.set(true)` -/
  | closing
  /-- before `invalidateTunnel()` in `close` -/
  | stopping
  /-- behind `close` -/
  | returned
  | finished
  deriving DecidableEq, Repr

/-- Tunnels are numbered as they are opened. From `opened` on it is ghosts: how many there are,
those that `connect` succeeded and failed for, those that are closed, how often `tunnel` was
cleared, and what `getCurrentTunnel` returned in which such period. -/
structure Shared where
  getCurrentTunnelLock : Option Thread
  monitor : Option Thread
  tunnel : Option Nat
  first : Bool
  lastFailureTimestamp : Int
  stopped : Bool
  notified : List Notification
  opened : Nat
  connected : List Nat
  failed : List Nat
  closed : List Nat
  period : Nat
  returned : List (Nat × Option Nat)
  nullDereferenced : Bool
  deriving DecidableEq, Repr

namespace Shared
variable (sh : Shared)

def notify (n : Notification) : Shared := { sh with notified := sh.notified ++ [n] }

def unlock : Shared := { sh with getCurrentTunnelLock := none }

/-- `getCurrentTunnel` returns what `tunnel` is. -/
def giveBack : Shared := { sh with returned := sh.returned ++ [(sh.period, sh.tunnel)] }

def touchFailure (now : Int) : Shared := { sh with lastFailureTimestamp := now }

def delay (now : Int) : Int := sh.lastFailureTimestamp + DELAY_BETWEEN_ATTEMPTS_MS - now

/-- `true` for the exception that leaves `tunnel.close()`. -/
def invalidateTunnel (now : Int) (closeThrows : Bool) : Shared × Bool :=
  match sh.tunnel with
  | none => (sh, false)
  | some t =>
      if closeThrows then (sh.touchFailure now, true)
      else
        ({ sh.touchFailure now with
            tunnel := none
            closed := sh.closed ++ [t]
            period := sh.period + 1 }.notify .disconnected, false)

def invalidateCurrent (tunnelToInvalidate : Nat) (now : Int) (closeThrows : Bool) : Shared × Bool :=
  if sh.tunnel = some tunnelToInvalidate then sh.invalidateTunnel now closeThrows else (sh, false)

end Shared

inductive Action
  | call
  | finish
  | checkStopped
  | acquire
  | getCurrentTunnel (now : Int)
  | wake (now : Int)
  | interrupt
  | open
  | connectTunnel
  | connect (succeeds : Bool)
  | touchFailure (now : Int)
  | release
  | read
  | transfer (succeeds : Bool)
  | invalidate (now : Int) (closeThrows : Bool)
  | stop
  deriving DecidableEq, Repr

def step (i : Thread) (action : Action) (sh : Shared) (pc : Pc) : Option (Shared × Pc) :=
  match action, pc with
  | .call, .idle => some (sh, .loop)
  | .finish, .idle => some (sh, .finished)
  | .checkStopped, .loop => some (sh, if sh.stopped then .finished else .entering)
  | .acquire, .entering =>
      if sh.getCurrentTunnelLock = none then
        some ({ sh with getCurrentTunnelLock := some i }, .locked)
      else none
  | .getCurrentTunnel now, .locked =>
      if sh.monitor = none then
        match sh.tunnel with
        | some t => some (sh.giveBack.unlock, .holding t)
        | none =>
            if sh.first = true ∨ sh.delay now ≤ 0 then some ({ sh with monitor := some i }, .opening)
            else some (sh, .waiting)
      else none
  | .wake now, .waiting =>
      if sh.monitor = none then
        if sh.delay now ≤ 0 then some ({ sh with monitor := some i }, .opening)
        else some (sh, .waiting)
      else none
  | .interrupt, .waiting => if sh.monitor = none then some (sh.unlock, .loop) else none
  | .open, .opening =>
      some ({ sh with
        tunnel := some sh.opened
        opened := sh.opened + 1
        monitor := none }, .opened)
  | .connectTunnel, .opened =>
      match sh.tunnel with
      | some t => some ({ sh with first := false }, .connecting t sh.first)
      | none => some ({ sh with first := false, nullDereferenced := true }.unlock, .finished)
  | .connect true, .connecting t _ =>
      some ({ sh with connected := sh.connected ++ [t] }.notify .connected, .connected)
  | .connect false, .connecting t notifyDisconnectedOnError =>
      some ({ sh with failed := sh.failed ++ [t] }, .failing notifyDisconnectedOnError)
  | .touchFailure now, .failing notifyDisconnectedOnError =>
      if sh.monitor = none then
        let sh := sh.touchFailure now
        let sh := if notifyDisconnectedOnError then sh.notify .disconnected else sh
        some (sh.unlock, .loop)
      else none
  | .release, .connected => some (sh.unlock, .returning)
  | .read, .returning =>
      some (sh.giveBack,
        match sh.tunnel with
        | some t => .holding t
        | none => .finished)
  | .transfer succeeds, .holding t => some (sh, if succeeds then .idle else .invalidating t)
  | .invalidate now closeThrows, .invalidating t =>
      if sh.monitor = none then
        let (sh', thrown) := sh.invalidateCurrent t now closeThrows
        some (sh', if thrown then .finished else .loop)
      else none
  | .stop, .closing => some ({ sh with stopped := true }, .stopping)
  | .invalidate now closeThrows, .stopping =>
      if sh.monitor = none then
        let (sh', thrown) := sh.invalidateTunnel now closeThrows
        some (sh', if thrown then .finished else .returned)
      else none
  | _, _ => none

def provider : Tasks Thread Shared Pc Action where
  shared := ⟨none, none, none, true, 0, false, [], 0, [], [], [], 0, [], false⟩
  task
    | .closer => .closing
    | _ => .idle
  step := step

attribute [local grind =] step

/-- The thread counts on `tunnel` and does not hold "this". -/
def Pc.exposed : Pc → Bool
  | opened | connected | returning => true
  | _ => false

def Pc.connects : Pc → Option Nat
  | connecting t _ => some t
  | _ => none

/-- The invalidation that stands next clears `tunnel`. -/
def Shared.clearedBy (sh : Shared) : Pc → Bool
  | .invalidating t => sh.tunnel = some t
  | .stopping => sh.tunnel.isSome
  | _ => false

/-- Nothing is opened behind `close`, no tunnel that did not connect is in the field when
`getCurrentTunnel` looks, `tunnel` is not cleared where another thread counts on it, and no tunnel
connects that was closed on the way. -/
def Sheltered (c : Config Thread Shared Pc) : Thread × Action → Prop
  | (_, .open) => ∀ k, c.task k ≠ .returned
  | (_, .getCurrentTunnel _) => ∀ t ∈ c.shared.tunnel, t ∉ c.shared.failed
  | (i, .connect true) => ∀ t ∈ (c.task i).connects, t ∉ c.shared.closed
  | (i, .invalidate _ false) =>
      c.shared.clearedBy (c.task i) = true → ∀ k, k ≠ i → (c.task k).exposed = false
  | _ => True

instance (c : Config Thread Shared Pc) : ∀ a, Decidable (Sheltered c a)
  | (_, .open) => inferInstanceAs (Decidable (∀ k, c.task k ≠ .returned))
  | (_, .getCurrentTunnel _) =>
      inferInstanceAs (Decidable (∀ t ∈ c.shared.tunnel, t ∉ c.shared.failed))
  | (i, .connect true) =>
      inferInstanceAs (Decidable (∀ t ∈ (c.task i).connects, t ∉ c.shared.closed))
  | (i, .invalidate _ false) => inferInstanceAs (Decidable
      (c.shared.clearedBy (c.task i) = true → ∀ k, k ≠ i → (c.task k).exposed = false))
  | (_, .call) | (_, .finish) | (_, .checkStopped) | (_, .acquire) | (_, .wake _)
  | (_, .interrupt) | (_, .connectTunnel) | (_, .connect false) | (_, .touchFailure _)
  | (_, .release) | (_, .read) | (_, .transfer _) | (_, .invalidate _ true) | (_, .stop) =>
      inferInstanceAs (Decidable True)

/-- What the two loops count on. -/
structure Provides (c : Config Thread Shared Pc) : Prop where
  dereferences : c.shared.nullDereferenced = false
  nonNull : ∀ r ∈ c.shared.returned, r.2 ≠ none
  connected : ∀ r ∈ c.shared.returned, ∀ t ∈ r.2, t ∈ c.shared.connected
  same : ∀ r ∈ c.shared.returned, ∀ r' ∈ c.shared.returned, r.1 = r'.1 → r.2 = r'.2
  closed : c.task .closer = .returned → c.task .sender = .finished →
    c.task .receiver = .finished → ∀ t < c.shared.opened, t ∈ c.shared.closed

def Pc.locks : Pc → Bool
  | locked | waiting | opening | opened | connecting _ _ | failing _ | connected => true
  | _ => false

/-- The steps, with what is so when one is taken. -/
inductive Takes (i : Thread) (sh : Shared) : Action → Pc → Shared → Pc → Prop
  | call : Takes i sh .call .idle sh .loop
  | finish : Takes i sh .finish .idle sh .finished
  | stopped : Takes i sh .checkStopped .loop sh .finished
  | enters : Takes i sh .checkStopped .loop sh .entering
  | acquire (free : sh.getCurrentTunnelLock = none) :
      Takes i sh .acquire .entering { sh with getCurrentTunnelLock := some i } .locked
  | current {now : Int} {t : Nat} (there : sh.tunnel = some t) :
      Takes i sh (.getCurrentTunnel now) .locked sh.giveBack.unlock (.holding t)
  | opens {now : Int} (empty : sh.tunnel = none) :
      Takes i sh (.getCurrentTunnel now) .locked { sh with monitor := some i } .opening
  | waits {now : Int} (empty : sh.tunnel = none) :
      Takes i sh (.getCurrentTunnel now) .locked sh .waiting
  | wakes {now : Int} :
      Takes i sh (.wake now) .waiting { sh with monitor := some i } .opening
  | sleeps {now : Int} : Takes i sh (.wake now) .waiting sh .waiting
  | interrupt : Takes i sh .interrupt .waiting sh.unlock .loop
  | creates : Takes i sh .open .opening
      { sh with tunnel := some sh.opened, opened := sh.opened + 1, monitor := none } .opened
  | connects {t : Nat} (there : sh.tunnel = some t) :
      Takes i sh .connectTunnel .opened { sh with first := false } (.connecting t sh.first)
  | dereferences (empty : sh.tunnel = none) : Takes i sh .connectTunnel .opened
      { sh with first := false, nullDereferenced := true }.unlock .finished
  | succeeds {t : Nat} {notify : Bool} : Takes i sh (.connect true) (.connecting t notify)
      ({ sh with connected := sh.connected ++ [t] }.notify .connected) .connected
  | fails {t : Nat} {notify : Bool} : Takes i sh (.connect false) (.connecting t notify)
      { sh with failed := sh.failed ++ [t] } (.failing notify)
  | throws {now : Int} {notify : Bool} {notified : List Notification} :
      Takes i sh (.touchFailure now) (.failing notify)
        { sh.touchFailure now with notified := notified }.unlock .loop
  | release : Takes i sh .release .connected sh.unlock .returning
  | reads {t : Nat} (there : sh.tunnel = some t) :
      Takes i sh .read .returning sh.giveBack (.holding t)
  | readsNull (empty : sh.tunnel = none) : Takes i sh .read .returning sh.giveBack .finished
  | transfers {t : Nat} : Takes i sh (.transfer true) (.holding t) sh .idle
  | breaks {t : Nat} : Takes i sh (.transfer false) (.holding t) sh (.invalidating t)
  | stops : Takes i sh .stop .closing { sh with stopped := true } .stopping
  | keeps {now : Int} {closeThrows : Bool} {pc pc' : Pc} (sits : sh.clearedBy pc = false)
      (next : (∃ t, pc = .invalidating t ∧ pc' = .loop) ∨
        (pc = .stopping ∧ sh.tunnel = none ∧ pc' = .returned)) :
      Takes i sh (.invalidate now closeThrows) pc sh pc'
  | closeThrows {now : Int} {pc : Pc} (before : (∃ t, pc = .invalidating t) ∨ pc = .stopping) :
      Takes i sh (.invalidate now true) pc (sh.touchFailure now) .finished
  | clears {now : Int} {t : Nat} {pc pc' : Pc} (there : sh.tunnel = some t)
      (clear : sh.clearedBy pc = true)
      (next : (pc = .invalidating t ∧ pc' = .loop) ∨ (pc = .stopping ∧ pc' = .returned)) :
      Takes i sh (.invalidate now false) pc
        ({ sh.touchFailure now with
            tunnel := none
            closed := sh.closed ++ [t]
            period := sh.period + 1 }.notify .disconnected) pc'

section
variable {i : Thread} {action : Action} {sh sh' : Shared} {pc pc' : Pc}

theorem takes_invalidating {t : Nat} {now : Int} {closeThrows : Bool}
    (taken : step i (.invalidate now closeThrows) sh (.invalidating t) = some (sh', pc')) :
    Takes i sh (.invalidate now closeThrows) (.invalidating t) sh' pc' := by
  simp only [step, Shared.invalidateCurrent] at taken
  split at taken
  · by_cases mine : sh.tunnel = some t
    · simp only [Shared.invalidateTunnel, mine] at taken
      cases closeThrows with
      | true =>
          cases taken
          exact .closeThrows (.inl ⟨t, rfl⟩)
      | false =>
          cases taken
          exact .clears mine (by simp [Shared.clearedBy, mine]) (.inl ⟨rfl, rfl⟩)
    · simp only [if_neg mine] at taken
      cases taken
      exact .keeps (by simp [Shared.clearedBy, mine]) (.inl ⟨t, rfl, rfl⟩)
  · cases taken

theorem takes_stopping {now : Int} {closeThrows : Bool}
    (taken : step i (.invalidate now closeThrows) sh .stopping = some (sh', pc')) :
    Takes i sh (.invalidate now closeThrows) .stopping sh' pc' := by
  simp only [step, Shared.invalidateTunnel] at taken
  split at taken
  · cases there : sh.tunnel with
    | none =>
        simp only [there] at taken
        cases taken
        exact .keeps (by simp [Shared.clearedBy, there]) (.inr ⟨rfl, there, rfl⟩)
    | some t =>
        simp only [there] at taken
        cases closeThrows with
        | true =>
            cases taken
            exact .closeThrows (.inr rfl)
        | false =>
            cases taken
            exact .clears there (by simp [Shared.clearedBy, there]) (.inr ⟨rfl, rfl⟩)
  · cases taken

theorem takes_getCurrentTunnel {now : Int}
    (taken : step i (.getCurrentTunnel now) sh .locked = some (sh', pc')) :
    Takes i sh (.getCurrentTunnel now) .locked sh' pc' := by
  simp only [step] at taken
  split at taken
  · split at taken
    · rename_i t there
      cases taken
      exact .current there
    · rename_i empty
      split at taken
      · cases taken
        exact .opens empty
      · cases taken
        exact .waits empty
  · cases taken

theorem takes_of_step (taken : step i action sh pc = some (sh', pc')) :
    Takes i sh action pc sh' pc' := by
  have before := taken
  unfold step at taken
  split at taken
  · cases taken
    exact .call
  · cases taken
    exact .finish
  · split at taken
    · cases taken
      exact .stopped
    · cases taken
      exact .enters
  · split at taken
    · rename_i free
      cases taken
      exact .acquire free
    · cases taken
  · exact takes_getCurrentTunnel before
  · split at taken
    · split at taken
      · cases taken
        exact .wakes
      · cases taken
        exact .sleeps
    · cases taken
  · split at taken
    · cases taken
      exact .interrupt
    · cases taken
  · cases taken
    exact .creates
  · split at taken
    · rename_i there
      cases taken
      exact .connects there
    · rename_i empty
      cases taken
      exact .dereferences empty
  · cases taken
    exact .succeeds
  · cases taken
    exact .fails
  · split at taken
    · cases taken
      split
      · exact .throws
      · exact .throws
    · cases taken
  · cases taken
    exact .release
  · cases there : sh.tunnel with
    | some t =>
        simp only [there] at taken
        cases taken
        exact .reads there
    | none =>
        simp only [there] at taken
        cases taken
        exact .readsNull there
  · split at taken
    · rename_i succeeds
      cases succeeds
      cases taken
      exact .transfers
    · rename_i fails
      rw [Bool.not_eq_true] at fails
      cases fails
      cases taken
      exact .breaks
  · exact takes_invalidating before
  · cases taken
    exact .stops
  · exact takes_stopping before
  · cases taken

/-- Only who holds `getCurrentTunnelLock` gives it up. -/
theorem Takes.lock (takes : Takes i sh action pc sh' pc') :
    sh'.getCurrentTunnelLock = sh.getCurrentTunnelLock ∧ (pc'.locks = true → pc.locks = true) ∨
      sh.getCurrentTunnelLock = none ∧ sh'.getCurrentTunnelLock = some i ∨
      pc.locks = true ∧ pc'.locks = false ∧ sh'.getCurrentTunnelLock = none := by
  cases takes with
  | acquire free => exact .inr (.inl ⟨free, rfl⟩)
  | current | interrupt | dereferences | throws | release => exact .inr (.inr ⟨rfl, rfl, rfl⟩)
  | keeps _ next =>
      rcases next with ⟨_, rfl, rfl⟩ | ⟨rfl, _, rfl⟩ <;> exact .inl ⟨rfl, nofun⟩
  | clears _ _ next =>
      rcases next with ⟨rfl, rfl⟩ | ⟨rfl, rfl⟩ <;> exact .inl ⟨rfl, nofun⟩
  | opens | waits | wakes | sleeps | creates | connects | succeeds | fails =>
      exact .inl ⟨rfl, fun _ => rfl⟩
  | _ => exact .inl ⟨rfl, nofun⟩

end

/-- The tunnel in the field, if there is one, is through its `connect`. -/
def Settled (sh : Shared) : Prop := ∀ t ∈ sh.tunnel, t ∈ sh.connected ∨ t ∈ sh.failed

structure Kept (sh : Shared) : Prop where
  settled : sh.getCurrentTunnelLock = none → Settled sh
  accounted : ∀ t < sh.opened, t ∈ sh.closed ∨ sh.tunnel = some t
  dereferences : sh.nullDereferenced = false
  returned : ∀ r ∈ sh.returned, ∃ t, r.2 = some t ∧ t ∈ sh.connected
  periods : ∀ r ∈ sh.returned, r.1 ≤ sh.period ∧ (r.1 = sh.period → r.2 = sh.tunnel)
  same : ∀ r ∈ sh.returned, ∀ r' ∈ sh.returned, r.1 = r'.1 → r.2 = r'.2

/-- What a thread may count on where it stands. -/
def Sound (sh : Shared) : Pc → Prop
  | .locked | .failing _ => Settled sh
  | .waiting | .opening | .returned => sh.tunnel = none
  | .opened => sh.tunnel ≠ none
  | .connecting t _ => sh.tunnel = some t ∨ sh.tunnel = none ∧ t ∈ sh.closed
  | .connected | .returning => ∃ t, sh.tunnel = some t ∧ t ∈ sh.connected
  | _ => True

section
variable {i k : Thread} {action : Action} {sh sh' : Shared} {pc pc' : Pc} {t : Nat}

theorem settled_of_empty (empty : sh.tunnel = none) : Settled sh := by
  intro t there
  rw [empty] at there
  cases there

theorem settled_of_connected (there : sh.tunnel = some t) (connected : t ∈ sh.connected) :
    Settled sh := by
  intro t' there'
  cases there.symm.trans there'
  exact .inl connected

/-- `tunnel` stays, and what was done to a tunnel was. -/
structure Grows (sh sh' : Shared) : Prop where
  tunnel : sh'.tunnel = sh.tunnel
  connected : ∀ t ∈ sh.connected, t ∈ sh'.connected
  failed : ∀ t ∈ sh.failed, t ∈ sh'.failed
  closed : ∀ t ∈ sh.closed, t ∈ sh'.closed

theorem Grows.settled (grows : Grows sh sh') (settled : Settled sh) : Settled sh' := by
  intro t there
  rw [grows.tunnel] at there
  exact (settled t there).imp (grows.connected t) (grows.failed t)

theorem Grows.sound (grows : Grows sh sh') (sound : Sound sh pc) : Sound sh' pc := by
  cases pc with
  | locked => exact grows.settled sound
  | failing => exact grows.settled sound
  | waiting => exact grows.tunnel.trans sound
  | opening => exact grows.tunnel.trans sound
  | returned => exact grows.tunnel.trans sound
  | opened => exact fun empty => sound (grows.tunnel.symm.trans empty)
  | connecting t notify =>
      rcases sound with there | ⟨empty, closed⟩
      · exact .inl (grows.tunnel.trans there)
      · exact .inr ⟨grows.tunnel.trans empty, grows.closed t closed⟩
  | connected =>
      obtain ⟨t, there, connected⟩ := sound
      exact ⟨t, grows.tunnel.trans there, grows.connected t connected⟩
  | returning =>
      obtain ⟨t, there, connected⟩ := sound
      exact ⟨t, grows.tunnel.trans there, grows.connected t connected⟩
  | _ => trivial

/-- `tunnel` is opened by who holds `getCurrentTunnelLock`. -/
theorem Sound.creates (sound : Sound sh pc) (empty : sh.tunnel = none) (free : pc.locks = false)
    (before : pc ≠ .returned) (new : Shared) : Sound new pc := by
  cases pc with
  | returned => exact absurd rfl before
  | returning =>
      obtain ⟨t, there, _⟩ := sound
      cases empty.symm.trans there
  | idle | loop | entering | holding | invalidating | closing | stopping | finished => trivial
  | _ => cases free

/-- `tunnel` is cleared where no other thread counts on it. -/
theorem Sound.clears (sound : Sound sh pc) (there : sh.tunnel = some t)
    (sheltered : pc.exposed = false) (empty : sh'.tunnel = none) (closed : t ∈ sh'.closed) :
    Sound sh' pc := by
  cases pc with
  | locked => exact settled_of_empty empty
  | failing => exact settled_of_empty empty
  | waiting => exact empty
  | opening => exact empty
  | returned => exact empty
  | connecting t' notify =>
      rcases sound with same | ⟨none, _⟩
      · cases there.symm.trans same
        exact .inr ⟨empty, closed⟩
      · cases there.symm.trans none
  | opened | connected | returning => cases sheltered
  | _ => trivial

theorem Kept.unlock (h : Kept sh) (settled : Settled sh) : Kept sh.unlock :=
  ⟨fun _ => settled, h.accounted, h.dereferences, h.returned, h.periods, h.same⟩

theorem Kept.giveBack (h : Kept sh) (there : sh.tunnel = some t) (connected : t ∈ sh.connected) :
    Kept sh.giveBack := by
  -- what was returned in the period that is on is what is in the field
  have here {r : Nat × Option Nat} (member : r ∈ sh.giveBack.returned) :
      r ∈ sh.returned ∨ r = (sh.period, sh.tunnel) := by
    simpa [Shared.giveBack] using member
  refine ⟨h.settled, h.accounted, h.dereferences, ?_, ?_, ?_⟩
  · intro r member
    rcases here member with old | rfl
    · exact h.returned r old
    · exact ⟨t, there, connected⟩
  · intro r member
    rcases here member with old | rfl
    · exact h.periods r old
    · exact ⟨Nat.le_refl _, fun _ => rfl⟩
  · intro r member r' member' equal
    rcases here member with old | rfl
    · rcases here member' with old' | rfl
      · exact h.same r old r' old' equal
      · exact (h.periods r old).2 equal
    · rcases here member' with old' | rfl
      · exact ((h.periods r' old').2 equal.symm).symm
      · rfl

theorem Kept.creates (h : Kept sh) (locked : sh.getCurrentTunnelLock ≠ none)
    (empty : sh.tunnel = none) :
    Kept { sh with tunnel := some sh.opened, opened := sh.opened + 1, monitor := none } := by
  refine ⟨fun free => absurd free locked, ?_, h.dereferences, h.returned, ?_, h.same⟩
  · intro t opened
    rcases Nat.lt_succ_iff_lt_or_eq.mp opened with old | rfl
    · rcases h.accounted t old with closed | there
      · exact .inl closed
      · cases empty.symm.trans there
    · exact .inr rfl
  · intro r member
    refine ⟨(h.periods r member).1, fun now => ?_⟩
    obtain ⟨t, given, _⟩ := h.returned r member
    cases given.symm.trans (((h.periods r member).2 now).trans empty)

theorem Kept.clears (h : Kept sh) (there : sh.tunnel = some t) (now : Int) :
    Kept ({ sh.touchFailure now with
      tunnel := none
      closed := sh.closed ++ [t]
      period := sh.period + 1 }.notify .disconnected) := by
  refine ⟨fun _ => settled_of_empty rfl, ?_, h.dereferences, h.returned, ?_, h.same⟩
  · intro t' opened
    rcases h.accounted t' opened with closed | field
    · exact .inl (List.mem_append_left _ closed)
    · cases there.symm.trans field
      exact .inl (List.mem_append_right _ (List.mem_singleton_self _))
  · intro r member
    have earlier := (h.periods r member).1
    refine ⟨Nat.le_succ_of_le earlier, fun now => ?_⟩
    have equal : r.1 = sh.period + 1 := now
    omega

/-- What a step does to the field. -/
theorem Takes.field (takes : Takes i sh action pc sh' pc') :
    Grows sh sh' ∨ (action = .open ∧ pc = .opening) ∨
      ∃ now t, action = .invalidate now false ∧ sh.clearedBy pc = true ∧ sh.tunnel = some t ∧
        sh'.tunnel = none ∧ t ∈ sh'.closed := by
  have same : Grows sh sh := ⟨rfl, fun _ => id, fun _ => id, fun _ => id⟩
  cases takes with
  | creates => exact .inr (.inl ⟨rfl, rfl⟩)
  | succeeds => exact .inl ⟨rfl, fun _ => List.mem_append_left _, fun _ => id, fun _ => id⟩
  | fails => exact .inl ⟨rfl, fun _ => id, fun _ => List.mem_append_left _, fun _ => id⟩
  | clears there clear =>
      exact .inr (.inr ⟨_, _, rfl, clear, there, rfl,
        List.mem_append_right _ (List.mem_singleton_self _)⟩)
  | _ => exact .inl ⟨same.tunnel, same.connected, same.failed, same.closed⟩

theorem sound_other {c : Config Thread Shared Pc} (ok : Sheltered c (i, action))
    (locked : ∀ k, (c.task k).locks = true → c.shared.getCurrentTunnelLock = some k)
    (sound : ∀ k, Sound c.shared (c.task k)) (takes : Takes i c.shared action (c.task i) sh' pc')
    (ne : k ≠ i) : Sound sh' (c.task k) := by
  rcases takes.field with grows | ⟨rfl, opening⟩ | ⟨now, t, rfl, clear, there, empty, closed⟩
  · exact grows.sound (sound k)
  · have mine := locked i (by rw [opening]; rfl)
    have empty : c.shared.tunnel = none := by
      have := sound i
      rwa [opening] at this
    refine (sound k).creates empty ?_ (ok k) sh'
    cases other : (c.task k).locks with
    | false => rfl
    | true => exact absurd (Option.some.inj ((locked k other).symm.trans mine)) ne
  · exact (sound k).clears there (ok clear k ne) empty closed

/-- The thread that goes on: what it counts on keeps what is returned in order. -/
theorem sound_own {c : Config Thread Shared Pc} (ok : Sheltered c (i, action))
    (locked : (c.task i).locks = true → c.shared.getCurrentTunnelLock = some i)
    (kept : Kept c.shared) (sound : Sound c.shared (c.task i))
    (takes : Takes i c.shared action (c.task i) sh' pc') : Kept sh' ∧ Sound sh' pc' := by
  generalize at_pc : c.task i = pc at takes locked sound
  cases takes with
  | call | finish | stopped | enters | transfers | breaks => exact ⟨kept, trivial⟩
  | acquire free =>
      refine ⟨⟨nofun, kept.accounted, kept.dereferences, kept.returned, kept.periods, kept.same⟩, ?_⟩
      exact kept.settled free
  | @current now t there =>
      have connected : t ∈ c.shared.connected := by
        rcases sound t there with connected | failed
        · exact connected
        · exact absurd failed (ok t there)
      exact ⟨(kept.giveBack there connected).unlock (settled_of_connected there connected), trivial⟩
  | opens empty => exact ⟨⟨kept.1, kept.2, kept.3, kept.4, kept.5, kept.6⟩, empty⟩
  | waits empty => exact ⟨kept, empty⟩
  | wakes => exact ⟨⟨kept.1, kept.2, kept.3, kept.4, kept.5, kept.6⟩, sound⟩
  | sleeps => exact ⟨kept, sound⟩
  | interrupt => exact ⟨kept.unlock (settled_of_empty sound), trivial⟩
  | creates =>
      have held := locked rfl
      exact ⟨kept.creates (by rw [held]; nofun) sound, nofun⟩
  | connects there => exact ⟨⟨kept.1, kept.2, kept.3, kept.4, kept.5, kept.6⟩, .inl there⟩
  | dereferences empty => exact absurd empty sound
  | @succeeds t notify =>
      have there : c.shared.tunnel = some t := by
        rcases sound with there | ⟨_, closed⟩
        · exact there
        · exact absurd closed (ok t (by rw [at_pc]; rfl))
      have new : t ∈ c.shared.connected ++ [t] :=
        List.mem_append_right _ (List.mem_singleton_self _)
      refine ⟨⟨fun _ => settled_of_connected there new, kept.accounted, kept.dereferences, ?_,
        kept.periods, kept.same⟩, t, there, new⟩
      intro r member
      obtain ⟨t', given, connected⟩ := kept.returned r member
      exact ⟨t', given, List.mem_append_left _ connected⟩
  | @fails t notify =>
      have settled : Settled { c.shared with failed := c.shared.failed ++ [t] } := by
        intro t' there'
        rcases sound with there | ⟨empty, _⟩
        · cases there.symm.trans there'
          exact .inr (List.mem_append_right _ (List.mem_singleton_self _))
        · cases empty.symm.trans there'
      exact ⟨⟨fun _ => settled, kept.accounted, kept.dereferences, kept.returned, kept.periods,
        kept.same⟩, settled⟩
  | throws =>
      refine ⟨Kept.unlock ⟨kept.1, kept.2, kept.3, kept.4, kept.5, kept.6⟩ sound, trivial⟩
  | release =>
      obtain ⟨t, there, connected⟩ := sound
      exact ⟨kept.unlock (settled_of_connected there connected), t, there, connected⟩
  | reads there =>
      obtain ⟨t, field, connected⟩ := sound
      exact ⟨kept.giveBack field connected, trivial⟩
  | readsNull empty =>
      obtain ⟨t, field, _⟩ := sound
      cases empty.symm.trans field
  | stops => exact ⟨⟨kept.1, kept.2, kept.3, kept.4, kept.5, kept.6⟩, trivial⟩
  | keeps _ next =>
      refine ⟨kept, ?_⟩
      rcases next with ⟨_, rfl, rfl⟩ | ⟨rfl, empty, rfl⟩
      · trivial
      · exact empty
  | closeThrows => exact ⟨⟨kept.1, kept.2, kept.3, kept.4, kept.5, kept.6⟩, trivial⟩
  | clears there _ next =>
      refine ⟨kept.clears there _, ?_⟩
      rcases next with ⟨rfl, rfl⟩ | ⟨rfl, rfl⟩
      · trivial
      · rfl

variable {c : Config Thread Shared Pc}

theorem lock_of_reachable {ok : Config Thread Shared Pc → Thread × Action → Prop}
    (reached : provider.system.Reachable ok c) (locks : (c.task k).locks = true) :
    c.shared.getCurrentTunnelLock = some k := by
  refine Tasks.lock_invariant (T := provider) ?_
    (fun _ _ _ _ _ _ taken => (takes_of_step taken).lock) reached locks
  intro k
  cases k <;> rfl

theorem kept_of_reachable (reached : provider.system.Reachable Sheltered c) :
    Kept c.shared ∧ ∀ k, Sound c.shared (c.task k) := by
  refine Tasks.system_invariant_of_reachable (J := fun _ => Sound) ?_ (fun k => ?_) ?_ reached
  · exact ⟨fun _ => settled_of_empty rfl, nofun, rfl, nofun, nofun, nofun⟩
  · cases k <;> trivial
  · intro c i action sh pc reached ok kept sound taken
    have takes := takes_of_step taken
    have locked := fun k => lock_of_reachable (k := k) reached
    obtain ⟨kept', own⟩ := sound_own ok (locked i) kept (sound i) takes
    exact ⟨kept', own, fun k ne => sound_other ok locked sound takes ne⟩

end

theorem provides_sheltered {c : Config Thread Shared Pc}
    (reached : provider.system.Reachable Sheltered c) : Provides c := by
  obtain ⟨kept, sound⟩ := kept_of_reachable reached
  refine ⟨kept.dereferences, ?_, ?_, kept.same, ?_⟩
  · intro r member null
    obtain ⟨t, given, _⟩ := kept.returned r member
    cases null.symm.trans given
  · intro r member t given
    obtain ⟨t', given', connected⟩ := kept.returned r member
    cases given'.symm.trans given
    exact connected
  · intro closer _ _ t opened
    have empty : c.shared.tunnel = none := by
      have := sound .closer
      rwa [closer] at this
    rcases kept.accounted t opened with closed | there
    · exact closed
    · cases empty.symm.trans there

/-- One tunnel for both threads, which breaks and is closed before `close` comes. -/
def oneTunnel : List (Thread × Action) :=
  [(.sender, .call), (.sender, .checkStopped), (.sender, .acquire), (.sender, .getCurrentTunnel 0),
    (.sender, .open), (.sender, .connectTunnel), (.sender, .connect true), (.sender, .release),
    (.sender, .read), (.receiver, .call), (.receiver, .checkStopped), (.receiver, .acquire),
    (.receiver, .getCurrentTunnel 0), (.sender, .transfer true), (.receiver, .transfer false),
    (.receiver, .invalidate 7 false), (.closer, .stop), (.receiver, .checkStopped),
    (.closer, .invalidate 8 false), (.sender, .finish)]

theorem provides_sheltered_oneTunnel :
    ∃ c, provider.system.replay Sheltered provider.system.init oneTunnel = some c ∧
      c.shared.returned = [(0, some 0), (0, some 0)] ∧ c.shared.closed = [0] ∧ Provides c :=
  ⟨_, rfl, rfl, rfl, provides_sheltered (System.reachable_of_replay oneTunnel rfl)⟩

namespace Schedule

/-- The sending thread comes to its `connect`. -/
def connecting : List (Thread × Action) :=
  [(.sender, .call), (.sender, .checkStopped), (.sender, .acquire), (.sender, .getCurrentTunnel 0),
    (.sender, .open), (.sender, .connectTunnel)]

def failedConnect : List (Thread × Action) :=
  connecting ++ [(.sender, .connect false), (.sender, .touchFailure 0), (.sender, .checkStopped),
    (.sender, .acquire), (.sender, .getCurrentTunnel 0)]

def clearedBeforeReturn : List (Thread × Action) :=
  connecting ++ [(.sender, .connect true), (.sender, .release), (.receiver, .call),
    (.receiver, .checkStopped), (.receiver, .acquire), (.receiver, .getCurrentTunnel 0),
    (.receiver, .transfer false), (.receiver, .invalidate 0 false), (.sender, .read)]

def closedInConnect : List (Thread × Action) :=
  connecting ++ [(.closer, .stop), (.closer, .invalidate 0 false), (.sender, .connect true),
    (.sender, .release), (.sender, .read)]

def openedBehindClose : List (Thread × Action) :=
  [(.sender, .call), (.sender, .checkStopped), (.closer, .stop), (.closer, .invalidate 0 false),
    (.sender, .acquire), (.sender, .getCurrentTunnel 0), (.sender, .open),
    (.sender, .connectTunnel), (.sender, .connect true), (.sender, .release), (.sender, .read),
    (.sender, .transfer true), (.sender, .finish), (.receiver, .finish)]

end Schedule

/-- The schedule can be taken, and something the provider is to keep does not hold behind it. -/
def Breaks (schedule : List (Thread × Action)) : Prop :=
  ∃ c, provider.system.Path Free provider.system.init schedule c ∧ ¬ Provides c

/-- One schedule for each part of `Sheltered`: a tunnel that did not connect, `null` twice, and a
tunnel that stays open. -/
theorem unsheltered_breaks :
    Breaks Schedule.failedConnect ∧ Breaks Schedule.clearedBeforeReturn ∧
      Breaks Schedule.closedInConnect ∧ Breaks Schedule.openedBehindClose := by
  refine ⟨⟨_, System.path_of_replay rfl, fun h => ?_⟩, ⟨_, System.path_of_replay rfl, fun h => ?_⟩,
    ⟨_, System.path_of_replay rfl, fun h => ?_⟩, ⟨_, System.path_of_replay rfl, fun h => ?_⟩⟩
  · exact absurd (h.connected (0, some 0) (.head _) 0 rfl) (List.not_mem_nil)
  · exact h.nonNull (1, none) (.tail _ (.head _)) rfl
  · exact h.nonNull (1, none) (.head _) rfl
  · exact absurd (h.closed rfl rfl rfl 0 (by decide)) (List.not_mem_nil)

end QuestVdWired.Legacy.RelayTunnelProvider
