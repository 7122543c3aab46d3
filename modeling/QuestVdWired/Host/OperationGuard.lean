import QuestVdWired.Transition.System
import Mathlib.Data.UInt

/-!
`OperationGuard` over one path: processes, told apart by their pid, each cut at the file
system calls of `acquire` and `drop`. A file keeps its identity when its name is removed, so
that a late write goes to the file that was created and not to the one now at the path.
Whether a call fails for a reason of its own comes with the action, also whether `kill` could be
started and may signal the owner.
-/

namespace QuestVdWired.Host
open Transition

/-- The file at the path, and the pid its text parses to. -/
structure LockFile where
  inode : Nat
  owner : Option UInt32
  deriving DecidableEq

structure LockPath where
  file : Option LockFile
  nextInode : Nat
  alive : UInt32 → Bool

/-- Where a process stands. The file it created is still in its hands while it writes its
pid and holds the guard. -/
inductive GuardPc
  | dead
  | idle
  | creating
  | reading
  | checking (owner : Option UInt32)
  | removing
  | recreating
  | writing (inode : Nat)
  | holding (inode : Nat)
  deriving DecidableEq

inductive GuardAction
  | spawn
  | crash
  | begin
  | createNew (ok : Bool)
  | readOwner (ok : Bool)
  | check (ok : Bool)
  | removeStale (ok : Bool)
  | recreate (ok : Bool)
  | writePid (ok : Bool)
  | drop (ok : Bool)
  deriving DecidableEq

namespace OperationGuard

/-- `process_is_running`: a pid of zero never is, nor one that `kill` says nothing of. -/
def processIsRunning (s : LockPath) (ok : Bool) (pid : UInt32) : Bool :=
  pid ≠ 0 && ok && s.alive pid

/-- `create_new` where nothing has the name. -/
def create (s : LockPath) : LockPath × GuardPc :=
  (⟨some ⟨s.nextInode, none⟩, s.nextInode + 1, s.alive⟩, .writing s.nextInode)

/-- The pid goes to the created file, which may have lost its name. -/
def write (s : LockPath) (pid : UInt32) (inode : Nat) : LockPath :=
  { s with file := s.file.map fun file =>
      if file.inode = inode then { file with owner := some pid } else file }

def step (pid : UInt32) : GuardAction → LockPath → GuardPc → Option (LockPath × GuardPc)
  | .spawn, s, .dead =>
      if pid = 0 then none
      else some ({ s with alive := Function.update s.alive pid true }, .idle)
  | .crash, s, pc =>
      if pc = .dead then none
      else some ({ s with alive := Function.update s.alive pid false }, .dead)
  | .begin, s, .idle => some (s, .creating)
  | .createNew ok, s, .creating =>
      if ¬ ok then some (s, .idle)
      else if s.file.isSome then some (s, .reading)
      else some (create s)
  | .readOwner ok, s, .reading =>
      some (s, .checking (if ok then s.file.bind LockFile.owner else none))
  | .check ok, s, .checking owner =>
      some (s, if owner.any (processIsRunning s ok) then .idle else .removing)
  | .removeStale ok, s, .removing =>
      if ok ∧ s.file.isSome then some ({ s with file := none }, .recreating)
      else some (s, .idle)
  | .recreate ok, s, .recreating =>
      if ok ∧ s.file.isNone then some (create s) else some (s, .idle)
  | .writePid ok, s, .writing inode =>
      if ok then some (write s pid inode, .holding inode) else some (s, .idle)
  -- `remove_file` takes whatever has the name, and its error is ignored.
  | .drop ok, s, .holding _ => some (if ok then { s with file := none } else s, .idle)
  | _, _, _ => none

end OperationGuard

/-- The processes that use a path at which `file` was left before. -/
def operationGuards (file : Option LockFile) : Tasks UInt32 LockPath GuardPc GuardAction where
  shared := ⟨file, (file.map LockFile.inode).getD 0 + 1, fun _ => false⟩
  task _ := .dead
  step := OperationGuard.step

/-- The process created this file and has not let go of it. -/
def GuardPc.Uses (pc : GuardPc) (inode : Nat) : Prop := pc = .writing inode ∨ pc = .holding inode

instance (pc : GuardPc) (inode : Nat) : Decidable (pc.Uses inode) :=
  inferInstanceAs (Decidable (_ ∨ _))

def GuardPc.Holds (pc : GuardPc) : Prop := ∃ inode, pc = .holding inode

/-- No take-over removes a file that a process still has in its hands. -/
def Undisturbed (c : Config UInt32 LockPath GuardPc) (a : UInt32 × GuardAction) : Prop :=
  ∀ file, a.2 = .removeStale true → c.task a.1 = .removing → c.shared.file = some file →
    ∀ pid, ¬ (c.task pid).Uses file.inode

namespace OperationGuard

/-- What a step does to the name and to the file in the process's hands. -/
inductive Effect (s : LockPath) (a : GuardAction) (pc : GuardPc) : LockPath → GuardPc → Prop
  | created {s' : LockPath} {inode : Nat} (free : s.file = none)
      (made : s'.file.map LockFile.inode = some inode) : Effect s a pc s' (.writing inode)
  | kept {s' : LockPath} {pc' : GuardPc}
      (same : s'.file.map LockFile.inode = s.file.map LockFile.inode)
      (uses : ∀ n, pc'.Uses n → pc.Uses n) : Effect s a pc s' pc'
  | stolen {s' : LockPath} {pc' : GuardPc} (takes : a = .removeStale true) (stale : pc = .removing)
      (gone : s'.file = none) (uses : ∀ n, ¬ pc'.Uses n) : Effect s a pc s' pc'
  | released {s' : LockPath} {pc' : GuardPc} {inode : Nat} (held : pc = .holding inode)
      (gone : s'.file = none) (uses : ∀ n, ¬ pc'.Uses n) : Effect s a pc s' pc'

theorem write_inode (s : LockPath) (pid : UInt32) (inode : Nat) :
    (write s pid inode).file.map LockFile.inode = s.file.map LockFile.inode := by
  cases h : s.file with
  | none => simp [write, h]
  | some file => by_cases same : file.inode = inode <;> simp [write, h, same]

theorem effect_of_step {pid : UInt32} {a : GuardAction} {s s' : LockPath} {pc pc' : GuardPc}
    (h : step pid a s pc = some (s', pc')) : Effect s a pc s' pc' := by
  cases a with
  | spawn =>
      cases pc with
      | dead =>
          simp only [step] at h
          split at h
          · cases h
          · cases h
            exact .kept rfl (by simp [GuardPc.Uses])
      | _ => cases h
  | crash =>
      simp only [step] at h
      split at h
      · cases h
      · cases h
        exact .kept rfl (by simp [GuardPc.Uses])
  | begin =>
      cases pc with
      | idle =>
          cases h
          exact .kept rfl (by simp [GuardPc.Uses])
      | _ => cases h
  | createNew ok =>
      cases pc with
      | creating =>
          simp only [step] at h
          split at h
          · cases h
            exact .kept rfl (by simp [GuardPc.Uses])
          · split at h
            · cases h
              exact .kept rfl (by simp [GuardPc.Uses])
            · rename_i free
              cases h
              exact .created (by simpa using free) rfl
      | _ => cases h
  | readOwner ok =>
      cases pc with
      | reading =>
          cases h
          exact .kept rfl (by simp [GuardPc.Uses])
      | _ => cases h
  | check ok =>
      cases pc with
      | checking owner =>
          cases h
          refine .kept rfl ?_
          split <;> simp [GuardPc.Uses]
      | _ => cases h
  | removeStale ok =>
      cases pc with
      | removing =>
          simp only [step] at h
          split at h
          · rename_i taken
            obtain ⟨rfl, -⟩ := taken
            cases h
            exact .stolen rfl rfl rfl (by simp [GuardPc.Uses])
          · cases h
            exact .kept rfl (by simp [GuardPc.Uses])
      | _ => cases h
  | recreate ok =>
      cases pc with
      | recreating =>
          simp only [step] at h
          split at h
          · rename_i free
            cases h
            exact .created (by simpa using free.2) rfl
          · cases h
            exact .kept rfl (by simp [GuardPc.Uses])
      | _ => cases h
  | writePid ok =>
      cases pc with
      | writing inode =>
          simp only [step] at h
          split at h
          · cases h
            exact .kept (write_inode s pid inode) (by simp [GuardPc.Uses])
          · cases h
            exact .kept rfl (by simp [GuardPc.Uses])
      | _ => cases h
  | drop ok =>
      cases pc with
      | holding inode =>
          cases ok <;> cases h
          · exact .kept rfl (by simp [GuardPc.Uses])
          · exact .released rfl rfl (by simp [GuardPc.Uses])
      | _ => cases h

end OperationGuard

/-- The file of the one process that has one in its hands is the one at the path. -/
structure Exclusive (file : Option LockFile) (task : UInt32 → GuardPc) : Prop where
  named : ∀ pid n, (task pid).Uses n → file.map LockFile.inode = some n
  single : ∀ pid other n m, (task pid).Uses n → (task other).Uses m → pid = other

theorem Exclusive.of_none {file : Option LockFile} {task : UInt32 → GuardPc}
    (none : ∀ pid n, ¬ (task pid).Uses n) : Exclusive file task where
  named pid n uses := absurd uses (none pid n)
  single pid _ n _ uses _ := absurd uses (none pid n)

theorem Exclusive.step {file : Option LockFile} {c c' : Config UInt32 LockPath GuardPc}
    {a : UInt32 × GuardAction} (h : Exclusive c.shared.file c.task) (meets : Undisturbed c a)
    (taken : (operationGuards file).system.step a c = some c') :
    Exclusive c'.shared.file c'.task := by
  obtain ⟨pid, a⟩ := a
  obtain ⟨s', pc', hstep, rfl⟩ := Tasks.system_step taken
  -- Who uses a file afterwards: the acting process as its effect says, the others as before.
  have users {other : UInt32} {n : Nat} (ne : other ≠ pid) :
      (Function.update c.task pid pc' other).Uses n ↔ (c.task other).Uses n := by
    rw [Function.update_of_ne ne]
  have own {n : Nat} : (Function.update c.task pid pc' pid).Uses n ↔ pc'.Uses n := by
    rw [Function.update_self]
  cases OperationGuard.effect_of_step hstep with
  | @created inode free made =>
      have nobody (other : UInt32) (n : Nat) : ¬ (c.task other).Uses n := by
        intro uses
        have := h.named other n uses
        rw [free] at this
        cases this
      have only {other : UInt32} {n : Nat}
          (uses : (Function.update c.task pid (.writing inode) other).Uses n) :
          other = pid ∧ n = inode := by
        by_cases ne : other = pid
        · subst ne
          rw [Function.update_self] at uses
          rcases uses with same | same <;> cases same
          exact ⟨rfl, rfl⟩
        · exact absurd ((users ne).mp uses) (nobody other n)
      exact ⟨fun other n uses => (only uses).2 ▸ made,
        fun one other n m uses uses' => (only uses).1.trans (only uses').1.symm⟩
  | kept same uses =>
      have before {other : UInt32} {n : Nat}
          (now : (Function.update c.task pid pc' other).Uses n) : (c.task other).Uses n := by
        by_cases ne : other = pid
        · subst ne
          exact uses n (own.mp now)
        · exact (users ne).mp now
      refine ⟨fun other n now => ?_, fun one other n m now now' => ?_⟩
      · exact same.trans (h.named other n (before now))
      · exact h.single one other n m (before now) (before now')
  | stolen takes stale gone uses =>
      refine .of_none fun other n now => ?_
      by_cases ne : other = pid
      · subst ne
        exact uses n (own.mp now)
      · have used := (users ne).mp now
        obtain ⟨file', here, rfl⟩ := Option.map_eq_some_iff.mp (h.named other n used)
        exact meets file' takes stale here other used
  | released held gone uses =>
      refine .of_none fun other n now => ?_
      by_cases ne : other = pid
      · subst ne
        exact uses n (own.mp now)
      · exact ne (h.single other pid n _ ((users ne).mp now) (.inr held))

theorem reachable_exclusive {file : Option LockFile} {c : Config UInt32 LockPath GuardPc}
    (reached : (operationGuards file).system.Reachable Undisturbed c) :
    Exclusive c.shared.file c.task := by
  refine reached.invariant (I := fun c => Exclusive c.shared.file c.task) ?_ ?_
  · exact .of_none fun pid n uses => by simp [operationGuards, Tasks.system, GuardPc.Uses] at uses
  · exact fun s a t h meets taken => h.step meets taken

/-- Once a take-over has removed a file in use, both processes can come to hold the guard. -/
theorem stolen_then_both {file : Option LockFile} {c : Config UInt32 LockPath GuardPc}
    {thief victim : UInt32} {stolen : LockFile} (stale : c.task thief = .removing)
    (here : c.shared.file = some stolen) (uses : (c.task victim).Uses stolen.inode) :
    ∃ acts c', (operationGuards file).system.Path Free c
        ((thief, .removeStale true) :: acts) c' ∧
      victim ≠ thief ∧ (c'.task victim).Holds ∧ (c'.task thief).Holds := by
  have ne : victim ≠ thief := by
    rintro rfl
    rw [stale] at uses
    rcases uses with h | h <;> cases h
  -- The thief removes the name, creates the file anew and writes its pid.
  have removing : (operationGuards file).step thief (.removeStale true) c.shared (c.task thief) =
      some ({ c.shared with file := none }, .recreating) := by
    simp [operationGuards, OperationGuard.step, stale, here]
  obtain ⟨c₁, removes, shared₁, at₁, apart₁⟩ := Tasks.exists_path removing
  have recreating : (operationGuards file).step thief (.recreate true) c₁.shared (c₁.task thief) =
      some (OperationGuard.create c₁.shared) := by
    simp [operationGuards, OperationGuard.step, at₁, shared₁]
  obtain ⟨c₂, creates, -, at₂, apart₂⟩ := Tasks.exists_path recreating
  have writing : (operationGuards file).step thief (.writePid true) c₂.shared (c₂.task thief) =
      some (OperationGuard.write c₂.shared thief c₁.shared.nextInode,
        .holding c₁.shared.nextInode) := by
    simp [operationGuards, OperationGuard.step, at₂]
  obtain ⟨c₃, writes, -, at₃, apart₃⟩ := Tasks.exists_path writing
  have path := (removes.trans creates).trans writes
  have still : c₃.task victim = c.task victim := by
    rw [apart₃ _ ne, apart₂ _ ne, apart₁ _ ne]
  rcases uses with writes' | holds
  · have late : (operationGuards file).step victim (.writePid true) c₃.shared (c₃.task victim) =
        some (OperationGuard.write c₃.shared victim stolen.inode, .holding stolen.inode) := by
      simp [operationGuards, OperationGuard.step, still, writes']
    obtain ⟨c₄, last, -, at₄, apart₄⟩ := Tasks.exists_path late
    refine ⟨_, c₄, path.trans last, ne, ⟨_, at₄⟩, ⟨c₁.shared.nextInode, ?_⟩⟩
    rw [apart₄ _ ne.symm, at₃]
  · exact ⟨_, c₃, path, ne, ⟨_, still.trans holds⟩, ⟨_, at₃⟩⟩

/-- Guards of one path in every run whose take-overs remove no file in use: one process holds
the guard at a time, and a drop removes no other process's file. A take-over that does remove
one can always be followed by two holders. -/
theorem operation_guard_exclusive {file : Option LockFile}
    {c : Config UInt32 LockPath GuardPc}
    (reached : (operationGuards file).system.Reachable Undisturbed c) :
    (∀ pid other, (c.task pid).Holds → (c.task other).Holds → pid = other) ∧
      (∀ pid ok c' lockFile, (operationGuards file).system.step (pid, .drop ok) c = some c' →
        c.shared.file = some lockFile → ∀ other, other ≠ pid →
          ¬ (c.task other).Uses lockFile.inode) ∧
      ∀ thief, ¬ Undisturbed c (thief, .removeStale true) →
        ∃ acts c' victim, (operationGuards file).system.Path Free c
            ((thief, .removeStale true) :: acts) c' ∧
          victim ≠ thief ∧ (c'.task victim).Holds ∧ (c'.task thief).Holds := by
  have exclusive := reachable_exclusive reached
  refine ⟨?_, ?_, ?_⟩
  · rintro pid other ⟨n, holds⟩ ⟨m, holds'⟩
    exact exclusive.single pid other n m (.inr holds) (.inr holds')
  · intro pid ok c' lockFile taken here other ne uses
    obtain ⟨s', pc', hstep, -⟩ := Tasks.system_step taken
    cases held : c.task pid with
    | holding inode => exact ne (exclusive.single other pid _ inode uses (.inr held))
    | _ => simp [operationGuards, OperationGuard.step, held] at hstep
  · intro thief disturbed
    simp only [Undisturbed, not_forall, not_not] at disturbed
    obtain ⟨stolen, -, stale, here, victim, uses⟩ := disturbed
    obtain ⟨acts, c', path, both⟩ := stolen_then_both stale here uses
    exact ⟨acts, c', victim, path, both⟩

/-- Steps that are no take-over. -/
def Ordinary (_ : Config UInt32 LockPath GuardPc) (a : UInt32 × GuardAction) : Prop :=
  a.2 ≠ .removeStale true

instance (c : Config UInt32 LockPath GuardPc) (a : UInt32 × GuardAction) :
    Decidable (Ordinary c a) :=
  inferInstanceAs (Decidable (_ ≠ _))

theorem Ordinary.undisturbed (c : Config UInt32 LockPath GuardPc) (a : UInt32 × GuardAction)
    (ordinary : Ordinary c a) : Undisturbed c a :=
  fun _ takes => absurd takes ordinary

/-- Process 1 takes over from a process 9 that is gone. -/
theorem operation_guard_exclusive_taken_over :
    ∃ c, (operationGuards (some ⟨0, some 9⟩)).system.Reachable Undisturbed c ∧
      c.task 1 = .holding 1 ∧ ∀ pid, (c.task pid).Holds → pid = 1 := by
  obtain ⟨c, path, here, stale⟩ :
      ∃ c, (operationGuards (some ⟨0, some 9⟩)).system.Path Ordinary
        (operationGuards (some ⟨0, some 9⟩)).system.init
        [(1, .spawn), (1, .begin), (1, .createNew true), (1, .readOwner true), (1, .check true)] c ∧
        c.shared = ⟨some ⟨0, some 9⟩, 1, Function.update (fun _ => false) 1 true⟩ ∧
        c.task 1 = .removing :=
    ⟨_, System.path_of_replay rfl, rfl, rfl⟩
  have nobody (pid : UInt32) : ¬ (c.task pid).Uses 0 := by
    by_cases one : pid = 1
    · simp [one, stale, GuardPc.Uses]
    · have there := Tasks.task_of_untouched path (i := pid) (by simp [one])
      simp [there, operationGuards, Tasks.system, GuardPc.Uses]
  have meets : Undisturbed c (1, .removeStale true) := by
    rintro file - - found pid
    rw [here] at found
    cases found
    exact nobody pid
  have taken : (operationGuards (some ⟨0, some 9⟩)).system.step (1, .removeStale true) c =
      some ⟨⟨none, 1, Function.update (fun _ => false) 1 true⟩,
        Function.update c.task 1 .recreating⟩ := by
    simp [operationGuards, Tasks.system, OperationGuard.step, here, stale]
  obtain ⟨c', rest, held⟩ :
      ∃ c', (operationGuards (some ⟨0, some 9⟩)).system.Path Ordinary
        ⟨⟨none, 1, Function.update (fun _ => false) 1 true⟩,
          Function.update c.task 1 .recreating⟩ [(1, .recreate true), (1, .writePid true)] c' ∧
        c'.task 1 = .holding 1 :=
    ⟨_, System.path_of_replay rfl, rfl⟩
  have reached : (operationGuards (some ⟨0, some 9⟩)).system.Reachable Undisturbed c' :=
    ⟨_, (System.Path.snoc (path.mono Ordinary.undisturbed) meets taken).trans
      (rest.mono Ordinary.undisturbed)⟩
  refine ⟨c', reached, held, fun pid holds => ?_⟩
  exact (operation_guard_exclusive reached).1 pid 1 holds ⟨1, held⟩

/-- The second process finds the first one's file before its pid is in it, removes it and
creates its own. Both hold the guard, and the first one's drop removes the second one's file. -/
theorem empty_lock_taken_over :
    ∃ c c', (operationGuards none).system.Reachable Free c ∧ c.task 1 = .holding 1 ∧
      c.task 2 = .holding 2 ∧ c.shared.file = some ⟨2, some 2⟩ ∧
      (operationGuards none).system.step (1, .drop true) c = some c' ∧
      c'.task 2 = .holding 2 ∧ c'.shared.file = none := by
  refine ⟨_, _, System.reachable_of_replay
    [(1, .spawn), (2, .spawn), (1, .begin), (1, .createNew true), (2, .begin),
      (2, .createNew true), (2, .readOwner true), (2, .check true), (2, .removeStale true),
      (2, .recreate true), (2, .writePid true), (1, .writePid true)] rfl,
    rfl, rfl, rfl, rfl, rfl, rfl⟩

end QuestVdWired.Host
