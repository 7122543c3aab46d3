import Mathlib.Data.List.Basic
import Mathlib.Logic.Function.Basic
import Mathlib.Tactic.Common

/-!
One directory of files. A name leads to a file, and who has a file open keeps it when its name is
given away or removed.
-/

namespace Wire

/-- No two names lead to one file, and a file that is made was never there before. -/
structure FileSystem (N β : Type*) where
  files : N → Option Nat
  contents : Nat → List β
  fresh : Nat
  below : ∀ {name : N} {file : Nat}, files name = some file → file < fresh
  single : ∀ {name name' : N} {file : Nat}, files name = some file → files name' = some file →
    name = name'

namespace FileSystem
variable {N β : Type*}

/-- What is read at a name. -/
def read (fs : FileSystem N β) (name : N) : Option (List β) := (fs.files name).map fs.contents

def empty : FileSystem N β where
  files _ := none
  contents _ := []
  fresh := 0
  below h := by simp at h
  single h := by simp at h

def unlink (fs : FileSystem N β) (gone : N → Bool) : FileSystem N β where
  files name := if gone name then none else fs.files name
  contents := fs.contents
  fresh := fs.fresh
  below {name file} h := by
    split at h
    · cases h
    · exact fs.below h
  single {name name' file} h h' := by
    split at h
    · cases h
    · split at h'
      · cases h'
      · exact fs.single h h'

/-- An open file is written. -/
def modify (fs : FileSystem N β) (file : Nat) (f : List β → List β) : FileSystem N β where
  files := fs.files
  contents := Function.update fs.contents file (f (fs.contents file))
  fresh := fs.fresh
  below := fs.below
  single := fs.single

variable [DecidableEq N]

/-- The name `target` leads where `source` did, which is a name no longer. -/
def move (fs : FileSystem N β) (source target : N) : FileSystem N β where
  files name :=
    if name = target then fs.files source else if name = source then none else fs.files name
  contents := fs.contents
  fresh := fs.fresh
  below {name file} h := by
    split at h
    · exact fs.below h
    · split at h
      · cases h
      · exact fs.below h
  single {name name' file} h h' := by
    split at h
    · split at h'
      · rename_i is is'
        exact is.trans is'.symm
      · split at h'
        · cases h'
        · rename_i other
          exact absurd (fs.single h' h) other
    · split at h
      · cases h
      · rename_i other
        split at h'
        · exact absurd (fs.single h h') other
        · split at h'
          · cases h'
          · exact fs.single h h'

theorem made_below (fs : FileSystem N β) {name name' : N} {file : Nat}
    (h : Function.update fs.files name (some fs.fresh) name' = some file) : file < fs.fresh + 1 := by
  by_cases same : name' = name
  · subst same
    rw [Function.update_self] at h
    cases h
    exact Nat.lt_succ_self _
  · rw [Function.update_of_ne same] at h
    exact Nat.lt_succ_of_lt (fs.below h)

theorem made_single (fs : FileSystem N β) {name name₁ name₂ : N} {file : Nat}
    (h₁ : Function.update fs.files name (some fs.fresh) name₁ = some file)
    (h₂ : Function.update fs.files name (some fs.fresh) name₂ = some file) : name₁ = name₂ := by
  by_cases same₁ : name₁ = name
  · by_cases same₂ : name₂ = name
    · exact same₁.trans same₂.symm
    · subst same₁
      rw [Function.update_self] at h₁
      rw [Function.update_of_ne same₂] at h₂
      cases h₁
      exact absurd (fs.below h₂) (Nat.lt_irrefl _)
  · by_cases same₂ : name₂ = name
    · subst same₂
      rw [Function.update_self] at h₂
      rw [Function.update_of_ne same₁] at h₁
      cases h₂
      exact absurd (fs.below h₁) (Nat.lt_irrefl _)
    · rw [Function.update_of_ne same₁] at h₁
      rw [Function.update_of_ne same₂] at h₂
      exact fs.single h₁ h₂

/-- The file of a name, which is made if it is not there. -/
def create (fs : FileSystem N β) (name : N) : Nat × FileSystem N β :=
  match fs.files name with
  | some file => (file, fs)
  | none =>
      (fs.fresh, {
        files := Function.update fs.files name (some fs.fresh)
        contents := Function.update fs.contents fs.fresh []
        fresh := fs.fresh + 1
        below := fs.made_below
        single := fs.made_single })

variable {fs : FileSystem N β} {name name' source target : N} {file : Nat}

omit [DecidableEq N] in
@[simp] theorem read_empty : (empty : FileSystem N β).read name = none := rfl

omit [DecidableEq N] in
theorem read_unlink {gone : N → Bool} :
    (fs.unlink gone).read name = if gone name then none else fs.read name := by
  by_cases going : gone name
  · simp [read, unlink, going]
  · simp [read, unlink, going]

theorem read_move :
    (fs.move source target).read name =
      if name = target then fs.read source else if name = source then none else fs.read name := by
  by_cases up : name = target
  · simp [read, move, up]
  · by_cases away : name = source
    · simp [read, move, if_neg (show ¬source = target from away ▸ up), away]
    · simp [read, move, up, away]

omit [DecidableEq N] in
theorem read_modify_self {f : List β → List β} (leads : fs.files name = some file) :
    (fs.modify file f).read name = some (f (fs.contents file)) := by
  simp only [read, modify, leads, Option.map_some, Function.update_self]

omit [DecidableEq N] in
theorem read_modify_other {f : List β → List β} (leads : fs.files name = some file)
    (other : name' ≠ name) : (fs.modify file f).read name' = fs.read name' := by
  rw [read, read, modify]
  cases there : fs.files name' with
  | none => rfl
  | some file' =>
      have apart : file' ≠ file := by
        rintro rfl
        exact other (fs.single there leads)
      simp only [Option.map_some, Function.update_of_ne apart]

theorem create_leads : (fs.create name).2.files name = some (fs.create name).1 := by
  rw [create]
  cases there : fs.files name with
  | none => exact Function.update_self ..
  | some file => exact there

theorem read_create_self : (fs.create name).2.read name = some ((fs.read name).getD []) := by
  rw [read, create_leads, read, create]
  cases fs.files name with
  | none => exact congrArg some (Function.update_self ..)
  | some file => rfl

theorem read_create_other (other : name' ≠ name) :
    (fs.create name).2.read name' = fs.read name' := by
  rw [read, read, create]
  cases fs.files name with
  | some file => rfl
  | none =>
      simp only [Function.update_of_ne other]
      cases there : fs.files name' with
      | none => rfl
      | some file =>
          have apart : file ≠ fs.fresh := Nat.ne_of_lt (fs.below there)
          rw [Option.map_some, Option.map_some, Function.update_of_ne apart]

end FileSystem
end Wire
