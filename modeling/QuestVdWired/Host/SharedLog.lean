import QuestVdWired.Host.LogRetention

/-!
Two processes that write to the logs of one directory, each with a writer of its own. Between two
operations on the file system of one of them the other may do any number of its own.
-/

namespace QuestVdWired.Host.Diagnostics
open Wire

/-- The daemon, and a command that is run while it is alive. -/
inductive Process where
  | daemon
  | command
  deriving DecidableEq, Repr

/-- Where a call of `write_record` stands. -/
inductive Place where
  | idle
  | flushing (line : Line)
  | removing (line : Line)
  /-- The renames of the indices below are left, and behind them the new file. -/
  | moving (index : Nat) (line : Line)
  | appending (line : Line)

/-- What one operation leaves, and the file and the record where it wrote one. -/
structure Outcome where
  place : Place
  writer : RotatingWriter
  directory : Directory
  appended : Option (Nat × Line)

/-- `write_all` where it writes the whole record or nothing. -/
def appendWhole (fails : Bool) (file : Nat) (record : List UInt8) (directory : Directory) :
    Except IoError Directory :=
  if fails ∨ MAX_LENGTH - (directory.contents file).length < record.length then .error .failed
  else .ok (directory.modify file (· ++ record))

namespace RotatingWriter

/-- The file that a rotation takes away. -/
def oldest (writer : RotatingWriter) : Nat :=
  if 1 < writer.fileCount then writer.fileCount.toNat - 1 else 0

/-- The next operation of a call. -/
def operate (fails : Bool) (writer : RotatingWriter) (directory : Directory) : Place → Outcome
  | .idle => ⟨.idle, writer, directory, none⟩
  | .flushing line =>
      let closed := { writer with file := none }
      if writer.file.isSome ∧ fails then ⟨.idle, closed, directory, none⟩
      else ⟨.removing line, closed, directory, none⟩
  | .removing line =>
      match removeFile fails (logPath writer.oldest) directory with
      | .ok directory => ⟨.moving writer.oldest line, writer, directory, none⟩
      | .error .notFound => ⟨.moving writer.oldest line, writer, directory, none⟩
      | .error _ => ⟨.idle, writer, directory, none⟩
  | .moving (index + 1) line =>
      match rename fails (logPath index) (logPath (index + 1)) directory with
      | .ok directory => ⟨.moving index line, writer, directory, none⟩
      | .error .notFound => ⟨.moving index line, writer, directory, none⟩
      | .error _ => ⟨.idle, writer, directory, none⟩
  | .moving 0 line =>
      match openAppend fails (logPath 0) directory with
      | .ok (file, directory) =>
          ⟨.appending line, { writer with file := some file, bytes := 0 }, directory, none⟩
      | .error _ => ⟨.idle, writer, directory, none⟩
  | .appending line =>
      match writer.file with
      | none => ⟨.idle, writer, directory, none⟩
      | some file =>
          match appendWhole fails file line.record directory with
          | .ok directory =>
              ⟨.idle, { writer with bytes := saturatingAdd writer.bytes line.record.length },
                directory, some (file, line)⟩
          | .error _ => ⟨.idle, writer, directory, none⟩

end RotatingWriter

/-- A record in a file, with the number of records its process had written before. -/
structure Entry where
  process : Process
  number : Nat
  line : Line

/-- The processes and their directory, what each process wrote, and what was written to each
file. -/
structure Shared where
  writer : Process → Option RotatingWriter
  place : Process → Place
  directory : Directory
  written : Process → List Line
  entries : Nat → List Entry

/-- A process opens the logs, calls `write_record`, or goes on with its call. -/
inductive Turn where
  | «open» (process : Process)
  | write (process : Process) (line : Line)
  | goOn (process : Process) (fails : Bool)

namespace Shared

def start (directory : Directory) : Shared where
  writer _ := none
  place _ := .idle
  directory := directory
  written _ := []
  entries _ := []

def setWriter (s : Shared) (process : Process) (writer : RotatingWriter) (place : Place)
    (directory : Directory) : Shared :=
  { s with
    writer := Function.update s.writer process (some writer)
    place := Function.update s.place process place
    directory }

def addEntry (s : Shared) (process : Process) (file : Nat) (line : Line) : Shared :=
  { s with
    written := Function.update s.written process (s.written process ++ [line])
    entries := Function.update s.entries file
      (s.entries file ++ [⟨process, (s.written process).length, line⟩]) }

def settle (s : Shared) (process : Process) (outcome : Outcome) : Shared :=
  let s' := s.setWriter process outcome.writer outcome.place outcome.directory
  match outcome.appended with
  | none => s'
  | some (file, line) => s'.addEntry process file line

variable (maxBytes fileCount : UInt64)

/-- The calls of a process come one behind the other. -/
def step (s : Shared) : Turn → Shared
  | .open process =>
      match RotatingWriter.open s.directory maxBytes fileCount with
      | .error _ => s
      | .ok (writer, directory) => s.setWriter process writer .idle directory
  | .write process line =>
      match s.writer process, s.place process with
      | some writer, .idle =>
          s.setWriter process writer
            (if writer.isFull line.record then .flushing line else .appending line) s.directory
      | _, _ => s
  | .goOn process fails =>
      match s.writer process with
      | none => s
      | some writer =>
          s.settle process (writer.operate fails s.directory (s.place process))

def run (s : Shared) (turns : List Turn) : Shared := turns.foldl (step maxBytes fileCount) s

/-! ### A process alone -/

variable {s : Shared} {process : Process} {writer writer' : RotatingWriter}
  {directory directory' directory'' : Directory} {place place' : Place} {line : Line}
  {turns : List Turn}

@[simp] theorem setWriter_writer :
    (s.setWriter process writer place directory).writer process = some writer :=
  Function.update_self ..

@[simp] theorem setWriter_place :
    (s.setWriter process writer place directory).place process = place :=
  Function.update_self ..

theorem setWriter_writer_other {process' : Process} (other : process' ≠ process) :
    (s.setWriter process writer place directory).writer process' = s.writer process' :=
  Function.update_of_ne other ..

theorem setWriter_place_other {process' : Process} (other : process' ≠ process) :
    (s.setWriter process writer place directory).place process' = s.place process' :=
  Function.update_of_ne other ..

@[simp] theorem addEntry_writer {file : Nat} : (s.addEntry process file line).writer = s.writer :=
  rfl

@[simp] theorem addEntry_place {file : Nat} : (s.addEntry process file line).place = s.place := rfl

@[simp] theorem setWriter_directory :
    (s.setWriter process writer place directory).directory = directory := rfl

@[simp] theorem setWriter_setWriter :
    (s.setWriter process writer place directory).setWriter process writer' place' directory' =
      s.setWriter process writer' place' directory' := by
  simp [setWriter]

/-- One operation on a state that a process alone came to. -/
theorem goOn_setWriter (fails : Bool) :
    (s.setWriter process writer place directory).step maxBytes fileCount (.goOn process fails) =
      s.settle process (writer.operate fails directory place) := by
  rw [step, setWriter_writer]
  simp only [settle, setWriter_place, setWriter_directory, setWriter_setWriter]

/-- The operations of a process that nothing comes between take `s` from one place to another. -/
def Alone (process : Process) (s s' : Shared) : Prop :=
  ∃ turns, (∀ turn ∈ turns, turn = .goOn process false) ∧ s.run maxBytes fileCount turns = s'

variable {maxBytes fileCount}

theorem Alone.refl : s.Alone maxBytes fileCount process s := ⟨[], by simp, rfl⟩

theorem Alone.next {s s' s'' : Shared}
    (first : s.step maxBytes fileCount (.goOn process false) = s')
    (rest : s'.Alone maxBytes fileCount process s'') : s.Alone maxBytes fileCount process s'' := by
  obtain ⟨turns, each, runs⟩ := rest
  exact ⟨.goOn process false :: turns, by simpa using each, by rw [← runs, ← first]; rfl⟩

/-- The loop of a rotation. -/
theorem moveUp_alone {index : Nat} {s' : Shared}
    (moved : RotatingWriter.moveUp sound index directory = (.ok (), directory'))
    (rest : (s.setWriter process writer (.moving 0 line) directory').Alone maxBytes fileCount
      process s') :
    (s.setWriter process writer (.moving index line) directory).Alone maxBytes fileCount process
      s' := by
  induction index generalizing directory with
  | zero =>
      cases moved
      exact rest
  | succ index ih =>
      rw [RotatingWriter.moveUp] at moved
      refine .next (goOn_setWriter ..) ?_
      rw [RotatingWriter.operate]
      cases renamed : rename (sound.rename index) (logPath index) (logPath (index + 1))
          directory with
      | ok directory₁ =>
          rw [renamed] at moved
          have same : rename false (logPath index) (logPath (index + 1)) directory =
              .ok directory₁ := renamed
          simp only [same]
          exact ih moved
      | error error =>
          rw [renamed] at moved
          have same : rename false (logPath index) (logPath (index + 1)) directory =
              .error error := renamed
          cases error with
          | notFound =>
              simp only [same]
              exact ih moved
          | failed | invalidInput message | invalidData | other message => cases moved

/-- The whole rotation, from the closing of the file on. -/
theorem rotate_alone {s' : Shared}
    (rotated : writer.rotate sound directory = (.ok (), writer', directory'))
    (rest : (s.setWriter process writer' (.appending line) directory').Alone maxBytes fileCount
      process s') :
    (s.setWriter process writer (.flushing line) directory).Alone maxBytes fileCount process
      s' := by
  rw [RotatingWriter.rotate, if_neg (by simp [sound])] at rotated
  cases made : RotatingWriter.makeRoom sound writer.fileCount directory with
  | mk result directory₁ =>
      rw [made] at rotated
      cases result with
      | error error => cases rotated
      | ok =>
          simp only [openAppend, sound, Bool.false_eq_true, if_false, Prod.mk.injEq, true_and]
            at rotated
          obtain ⟨rfl, rfl⟩ := rotated
          have reopened : (s.setWriter process { writer with file := none } (.moving 0 line)
              directory₁).Alone maxBytes fileCount process s' := .next (goOn_setWriter ..) rest
          rw [makeRoom_eq, if_neg (by simp [sound])] at made
          refine .next (goOn_setWriter ..) ?_
          have closes : writer.operate false directory (.flushing line) =
              ⟨.removing line, { writer with file := none }, directory, none⟩ :=
            if_neg (by simp)
          rw [closes]
          refine .next (goOn_setWriter ..) ?_
          have last : ({ writer with file := none } : RotatingWriter).oldest =
              writer.fileCount.toNat - 1 := by
            rw [RotatingWriter.oldest]
            split
            · rfl
            · rename_i few
              exact (last_eq few).symm
          rw [RotatingWriter.operate, last, removeFile, if_neg (by simp)]
          split at made
          · rename_i missing
            rw [if_pos missing]
            exact moveUp_alone made reopened
          · rename_i there
            rw [if_neg there]
            exact moveUp_alone made reopened

/-- A call that nothing comes between is `write_record`. -/
theorem call_alone {rotated : Bool} (writes : s.writer process = some writer)
    (idle : s.place process = .idle)
    (wrote : writer.writeRecord sound line.record s.directory =
      (.ok rotated, writer', directory')) :
    ∃ file, writer'.file = some file ∧
      (s.step maxBytes fileCount (.write process line)).Alone maxBytes fileCount process
        ((s.setWriter process writer' .idle directory').addEntry process file line) := by
  have appends {writer : RotatingWriter} {directory : Directory} {before : Bool}
      (appended : writer.append sound line.record before directory =
        (.ok rotated, writer', directory')) :
      ∃ file, writer'.file = some file ∧
        (s.setWriter process writer (.appending line) directory).Alone maxBytes fileCount process
          ((s.setWriter process writer' .idle directory').addEntry process file line) := by
    obtain ⟨file, isOpen, _, _, fits, rfl, rfl⟩ := append_ok appended
    have whole : appendWhole false file line.record directory =
        .ok (directory.modify file (· ++ line.record)) := if_neg (by simpa using fits)
    refine ⟨file, isOpen, .next (goOn_setWriter ..) ?_⟩
    simp only [RotatingWriter.operate, isOpen, whole]
    exact .refl
  rw [step, writes, idle]
  rw [RotatingWriter.writeRecord] at wrote
  split at wrote
  · rename_i full
    simp only [if_pos full]
    cases rotation : writer.rotate sound s.directory with
    | mk result next =>
        obtain ⟨writer₁, directory₁⟩ := next
        rw [rotation] at wrote
        cases result with
        | error error => cases wrote
        | ok =>
            obtain ⟨file, isOpen, alone⟩ := appends wrote
            exact ⟨file, isOpen, rotate_alone rotation alone⟩
  · rename_i room
    simp only [if_neg room]
    exact appends wrote

end Shared
end QuestVdWired.Host.Diagnostics
