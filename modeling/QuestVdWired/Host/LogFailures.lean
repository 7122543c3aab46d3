import QuestVdWired.Host.LogRetention

/-!
What is left of the log where the file system fails. A record that was written stays on a line of
its own as long as no rotation fails behind the removal of the oldest log, and as long as no record
is written behind a part of one.
-/

namespace QuestVdWired.Host.Diagnostics
open Wire

/-- One call of `write_record`. -/
structure Call where
  faults : Faults
  line : Line

/-- The log, the records it was told to be written, and those in the oldest logs that rotations
took away when they completed. -/
structure Log where
  writer : RotatingWriter
  directory : Directory
  accepted : List (List UInt8)
  removed : List (List UInt8)

namespace Log

/-- The lines that are there count as written. -/
def start (writer : RotatingWriter) (directory : Directory) : Log :=
  ⟨writer, directory, stored directory writer.fileCount.toNat, []⟩

/-- The lines of the oldest log, if the call completes a rotation. -/
def retired (call : Call) (log : Log) : List (List UInt8) :=
  if log.writer.isFull call.line.record ∧
      (log.writer.rotate call.faults log.directory).1.isOk then
    logged log.directory (log.writer.fileCount.toNat - 1)
  else []

def step (log : Log) (call : Call) : Log :=
  let (result, writer, directory) :=
    log.writer.writeRecord call.faults call.line.record log.directory
  { writer
    directory
    accepted := log.accepted ++ if result.isOk then [call.line.record] else []
    removed := log.removed ++ log.retired call }

def run (log : Log) (calls : List Call) : Log := calls.foldl step log

/-- Every record that was written is a line of a log, unless it was in an oldest log that a
completed rotation took away. -/
def Stays (log : Log) : Prop :=
  log.accepted.Sublist (log.removed ++ stored log.directory log.writer.fileCount.toNat)

instance (log : Log) : Decidable log.Stays := inferInstanceAs (Decidable (List.Sublist _ _))

/-- A rotation that removes a log with lines in it does not fail behind that. -/
def GoesThrough (faults : Faults) (writer : RotatingWriter) (directory : Directory) : Prop :=
  logged directory (writer.fileCount.toNat - 1) ≠ [] → faults.remove = false →
    ¬(writer.file.isSome ∧ faults.flush) →
    (∀ index < writer.fileCount.toNat - 1, faults.rename index = false) ∧ faults.reopen = false

/-- Where the newest log ends in a part of a record, the record is not written whole. -/
def StaysApart (call : Call) (writer : RotatingWriter) (directory : Directory) : Prop :=
  ∀ file ∈ writer.file, tornPart newline (directory.contents file) ≠ [] →
    call.faults.write ≠ none ∨ call.faults.flushRecord = true ∨
      MAX_LENGTH - (directory.contents file).length < call.line.record.length

def Contained (log : Log) (call : Call) : Prop :=
  if log.writer.isFull call.line.record then GoesThrough call.faults log.writer log.directory
  else StaysApart call log.writer log.directory

instance (log : Log) (call : Call) : Decidable (log.Contained call) := by
  unfold Contained GoesThrough StaysApart
  infer_instance

/-- Each call meets the condition where it is made. -/
def AllContained (log : Log) : List Call → Prop
  | [] => True
  | call :: calls => log.Contained call ∧ (log.step call).AllContained calls

instance decidableAllContained (log : Log) :
    (calls : List Call) → Decidable (log.AllContained calls)
  | [] => inferInstanceAs (Decidable True)
  | call :: calls =>
      have := (log.step call).decidableAllContained calls
      inferInstanceAs (Decidable (_ ∧ _))

attribute [local grind =] AllContained

end Log

section
variable {writer writer' : RotatingWriter} {directory directory' : Directory} {faults : Faults}
  {line : Line} {accepted before : List (List UInt8)} {n : Nat}

/-- The part of a call behind the rotation, where what is written whole is not behind a part of a
record. -/
theorem append_stays {rotated : Bool} {result : Except IoError Bool} (pos : 0 < n)
    (current : Current writer directory)
    (apart : ∀ file, writer.file = some file → faults.write = none → faults.flushRecord = false →
      line.record.length ≤ MAX_LENGTH - (directory.contents file).length →
      tornPart newline (directory.contents file) = [])
    (stays : accepted.Sublist (before ++ stored directory n))
    (appended : writer.append faults line.record rotated directory =
      (result, writer', directory')) :
    (accepted ++ if result.isOk then [line.record] else []).Sublist
        (before ++ stored directory' n) ∧ Current writer' directory' := by
  cases result with
  | error error =>
      obtain ⟨rfl, rfl | ⟨file, part, isOpen, rfl⟩⟩ := append_error appended
      · exact ⟨by simpa [Except.isOk, Except.toBool] using stays, current⟩
      · refine ⟨?_, current⟩
        rw [modify_stored pos (current file isOpen), ← List.append_assoc]
        simpa [Except.isOk, Except.toBool] using stays.trans (List.sublist_append_left ..)
  | ok b =>
      obtain ⟨file, isOpen, whole, flushed, fits, rfl, rfl⟩ := append_ok appended
      refine ⟨?_, current⟩
      rw [modify_stored pos (current file isOpen), apart file isOpen whole flushed fits,
        line_completes, ← List.append_assoc]
      simpa [Except.isOk, Except.toBool] using stays.append (List.Sublist.refl [line.record])

/-- Behind a rotation that completes. -/
theorem Rotated.stays {removed : List (List UInt8)}
    (rotation : Rotated writer directory writer' directory')
    (stays : accepted.Sublist (removed ++ stored directory writer.fileCount.toNat)) :
    accepted.Sublist (removed ++ logged directory (writer.fileCount.toNat - 1) ++
      stored directory' writer.fileCount.toNat) := by
  rw [List.append_assoc, rotation.kept]
  exact stays

/-- A rotation that fails takes nothing away if it goes through behind a removal. -/
theorem RotationFailed.stored_eq
    (failed : RotationFailed faults writer directory writer' directory')
    (goesThrough : Log.GoesThrough faults writer directory) :
    stored directory' writer.fileCount.toNat = stored directory writer.fileCount.toNat := by
  obtain same | ⟨same, removes, flushes, fails⟩ := failed.kept
  · exact same
  · by_contra other
    have lines : logged directory (writer.fileCount.toNat - 1) ≠ [] := by
      intro none_
      rw [none_, List.nil_append] at same
      exact other same
    obtain ⟨renames, reopens⟩ := goesThrough lines removes flushes
    rcases fails with ⟨index, below, fails⟩ | fails
    · rw [renames index below] at fails
      cases fails
    · rw [reopens] at fails
      cases fails

namespace Log

/-- What a call that meets the condition keeps. -/
structure Kept (log : Log) : Prop where
  stays : log.Stays
  current : Current log.writer log.directory
  pos : 0 < log.writer.fileCount.toNat

theorem rotated_stays {log : Log} {call : Call} {result : Except IoError Bool}
    (kept : log.Kept) (full : log.writer.isFull call.line.record)
    (goesThrough : GoesThrough call.faults log.writer log.directory)
    (wrote : log.writer.writeRecord call.faults call.line.record log.directory =
      (result, writer', directory')) :
    (log.accepted ++ if result.isOk then [call.line.record] else []).Sublist
        (log.removed ++ log.retired call ++ stored directory' log.writer.fileCount.toNat) ∧
      Current writer' directory' := by
  obtain ⟨stays, current, pos⟩ := kept
  rw [RotatingWriter.writeRecord, if_pos full] at wrote
  cases rotated : log.writer.rotate call.faults log.directory with
  | mk result₁ next₁ =>
      obtain ⟨writer₁, directory₁⟩ := next₁
      rw [rotated] at wrote
      rcases rotate_spec pos rotated with ⟨rfl, rotation⟩ | ⟨⟨error, rfl⟩, failed⟩
      · have retires : log.retired call =
            logged log.directory (log.writer.fileCount.toNat - 1) := by
          rw [retired, rotated, if_pos ⟨full, rfl⟩]
        obtain ⟨file, rfl, leads, empty⟩ := rotation.current
        rw [retires]
        refine append_stays pos ?_ ?_ (rotation.stays stays) wrote
        · intro file' isOpen
          cases isOpen
          exact leads
        · intro file' isOpen _ _ _
          cases isOpen
          rw [empty]
          rfl
      · have retires : log.retired call = [] := by
          rw [retired, rotated, if_neg]
          rintro ⟨_, ok⟩
          cases ok
        cases wrote
        rw [retires, List.append_nil, failed.stored_eq goesThrough]
        refine ⟨?_, ?_⟩
        · simpa [Except.isOk, Except.toBool, Stays] using stays
        · rw [failed.closed]
          intro file isOpen
          cases isOpen

theorem unrotated_stays {log : Log} {call : Call} {result : Except IoError Bool}
    (kept : log.Kept) (room : ¬log.writer.isFull call.line.record)
    (apart : StaysApart call log.writer log.directory)
    (wrote : log.writer.writeRecord call.faults call.line.record log.directory =
      (result, writer', directory')) :
    (log.accepted ++ if result.isOk then [call.line.record] else []).Sublist
        (log.removed ++ log.retired call ++ stored directory' log.writer.fileCount.toNat) ∧
      Current writer' directory' := by
  rw [RotatingWriter.writeRecord, if_neg room] at wrote
  have retires : log.retired call = [] := by
    rw [retired, if_neg]
    exact fun both => room both.1
  rw [retires, List.append_nil]
  refine append_stays kept.pos kept.current (fun file isOpen whole flushes fits => ?_) kept.stays
    wrote
  by_contra torn
  rcases apart file isOpen torn with fails | fails | fails
  · exact fails whole
  · rw [flushes] at fails
    cases fails
  · omega

theorem step_kept {log : Log} {call : Call} (kept : log.Kept) (contained : log.Contained call) :
    (log.step call).Kept := by
  cases wrote : log.writer.writeRecord call.faults call.line.record log.directory with
  | mk result next =>
      obtain ⟨writer', directory'⟩ := next
      obtain ⟨_, count⟩ := writeRecord_bounds kept.pos wrote
      have after : (log.accepted ++ if result.isOk then [call.line.record] else []).Sublist
          (log.removed ++ log.retired call ++ stored directory' log.writer.fileCount.toNat) ∧
          Current writer' directory' := by
        rw [Contained] at contained
        split at contained
        · rename_i full
          exact rotated_stays kept full contained wrote
        · rename_i room
          exact unrotated_stays kept room contained wrote
      refine ⟨?_, ?_, ?_⟩
      · rw [Stays, step, wrote]
        simp only [count]
        exact after.1
      · rw [step, wrote]
        exact after.2
      · rw [step, wrote]
        simp only [count]
        exact kept.pos

theorem run_kept {log : Log} {calls : List Call} (kept : log.Kept)
    (contained : log.AllContained calls) : (log.run calls).Kept := by
  induction calls generalizing log with
  | nil => exact kept
  | cons call calls ih => exact ih (step_kept kept contained.1) contained.2

end Log

/-- Over any run whose calls meet the condition, every record that was written, and every line that
was there before, is a line of its own, unless it was in an oldest log that a completed rotation
took away. -/
theorem accepted_stays {maxBytes fileCount : UInt64} {calls : List Call}
    (opened : RotatingWriter.open directory maxBytes fileCount = .ok (writer, directory'))
    (contained : (Log.start writer directory').AllContained calls) :
    ((Log.start writer directory').run calls).Stays := by
  obtain ⟨pos, _, file, leads, rfl⟩ := open_ok opened
  refine (Log.run_kept ⟨?_, ?_, pos⟩ contained).stays
  · exact List.Sublist.refl _
  · intro file' isOpen
    cases isOpen
    exact leads

/-- The newest log cannot be renamed. -/
def stuck : Faults := { sound with rename := fun index => index = 0 }

/-- The write ends behind a byte. -/
def cut : Faults := { sound with write := some 1 }

theorem accepted_stays_stuck : ∃ writer directory',
    RotatingWriter.open .empty 3 2 = .ok (writer, directory') ∧
      ((Log.start writer directory').run
        [⟨sound, one⟩, ⟨stuck, one⟩, ⟨sound, one⟩, ⟨cut, one⟩]).Stays := by
  have contained : ((RotatingWriter.open .empty 3 2).toOption.map fun state =>
      decide ((Log.start state.1 state.2).AllContained
        [⟨sound, one⟩, ⟨stuck, one⟩, ⟨sound, one⟩, ⟨cut, one⟩])) = some true := by
    decide +kernel
  cases opened : RotatingWriter.open .empty 3 2 with
  | error error =>
      rw [opened] at contained
      cases contained
  | ok state =>
      obtain ⟨writer, directory'⟩ := state
      rw [opened] at contained
      exact ⟨writer, directory', rfl,
        accepted_stays opened (of_decide_eq_true (Option.some.inj contained))⟩

/-- Three records in three logs, and a rotation that fails twice. -/
def stuckTwice : List Call :=
  [⟨sound, one⟩, ⟨sound, one⟩, ⟨sound, one⟩, ⟨stuck, one⟩, ⟨stuck, one⟩]

/-- The two failures take two of the records with them. -/
theorem two_failures :
    ¬∀ (directory : Directory) (maxBytes fileCount : UInt64) (writer : RotatingWriter)
      (directory' : Directory) (calls : List Call),
      RotatingWriter.open directory maxBytes fileCount = .ok (writer, directory') →
        ((Log.start writer directory').run calls).Stays := by
  intro each
  have lost : ((RotatingWriter.open .empty 1 3).toOption.map fun state =>
      decide ((Log.start state.1 state.2).run stuckTwice).Stays) = some false := by
    decide +kernel
  cases opened : RotatingWriter.open .empty 1 3 with
  | error error =>
      rw [opened] at lost
      cases lost
  | ok state =>
      obtain ⟨writer, directory'⟩ := state
      rw [opened] at lost
      exact of_decide_eq_false (Option.some.inj lost) (each _ _ _ _ _ stuckTwice opened)

end

end QuestVdWired.Host.Diagnostics
