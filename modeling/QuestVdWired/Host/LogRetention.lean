import QuestVdWired.Host.LogRotation

/-!
Log rotation keeps the newest records: over any number of runs without failures, with whatever
bounds each was opened with, and also where one was ended in the middle of a rotation.
-/

namespace QuestVdWired.Host.Diagnostics
open Wire

/-- Write records as long as each is written. -/
def writeRecords : List Line → RotatingWriter → Directory →
    Except IoError (RotatingWriter × Directory)
  | [], writer, directory => .ok (writer, directory)
  | line :: lines, writer, directory =>
      match writer.writeRecord sound line.record directory with
      | (.error error, _, _) => .error error
      | (.ok _, writer, directory) => writeRecords lines writer directory

/-- A run: the writer is opened and the records are written. -/
def Session (directory : Directory) (maxBytes fileCount : UInt64) (lines : List Line)
    (writer : RotatingWriter) (directory' : Directory) : Prop :=
  ∃ writer₀ directory₀, RotatingWriter.open directory maxBytes fileCount =
      .ok (writer₀, directory₀) ∧
    writeRecords lines writer₀ directory₀ = .ok (writer, directory')

/-- The directories that runs leave, and what all of these wrote. A run may have been ended in the
middle of a rotation, which leaves a number unused. -/
inductive Left : Directory → List Line → Prop
  | fresh {directory : Directory} (none_ : ∀ index, directory.read (logPath index) = none) :
      Left directory []
  | session {directory directory' : Directory} {history lines : List Line}
      {maxBytes fileCount : UInt64} {writer : RotatingWriter} (before : Left directory history)
      (session : Session directory maxBytes fileCount lines writer directory') :
      Left directory' (history ++ lines)
  | stopped {directory directory' directory'' : Directory} {history lines : List Line}
      {maxBytes fileCount : UInt64} {writer writer' : RotatingWriter} {faults : Faults}
      {result : Except IoError Unit} (before : Left directory history)
      (session : Session directory maxBytes fileCount lines writer directory')
      (rotated : writer.rotate faults directory' = (result, writer', directory'')) :
      Left directory'' (history ++ lines)

attribute [local grind =] writeRecords

theorem line_torn (line : Line) (content : List UInt8) :
    tornPart newline (content ++ line.record) = [] :=
  tornPart_append_line content line.1

theorem line_completes (line : Line) :
    completeFrom newline [] line.record = [line.record] := by
  have alone : completeLines newline ([] ++ line.record) =
      completeLines newline [] ++ [line.record] := completeLines_append_line rfl line.2.1
  exact alone

section
variable {directory directory' : Directory} {writer writer' : RotatingWriter} {n m : Nat}
  {maxBytes fileCount : UInt64} {history lines : List Line}

theorem saturatingAdd_toNat {bytes : UInt64} (fits : bytes.toNat + n ≤ MAX_LENGTH) :
    (saturatingAdd bytes n).toNat = bytes.toNat + n :=
  saturatingAdd_exact (Nat.lt_of_le_of_lt fits (by decide))

/-- What holds in a run: the writer has the newest log open and knows its length, and the logs are
whole and hold the last of all records. -/
structure Keeps (opened : Directory) (history written : List Line) (writer : RotatingWriter)
    (directory : Directory) : Prop where
  current : ∃ file, writer.file = some file ∧ directory.files (logPath 0) = some file ∧
    writer.bytes.toNat = (directory.contents file).length
  pos : 0 < writer.fileCount.toNat
  whole : ∀ index content, directory.read (logPath index) = some content →
    index < writer.fileCount.toNat ∧ tornPart newline content = [] ∧ content.length ≤ MAX_LENGTH
  bounded : ∀ index content, directory.read (logPath index) = some content →
    content.length ≤ writer.maxBytes.toNat ∨ (∃ line ∈ written, content = line.record) ∨
      ∃ index', opened.read (logPath index') = some content
  suffix : stored directory writer.fileCount.toNat <:+ (history ++ written).map Line.record

theorem Keeps.untorn {opened : Directory} {written : List Line}
    (keeps : Keeps opened history written writer directory) (index : Nat) (content : List UInt8)
    (read : directory.read (logPath index) = some content) : tornPart newline content = [] :=
  (keeps.whole index content read).2.1

theorem Keeps.decodes {opened : Directory} {written : List Line}
    (keeps : Keeps opened history written writer directory) :
    ∀ record ∈ stored directory writer.fileCount.toNat, (decodeUtf8 record).isSome := by
  intro record member
  obtain ⟨line, _, rfl⟩ := List.mem_map.mp (keeps.suffix.subset member)
  exact line.2.2

/-- The record goes to a file that has room for it, or that is empty. -/
theorem Keeps.append {opened : Directory} {written : List Line} {line : Line} {rotated b : Bool}
    (keeps : Keeps opened history written writer directory)
    (room : writer.bytes = 0 ∨ ¬writer.maxBytes < saturatingAdd writer.bytes line.record.length)
    (appended : writer.append sound line.record rotated directory = (.ok b, writer', directory')) :
    Keeps opened history (written ++ [line]) writer' directory' ∧
      stored directory' writer'.fileCount.toNat =
        stored directory writer.fileCount.toNat ++ [line.record] := by
  obtain ⟨file, isOpen, _, _, fits, rfl, rfl⟩ := append_ok appended
  obtain ⟨file', isOpen', leads, bytes⟩ := keeps.current
  rw [isOpen] at isOpen'
  cases isOpen'
  have content : directory.read (logPath 0) = some (directory.contents file) := by
    rw [FileSystem.read, leads, Option.map_some]
  obtain ⟨_, torn, length⟩ := keeps.whole 0 _ content
  have total : writer.bytes.toNat + line.record.length ≤ MAX_LENGTH := by omega
  have newest := FileSystem.read_modify_self (f := (· ++ line.record)) leads
  have other {index : Nat} (h : index ≠ 0) :
      (directory.modify file (· ++ line.record)).read (logPath index) =
        directory.read (logPath index) :=
    FileSystem.read_modify_other leads (by simpa using h)
  have adds : stored (directory.modify file (· ++ line.record)) writer.fileCount.toNat =
      stored directory writer.fileCount.toNat ++ [line.record] := by
    rw [modify_stored keeps.pos leads, torn, line_completes]
  refine ⟨⟨⟨file, isOpen, leads, ?_⟩, keeps.pos, ?_, ?_, ?_⟩, adds⟩
  · simp only [FileSystem.modify, Function.update_self, List.length_append]
    rw [saturatingAdd_toNat total, bytes]
  · intro index content' read
    by_cases zero : index = 0
    · subst zero
      rw [newest] at read
      cases read
      refine ⟨keeps.pos, line_torn line _, ?_⟩
      rw [List.length_append]
      omega
    · rw [other zero] at read
      exact keeps.whole index content' read
  · intro index content' read
    by_cases zero : index = 0
    · subst zero
      rw [newest] at read
      cases read
      rcases room with empty | room
      · have nil : directory.contents file = [] := by
          rw [← List.length_eq_zero_iff, ← bytes, empty, UInt64.toNat_zero]
        exact .inr (.inl ⟨line, by simp, by rw [nil, List.nil_append]⟩)
      · rw [UInt64.lt_iff_toNat_lt, saturatingAdd_toNat total, bytes] at room
        refine .inl ?_
        rw [List.length_append]
        exact Nat.not_lt.mp room
    · rw [other zero] at read
      rcases keeps.bounded index content' read with small | ⟨line', member, is⟩ | found
      · exact .inl small
      · exact .inr (.inl ⟨line', List.mem_append_left _ member, is⟩)
      · exact .inr (.inr found)
  · obtain ⟨dropped, whole⟩ := keeps.suffix
    refine ⟨dropped, ?_⟩
    simp only [adds, ← List.append_assoc, List.map_append, List.map_cons, List.map_nil]
    rw [whole, List.map_append]

/-- The oldest log goes, and the new one is empty. -/
theorem Keeps.rotate {opened : Directory} {written : List Line} {faults : Faults}
    (keeps : Keeps opened history written writer directory)
    (rotated : writer.rotate faults directory = (.ok (), writer', directory')) :
    Keeps opened history written writer' directory' ∧ writer'.bytes = 0 := by
  obtain ⟨_, rotation⟩ | ⟨⟨_, failed⟩, _⟩ := rotate_spec keeps.pos rotated
  · obtain ⟨file, rfl, leads, empty⟩ := rotation.current
    refine ⟨⟨⟨file, rfl, leads, by rw [empty]; rfl⟩, keeps.pos, ?_, ?_, ?_⟩, rfl⟩
    · intro index content read
      rcases rotation.comesFrom index content read with ⟨rfl, rfl⟩ | ⟨index', read', below⟩
      · exact ⟨keeps.pos, rfl, Nat.zero_le _⟩
      · obtain ⟨small, torn, length⟩ := keeps.whole index' content read'
        refine ⟨?_, torn, length⟩
        rcases below with below | rfl
        · exact below
        · exact small
    · intro index content read
      rcases rotation.comesFrom index content read with ⟨rfl, rfl⟩ | ⟨index', read', _⟩
      · exact .inl (Nat.zero_le _)
      · exact keeps.bounded index' content read'
    · refine List.IsSuffix.trans ?_ keeps.suffix
      rw [← rotation.kept]
      exact List.suffix_append ..
  · cases failed

theorem Keeps.writeRecord {opened : Directory} {written : List Line} {line : Line} {b : Bool}
    (keeps : Keeps opened history written writer directory)
    (wrote : writer.writeRecord sound line.record directory = (.ok b, writer', directory')) :
    Keeps opened history (written ++ [line]) writer' directory' ∧
      (stored directory' writer'.fileCount.toNat).getLast? = some line.record := by
  rw [RotatingWriter.writeRecord] at wrote
  by_cases full : writer.isFull line.record
  · rw [if_pos full] at wrote
    split at wrote
    · cases wrote
    · rename_i writer₁ directory₁ rotated
      obtain ⟨keeps₁, empty⟩ := keeps.rotate rotated
      obtain ⟨keeps', adds⟩ := keeps₁.append (.inl empty) wrote
      exact ⟨keeps', by rw [adds, List.getLast?_concat]⟩
  · rw [if_neg full] at wrote
    have room : writer.bytes = 0 ∨
        ¬writer.maxBytes < saturatingAdd writer.bytes line.record.length := by
      rw [RotatingWriter.isFull, not_and_or] at full
      refine full.imp_left fun none_ => ?_
      rw [UInt64.lt_iff_toNat_lt] at none_
      exact UInt64.toNat_inj.mp (Nat.eq_zero_of_not_pos none_)
    obtain ⟨keeps', adds⟩ := keeps.append room wrote
    exact ⟨keeps', by rw [adds, List.getLast?_concat]⟩

theorem Keeps.writeRecords {opened : Directory} {written : List Line}
    (keeps : Keeps opened history written writer directory)
    (wrote : writeRecords lines writer directory = .ok (writer', directory')) :
    Keeps opened history (written ++ lines) writer' directory' ∧
      ∀ line ∈ lines.getLast?,
        (stored directory' writer'.fileCount.toNat).getLast? = some line.record := by
  induction lines generalizing written writer directory with
  | nil =>
      cases wrote
      rw [List.append_nil]
      exact ⟨keeps, fun line last => by cases last⟩
  | cons line lines ih =>
      rw [Diagnostics.writeRecords] at wrote
      split at wrote
      · cases wrote
      · rename_i b writer₁ directory₁ first
        obtain ⟨keeps₁, newest⟩ := keeps.writeRecord first
        obtain ⟨keeps', newest'⟩ := ih keeps₁ wrote
        rw [List.append_assoc, List.singleton_append] at keeps'
        refine ⟨keeps', ?_⟩
        cases lines with
        | nil =>
            cases wrote
            intro line' last
            cases last
            exact newest
        | cons line' lines =>
            rw [List.getLast?_cons_cons]
            exact newest'

theorem writeRecords_bounds (pos : 0 < writer.fileCount.toNat)
    (wrote : writeRecords lines writer directory = .ok (writer', directory')) :
    writer'.maxBytes = writer.maxBytes ∧ writer'.fileCount = writer.fileCount := by
  induction lines generalizing writer directory with
  | nil =>
      cases wrote
      exact ⟨rfl, rfl⟩
  | cons line lines ih =>
      rw [Diagnostics.writeRecords] at wrote
      split at wrote
      · cases wrote
      · rename_i first
        obtain ⟨bytes, count⟩ := writeRecord_bounds pos first
        obtain ⟨bytes', count'⟩ := ih (by rw [count]; exact pos) wrote
        exact ⟨bytes'.trans bytes, count'.trans count⟩

/-! ### Runs -/

/-- What a run finds: whole logs that hold the last of all records, under any numbers. -/
def Holds (directory : Directory) (history : List Line) : Prop :=
  ∃ n, n ≤ UInt64.size ∧
    (∀ index content, directory.read (logPath index) = some content →
      index < n ∧ tornPart newline content = [] ∧ content.length ≤ MAX_LENGTH) ∧
    stored directory n <:+ history.map Line.record

theorem prune_read {index : Nat} (small : index < UInt64.size) :
    (pruneExcessLogs directory fileCount).read (logPath index) =
      if fileCount.toNat ≤ index then none else directory.read (logPath index) := by
  rw [pruneExcessLogs, FileSystem.read_unlink, logIndex_logPath small]
  simp

/-- Numbers that are not used hold nothing. -/
theorem stored_suffix (unused : ∀ index, n ≤ index → directory.read (logPath index) = none) :
    stored directory m <:+ stored directory n := by
  rcases Nat.le_total m n with le | le
  · exact readDown_suffix le
  · induction le with
    | refl => exact List.suffix_refl _
    | step le ih =>
        rw [stored, readDown, logged_of_none (unused _ le), List.nil_append]
        exact ih

theorem open_ok
    (opened : RotatingWriter.open directory maxBytes fileCount = .ok (writer, directory')) :
    0 < fileCount.toNat ∧
      directory' = ((pruneExcessLogs directory fileCount).create (logPath 0)).2 ∧
      ∃ file, directory'.files (logPath 0) = some file ∧ writer =
        { file := some file, bytes := UInt64.ofNat (directory'.contents file).length, maxBytes,
          fileCount } := by
  rw [RotatingWriter.open] at opened
  split at opened
  · cases opened
  · rename_i bounds
    simp only [openAppend, Bool.false_eq_true, if_false, Except.ok.injEq, Prod.mk.injEq] at opened
    obtain ⟨rfl, rfl⟩ := opened
    refine ⟨?_, rfl, _, FileSystem.create_leads, rfl⟩
    rw [not_or] at bounds
    exact Nat.pos_of_ne_zero fun zero => bounds.2 (UInt64.toNat_inj.mp zero)

section
variable (named : ∀ index content, directory.read (logPath index) = some content →
  index < UInt64.size)
include named

theorem prune_found {index : Nat} {content : List UInt8}
    (read : (pruneExcessLogs directory fileCount).read (logPath index) = some content) :
    index < fileCount.toNat ∧ directory.read (logPath index) = some content := by
  have there : directory.read (logPath index) = some content := by
    rw [pruneExcessLogs, FileSystem.read_unlink] at read
    split at read
    · cases read
    · exact read
  rw [prune_read (named index content there)] at read
  split at read
  · cases read
  · rename_i below
    exact ⟨Nat.not_le.mp below, there⟩

/-- After the opening, a log is one that was there and is kept, or the newest, which is new. -/
theorem open_found
    (opened : RotatingWriter.open directory maxBytes fileCount = .ok (writer, directory'))
    {index : Nat} {content : List UInt8} (read : directory'.read (logPath index) = some content) :
    index = 0 ∧ content = [] ∨
      index < fileCount.toNat ∧ directory.read (logPath index) = some content := by
  obtain ⟨_, rfl, _⟩ := open_ok opened
  by_cases zero : index = 0
  · subst zero
    rw [FileSystem.read_create_self] at read
    cases there : (pruneExcessLogs directory fileCount).read (logPath 0) with
    | none =>
        rw [there] at read
        cases read
        exact .inl ⟨rfl, rfl⟩
    | some content' =>
        rw [there] at read
        cases read
        exact .inr (prune_found named there)
  · rw [FileSystem.read_create_other (by simpa using zero)] at read
    exact .inr (prune_found named read)

theorem open_stored
    (opened : RotatingWriter.open directory maxBytes fileCount = .ok (writer, directory')) :
    stored directory' fileCount.toNat = stored directory fileCount.toNat := by
  obtain ⟨_, rfl, _⟩ := open_ok opened
  rw [create_stored]
  refine readDown_congr fun index below => ?_
  cases there : directory.read (logPath index) with
  | none =>
      rw [logged_of_none there]
      refine logged_of_none ?_
      cases read : (pruneExcessLogs directory fileCount).read (logPath index) with
      | none => rfl
      | some content =>
          rw [(prune_found named read).2] at there
          cases there
  | some content =>
      refine logged_congr ?_
      rw [prune_read (named index content there), if_neg (Nat.not_le.mpr below)]

end

theorem open_keeps (holds : Holds directory history)
    (opened : RotatingWriter.open directory maxBytes fileCount = .ok (writer, directory')) :
    Keeps directory history [] writer directory' ∧ writer.maxBytes = maxBytes ∧
      writer.fileCount = fileCount := by
  obtain ⟨n, small, whole, suffix⟩ := holds
  have named (index : Nat) (content : List UInt8)
      (read : directory.read (logPath index) = some content) : index < UInt64.size :=
    Nat.lt_of_lt_of_le (whole index content read).1 small
  have found {index : Nat} {content : List UInt8}
      (read : directory'.read (logPath index) = some content) := open_found named opened read
  have same := open_stored named opened
  obtain ⟨pos, _, file, leads, rfl⟩ := open_ok opened
  have fits : (directory'.contents file).length ≤ MAX_LENGTH := by
    rcases found (by rw [FileSystem.read, leads, Option.map_some]) with ⟨_, empty⟩ | ⟨_, there⟩
    · rw [empty]
      exact Nat.zero_le _
    · exact (whole 0 _ there).2.2
  refine ⟨⟨⟨file, rfl, leads, ?_⟩, pos, ?_, ?_, ?_⟩, rfl, rfl⟩
  · exact UInt64.toNat_ofNat_of_lt' (Nat.lt_of_le_of_lt fits (by decide))
  · intro index content read
    rcases found read with ⟨rfl, rfl⟩ | ⟨below, there⟩
    · exact ⟨pos, rfl, Nat.zero_le _⟩
    · exact ⟨below, (whole index content there).2⟩
  · intro index content read
    rcases found read with ⟨rfl, rfl⟩ | ⟨_, there⟩
    · exact .inl (Nat.zero_le _)
    · exact .inr (.inr ⟨index, there⟩)
  · rw [List.append_nil]
    refine List.IsSuffix.trans ?_ suffix
    rw [same]
    refine stored_suffix fun index above => ?_
    cases there : directory.read (logPath index) with
    | none => rfl
    | some content => exact absurd (whole index content there).1 (Nat.not_lt.mpr above)

theorem session_keeps (holds : Holds directory history)
    (session : Session directory maxBytes fileCount lines writer directory') :
    Keeps directory history lines writer directory' ∧ writer.maxBytes = maxBytes ∧
      writer.fileCount = fileCount ∧ ∀ line ∈ lines.getLast?,
        (stored directory' fileCount.toNat).getLast? = some line.record := by
  obtain ⟨writer₀, directory₀, opened, wrote⟩ := session
  obtain ⟨keeps₀, rfl, rfl⟩ := open_keeps holds opened
  obtain ⟨keeps, newest⟩ := keeps₀.writeRecords wrote
  rw [List.nil_append] at keeps
  obtain ⟨bytes, count⟩ := writeRecords_bounds keeps₀.pos wrote
  rw [count] at newest
  exact ⟨keeps, bytes, count, newest⟩

theorem left_holds (left : Left directory history) : Holds directory history := by
  induction left with
  | fresh none_ =>
      refine ⟨0, Nat.zero_le _, fun index content read => ?_, List.nil_suffix⟩
      rw [none_ index] at read
      cases read
  | session _ session ih =>
      obtain ⟨keeps, _, _, _⟩ := session_keeps ih session
      exact ⟨_, Nat.le_of_lt (UInt64.toNat_lt_size _), keeps.whole, keeps.suffix⟩
  | @stopped _ _ directory'' _ _ _ _ writer _ _ _ _ session rotated ih =>
      obtain ⟨keeps, _, _, _⟩ := session_keeps ih session
      obtain ⟨rfl, _⟩ | ⟨_, failed⟩ := rotate_spec keeps.pos rotated
      · have keeps' := (keeps.rotate rotated).1
        exact ⟨_, Nat.le_of_lt (UInt64.toNat_lt_size _), keeps'.whole, keeps'.suffix⟩
      · refine ⟨writer.fileCount.toNat, Nat.le_of_lt (UInt64.toNat_lt_size _),
          fun index content read => ?_, List.IsSuffix.trans ?_ keeps.suffix⟩
        · obtain ⟨index', read', below⟩ := failed.comesFrom index content read
          obtain ⟨small, rest⟩ := keeps.whole index' content read'
          refine ⟨?_, rest⟩
          rcases below with below | rfl
          · exact below
          · exact small
        · rcases failed.kept with same | ⟨gone, _⟩
          · rw [same]
          · rw [← gone]
            exact List.suffix_append ..

/-! ### The bundle -/

section
variable {Value : Type*} (serde : Serde Value)

/-- What the bundle has for a record. -/
def bundled (record : List UInt8) : Line :=
  serde.toVec (((serde.fromStr (((decodeUtf8 record).map stripLineEnd).getD [])).map
    serde.redactValue).getD serde.malformed)

theorem readLines_whole {content : List UInt8} (whole : tornPart newline content = [])
    (decodes : ∀ record ∈ completeLines newline content, (decodeUtf8 record).isSome) :
    readLines content = some ((completeLines newline content).map fun record =>
      ((decodeUtf8 record).map stripLineEnd).getD []) := by
  have each (records : List (List UInt8))
      (decodes : ∀ record ∈ records, (decodeUtf8 record).isSome) :
      records.mapM (fun record => (decodeUtf8 record).map stripLineEnd) =
        some (records.map fun record => ((decodeUtf8 record).map stripLineEnd).getD []) := by
    induction records with
    | nil => rfl
    | cons record records ih =>
        rw [List.forall_mem_cons] at decodes
        obtain ⟨text, decoded⟩ := Option.isSome_iff_exists.mp decodes.1
        simp [List.mapM_cons, ih decodes.2, decoded]
  simp only [readLines, whole, if_true, List.append_nil]
  exact each _ decodes

theorem exportLogs_whole
    (whole : ∀ index content, directory.read (logPath index) = some content →
      tornPart newline content = [])
    (decodes : ∀ record ∈ stored directory n, (decodeUtf8 record).isSome) :
    exportLogs serde directory n =
      .ok (((stored directory n).map (bundled serde)).flatMap Line.record) := by
  induction n with
  | zero => rfl
  | succ index ih =>
      rw [stored, readDown, List.forall_mem_append] at decodes
      obtain ⟨here, below⟩ := decodes
      rw [exportLogs, stored, readDown]
      cases read : directory.read (logPath index) with
      | none =>
          rw [logged_of_none read, List.nil_append]
          exact ih below
      | some content =>
          rw [logged, read, Option.getD_some] at here ⊢
          simp only [readLines_whole (whole index content read) here, ih below, Except.map,
            List.map_append, List.flatMap_append, stored]
          congr 2
          simp only [List.flatMap_map]
          rfl

theorem exportLogs_congr
    (same : ∀ index < n, directory'.read (logPath index) = directory.read (logPath index)) :
    exportLogs serde directory' n = exportLogs serde directory n := by
  induction n with
  | zero => rfl
  | succ index ih =>
      rw [exportLogs, exportLogs, same index (Nat.lt_succ_self _),
        ih fun index' below => same index' (by omega)]

theorem records_lines (lines : List Line) :
    completeLines newline (lines.flatMap Line.record) = lines.map Line.record ∧
      tornPart newline (lines.flatMap Line.record) = [] := by
  induction lines with
  | nil => exact ⟨rfl, rfl⟩
  | cons line lines ih =>
      have torn : tornPart newline line.record = [] := line_torn line []
      have first : completeLines newline line.record = [line.record] := line_completes line
      rw [List.flatMap_cons, completeLines_append, torn, tornPart, tornFrom_append, ← tornPart,
        torn, first, List.map_cons]
      exact ⟨congrArg (line.record :: ·) ih.1, ih.2⟩

/-- Only where the bundle is written it is read. -/
theorem createFile_read {found : List UInt8} {name : Option Name} {path : Name} :
    (createFile found name directory).read path =
      if name = some path then some found else directory.read path := by
  cases name with
  | none => rfl
  | some name =>
      by_cases same : name = path
      · subst same
        rw [createFile, FileSystem.read_modify_self FileSystem.create_leads, if_pos rfl]
      · have other : path ≠ name := Ne.symm same
        rw [createFile, FileSystem.read_modify_other FileSystem.create_leads other,
          FileSystem.read_create_other other, if_neg fun is => same (Option.some.inj is)]

/-- The bundle was written over a log, of which `found` is read. -/
theorem createFile_length (directory : Directory) (found : List UInt8) {index : Nat}
    (below : index < n) :
    (stored (createFile found (some (logPath index)) directory) n).length +
        (logged directory index).length =
      (stored directory n).length + (completeLines newline found).length := by
  have own : logged (createFile found (some (logPath index)) directory) index =
      completeLines newline found := by
    rw [logged, createFile_read, if_pos rfl, Option.getD_some]
  have others (i : Nat) (other : i ≠ index) :
      logged (createFile found (some (logPath index)) directory) i = logged directory i :=
    logged_congr (by rw [createFile_read, if_neg (by simpa using Ne.symm other)])
  have rest := readDown_length below others
  rwa [own] at rest

section
variable {root : PathBuf} (places : Places root) (unixMillis : Nat) (destination : PathBuf)

/-- The bundle is its metadata and a line for each record, in their order. -/
def Tells (bundle : List UInt8) (records : List (List UInt8)) : Prop :=
  completeLines newline bundle = (serde.toVec serde.bundleMetadata).record ::
      records.map (fun record => (bundled serde record).record) ∧
    tornPart newline bundle = []

/-- An export that is not refused tells of every record, however much of the bundle is written out
when its own file is read. -/
def Exports (writer : RotatingWriter) (directory : Directory) : Prop :=
  ∀ found path bundle,
    «export» serde places unixMillis destination found writer directory = .ok (path, bundle) →
      found <+: bundle → Tells serde bundle (stored directory writer.fileCount.toNat)

/-- The bundle goes to none of the logs. -/
def Apart (writer : RotatingWriter) : Prop :=
  ∀ index < writer.fileCount.toNat,
    places.leads (bundlePath places unixMillis destination) ≠ some (logPath index)

variable {places unixMillis destination}

/-- A path that is spelled as a log's leads to the log. -/
theorem Apart.accepted (apart : Apart places unixMillis destination writer) :
    overwritesLog places unixMillis destination writer = false := by
  rw [overwritesLog, List.any_eq_false]
  intro index member same
  have leads := places.leads_log index
  rw [← decide_eq_true_iff.mp same] at leads
  exact apart index (List.mem_range.mp member) leads

theorem export_accepted {found : List UInt8}
    (accepted : overwritesLog places unixMillis destination writer = false) :
    «export» serde places unixMillis destination found writer directory =
      (exportLogs serde (createFile found
        (places.leads (bundlePath places unixMillis destination)) directory)
          writer.fileCount.toNat).map fun lines => (bundlePath places unixMillis destination,
            (serde.toVec serde.bundleMetadata).record ++ lines) := by
  rw [«export», if_neg (Bool.eq_false_iff.mp accepted)]

section
variable
  (whole : ∀ index content, directory.read (logPath index) = some content →
    tornPart newline content = [])
  (decodes : ∀ record ∈ stored directory writer.fileCount.toNat, (decodeUtf8 record).isSome)
include whole decodes

theorem export_tells (found : List UInt8)
    (accepted : overwritesLog places unixMillis destination writer = false)
    (torn : tornPart newline found = [])
    (texts : ∀ record ∈ completeLines newline found, (decodeUtf8 record).isSome) :
    ∃ bundle, «export» serde places unixMillis destination found writer directory =
        .ok (bundlePath places unixMillis destination, bundle) ∧
      (serde.toVec serde.bundleMetadata).record <+: bundle ∧
      Tells serde bundle
        (stored (createFile found (places.leads (bundlePath places unixMillis destination))
          directory) writer.fileCount.toNat) := by
  have whole' : ∀ index content, (createFile found
      (places.leads (bundlePath places unixMillis destination)) directory).read (logPath index) =
        some content → tornPart newline content = [] := by
    intro index content read
    rw [createFile_read] at read
    split at read
    · cases read
      exact torn
    · exact whole index content read
  have decodes' : ∀ record ∈ stored (createFile found
      (places.leads (bundlePath places unixMillis destination)) directory) writer.fileCount.toNat,
      (decodeUtf8 record).isSome := by
    intro record member
    obtain ⟨index, below, inside⟩ := mem_readDown.mp member
    rw [logged, createFile_read] at inside
    split at inside
    · exact texts record inside
    · exact decodes record (mem_readDown.mpr ⟨index, below, inside⟩)
  have lines := records_lines ((serde.toVec serde.bundleMetadata) ::
    (stored (createFile found (places.leads (bundlePath places unixMillis destination))
      directory) writer.fileCount.toNat).map (bundled serde))
  rw [List.flatMap_cons, List.map_cons, List.map_map] at lines
  refine ⟨_, ?_, List.prefix_append .., lines⟩
  rw [export_accepted serde accepted, exportLogs_whole serde whole' decodes', Except.map]

/-- What is written elsewhere is not read. -/
theorem Apart.export (apart : Apart places unixMillis destination writer) (found : List UInt8) :
    ∃ bundle, «export» serde places unixMillis destination found writer directory =
        .ok (bundlePath places unixMillis destination, bundle) ∧
      Tells serde bundle (stored directory writer.fileCount.toNat) := by
  have same : exportLogs serde (createFile found
      (places.leads (bundlePath places unixMillis destination)) directory) writer.fileCount.toNat =
      exportLogs serde directory writer.fileCount.toNat :=
    exportLogs_congr serde fun index below => by rw [createFile_read, if_neg (apart index below)]
  have lines := records_lines ((serde.toVec serde.bundleMetadata) ::
    (stored directory writer.fileCount.toNat).map (bundled serde))
  rw [List.flatMap_cons, List.map_cons, List.map_map] at lines
  refine ⟨_, ?_, lines⟩
  rw [export_accepted serde apart.accepted, same, exportLogs_whole serde whole decodes, Except.map]

/-- Over a log, the bundle lacks the records that were there, or has a line for its own first one. -/
theorem exports_iff :
    Exports serde places unixMillis destination writer directory ↔
      overwritesLog places unixMillis destination writer = true ∨
        Apart places unixMillis destination writer := by
  constructor
  · intro exports
    by_contra neither
    rw [not_or, Bool.not_eq_true] at neither
    obtain ⟨accepted, near⟩ := neither
    obtain ⟨index, below, leads⟩ : ∃ index < writer.fileCount.toNat,
        places.leads (bundlePath places unixMillis destination) = some (logPath index) := by
      simpa [Apart] using near
    have told (found : List UInt8) (torn : tornPart newline found = [])
        (texts : ∀ record ∈ completeLines newline found, (decodeUtf8 record).isSome)
        (early : found <+: (serde.toVec serde.bundleMetadata).record) :
        (logged directory index).length = (completeLines newline found).length := by
      obtain ⟨bundle, exported, begins, tells⟩ :=
        export_tells serde whole decodes found accepted torn texts
      have same := (exports found _ _ exported (early.trans begins)).1
      have lengths := congrArg List.length (tells.1.symm.trans same)
      simp only [List.length_cons, List.length_map, leads] at lengths
      have counted := createFile_length directory found below
      omega
    have nothing := told [] rfl (fun _ member => by cases member) (List.nil_prefix ..)
    have line : completeLines newline (serde.toVec serde.bundleMetadata).record =
        [(serde.toVec serde.bundleMetadata).record] := line_completes _
    have first := told (serde.toVec serde.bundleMetadata).record
      (line_torn (serde.toVec serde.bundleMetadata) []) (fun record member => by
        rw [line] at member
        obtain rfl := List.mem_singleton.mp member
        exact (serde.toVec serde.bundleMetadata).2.2) (List.prefix_refl _)
    rw [nothing, line] at first
    cases first
  · rintro (refused | apart) found path bundle exported early
    · rw [«export», if_pos refused] at exported
      cases exported
    · obtain ⟨_, exported', tells⟩ := apart.export serde whole decodes found
      rw [exported] at exported'
      cases exported'
      exact tells

end
end
end

/-- In every run from a directory that runs left, the logs from the oldest to the newest are the
last of all records ever written, each whole, and the newest among them. Only numbers below the
bound are used, and no log is longer than its bound but one that was so when the run began or that is
a single record. An export that is not refused has a line for each record if and only if its bundle
goes to none of the logs. -/
theorem newest_kept {Value : Type*} (serde : Serde Value) {root : PathBuf} (places : Places root)
    (unixMillis : Nat) (destination : PathBuf) (left : Left directory history)
    (session : Session directory maxBytes fileCount lines writer directory') :
    stored directory' fileCount.toNat <:+ (history ++ lines).map Line.record ∧
    (∀ line ∈ lines.getLast?, (stored directory' fileCount.toNat).getLast? = some line.record) ∧
    (∀ index content, directory'.read (logPath index) = some content →
      index < fileCount.toNat ∧ tornPart newline content = [] ∧
      (content.length ≤ maxBytes.toNat ∨ (∃ line ∈ lines, content = line.record) ∨
        ∃ index', directory.read (logPath index') = some content)) ∧
    (Exports serde places unixMillis destination writer directory' ↔
      overwritesLog places unixMillis destination writer = true ∨
        Apart places unixMillis destination writer) ∧
    (Apart places unixMillis destination writer → ∀ found,
      ∃ bundle, «export» serde places unixMillis destination found writer directory' =
          .ok (bundlePath places unixMillis destination, bundle) ∧
        Tells serde bundle (stored directory' fileCount.toNat)) := by
  obtain ⟨keeps, rfl, rfl, newest⟩ := session_keeps (left_holds left) session
  refine ⟨keeps.suffix, newest, fun index content read => ?_,
    exports_iff serde keeps.untorn keeps.decodes,
    fun apart found => apart.export serde keeps.untorn keeps.decodes found⟩
  obtain ⟨small, torn, _⟩ := keeps.whole index content read
  exact ⟨small, torn, keeps.bounded index content read⟩

/-- The JSON text `1`. -/
def one : Line := ⟨[49], by decide +kernel⟩

/-- Values that are their texts, of which `1` is read. -/
def plainSerde : Serde Line where
  fromStr text := if text = ['1'] then some one else none
  toVec := id
  redactValue := id
  malformed := ⟨[34, 109, 34], by decide +kernel⟩
  bundleMetadata := ⟨[34, 98, 34], by decide +kernel⟩

/-- A run of three records, of which each log has one. -/
theorem three_kept : ∃ writer directory', Session .empty 3 2 [one, one, one] writer directory' ∧
    writer.fileCount = 2 ∧ logged directory' 0 = [one.record] := by
  have runs : (((RotatingWriter.open .empty 3 2).bind fun state =>
      writeRecords [one, one, one] state.1 state.2).toOption.map fun state => logged state.2 0) =
        some [one.record] := by decide +kernel
  cases opened : RotatingWriter.open .empty 3 2 with
  | error error =>
      rw [opened] at runs
      cases runs
  | ok state =>
      obtain ⟨writer₀, directory₀⟩ := state
      rw [opened, Except.bind] at runs
      cases wrote : writeRecords [one, one, one] writer₀ directory₀ with
      | error error =>
          rw [wrote] at runs
          cases runs
      | ok state =>
          obtain ⟨writer, directory'⟩ := state
          rw [wrote] at runs
          have session : Session .empty 3 2 [one, one, one] writer directory' :=
            ⟨writer₀, directory₀, opened, wrote⟩
          have bounds := session_keeps (left_holds (.fresh fun _ => rfl)) session
          exact ⟨writer, directory', session, bounds.2.2.1, Option.some.inj runs⟩

/-- The directory of the logs, as the program spells it. -/
def logs : PathBuf := [.rootDir, .normal "logs".toList]

/-- In the directory of the logs: a relative path of one component leads to a name there. -/
def inside : Places logs where
  isDir _ := false
  leads path :=
    match path with
    | [.normal name] => some name
    | [.rootDir, .normal directory, .normal name] =>
        if directory = "logs".toList then some name else none
    | _ => none
  leads_log _ := if_pos rfl

theorem newest_kept_three : ∃ writer directory',
    Session .empty 3 2 [one, one, one] writer directory' ∧
      stored directory' 2 <:+ [one, one, one].map Line.record ∧
      ∃ bundle, «export» plainSerde inside 0 [.normal "bundle".toList] [] writer directory' =
          .ok ([.normal "bundle".toList], bundle) ∧
        Tells plainSerde bundle (stored directory' 2) := by
  obtain ⟨writer, directory', session, count, _⟩ := three_kept
  have kept := newest_kept plainSerde inside 0 [.normal "bundle".toList] (.fresh fun _ => rfl) session
  have apart : Apart inside 0 [.normal "bundle".toList] writer := by
    intro index below
    rw [count] at below
    have few : index = 0 ∨ index = 1 := by
      have small : index < 2 := below
      omega
    rcases few with rfl | rfl <;> decide +kernel
  exact ⟨writer, directory', session, kept.1, kept.2.2.2.2 apart []⟩

/-- The newest log by its name alone, from within the directory: the export is not refused, and its
bundle lacks the record of that log, which is no longer there. -/
theorem export_empties_log : ∃ writer directory' bundle,
    Session .empty 3 2 [one, one, one] writer directory' ∧
      logged directory' 0 = [one.record] ∧
      «export» plainSerde inside 0 [.normal (logPath 0)] [] writer directory' =
        .ok ([.normal (logPath 0)], bundle) ∧
      ¬ Tells plainSerde bundle (stored directory' 2) ∧
      ¬ Exports plainSerde inside 0 [.normal (logPath 0)] writer directory' := by
  obtain ⟨writer, directory', session, count, newest⟩ := three_kept
  obtain ⟨keeps, _, _, _⟩ := session_keeps (left_holds (.fresh fun _ => rfl)) session
  have accepted : overwritesLog inside 0 [.normal (logPath 0)] writer = false := by
    rw [overwritesLog, List.any_eq_false]
    intro index _ same
    cases decide_eq_true_iff.mp same
  obtain ⟨bundle, exported, _, tells⟩ := export_tells plainSerde keeps.untorn keeps.decodes []
    accepted rfl fun _ member => by cases member
  have begun : 0 < writer.fileCount.toNat := by
    rw [count]
    decide
  have lost := createFile_length directory' [] begun
  have lacks : ¬ Tells plainSerde bundle (stored directory' writer.fileCount.toNat) := by
    intro told
    have lengths := congrArg List.length (tells.1.symm.trans told.1)
    simp only [List.length_cons, List.length_map] at lengths
    rw [newest] at lost
    have none_ : (completeLines newline []).length = 0 := rfl
    have one_ : [one.record].length = 1 := rfl
    have same : bundlePath inside 0 [.normal (logPath 0)] = [.normal (logPath 0)] := rfl
    have leads : inside.leads [.normal (logPath 0)] = some (logPath 0) := rfl
    rw [same, leads] at lengths
    omega
  have exports : ¬ Exports plainSerde inside 0 [.normal (logPath 0)] writer directory' :=
    fun exports => lacks (exports [] _ _ exported (List.nil_prefix ..))
  rw [count] at lacks
  exact ⟨writer, directory', bundle, session, newest, exported, lacks, exports⟩

end

end QuestVdWired.Host.Diagnostics
