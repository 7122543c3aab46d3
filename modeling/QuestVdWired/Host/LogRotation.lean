import QuestVdWired.Host.Diagnostics

/-!
What the rotated files hold, read from the oldest to the newest: in runs without failures the last
of all records ever written, each whole.
-/

namespace QuestVdWired.Host.Diagnostics
open Wire Text

/-! ### Names -/

theorem stripPrefix_append (text pattern : List Char) :
    stripPrefix (pattern ++ text) pattern = some text := by
  rw [stripPrefix, if_pos (List.isPrefixOf_iff_prefix.mpr (List.prefix_append ..)), List.drop_left]

theorem stripSuffix_append (text pattern : List Char) :
    stripSuffix (text ++ pattern) pattern = some text := by
  rw [stripSuffix, List.reverse_append, stripPrefix_append, Option.map_some, List.reverse_reverse]

theorem parseUsize_toDigits {index : Nat} (small : index < UInt64.size) :
    parseUsize (Nat.toDigits 10 index) = some index := by
  have digits : ∀ c ∈ Nat.toDigits 10 index, c.isDigit := fun c member =>
    Nat.isDigit_of_mem_toDigits (by decide) (by decide) member
  have unsigned : stripPrefix (Nat.toDigits 10 index) ['+'] = none := by
    rw [stripPrefix, if_neg]
    intro signed
    obtain ⟨rest, whole⟩ := List.isPrefixOf_iff_prefix.mp signed
    have plus := digits '+' (by rw [← whole]; exact List.mem_cons_self ..)
    exact absurd plus (by decide)
  simp only [parseUsize, unsigned, Option.getD_none, Nat.ofDigitChars_ten_toDigits]
  exact if_pos ⟨Nat.toDigits_ne_nil, List.all_eq_true.mpr digits, small⟩

/-- The pruning knows the names of the logs. -/
theorem logIndex_logPath {index : Nat} (small : index < UInt64.size) :
    logIndex (logPath index) = some index := by
  have value : stripPrefix (logPath index) "gnirehtet-vd.".toList =
      some (Nat.toDigits 10 index ++ ".jsonl".toList) := stripPrefix_append ..
  have digits : stripSuffix (Nat.toDigits 10 index ++ ".jsonl".toList) ".jsonl".toList =
      some (Nat.toDigits 10 index) := stripSuffix_append ..
  simp only [logIndex, value, Option.bind_some, digits, parseUsize_toDigits small]

theorem logPath_inj {i j : Nat} (same : logPath i = logPath j) : i = j := by
  have digits := List.append_cancel_right (List.append_cancel_left same)
  rw [← Nat.ofDigitChars_ten_toDigits (n := i), digits, Nat.ofDigitChars_ten_toDigits]

@[simp] theorem logPath_eq {i j : Nat} : logPath i = logPath j ↔ i = j :=
  ⟨logPath_inj, congrArg logPath⟩

/-! ### Reading -/

/-- The complete lines of a log. -/
def logged (directory : Directory) (index : Nat) : List (List UInt8) :=
  completeLines newline ((directory.read (logPath index)).getD [])

/-- The complete lines of the first `n` logs, from the oldest down. -/
def stored (directory : Directory) (n : Nat) : List (List UInt8) := readDown (logged directory) n

/-- Every log of `directory'` is one of `directory`, and the numbers from `n` on are as before. -/
def ComesFrom (directory : Directory) (n : Nat) (directory' : Directory) : Prop :=
  ∀ index content, directory'.read (logPath index) = some content →
    ∃ index', directory.read (logPath index') = some content ∧ (index < n ∨ index' = index)

section
variable {directory directory' directory'' : Directory} {faults : Faults} {n m index : Nat}
  {result : Except IoError Unit}

theorem ComesFrom.refl : ComesFrom directory n directory := fun index _ read =>
  ⟨index, read, .inr rfl⟩

theorem ComesFrom.trans {k : Nat} (h : ComesFrom directory n directory')
    (h' : ComesFrom directory' m directory'') (le : n ≤ k) (le' : m ≤ k) :
    ComesFrom directory k directory'' := by
  intro index content read
  obtain ⟨index', read', below'⟩ := h' index content read
  obtain ⟨index'', read'', below''⟩ := h index' content read'
  refine ⟨index'', read'', ?_⟩
  rcases below' with below' | rfl
  · exact .inl (by omega)
  · exact below''.imp_left (by omega)

theorem ComesFrom.mono (h : ComesFrom directory n directory') (le : n ≤ m) :
    ComesFrom directory m directory' := ComesFrom.refl.trans h (Nat.zero_le _) le

theorem logged_of_none (missing : directory.read (logPath index) = none) :
    logged directory index = [] := by
  rw [logged, missing]
  rfl

theorem logged_congr (same : directory'.read (logPath m) = directory.read (logPath index)) :
    logged directory' m = logged directory index := by
  rw [logged, logged, same]

theorem read_rename : (directory.move (logPath index) (logPath (index + 1))).read (logPath m) =
    if m = index + 1 then directory.read (logPath index)
    else if m = index then none else directory.read (logPath m) := by
  rw [FileSystem.read_move]
  simp only [logPath_eq]

/-- One step of the loop, where the higher number is free. -/
theorem move_stored (free : directory.read (logPath (index + 1)) = none) (small : index + 1 < n) :
    stored (directory.move (logPath index) (logPath (index + 1))) n = stored directory n := by
  refine readDown_move (logged_of_none free) (logged_congr ?_) (logged_of_none ?_)
    (fun m below above => logged_congr ?_) small
  · rw [read_rename, if_pos rfl]
  · rw [read_rename, if_neg (by omega), if_pos rfl]
  · rw [read_rename, if_neg above, if_neg below]

theorem move_comesFrom : ComesFrom directory (index + 2)
    (directory.move (logPath index) (logPath (index + 1))) := by
  intro m content read
  rw [read_rename] at read
  split at read
  · exact ⟨index, read, .inl (by omega)⟩
  · split at read
    · cases read
    · exact ⟨m, read, .inr rfl⟩

/-- What the loop of a rotation makes of a directory in which number `n` is free. -/
structure MovedUp (faults : Faults) (n : Nat) (directory : Directory)
    (result : Except IoError Unit) (directory' : Directory) : Prop where
  stored_eq : ∀ m, n < m → stored directory' m = stored directory m
  comesFrom : ComesFrom directory (n + 1) directory'
  free : result = .ok () → directory'.read (logPath 0) = none
  failed : ∀ {error}, result = .error error → ∃ index < n, faults.rename index = true

theorem moveUp_spec (free : directory.read (logPath n) = none)
    (moved : RotatingWriter.moveUp faults n directory = (result, directory')) :
    MovedUp faults n directory result directory' := by
  induction n generalizing directory with
  | zero =>
      cases moved
      exact ⟨fun _ _ => rfl, .refl, fun _ => free, fun h => by cases h⟩
  | succ index ih =>
      rw [RotatingWriter.moveUp, rename] at moved
      by_cases fails : faults.rename index = true
      · rw [if_pos fails] at moved
        cases moved
        exact ⟨fun _ _ => rfl, .refl, fun h => (by cases h), fun _ => ⟨index, by omega, fails⟩⟩
      · rw [if_neg fails] at moved
        by_cases missing : directory.read (logPath index) = none
        · rw [if_pos missing] at moved
          have later := ih missing moved
          refine ⟨fun m less => later.stored_eq m (by omega), ?_, later.free, fun h => ?_⟩
          · exact later.comesFrom.mono (by omega)
          · obtain ⟨i, less, failed⟩ := later.failed h
            exact ⟨i, by omega, failed⟩
        · rw [if_neg missing] at moved
          have left : (directory.move (logPath index) (logPath (index + 1))).read (logPath index) =
              none := by
            rw [read_rename, if_neg (by omega), if_pos rfl]
          have later := ih left moved
          refine ⟨fun m less => ?_, ?_, later.free, fun h => ?_⟩
          · rw [later.stored_eq m (by omega), move_stored free less]
          · exact move_comesFrom.trans later.comesFrom (by omega) (by omega)
          · obtain ⟨i, less, failed⟩ := later.failed h
            exact ⟨i, by omega, failed⟩

/-- What a rotation makes of a directory before it opens the new file. A failure behind the removal
of the oldest file leaves the directory without it. -/
structure RoomMade (faults : Faults) (n : Nat) (directory : Directory)
    (result : Except IoError Unit) (directory' : Directory) : Prop where
  comesFrom : ComesFrom directory n directory'
  free : result = .ok () → directory'.read (logPath 0) = none
  kept : result = .ok () → logged directory (n - 1) ++ stored directory' n = stored directory n
  removes : result = .ok () → faults.remove = false
  failed : ∀ {error}, result = .error error → stored directory' n = stored directory n ∨
    logged directory (n - 1) ++ stored directory' n = stored directory n ∧
      faults.remove = false ∧ ∃ index < n - 1, faults.rename index = true

theorem unlink_stored (pos : 0 < n) : logged directory (n - 1) ++
    stored (directory.unlink (· = logPath (n - 1))) n = stored directory n := by
  obtain ⟨k, rfl⟩ : ∃ k, n = k + 1 := ⟨n - 1, by omega⟩
  rw [Nat.add_sub_cancel]
  refine readDown_drop (logged_of_none ?_) fun index other => logged_congr ?_
  · rw [FileSystem.read_unlink, if_pos (by simp)]
  · rw [FileSystem.read_unlink, if_neg (by simpa using other)]

theorem unlink_comesFrom {gone : Name → Bool} : ComesFrom directory 0 (directory.unlink gone) := by
  intro index content read
  rw [FileSystem.read_unlink] at read
  split at read
  · cases read
  · exact ⟨index, read, .inr rfl⟩

theorem room_of_missing (pos : 0 < n) (missing : directory.read (logPath (n - 1)) = none)
    (removes : faults.remove = false)
    (moved : RotatingWriter.moveUp faults (n - 1) directory = (result, directory')) :
    RoomMade faults n directory result directory' := by
  have up := moveUp_spec missing moved
  have same := up.stored_eq n (by omega)
  refine ⟨?_, up.free, fun _ => ?_, fun _ => removes, fun _ => .inl same⟩
  · exact up.comesFrom.mono (by omega)
  · rw [logged_of_none missing, List.nil_append, same]

theorem room_of_removed (pos : 0 < n) (removes : faults.remove = false)
    (moved : RotatingWriter.moveUp faults (n - 1)
      (directory.unlink (· = logPath (n - 1))) = (result, directory')) :
    RoomMade faults n directory result directory' := by
  have up := moveUp_spec (by rw [FileSystem.read_unlink, if_pos (by simp)]) moved
  have kept : logged directory (n - 1) ++ stored directory' n = stored directory n := by
    rw [up.stored_eq n (by omega), unlink_stored pos]
  exact ⟨unlink_comesFrom.trans up.comesFrom (Nat.zero_le _) (by omega), up.free, fun _ => kept,
    fun _ => removes, fun h => .inr ⟨kept, removes, up.failed h⟩⟩

theorem last_eq {fileCount : UInt64} (few : ¬1 < fileCount) : fileCount.toNat - 1 = 0 := by
  rw [UInt64.lt_iff_toNat_lt] at few
  exact Nat.sub_eq_zero_of_le (Nat.not_lt.mp few)

/-- With one log there is none to move. -/
theorem makeRoom_eq {fileCount : UInt64} : RotatingWriter.makeRoom faults fileCount directory =
    if faults.remove then (.error .failed, directory)
    else if directory.read (logPath (fileCount.toNat - 1)) = none then
      RotatingWriter.moveUp faults (fileCount.toNat - 1) directory
    else
      RotatingWriter.moveUp faults (fileCount.toNat - 1)
        (directory.unlink (· = logPath (fileCount.toNat - 1))) := by
  unfold RotatingWriter.makeRoom removeFile
  by_cases removes : faults.remove = true
  · simp only [if_pos removes, ite_self]
  · by_cases missing : directory.read (logPath (fileCount.toNat - 1)) = none
    · by_cases many : 1 < fileCount
      · simp only [if_neg removes, if_pos missing, if_pos many]
      · rw [last_eq many] at missing
        simp only [if_neg removes, last_eq many, if_pos missing, if_neg many,
          RotatingWriter.moveUp]
    · by_cases many : 1 < fileCount
      · simp only [if_neg removes, if_neg missing, if_pos many]
      · rw [last_eq many] at missing
        simp only [if_neg removes, last_eq many, if_neg missing, if_neg many,
          RotatingWriter.moveUp]

theorem makeRoom_spec {fileCount : UInt64} (pos : 0 < fileCount.toNat)
    (made : RotatingWriter.makeRoom faults fileCount directory = (result, directory')) :
    RoomMade faults fileCount.toNat directory result directory' := by
  have failing : RoomMade faults fileCount.toNat directory (.error .failed) directory :=
    ⟨.refl, fun h => (by cases h), fun h => (by cases h), fun h => (by cases h), fun _ => .inl rfl⟩
  rw [makeRoom_eq] at made
  split at made
  · cases made
    exact failing
  · rename_i removes
    split at made
    · rename_i missing
      exact room_of_missing pos missing (Bool.eq_false_iff.mpr removes) made
    · exact room_of_removed pos (Bool.eq_false_iff.mpr removes) made

theorem create_stored : stored (directory.create (logPath 0)).2 n = stored directory n := by
  refine readDown_congr fun index _ => ?_
  by_cases zero : index = 0
  · subst zero
    rw [logged, FileSystem.read_create_self, Option.getD_some, logged]
  · exact logged_congr (FileSystem.read_create_other (by simpa using zero))

theorem create_contents {path : Name} (missing : directory.read path = none) :
    (directory.create path).2.contents (directory.create path).1 = [] := by
  have made : (directory.create path).2.read path = some ((directory.read path).getD []) :=
    FileSystem.read_create_self
  rw [missing, FileSystem.read, FileSystem.create_leads] at made
  exact Option.some.inj made

variable {writer writer' : RotatingWriter}

/-- A file that the writer has open is the newest log. -/
def Current (writer : RotatingWriter) (directory : Directory) : Prop :=
  ∀ file, writer.file = some file → directory.files (logPath 0) = some file

/-- A rotation that completes has taken the oldest log away and begun a new one. -/
structure Rotated (writer : RotatingWriter) (directory : Directory) (writer' : RotatingWriter)
    (directory' : Directory) : Prop where
  current : ∃ file, writer' = { writer with file := some file, bytes := 0 } ∧
    directory'.files (logPath 0) = some file ∧ directory'.contents file = []
  kept : logged directory (writer.fileCount.toNat - 1) ++
    stored directory' writer.fileCount.toNat = stored directory writer.fileCount.toNat
  comesFrom : ∀ index content, directory'.read (logPath index) = some content →
    index = 0 ∧ content = [] ∨ ∃ index', directory.read (logPath index') = some content ∧
      (index < writer.fileCount.toNat ∨ index' = index)

/-- One that fails leaves the writer closed, and the oldest log is gone if it failed behind its
removal. -/
structure RotationFailed (faults : Faults) (writer : RotatingWriter) (directory : Directory)
    (writer' : RotatingWriter) (directory' : Directory) : Prop where
  closed : writer' = { writer with file := none }
  comesFrom : ComesFrom directory writer.fileCount.toNat directory'
  kept : stored directory' writer.fileCount.toNat = stored directory writer.fileCount.toNat ∨
    logged directory (writer.fileCount.toNat - 1) ++ stored directory' writer.fileCount.toNat =
        stored directory writer.fileCount.toNat ∧
      faults.remove = false ∧ ¬(writer.file.isSome ∧ faults.flush) ∧
      ((∃ index < writer.fileCount.toNat - 1, faults.rename index = true) ∨ faults.reopen = true)

theorem rotate_spec (pos : 0 < writer.fileCount.toNat)
    (rotated : writer.rotate faults directory = (result, writer', directory')) :
    (result = .ok () ∧ Rotated writer directory writer' directory') ∨
      (∃ error, result = .error error) ∧
        RotationFailed faults writer directory writer' directory' := by
  rw [RotatingWriter.rotate] at rotated
  by_cases flush : writer.file.isSome ∧ faults.flush
  · rw [if_pos flush] at rotated
    cases rotated
    exact .inr ⟨⟨_, rfl⟩, rfl, .refl, .inl rfl⟩
  · rw [if_neg flush] at rotated
    cases made : RotatingWriter.makeRoom faults writer.fileCount directory with
    | mk result₁ directory₁ =>
        have room := makeRoom_spec pos made
        rw [made] at rotated
        cases result₁ with
        | error error =>
            cases rotated
            refine .inr ⟨⟨error, rfl⟩, rfl, room.comesFrom, ?_⟩
            rcases room.failed rfl with same | ⟨kept, removes, renames⟩
            · exact .inl same
            · exact .inr ⟨kept, removes, flush, .inl renames⟩
        | ok =>
            by_cases reopen : faults.reopen = true
            · simp only [openAppend, if_pos reopen] at rotated
              cases rotated
              refine .inr ⟨⟨_, rfl⟩, rfl, room.comesFrom, ?_⟩
              exact .inr ⟨room.kept rfl, room.removes rfl, flush, .inr reopen⟩
            · simp only [openAppend, if_neg reopen] at rotated
              cases rotated
              have free := room.free rfl
              refine .inl ⟨rfl, ⟨_, rfl, FileSystem.create_leads, create_contents free⟩, ?_, ?_⟩
              · rw [create_stored, room.kept rfl]
              · intro index content read
                by_cases zero : index = 0
                · subst zero
                  rw [FileSystem.read_create_self, free] at read
                  cases read
                  exact .inl ⟨rfl, rfl⟩
                · rw [FileSystem.read_create_other (by simpa using zero)] at read
                  exact .inr (room.comesFrom index content read)

/-! ### Writing -/

theorem append_ok {record : List UInt8} {rotated b : Bool}
    (appended : writer.append faults record rotated directory = (.ok b, writer', directory')) :
    ∃ file, writer.file = some file ∧ faults.write = none ∧ faults.flushRecord = false ∧
      record.length ≤ MAX_LENGTH - (directory.contents file).length ∧
      writer' = { writer with bytes := saturatingAdd writer.bytes record.length } ∧
      directory' = directory.modify file (· ++ record) := by
  rw [RotatingWriter.append] at appended
  split at appended
  · cases appended
  · rename_i file opened
    by_cases fits : faults.write = none ∧
        record.length ≤ MAX_LENGTH - (directory.contents file).length
    · have whole : record.take (min (MAX_LENGTH - (directory.contents file).length)
          (faults.write.getD record.length)) = record := by
        rw [fits.1, Option.getD_none, Nat.min_eq_right fits.2, List.take_length]
      simp only [writeAll, if_pos fits, whole] at appended
      split at appended
      · cases appended
      · rename_i flushes
        cases appended
        exact ⟨file, opened, fits.1, Bool.eq_false_iff.mpr flushes, fits.2, rfl, rfl⟩
    · simp only [writeAll, if_neg fits] at appended
      cases appended

/-- What fails leaves a part of the record, or all of it, or nothing. -/
theorem append_error {record : List UInt8} {rotated : Bool} {error : IoError}
    (appended : writer.append faults record rotated directory =
      (.error error, writer', directory')) :
    writer' = writer ∧ (directory' = directory ∨
      ∃ file part, writer.file = some file ∧ directory' = directory.modify file (· ++ part)) := by
  rw [RotatingWriter.append] at appended
  split at appended
  · cases appended
    exact ⟨rfl, .inl rfl⟩
  · rename_i file opened
    by_cases fits : faults.write = none ∧
        record.length ≤ MAX_LENGTH - (directory.contents file).length
    · simp only [writeAll, if_pos fits] at appended
      split at appended
      · cases appended
        exact ⟨rfl, .inr ⟨file, _, opened, rfl⟩⟩
      · cases appended
    · simp only [writeAll, if_neg fits] at appended
      cases appended
      exact ⟨rfl, .inr ⟨file, _, opened, rfl⟩⟩

/-- The bounds stay those the writer was opened with. -/
theorem writeRecord_bounds {record : List UInt8} {result : Except IoError Bool}
    (pos : 0 < writer.fileCount.toNat)
    (wrote : writer.writeRecord faults record directory = (result, writer', directory')) :
    writer'.maxBytes = writer.maxBytes ∧ writer'.fileCount = writer.fileCount := by
  have appends {writer : RotatingWriter} {directory : Directory} {rotated : Bool}
      (appended : writer.append faults record rotated directory = (result, writer', directory')) :
      writer'.maxBytes = writer.maxBytes ∧ writer'.fileCount = writer.fileCount := by
    cases result with
    | error error =>
        obtain ⟨rfl, _⟩ := append_error appended
        exact ⟨rfl, rfl⟩
    | ok b =>
        obtain ⟨_, _, _, _, _, rfl, _⟩ := append_ok appended
        exact ⟨rfl, rfl⟩
  rw [RotatingWriter.writeRecord] at wrote
  split at wrote
  · split at wrote
    · rename_i rotated
      cases wrote
      obtain ⟨failed, _⟩ | ⟨_, rotation⟩ := rotate_spec pos rotated
      · cases failed
      · rw [rotation.closed]
        exact ⟨rfl, rfl⟩
    · rename_i rotated
      obtain ⟨_, rotation⟩ | ⟨⟨_, failed⟩, _⟩ := rotate_spec pos rotated
      · obtain ⟨file, rfl, _⟩ := rotation.current
        have kept := appends wrote
        exact kept
      · cases failed
  · exact appends wrote

/-- What is appended to the newest log adds to its lines. -/
theorem modify_stored {file : Nat} {part : List UInt8} (pos : 0 < n)
    (leads : directory.files (logPath 0) = some file) :
    stored (directory.modify file (· ++ part)) n = stored directory n ++
      completeFrom newline (tornPart newline (directory.contents file)) part := by
  have content : directory.read (logPath 0) = some (directory.contents file) := by
    rw [FileSystem.read, leads, Option.map_some]
  refine readDown_append ?_ (fun index other => logged_congr ?_) pos
  · rw [logged, FileSystem.read_modify_self leads, logged, content, Option.getD_some,
      Option.getD_some, completeLines_append]
  · exact FileSystem.read_modify_other leads (by simpa using other)

end

end QuestVdWired.Host.Diagnostics
