import QuestVdWired.Host.SharedLog

/-!
What two writers leave of each other's records. The files of each process come in the order in
which it wrote them, and each process fills a file up to its bound as if it were alone.
-/

namespace QuestVdWired.Host.Diagnostics
open Wire

/-! ### Files that change their names -/

/-- The logs of `directory'` are logs of `directory`, in the same order, and the newest has kept its
name. -/
structure Rearranged (directory directory' : Directory) : Prop where
  contents_eq : directory'.contents = directory.contents
  fresh_eq : directory'.fresh = directory.fresh
  newest : ∀ {file}, directory'.files (logPath 0) = some file →
    directory.files (logPath 0) = some file
  order : ∀ {i j file file'}, i < j → directory'.files (logPath i) = some file →
    directory'.files (logPath j) = some file' →
    ∃ i' j', i' < j' ∧ directory.files (logPath i') = some file ∧
      directory.files (logPath j') = some file'
  found : ∀ {i file}, directory'.files (logPath i) = some file →
    ∃ i', directory.files (logPath i') = some file

section
variable {directory directory' : Directory} {fails : Bool} {index : Nat}

theorem Rearranged.refl : Rearranged directory directory :=
  ⟨rfl, rfl, id, fun {i j _ _} less first second => ⟨i, j, less, first, second⟩,
    fun {i _} leads => ⟨i, leads⟩⟩

theorem unlink_rearranged {gone : Name → Bool} : Rearranged directory (directory.unlink gone) := by
  have kept {name : Name} {file : Nat} (leads : (directory.unlink gone).files name = some file) :
      directory.files name = some file := by
    rw [FileSystem.unlink] at leads
    dsimp only at leads
    split at leads
    · cases leads
    · exact leads
  exact ⟨rfl, rfl, kept, fun {i j _ _} less first second => ⟨i, j, less, kept first, kept second⟩,
    fun {i _} leads => ⟨i, kept leads⟩⟩

theorem move_files {m : Nat} {file : Nat}
    (leads : (directory.move (logPath index) (logPath (index + 1))).files (logPath m) =
      some file) :
    m = index + 1 ∧ directory.files (logPath index) = some file ∨
      m ≠ index + 1 ∧ m ≠ index ∧ directory.files (logPath m) = some file := by
  rw [FileSystem.move] at leads
  dsimp only at leads
  split at leads
  · rename_i up
    exact .inl ⟨logPath_inj up, leads⟩
  · rename_i up
    split at leads
    · cases leads
    · rename_i away
      exact .inr ⟨fun same => up (congrArg logPath same), fun same => away (congrArg logPath same),
        leads⟩

theorem move_rearranged :
    Rearranged directory (directory.move (logPath index) (logPath (index + 1))) := by
  refine ⟨rfl, rfl, fun leads => ?_, fun {i j file file'} less first second => ?_,
    fun {i file} leads => ?_⟩
  · obtain ⟨zero, _⟩ | ⟨_, _, kept⟩ := move_files leads
    · omega
    · exact kept
  · obtain ⟨rfl, was⟩ | ⟨_, _, was⟩ := move_files first
    · obtain ⟨rfl, _⟩ | ⟨_, _, was'⟩ := move_files second
      · omega
      · exact ⟨index, j, by omega, was, was'⟩
    · obtain ⟨rfl, was'⟩ | ⟨_, _, was'⟩ := move_files second
      · exact ⟨i, index, by omega, was, was'⟩
      · exact ⟨i, j, less, was, was'⟩
  · obtain ⟨_, kept⟩ | ⟨_, _, kept⟩ := move_files leads
    · exact ⟨index, kept⟩
    · exact ⟨i, kept⟩

/-- A file is removed, or there is none. -/
theorem removeFile_rearranged {name : Name}
    (removed : removeFile fails name directory = .ok directory' ∨
      removeFile fails name directory = .error .notFound ∧ directory' = directory) :
    Rearranged directory directory' ∧ directory'.files name = none := by
  rw [removeFile] at removed
  split at removed
  · simp at removed
  · split at removed
    · rename_i missing
      obtain removed | ⟨_, rfl⟩ := removed
      · cases removed
      · exact ⟨.refl, by simpa [FileSystem.read] using missing⟩
    · obtain removed | ⟨removed, _⟩ := removed
      · cases removed
        exact ⟨unlink_rearranged, by simp [FileSystem.unlink]⟩
      · cases removed

theorem rename_rearranged
    (renamed : rename fails (logPath index) (logPath (index + 1)) directory = .ok directory' ∨
      rename fails (logPath index) (logPath (index + 1)) directory = .error .notFound ∧
        directory' = directory) :
    Rearranged directory directory' ∧ directory'.files (logPath index) = none := by
  rw [rename] at renamed
  split at renamed
  · simp at renamed
  · split at renamed
    · rename_i missing
      obtain renamed | ⟨_, rfl⟩ := renamed
      · cases renamed
      · exact ⟨.refl, by simpa [FileSystem.read] using missing⟩
    · obtain renamed | ⟨renamed, _⟩ := renamed
      · cases renamed
        exact ⟨move_rearranged, by simp [FileSystem.move]⟩
      · cases renamed

/-- The newest log is there, or it is made. -/
structure Made (directory : Directory) (file : Nat) (directory' : Directory) : Prop where
  file_eq : file = directory.fresh
  fresh_eq : directory'.fresh = directory.fresh + 1
  contents_eq : directory'.contents = Function.update directory.contents directory.fresh []
  leads : ∀ {i file'}, directory'.files (logPath i) = some file' →
    i = 0 ∧ file' = file ∨ i ≠ 0 ∧ directory.files (logPath i) = some file'

theorem create_cases (directory : Directory) :
    (directory.files (logPath 0) = some (directory.create (logPath 0)).1 ∧
        (directory.create (logPath 0)).2 = directory) ∨
      Made directory (directory.create (logPath 0)).1 (directory.create (logPath 0)).2 := by
  rw [FileSystem.create]
  cases there : directory.files (logPath 0) with
  | some file => exact .inl ⟨rfl, rfl⟩
  | none =>
      refine .inr ⟨rfl, rfl, rfl, fun {i file'} leads => ?_⟩
      dsimp only at leads ⊢
      by_cases zero : i = 0
      · subst zero
        rw [Function.update_self] at leads
        exact .inl ⟨rfl, (Option.some.inj leads).symm⟩
      · rw [Function.update_of_ne (by simpa using zero)] at leads
        exact .inr ⟨zero, leads⟩

end

/-! ### What the processes wrote -/

/-- The bytes of a process among the records of a file. -/
def amount (process : Process) (entries : List Entry) : Nat :=
  ((entries.filter (·.process = process)).flatMap (·.line.record)).length

/-- The length of the longest record. -/
def longest (lines : List Line) : Nat := (lines.map fun line => line.record.length).foldr max 0

/-- The bound of one process, which a single record may be longer than. -/
def limit (maxBytes : UInt64) (lines : List Line) : Nat := max maxBytes.toNat (longest lines)

section
variable {process process' : Process} {entries : List Entry} {entry : Entry} {lines : List Line}
  {line : Line} {maxBytes : UInt64}

theorem amount_append_self (same : entry.process = process) :
    amount process (entries ++ [entry]) = amount process entries + entry.line.record.length := by
  simp [amount, List.filter_append, same]

theorem amount_append_other (other : entry.process ≠ process) :
    amount process (entries ++ [entry]) = amount process entries := by
  simp [amount, List.filter_append, other]

theorem amount_eq_zero (none_ : ∀ entry ∈ entries, entry.process ≠ process) :
    amount process entries = 0 := by
  rw [amount, List.filter_eq_nil_iff.mpr (by simpa using none_)]
  rfl

/-- Every record is of one of the two. -/
theorem amount_add :
    amount .daemon entries + amount .command entries =
      (entries.flatMap (·.line.record)).length := by
  induction entries with
  | nil => rfl
  | cons entry entries ih =>
      have first : amount .daemon [entry] + amount .command [entry] = entry.line.record.length := by
        cases is : entry.process <;> simp [amount, is]
      have apart (process : Process) : amount process (entry :: entries) =
          amount process [entry] + amount process entries := by
        by_cases same : entry.process = process <;> simp [amount, same]
      rw [apart, apart, List.flatMap_cons, List.length_append, ← ih, ← first]
      omega

theorem longest_append : longest (lines ++ [line]) = max (longest lines) line.record.length := by
  induction lines with
  | nil => simp [longest]
  | cons head lines ih =>
      have first (lines : List Line) :
          longest (head :: lines) = max head.record.length (longest lines) := rfl
      rw [List.cons_append, first, ih, first, Nat.max_assoc]

theorem limit_le_append : limit maxBytes lines ≤ limit maxBytes (lines ++ [line]) := by
  rw [limit, limit, longest_append]
  omega

theorem record_le_limit : line.record.length ≤ limit maxBytes (lines ++ [line]) := by
  rw [limit, longest_append]
  omega

end

/-! ### The invariants -/

section
variable (first : Directory) (maxBytes : UInt64)

/-- A file that was there at the beginning and was not the newest. No process opens it. -/
def Elder (file : Nat) : Prop := file < first.fresh ∧ first.files (logPath 0) ≠ some file

/-- What a file held at the beginning. -/
def before (file : Nat) : List UInt8 := if file < first.fresh then first.contents file else []

/-- A file that is made later is newer, and newer logs have lower numbers. -/
structure Ordered (directory : Directory) (written : Process → List Line)
    (entries : Nat → List Entry) : Prop where
  fresh_le : first.fresh ≤ directory.fresh
  newest : ∀ {file}, directory.files (logPath 0) = some file →
    ¬Elder first file ∧ ∀ file', entries file' ≠ [] → file' ≤ file
  older : ∀ {i j file file'}, i < j → directory.files (logPath i) = some file →
    directory.files (logPath j) = some file' → Elder first file' ∨ file' < file
  used : ∀ {file}, entries file ≠ [] → ¬Elder first file ∧ file < directory.fresh
  numbered : ∀ {file entry}, entry ∈ entries file →
    (written entry.process)[entry.number]? = some entry.line
  across : ∀ {file file' entry entry'}, file' < file → entry' ∈ entries file' →
    entry ∈ entries file → entry'.process = entry.process → entry'.number < entry.number
  within : ∀ file, (entries file).Pairwise fun entry entry' =>
    entry.process = entry'.process → entry.number < entry'.number
  whole : ∀ {file}, file < directory.fresh →
    directory.contents file = before first file ++ (entries file).flatMap (·.line.record)
  short : ∀ {file}, file < directory.fresh → ¬Elder first file →
    (directory.contents file).length ≤ MAX_LENGTH
  original : ∀ {i file}, directory.files (logPath i) = some file → file < first.fresh →
    ∃ i', first.files (logPath i') = some file
  limited : ∀ {process file}, (∃ entry ∈ entries file, entry.process = process) →
    (before first file).length + amount process (entries file) ≤ limit maxBytes (written process)

/-- Where a process stands. The file it has open is not older than any it wrote to, and its count
is not below what it wrote there. -/
structure Stands (directory : Directory) (entries : Nat → List Entry) (process : Process)
    (writer : RotatingWriter) (place : Place) : Prop where
  bound : writer.maxBytes = maxBytes
  known : ∀ {file}, writer.file = some file → ¬Elder first file ∧ file < directory.fresh
  older : ∀ {file file'}, writer.file = some file → directory.files (logPath 0) = some file' →
    file ≤ file'
  latest : ∀ {file file' entry}, writer.file = some file → entry ∈ entries file' →
    entry.process = process → file' ≤ file
  counted : ∀ {file}, writer.file = some file →
    (before first file).length + amount process (entries file) ≤ writer.bytes.toNat
  room : ∀ {line}, place = .appending line → ¬writer.isFull line.record
  unused : ∀ {line file}, place = .moving 0 line → directory.files (logPath 0) = some file →
    first.fresh ≤ file ∧ ∀ entry ∈ entries file, entry.process ≠ process

end

section
variable {first directory directory' : Directory} {maxBytes : UInt64}
  {written : Process → List Line} {entries : Nat → List Entry} {process process' : Process}
  {writer : RotatingWriter} {place : Place} {file : Nat} {line : Line}

theorem Ordered.rearranged (ordered : Ordered first maxBytes directory written entries)
    (change : Rearranged directory directory') :
    Ordered first maxBytes directory' written entries where
  fresh_le := change.fresh_eq ▸ ordered.fresh_le
  newest leads := ordered.newest (change.newest leads)
  older less leads leads' := by
    obtain ⟨i, j, less, was, was'⟩ := change.order less leads leads'
    exact ordered.older less was was'
  used some_ := change.fresh_eq ▸ ordered.used some_
  numbered := ordered.numbered
  across := ordered.across
  within := ordered.within
  whole below := by
    rw [change.contents_eq]
    exact ordered.whole (change.fresh_eq ▸ below)
  short below young := by
    rw [change.contents_eq]
    exact ordered.short (change.fresh_eq ▸ below) young
  original leads old := by
    obtain ⟨i, was⟩ := change.found leads
    exact ordered.original was old
  limited := ordered.limited

theorem Stands.rearranged (stands : Stands first maxBytes directory entries process writer place)
    (change : Rearranged directory directory') :
    Stands first maxBytes directory' entries process writer place where
  bound := stands.bound
  known isOpen := change.fresh_eq ▸ stands.known isOpen
  older isOpen leads := stands.older isOpen (change.newest leads)
  latest := stands.latest
  counted := stands.counted
  room := stands.room
  unused stays leads := stands.unused stays (change.newest leads)

theorem before_of_le (made : first.fresh ≤ file) : before first file = [] :=
  if_neg (Nat.not_lt.mpr made)

theorem not_elder_of_le (made : first.fresh ≤ file) : ¬Elder first file := fun elder =>
  Nat.not_lt.mpr made elder.1

theorem Ordered.entries_of_le (ordered : Ordered first maxBytes directory written entries)
    (later : directory.fresh ≤ file) : entries file = [] := by
  by_contra some_
  exact Nat.not_lt.mpr later (ordered.used some_).2

theorem Ordered.made (ordered : Ordered first maxBytes directory written entries)
    (made : Made directory file directory') :
    Ordered first maxBytes directory' written entries where
  fresh_le := by
    rw [made.fresh_eq]
    exact Nat.le_succ_of_le ordered.fresh_le
  newest {file'} leads := by
    obtain ⟨_, rfl⟩ | ⟨other, _⟩ := made.leads leads
    · rw [made.file_eq]
      exact ⟨not_elder_of_le ordered.fresh_le, fun file' some_ =>
        Nat.le_of_lt (ordered.used some_).2⟩
    · exact absurd rfl other
  older {i j file₁ file₂} less leads leads' := by
    obtain ⟨rfl, _⟩ | ⟨_, was'⟩ := made.leads leads'
    · omega
    · obtain ⟨_, rfl⟩ | ⟨_, was⟩ := made.leads leads
      · rw [made.file_eq]
        exact .inr (directory.below was')
      · exact ordered.older less was was'
  used some_ := by
    rw [made.fresh_eq]
    exact ⟨(ordered.used some_).1, Nat.lt_succ_of_lt (ordered.used some_).2⟩
  numbered := ordered.numbered
  across := ordered.across
  within := ordered.within
  whole {file'} below := by
    rw [made.contents_eq]
    rw [made.fresh_eq] at below
    by_cases new : file' = directory.fresh
    · rw [new, Function.update_self, before_of_le ordered.fresh_le,
        ordered.entries_of_le (Nat.le_refl _)]
      rfl
    · rw [Function.update_of_ne new]
      exact ordered.whole (by omega)
  short {file'} below young := by
    rw [made.contents_eq]
    rw [made.fresh_eq] at below
    by_cases new : file' = directory.fresh
    · rw [new, Function.update_self]
      exact Nat.zero_le _
    · rw [Function.update_of_ne new]
      exact ordered.short (by omega) young
  original {i file'} leads old := by
    obtain ⟨_, rfl⟩ | ⟨_, was⟩ := made.leads leads
    · rw [made.file_eq] at old
      exact absurd old (Nat.not_lt.mpr ordered.fresh_le)
    · exact ordered.original was old
  limited := ordered.limited

theorem Stands.made (stands : Stands first maxBytes directory entries process writer place)
    (ordered : Ordered first maxBytes directory written entries)
    (made : Made directory file directory') :
    Stands first maxBytes directory' entries process writer place where
  bound := stands.bound
  known isOpen := by
    rw [made.fresh_eq]
    exact ⟨(stands.known isOpen).1, Nat.lt_succ_of_lt (stands.known isOpen).2⟩
  older isOpen leads := by
    obtain ⟨_, rfl⟩ | ⟨other, _⟩ := made.leads leads
    · rw [made.file_eq]
      exact Nat.le_of_lt (stands.known isOpen).2
    · exact absurd rfl other
  latest := stands.latest
  counted := stands.counted
  room := stands.room
  unused {line file'} _ leads := by
    obtain ⟨_, rfl⟩ | ⟨other, _⟩ := made.leads leads
    · rw [made.file_eq, ordered.entries_of_le (Nat.le_refl _)]
      exact ⟨ordered.fresh_le, by simp⟩
    · exact absurd rfl other

/-! ### A record that is written -/

/-- The records of the files behind one that is written. -/
def addTo (process : Process) (file : Nat) (line : Line) (written : Process → List Line)
    (entries : Nat → List Entry) : Nat → List Entry :=
  Function.update entries file (entries file ++ [⟨process, (written process).length, line⟩])

theorem addTo_self : addTo process file line written entries file =
    entries file ++ [⟨process, (written process).length, line⟩] := Function.update_self ..

theorem addTo_other {file' : Nat} (other : file' ≠ file) :
    addTo process file line written entries file' = entries file' := Function.update_of_ne other ..

theorem mem_addTo {file' : Nat} {entry : Entry}
    (member : entry ∈ addTo process file line written entries file') :
    entry ∈ entries file' ∨ file' = file ∧ entry = ⟨process, (written process).length, line⟩ := by
  by_cases same : file' = file
  · rw [same, addTo_self, List.mem_append, List.mem_singleton] at member
    rcases member with old | new
    · exact .inl (same ▸ old)
    · exact .inr ⟨same, new⟩
  · rw [addTo_other same] at member
    exact .inl member

theorem addTo_ne_nil {file' : Nat} (some_ : addTo process file line written entries file' ≠ []) :
    entries file' ≠ [] ∨ file' = file := by
  by_cases same : file' = file
  · exact .inr same
  · rw [addTo_other same] at some_
    exact .inl some_

theorem amount_addTo_self : amount process (addTo process file line written entries file) =
    amount process (entries file) + line.record.length := by
  rw [addTo_self]
  exact amount_append_self rfl

theorem amount_addTo_other (other : process ≠ process') :
    amount process' (addTo process file line written entries file) =
      amount process' (entries file) := by
  rw [addTo_self]
  exact amount_append_other other

/-- What a process had written is numbered below what it writes. -/
theorem Ordered.number_lt (ordered : Ordered first maxBytes directory written entries)
    {entry : Entry} (member : entry ∈ entries file) :
    entry.number < (written entry.process).length :=
  (List.getElem?_eq_some_iff.mp (ordered.numbered member)).1

theorem Ordered.amount_le (ordered : Ordered first maxBytes directory written entries)
    (there : file < directory.fresh) :
    (before first file).length + amount process (entries file) ≤
      (directory.contents file).length := by
  have all : amount .daemon (entries file) + amount .command (entries file) =
      ((entries file).flatMap (·.line.record)).length := amount_add
  rw [ordered.whole there, List.length_append, ← all]
  cases process <;> omega

theorem toNat_saturatingAdd {bytes : UInt64} {n : Nat} :
    (saturatingAdd bytes n).toNat = min (bytes.toNat + n) MAX_LENGTH := by
  rw [saturatingAdd, UInt64.toNat_ofNat_of_lt']
  · rfl
  · exact Nat.lt_of_le_of_lt (Nat.min_le_right ..) (by decide)

section
variable (ordered : Ordered first maxBytes directory written entries)
  (stands : Stands first maxBytes directory entries process writer (.appending line))
  (isOpen : writer.file = some file)
  (fits : line.record.length ≤ MAX_LENGTH - (directory.contents file).length)
include ordered stands isOpen fits

/-- The process stays within its bound, or the record is the only one it has there. -/
theorem amount_le_limit : (before first file).length + amount process (entries file) +
    line.record.length ≤ limit maxBytes (written process ++ [line]) := by
  have counted := stands.counted isOpen
  obtain ⟨young, there⟩ := stands.known isOpen
  have short := ordered.short there young
  have inside : (before first file).length + amount process (entries file) ≤
      (directory.contents file).length := ordered.amount_le there
  have room := stands.room rfl
  rw [RotatingWriter.isFull, not_and_or] at room
  rcases room with empty | room
  · have zero : writer.bytes.toNat = 0 := by
      rw [UInt64.lt_iff_toNat_lt] at empty
      exact Nat.eq_zero_of_not_pos empty
    have one : line.record.length ≤ limit maxBytes (written process ++ [line]) := record_le_limit
    omega
  · rw [stands.bound, UInt64.lt_iff_toNat_lt, toNat_saturatingAdd] at room
    have most : maxBytes.toNat ≤ limit maxBytes (written process ++ [line]) := Nat.le_max_left ..
    omega

theorem Ordered.appended : Ordered first maxBytes (directory.modify file (· ++ line.record))
    (Function.update written process (written process ++ [line]))
    (addTo process file line written entries) where
  fresh_le := ordered.fresh_le
  newest {file'} leads := by
    refine ⟨(ordered.newest leads).1, fun file'' some_ => ?_⟩
    rcases addTo_ne_nil some_ with some_ | rfl
    · exact (ordered.newest leads).2 file'' some_
    · exact stands.older isOpen leads
  older := ordered.older
  used some_ := by
    rcases addTo_ne_nil some_ with some_ | rfl
    · exact ordered.used some_
    · exact stands.known isOpen
  numbered {file' entry} member := by
    rcases mem_addTo member with old | ⟨_, rfl⟩
    · by_cases same : entry.process = process
      · rw [same, Function.update_self, ← same,
          List.getElem?_append_left (ordered.number_lt old)]
        exact ordered.numbered old
      · rw [Function.update_of_ne same]
        exact ordered.numbered old
    · simp
  across {file₁ file₂ entry entry'} less member' member same := by
    rcases mem_addTo member' with old' | ⟨rfl, rfl⟩
    · rcases mem_addTo member with old | ⟨_, rfl⟩
      · exact ordered.across less old' old same
      · have below := ordered.number_lt old'
        rw [same] at below
        exact below
    · -- the process has written to no newer file
      rcases mem_addTo member with old | ⟨rfl, _⟩
      · exact absurd less (Nat.not_lt.mpr (stands.latest isOpen old same.symm))
      · omega
  within file' := by
    by_cases is : file' = file
    · rw [is, addTo_self, List.pairwise_append]
      refine ⟨ordered.within file, List.pairwise_singleton .., fun entry old entry' new same => ?_⟩
      rw [List.mem_singleton] at new
      subst new
      have below := ordered.number_lt old
      rw [same] at below
      exact below
    · rw [addTo_other is]
      exact ordered.within file'
  whole {file'} there := by
    by_cases is : file' = file
    · subst is
      rw [FileSystem.modify]
      dsimp only
      rw [Function.update_self, ordered.whole there, addTo_self, List.flatMap_append,
        List.append_assoc]
      simp
    · rw [FileSystem.modify]
      dsimp only
      rw [Function.update_of_ne is, addTo_other is]
      exact ordered.whole there
  short {file'} there young := by
    have short := ordered.short there young
    by_cases is : file' = file
    · subst is
      rw [FileSystem.modify]
      dsimp only
      rw [Function.update_self, List.length_append]
      omega
    · rw [FileSystem.modify]
      dsimp only
      rw [Function.update_of_ne is]
      exact short
  original := ordered.original
  limited {process' file'} own := by
    obtain ⟨entry, member, rfl⟩ := own
    by_cases same : entry.process = process
    · rw [same, Function.update_self]
      by_cases is : file' = file
      · rw [is, amount_addTo_self, ← Nat.add_assoc]
        exact amount_le_limit ordered stands isOpen fits
      · rw [addTo_other is] at member ⊢
        have limited := ordered.limited ⟨entry, member, same⟩
        exact Nat.le_trans limited limit_le_append
    · rw [Function.update_of_ne same]
      rcases mem_addTo member with old | ⟨_, rfl⟩
      · have limited := ordered.limited ⟨entry, old, rfl⟩
        by_cases is : file' = file
        · subst is
          rw [amount_addTo_other fun is => same is.symm]
          exact limited
        · rw [addTo_other is]
          exact limited
      · exact absurd rfl same

theorem Stands.appended : Stands first maxBytes (directory.modify file (· ++ line.record))
    (addTo process file line written entries) process
    { writer with bytes := saturatingAdd writer.bytes line.record.length } .idle where
  bound := stands.bound
  known := stands.known
  older := stands.older
  latest {file₁ file₂ entry} isOpen' member own := by
    rcases mem_addTo member with old | ⟨rfl, _⟩
    · exact stands.latest isOpen' old own
    · exact Nat.le_of_eq (Option.some.inj (isOpen.symm.trans isOpen'))
  counted {file'} isOpen' := by
    have is : file = file' := Option.some.inj (isOpen.symm.trans isOpen')
    subst is
    obtain ⟨young, there⟩ := stands.known isOpen
    have counted := stands.counted isOpen
    have short := ordered.short there young
    have inside : (before first file).length + amount process (entries file) ≤
        (directory.contents file).length := ordered.amount_le there
    rw [amount_addTo_self, toNat_saturatingAdd]
    omega
  room stays := by cases stays
  unused stays := by cases stays

end

/-- The other process. -/
theorem Stands.appended_other
    (stands : Stands first maxBytes directory entries process' writer place)
    (other : process' ≠ process) :
    Stands first maxBytes (directory.modify file (· ++ line.record))
      (addTo process file line written entries) process' writer place where
  bound := stands.bound
  known := stands.known
  older := stands.older
  latest {file₁ file₂ entry} isOpen member own := by
    rcases mem_addTo member with old | ⟨_, rfl⟩
    · exact stands.latest isOpen old own
    · exact absurd own.symm other
  counted {file'} isOpen := by
    by_cases is : file' = file
    · subst is
      rw [amount_addTo_other other.symm]
      exact stands.counted isOpen
    · rw [addTo_other is]
      exact stands.counted isOpen
  room := stands.room
  unused {line' file'} stays leads := by
    refine ⟨(stands.unused stays leads).1, fun entry member => ?_⟩
    rcases mem_addTo member with old | ⟨_, rfl⟩
    · exact (stands.unused stays leads).2 entry old
    · exact fun is => other is.symm

/-! ### The newest log is opened -/

theorem Ordered.created (ordered : Ordered first maxBytes directory written entries) :
    Ordered first maxBytes (directory.create (logPath 0)).2 written entries := by
  obtain ⟨_, same⟩ | made := create_cases directory
  · rw [same]
    exact ordered
  · exact ordered.made made

theorem Stands.created (stands : Stands first maxBytes directory entries process writer place)
    (ordered : Ordered first maxBytes directory written entries) :
    Stands first maxBytes (directory.create (logPath 0)).2 entries process writer place := by
  obtain ⟨_, same⟩ | made := create_cases directory
  · rw [same]
    exact stands
  · exact stands.made ordered made

/-- No file that was written is newer. -/
theorem Ordered.opens (ordered : Ordered first maxBytes directory written entries)
    (leads : directory.files (logPath 0) = some file) (bound : writer.maxBytes = maxBytes)
    (isOpen : writer.file = some file)
    (counted : (before first file).length + amount process (entries file) ≤ writer.bytes.toNat)
    (room : ∀ {line}, place = .appending line → ¬writer.isFull line.record)
    (still : ∀ {line}, place ≠ .moving 0 line) :
    Stands first maxBytes directory entries process writer place where
  bound := bound
  known {file'} isOpen' := by
    have is : file = file' := Option.some.inj (isOpen.symm.trans isOpen')
    subst is
    exact ⟨(ordered.newest leads).1, directory.below leads⟩
  older {file₁ file₂} isOpen' leads' := by
    have is : file = file₁ := Option.some.inj (isOpen.symm.trans isOpen')
    have is' : file = file₂ := Option.some.inj (leads.symm.trans leads')
    exact Nat.le_of_eq (is.symm.trans is')
  latest {file₁ file₂ entry} isOpen' member _ := by
    have is : file = file₁ := Option.some.inj (isOpen.symm.trans isOpen')
    subst is
    exact (ordered.newest leads).2 file₂ (List.ne_nil_of_mem member)
  counted {file'} isOpen' := by
    have is : file = file' := Option.some.inj (isOpen.symm.trans isOpen')
    subst is
    exact counted
  room := room
  unused stays := absurd stays still

/-- A rotation opens a file that the process has not written to. -/
theorem Stands.reopened (stands : Stands first maxBytes directory entries process writer
    (.moving 0 line)) (ordered : Ordered first maxBytes directory written entries) :
    Stands first maxBytes (directory.create (logPath 0)).2 entries process
      { writer with file := some (directory.create (logPath 0)).1, bytes := 0 }
      (.appending line) := by
  have leads : (directory.create (logPath 0)).2.files (logPath 0) =
      some (directory.create (logPath 0)).1 := FileSystem.create_leads
  obtain ⟨later, none_⟩ := (stands.created ordered).unused rfl leads
  refine ordered.created.opens leads stands.bound rfl ?_ (fun _ full => ?_) (by simp)
  · rw [before_of_le later, amount_eq_zero none_]
    exact Nat.zero_le _
  · exact absurd full.1 (Nat.lt_irrefl 0)

/-- A writer is opened, which counts what is there. -/
theorem Ordered.open_stands {fileCount : UInt64}
    (ordered : Ordered first maxBytes directory written entries)
    (opened : RotatingWriter.open directory maxBytes fileCount = .ok (writer, directory')) :
    Ordered first maxBytes directory' written entries ∧
      Stands first maxBytes directory' entries process writer .idle := by
  obtain ⟨_, made, file, leads, rfl⟩ := open_ok opened
  have ordered' : Ordered first maxBytes directory' written entries := by
    rw [made]
    exact (ordered.rearranged unlink_rearranged).created
  refine ⟨ordered', ordered'.opens leads rfl rfl ?_ (by simp) (by simp)⟩
  have short := ordered'.short (directory'.below leads) (ordered'.newest leads).1
  rw [UInt64.toNat_ofNat_of_lt' (Nat.lt_of_le_of_lt short (by decide))]
  exact ordered'.amount_le (directory'.below leads)

theorem Stands.goes {place' : Place}
    (stands : Stands first maxBytes directory entries process writer place)
    (room : ∀ {line}, place' = .appending line → ¬writer.isFull line.record)
    (unused : ∀ {line}, place' = .moving 0 line → directory.files (logPath 0) = none) :
    Stands first maxBytes directory entries process writer place' where
  bound := stands.bound
  known := stands.known
  older := stands.older
  latest := stands.latest
  counted := stands.counted
  room := room
  unused stays leads := by
    rw [unused stays] at leads
    cases leads

theorem Stands.closed {place' : Place}
    (stands : Stands first maxBytes directory entries process writer place)
    (room : ∀ {line}, place' ≠ .appending line) (still : ∀ {line}, place' ≠ .moving 0 line) :
    Stands first maxBytes directory entries process { writer with file := none } place' where
  bound := stands.bound
  known isOpen := by cases isOpen
  older isOpen := by cases isOpen
  latest isOpen := by cases isOpen
  counted isOpen := by cases isOpen
  room stays := absurd stays room
  unused stays := absurd stays still

/-! ### Turns -/

namespace Shared

structure Kept (first : Directory) (maxBytes : UInt64) (s : Shared) : Prop where
  ordered : Ordered first maxBytes s.directory s.written s.entries
  stands : ∀ {process writer}, s.writer process = some writer →
    Stands first maxBytes s.directory s.entries process writer (s.place process)

variable {s : Shared}

/-- One process goes on, and the other stands where it was. -/
theorem Kept.setWriter (ordered : Ordered first maxBytes directory s.written s.entries)
    (own : Stands first maxBytes directory s.entries process writer place)
    (others : ∀ {process' writer'}, s.writer process' = some writer' →
      Stands first maxBytes directory s.entries process' writer' (s.place process')) :
    (s.setWriter process writer place directory).Kept first maxBytes := by
  refine ⟨ordered, fun {process' writer'} uses => ?_⟩
  by_cases same : process' = process
  · subst same
    rw [setWriter_writer] at uses
    cases uses
    rw [setWriter_place]
    exact own
  · rw [setWriter_writer_other same] at uses
    rw [setWriter_place_other same]
    exact others uses

theorem Kept.rearranged (kept : s.Kept first maxBytes)
    (change : Rearranged s.directory directory)
    (own : Stands first maxBytes directory s.entries process writer place) :
    (s.setWriter process writer place directory).Kept first maxBytes :=
  .setWriter (kept.ordered.rearranged change) own fun uses => (kept.stands uses).rearranged change

theorem Kept.appended (kept : s.Kept first maxBytes) (uses : s.writer process = some writer)
    (stays : s.place process = .appending line) (isOpen : writer.file = some file)
    (fits : line.record.length ≤ MAX_LENGTH - (s.directory.contents file).length) :
    ((s.setWriter process { writer with bytes := saturatingAdd writer.bytes line.record.length }
      .idle (s.directory.modify file (· ++ line.record))).addEntry process file line).Kept first
        maxBytes := by
  have stands := kept.stands uses
  rw [stays] at stands
  refine ⟨kept.ordered.appended stands isOpen fits, fun {process' writer'} uses' => ?_⟩
  rw [addEntry_writer] at uses'
  rw [addEntry_place]
  by_cases same : process' = process
  · subst same
    rw [setWriter_writer] at uses'
    cases uses'
    rw [setWriter_place]
    exact stands.appended kept.ordered isOpen fits
  · rw [setWriter_writer_other same] at uses'
    rw [setWriter_place_other same]
    exact (kept.stands uses').appended_other same

theorem Kept.goOn {fails : Bool} (kept : s.Kept first maxBytes)
    (uses : s.writer process = some writer) :
    (s.settle process (writer.operate fails s.directory (s.place process))).Kept first
      maxBytes := by
  have stands := kept.stands uses
  have stops : (s.setWriter process writer .idle s.directory).Kept first maxBytes :=
    kept.rearranged .refl (stands.goes (by simp) (by simp))
  cases stays : s.place process with
  | idle => exact stops
  | flushing line =>
      rw [RotatingWriter.operate]
      split
      · exact kept.rearranged .refl (stands.closed (by simp) (by simp))
      · exact kept.rearranged .refl (stands.closed (by simp) (by simp))
  | removing line =>
      have moves {directory' : Directory}
          (removed : removeFile fails (logPath writer.oldest) s.directory = .ok directory' ∨
            removeFile fails (logPath writer.oldest) s.directory = .error .notFound ∧
              directory' = s.directory) :
          (s.setWriter process writer (.moving writer.oldest line) directory').Kept first
            maxBytes := by
        obtain ⟨change, free⟩ := removeFile_rearranged removed
        refine kept.rearranged change ((stands.rearranged change).goes (by simp) fun is => ?_)
        injection is with zero
        rw [zero] at free
        exact free
      rw [RotatingWriter.operate]
      split
      · rename_i removed
        exact moves (.inl removed)
      · rename_i missing
        exact moves (.inr ⟨missing, rfl⟩)
      · exact stops
  | moving index line =>
      cases index with
      | zero =>
          rw [RotatingWriter.operate, openAppend]
          split
          · rename_i file directory' opened
            rw [stays] at stands
            split at opened
            · cases opened
            · injection opened with made
              obtain ⟨rfl, rfl⟩ := Prod.ext_iff.mp made
              exact .setWriter kept.ordered.created (stands.reopened kept.ordered) fun uses' =>
                (kept.stands uses').created kept.ordered
          · exact stops
      | succ index =>
          have moves {directory' : Directory}
              (renamed : rename fails (logPath index) (logPath (index + 1)) s.directory =
                  .ok directory' ∨
                rename fails (logPath index) (logPath (index + 1)) s.directory =
                  .error .notFound ∧ directory' = s.directory) :
              (s.setWriter process writer (.moving index line) directory').Kept first
                maxBytes := by
            obtain ⟨change, free⟩ := rename_rearranged renamed
            refine kept.rearranged change ((stands.rearranged change).goes (by simp) fun is => ?_)
            cases is
            exact free
          rw [RotatingWriter.operate]
          split
          · rename_i renamed
            exact moves (.inl renamed)
          · rename_i missing
            exact moves (.inr ⟨missing, rfl⟩)
          · exact stops
  | appending line =>
      rw [RotatingWriter.operate]
      split
      · exact stops
      · rename_i file isOpen
        split
        · rename_i directory' appended
          rw [appendWhole] at appended
          split at appended
          · cases appended
          · rename_i fits
            cases appended
            rw [not_or] at fits
            exact kept.appended uses stays isOpen (Nat.not_lt.mp fits.2)
        · exact stops

theorem step_kept {fileCount : UInt64} (kept : s.Kept first maxBytes) (turn : Turn) :
    (s.step maxBytes fileCount turn).Kept first maxBytes := by
  cases turn with
  | «open» process =>
      rw [step]
      split
      · exact kept
      · rename_i writer directory' opened
        have both : Ordered first maxBytes directory' s.written s.entries ∧
            Stands first maxBytes directory' s.entries process writer .idle :=
          kept.ordered.open_stands opened
        refine .setWriter both.1 both.2 fun {process' writer'} uses => ?_
        obtain ⟨_, made, _⟩ := open_ok opened
        rw [made]
        exact ((kept.stands uses).rearranged unlink_rearranged).created
          (kept.ordered.rearranged unlink_rearranged)
  | write process line =>
      rw [step]
      split
      · rename_i writer uses stays
        refine kept.rearranged .refl ((kept.stands uses).goes (fun is => ?_) fun is => ?_)
        · split at is
          · cases is
          · rename_i room
            cases is
            exact room
        · split at is <;> cases is
      · exact kept
  | goOn process fails =>
      rw [step]
      split
      · exact kept
      · rename_i writer uses
        exact kept.goOn uses

theorem turns_kept {fileCount : UInt64} (kept : s.Kept first maxBytes) (turns : List Turn) :
    (s.run maxBytes fileCount turns).Kept first maxBytes := by
  induction turns generalizing s with
  | nil => exact kept
  | cons turn turns ih => exact ih (step_kept kept turn)

theorem start_kept (short : ∀ content, first.read (logPath 0) = some content →
    content.length ≤ MAX_LENGTH) : (start first).Kept first maxBytes := by
  refine ⟨⟨Nat.le_refl _, fun leads => ?_, fun less leads leads' => ?_, fun some_ => ?_,
    fun member => ?_, fun _ member => ?_, fun _ => .nil, fun {file} there => ?_,
    fun {file} there young => ?_,
    fun leads _ => ⟨_, leads⟩, fun own => ?_⟩, fun uses => ?_⟩
  · exact ⟨fun elder => elder.2 leads, fun _ some_ => absurd rfl some_⟩
  · refine .inl ⟨first.below leads', fun is => ?_⟩
    have zero := logPath_inj (first.single leads' is)
    omega
  · exact absurd rfl some_
  · cases member
  · cases member
  · have held : before first file = first.contents file := if_pos there
    rw [held]
    exact (List.append_nil _).symm
  · have is : first.files (logPath 0) = some file := by
      by_contra other
      exact young ⟨there, other⟩
    refine short _ ?_
    rw [FileSystem.read, is, Option.map_some]
    rfl
  · obtain ⟨_, member, _⟩ := own
    cases member
  · cases uses

/-! ### What is left -/

/-- What was written to a log. -/
def found (s : Shared) (index : Nat) : List Entry :=
  ((s.directory.files (logPath index)).map s.entries).getD []

/-- The records of a process in the first `n` logs, from the oldest down. -/
def retained (s : Shared) (process : Process) (n : Nat) : List Entry :=
  (readDown s.found n).filter (·.process = process)

theorem mem_found {index : Nat} {entry : Entry} (member : entry ∈ s.found index) :
    ∃ file, s.directory.files (logPath index) = some file ∧ entry ∈ s.entries file := by
  rw [found] at member
  cases leads : s.directory.files (logPath index) with
  | none =>
      rw [leads] at member
      cases member
  | some file =>
      rw [leads] at member
      exact ⟨file, rfl, member⟩

theorem Kept.retained_pairwise (kept : s.Kept first maxBytes) (process : Process) (n : Nat) :
    (s.retained process n).Pairwise (·.number < ·.number) := by
  have sorted : (readDown s.found n).Pairwise fun entry entry' =>
      entry.process = entry'.process → entry.number < entry'.number := by
    refine readDown_pairwise (fun index => ?_) fun i j less entry old entry' new same => ?_
    · rw [found]
      cases s.directory.files (logPath index) with
      | none => exact .nil
      | some file => exact kept.ordered.within file
    · obtain ⟨file, leads, member⟩ := mem_found old
      obtain ⟨file', leads', member'⟩ := mem_found new
      rcases kept.ordered.older less leads' leads with elder | older
      · exact absurd elder (kept.ordered.used (List.ne_nil_of_mem member)).1
      · exact kept.ordered.across older member member' same
  refine List.Pairwise.imp_of_mem (fun {entry entry'} member member' lt => lt ?_)
    (sorted.sublist List.filter_sublist)
  have own : entry.process = process := by simpa using (List.mem_filter.mp member).2
  have own' : entry'.process = process := by simpa using (List.mem_filter.mp member').2
  exact own.trans own'.symm

theorem Kept.retained_written (kept : s.Kept first maxBytes) {process : Process} {n : Nat}
    {entry : Entry} (member : entry ∈ s.retained process n) :
    (s.written process)[entry.number]? = some entry.line := by
  obtain ⟨somewhere, own⟩ := List.mem_filter.mp member
  obtain ⟨index, _, found⟩ := mem_readDown.mp somewhere
  obtain ⟨file, _, there⟩ := mem_found found
  have is : entry.process = process := by simpa using own
  rw [← is]
  exact kept.ordered.numbered there

/-- A log is what it was, or it is within the bounds of the processes. -/
theorem Kept.length_le (kept : s.Kept first maxBytes) {index : Nat} {content : List UInt8}
    (read : s.directory.read (logPath index) = some content) :
    content.length ≤ limit maxBytes (s.written .daemon) + limit maxBytes (s.written .command) ∨
      ∃ index', first.read (logPath index') = some content := by
  obtain ⟨file, leads, rfl⟩ := Option.map_eq_some_iff.mp read
  have whole := kept.ordered.whole (s.directory.below leads)
  have all : amount .daemon (s.entries file) + amount .command (s.entries file) =
      ((s.entries file).flatMap (·.line.record)).length := amount_add
  have of_none {process : Process} (none_ : ¬∃ entry ∈ s.entries file, entry.process = process) :
      amount process (s.entries file) = 0 :=
    amount_eq_zero fun entry member is => none_ ⟨entry, member, is⟩
  have length : (s.directory.contents file).length = (before first file).length +
      (amount .daemon (s.entries file) + amount .command (s.entries file)) := by
    rw [whole, List.length_append, all]
  by_cases daemon : ∃ entry ∈ s.entries file, entry.process = .daemon
  · have limited := kept.ordered.limited daemon
    by_cases command : ∃ entry ∈ s.entries file, entry.process = .command
    · have limited' := kept.ordered.limited command
      exact .inl (by omega)
    · have zero := of_none command
      exact .inl (by omega)
  · have zero := of_none daemon
    by_cases command : ∃ entry ∈ s.entries file, entry.process = .command
    · have limited' := kept.ordered.limited command
      exact .inl (by omega)
    · have zero' := of_none command
      by_cases old : file < first.fresh
      · obtain ⟨index', was⟩ := kept.ordered.original leads old
        have none_ : (s.entries file).flatMap (·.line.record) = [] :=
          List.length_eq_zero_iff.mp (by omega)
        refine .inr ⟨index', ?_⟩
        rw [FileSystem.read, was, Option.map_some, whole, none_, List.append_nil, before,
          if_pos old]
      · rw [before_of_le (Nat.not_lt.mp old), List.length_nil] at length
        exact .inl (by omega)

theorem Kept.content_eq (kept : s.Kept first maxBytes) {index : Nat} {content : List UInt8}
    (read : s.directory.read (logPath index) = some content) :
    ∃ held, content = held ++ (s.found index).flatMap (·.line.record) ∧
      (held = [] ∨ ∃ index', first.read (logPath index') = some held) := by
  obtain ⟨file, leads, rfl⟩ := Option.map_eq_some_iff.mp read
  refine ⟨before first file, ?_, ?_⟩
  · rw [found, leads]
    exact kept.ordered.whole (s.directory.below leads)
  · by_cases old : file < first.fresh
    · obtain ⟨index', was⟩ := kept.ordered.original leads old
      refine .inr ⟨index', ?_⟩
      rw [FileSystem.read, was, Option.map_some, before, if_pos old]
    · exact .inl (before_of_le (Nat.not_lt.mp old))

end Shared

/-- Over every interleaving of the operations of two processes, each log is what it was at the
beginning or is within the bounds of the two writers together, and what it holds behind that are
whole records. From the oldest log to the newest, the records of each process come in the order in
which it wrote them. -/
theorem shared_logs {fileCount : UInt64} {turns : List Turn} {s : Shared}
    (short : ∀ content, first.read (logPath 0) = some content → content.length ≤ MAX_LENGTH)
    (runs : (Shared.start first).run maxBytes fileCount turns = s) :
    (∀ index content, s.directory.read (logPath index) = some content →
      (content.length ≤ limit maxBytes (s.written .daemon) + limit maxBytes (s.written .command) ∨
        ∃ index', first.read (logPath index') = some content) ∧
      ∃ held, content = held ++ (s.found index).flatMap (·.line.record) ∧
        (held = [] ∨ ∃ index', first.read (logPath index') = some held)) ∧
    ∀ process n, (s.retained process n).Pairwise (·.number < ·.number) ∧
      ∀ entry ∈ s.retained process n, (s.written process)[entry.number]? = some entry.line := by
  subst runs
  have kept : ((Shared.start first).run maxBytes fileCount turns).Kept first maxBytes :=
    Shared.turns_kept (Shared.start_kept short) turns
  refine ⟨fun index content read => ⟨kept.length_le read, kept.content_eq read⟩,
    fun process n => ⟨kept.retained_pairwise process n, fun entry member => ?_⟩⟩
  exact kept.retained_written member

end

/-- A record of a process, written without an operation of the other between. -/
def writesOne (process : Process) : List Turn := [.write process one, .goOn process false]

/-- Both open the logs, and each writes three records. -/
def bothWrite : List Turn :=
  [.open .daemon, .open .command] ++ (List.replicate 3 (writesOne .daemon)).flatten ++
    (List.replicate 3 (writesOne .command)).flatten

theorem shared_logs_three :
    let s := (Shared.start .empty).run 6 2 bothWrite
    ∀ index content, s.directory.read (logPath index) = some content →
      content.length ≤ limit 6 (s.written .daemon) + limit 6 (s.written .command) ∨
        ∃ index', FileSystem.empty.read (logPath index') = some content := by
  intro s index content read
  have runs : (Shared.start .empty).run 6 2 bothWrite = s := rfl
  exact ((shared_logs (fun content read => by cases read) runs).1 index content read).1

/-- Each writer counts only its own records, and the two fill one file to twice its bound. -/
theorem both_fill :
    ¬∀ (directory : Directory) (maxBytes fileCount : UInt64) (turns : List Turn) (index : Nat)
      (content : List UInt8),
      (∀ index content, directory.read (logPath index) = some content →
        content.length ≤ maxBytes.toNat) →
      ((Shared.start directory).run maxBytes fileCount turns).directory.read (logPath index) =
        some content →
      content.length ≤ maxBytes.toNat +
        longest (((Shared.start directory).run maxBytes fileCount turns).written .daemon) +
        longest (((Shared.start directory).run maxBytes fileCount turns).written .command) := by
  intro each
  have full : (((Shared.start .empty).run 6 2 bothWrite).directory.read (logPath 0)).map
      List.length = some 12 := by decide +kernel
  have daemon : longest (((Shared.start .empty).run 6 2 bothWrite).written .daemon) = 2 := by
    decide +kernel
  have command : longest (((Shared.start .empty).run 6 2 bothWrite).written .command) = 2 := by
    decide +kernel
  obtain ⟨content, read, length⟩ := Option.map_eq_some_iff.mp full
  have within := each .empty 6 2 bothWrite 0 content (fun index content read => by cases read) read
  rw [length, daemon, command] at within
  exact absurd within (by decide)

end QuestVdWired.Host.Diagnostics
