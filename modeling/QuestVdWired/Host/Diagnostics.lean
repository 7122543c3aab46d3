import QuestVdWired.Wire.FileSystem
import QuestVdWired.Wire.Generations
import QuestVdWired.Wire.Lines
import QuestVdWired.Wire.Text

/-!
The diagnostics log: `RotatingWriter`, `prune_excess_logs` and `Diagnostics::export`. A call that
reaches the file system is given what fails there. The writer's directory is the one there is.
-/

namespace QuestVdWired.Host.Diagnostics
open Wire Text

abbrev Name := List Char

abbrev Directory := FileSystem Name UInt8

inductive IoError where
  | failed
  | notFound
  | invalidInput (message : String)
  | invalidData
  | other (message : String)
  deriving DecidableEq, Repr

/-- What fails in one call of the writer, and where a write ends. -/
structure Faults where
  flush : Bool
  remove : Bool
  rename : Nat → Bool
  reopen : Bool
  write : Option Nat
  flushRecord : Bool

/-- A call in which the file system does what it is asked. -/
def sound : Faults := ⟨false, false, fun _ => false, false, none, false⟩

/-! ### The file system -/

/-- A length is reported in 64 bits, and no write makes a file longer. -/
def MAX_LENGTH : Nat := UInt64.size - 1

def removeFile (fails : Bool) (path : Name) (directory : Directory) : Except IoError Directory :=
  if fails then .error .failed
  else if directory.read path = none then .error .notFound
  else .ok (directory.unlink (· = path))

def rename (fails : Bool) (source target : Name) (directory : Directory) :
    Except IoError Directory :=
  if fails then .error .failed
  else if directory.read source = none then .error .notFound
  else .ok (directory.move source target)

/-- `OpenOptions::new().create(true).append(true).open(path)` -/
def openAppend (fails : Bool) (path : Name) (directory : Directory) :
    Except IoError (Nat × Directory) :=
  if fails then .error .failed else .ok (directory.create path)

/-- `write_all`, which may fail with a part of the record written. -/
def writeAll (fault : Option Nat) (file : Nat) (record : List UInt8) (directory : Directory) :
    Except IoError Unit × Directory :=
  let room := MAX_LENGTH - (directory.contents file).length
  let written := record.take (min room (fault.getD record.length))
  (if fault = none ∧ record.length ≤ room then .ok () else .error .failed,
    directory.modify file (· ++ written))

/-! ### Names -/

def stripSuffix (text pattern : List Char) : Option (List Char) :=
  (stripPrefix text.reverse pattern.reverse).map List.reverse

/-- `str::parse::<usize>` -/
def parseUsize (text : List Char) : Option Nat :=
  let digits := (stripPrefix text ['+']).getD text
  if digits ≠ [] ∧ digits.all Char.isDigit ∧ Nat.ofDigitChars 10 digits 0 < UInt64.size then
    some (Nat.ofDigitChars 10 digits 0)
  else none

def logPath (index : Nat) : Name :=
  "gnirehtet-vd.".toList ++ (Nat.toDigits 10 index ++ ".jsonl".toList)

/-- The index that `prune_excess_logs` reads in a name. -/
def logIndex (name : Name) : Option Nat :=
  ((stripPrefix name "gnirehtet-vd.".toList).bind fun value =>
    stripSuffix value ".jsonl".toList).bind parseUsize

def pruneExcessLogs (directory : Directory) (fileCount : UInt64) : Directory :=
  directory.unlink fun name => (logIndex name).any (fileCount.toNat ≤ ·)

/-! ### The writer -/

structure RotatingWriter where
  file : Option Nat
  bytes : UInt64
  maxBytes : UInt64
  fileCount : UInt64

def saturatingAdd (bytes : UInt64) (n : Nat) : UInt64 :=
  UInt64.ofNat (min (bytes.toNat + n) (UInt64.size - 1))

theorem saturatingAdd_exact {bytes : UInt64} {n : Nat} (fits : bytes.toNat + n < UInt64.size) :
    (saturatingAdd bytes n).toNat = bytes.toNat + n := by
  have below : min (bytes.toNat + n) (UInt64.size - 1) = bytes.toNat + n :=
    Nat.min_eq_left (Nat.le_sub_one_of_lt fits)
  rw [saturatingAdd, below, UInt64.toNat_ofNat_of_lt' fits]

namespace RotatingWriter

def «open» (directory : Directory) (maxBytes fileCount : UInt64) :
    Except IoError (RotatingWriter × Directory) :=
  if maxBytes = 0 ∨ fileCount = 0 then
    .error (.invalidInput "rotation bounds must be non-zero")
  else
    match openAppend false (logPath 0) (pruneExcessLogs directory fileCount) with
    | .error error => .error error
    | .ok (file, directory) =>
        .ok ({
          file := some file
          bytes := UInt64.ofNat (directory.contents file).length
          maxBytes
          fileCount }, directory)

/-- The loop of `rotate` over the indices below one, from the highest. -/
def moveUp (faults : Faults) : Nat → Directory → Except IoError Unit × Directory
  | 0, directory => (.ok (), directory)
  | index + 1, directory =>
      match rename (faults.rename index) (logPath index) (logPath (index + 1)) directory with
      | .ok directory => moveUp faults index directory
      | .error .notFound => moveUp faults index directory
      | .error error => (.error error, directory)

/-- The part of `rotate` between the two files. -/
def makeRoom (faults : Faults) (fileCount : UInt64) (directory : Directory) :
    Except IoError Unit × Directory :=
  if 1 < fileCount then
    match removeFile faults.remove (logPath (fileCount.toNat - 1)) directory with
    | .ok directory => moveUp faults (fileCount.toNat - 1) directory
    | .error .notFound => moveUp faults (fileCount.toNat - 1) directory
    | .error error => (.error error, directory)
  else
    match removeFile faults.remove (logPath 0) directory with
    | .ok directory => (.ok (), directory)
    | .error .notFound => (.ok (), directory)
    | .error error => (.error error, directory)

/-- The file is closed first, so a rotation that fails leaves none open. -/
def rotate (faults : Faults) (writer : RotatingWriter) (directory : Directory) :
    Except IoError Unit × RotatingWriter × Directory :=
  let closed := { writer with file := none }
  if writer.file.isSome ∧ faults.flush then (.error .failed, closed, directory)
  else
    match makeRoom faults writer.fileCount directory with
    | (.error error, directory) => (.error error, closed, directory)
    | (.ok (), directory) =>
        match openAppend faults.reopen (logPath 0) directory with
        | .error error => (.error error, closed, directory)
        | .ok (file, directory) =>
            (.ok (), { writer with file := some file, bytes := 0 }, directory)

/-- The part of `write_record` behind the rotation. -/
def append (faults : Faults) (record : List UInt8) (rotated : Bool) (writer : RotatingWriter)
    (directory : Directory) : Except IoError Bool × RotatingWriter × Directory :=
  match writer.file with
  | none => (.error (.other "diagnostics writer is closed"), writer, directory)
  | some file =>
      match writeAll faults.write file record directory with
      | (.error error, directory) => (.error error, writer, directory)
      | (.ok (), directory) =>
          if faults.flushRecord then (.error .failed, writer, directory)
          else
            (.ok rotated, { writer with bytes := saturatingAdd writer.bytes record.length },
              directory)

/-- Whether the file has no room for a record that is to be written. -/
def isFull (record : List UInt8) (writer : RotatingWriter) : Prop :=
  0 < writer.bytes ∧ writer.maxBytes < saturatingAdd writer.bytes record.length

instance (record : List UInt8) (writer : RotatingWriter) : Decidable (writer.isFull record) :=
  inferInstanceAs (Decidable (_ ∧ _))

def writeRecord (faults : Faults) (record : List UInt8) (writer : RotatingWriter)
    (directory : Directory) : Except IoError Bool × RotatingWriter × Directory :=
  if writer.isFull record then
    match rotate faults writer directory with
    | (.error error, writer, directory) => (.error error, writer, directory)
    | (.ok (), writer, directory) => append faults record true writer directory
  else append faults record false writer directory

attribute [local grind =] moveUp

end RotatingWriter

/-! ### Paths -/

/-- What paths are compared by. -/
inductive Component where
  | volume (name : Name)
  | rootDir
  | curDir
  | parentDir
  | normal (name : Name)
  deriving DecidableEq, Repr

abbrev PathBuf := List Component

/-- `log_path`: the name of a log in the directory, as the directory is spelled. -/
def logPathIn (directory : PathBuf) (index : Nat) : PathBuf := directory ++ [.normal (logPath index)]

/-- Where paths lead: which are directories, and which lead to a name in the directory of the logs,
however they are spelled. -/
structure Places (directory : PathBuf) where
  isDir : PathBuf → Bool
  leads : PathBuf → Option Name
  leads_log : ∀ index, leads (logPathIn directory index) = some (logPath index)

/-! ### The support bundle -/

def newline : UInt8 := 10

def decodeUtf8 (bytes : List UInt8) : Option (List Char) :=
  (String.fromUTF8? ⟨bytes.toArray⟩).map String.toList

/-- What stands on one line: a text in UTF-8. -/
abbrev Line := { bytes : List UInt8 // newline ∉ bytes ∧ (decodeUtf8 (bytes ++ [newline])).isSome }

def Line.record (line : Line) : List UInt8 := line.1 ++ [newline]

/-- `serde_json`, which writes a value on one line, and what the log does with the values. -/
structure Serde (Value : Type*) where
  fromStr : List Char → Option Value
  toVec : Value → Line
  redactValue : Value → Value
  malformed : Value
  bundleMetadata : Value

/-- The end of a line as `BufRead::lines` takes it off. -/
def stripLineEnd (line : List Char) : List Char :=
  match stripSuffix line ['\n'] with
  | none => line
  | some line => (stripSuffix line ['\r']).getD line

/-- `BufRead::lines`, up to what is not UTF-8. -/
def readLines (content : List UInt8) : Option (List (List Char)) :=
  let torn := tornPart newline content
  (completeLines newline content ++ if torn = [] then [] else [torn]).mapM fun line =>
    (decodeUtf8 line).map stripLineEnd

section
variable {Value : Type*} (serde : Serde Value)

def bundleLine (line : List Char) : List UInt8 :=
  (serde.toVec (((serde.fromStr line).map serde.redactValue).getD serde.malformed)).record

/-- The loop of `export` over the indices below one, from the highest. -/
def exportLogs (directory : Directory) : Nat → Except IoError (List UInt8)
  | 0 => .ok []
  | index + 1 =>
      match directory.read (logPath index) with
      | none => exportLogs directory index
      | some content =>
          match readLines content with
          | none => .error .invalidData
          | some lines => (exportLogs directory index).map (lines.flatMap (bundleLine serde) ++ ·)

/-- `File::create`, which empties what is there. The bundle is written through a buffer, and one who
reads its file as a log finds what of it was written out by then. -/
def createFile (found : List UInt8) (destination : Option Name) (directory : Directory) : Directory :=
  match destination with
  | none => directory
  | some path => (directory.create path).2.modify (directory.create path).1 fun _ => found

def supportName (unixMillis : Nat) : Name :=
  "gnirehtet-vd-support-".toList ++ (Nat.toDigits 10 unixMillis ++ ".jsonl".toList)

variable {directory : PathBuf} (places : Places directory) (unixMillis : Nat)
  (destination : PathBuf)

/-- The file that the bundle goes to: one in the destination if that is a directory. -/
def bundlePath : PathBuf :=
  if places.isDir destination then destination ++ [.normal (supportName unixMillis)]
  else destination

/-- The path of the bundle is that of a log, as both are spelled. -/
def overwritesLog (writer : RotatingWriter) : Bool :=
  (List.range writer.fileCount.toNat).any fun index =>
    bundlePath places unixMillis destination = logPathIn directory index

/-- The path of the bundle, and what is written to it. -/
def «export» (found : List UInt8) (writer : RotatingWriter) (files : Directory) :
    Except IoError (PathBuf × List UInt8) :=
  if overwritesLog places unixMillis destination writer then
    .error (.invalidInput "support bundle destination must not overwrite a diagnostics log")
  else
    let path := bundlePath places unixMillis destination
    (exportLogs serde (createFile found (places.leads path) files) writer.fileCount.toNat).map
      fun lines => (path, (serde.toVec serde.bundleMetadata).record ++ lines)

attribute [local grind =] exportLogs

end

end QuestVdWired.Host.Diagnostics
