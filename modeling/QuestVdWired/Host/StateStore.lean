import Mathlib.Logic.Equiv.List
import QuestVdWired.Host.StateMachine
import QuestVdWired.Transition.Since

/-!
The status file of the daemon. Two of its four writers carry readiness forward from the document
that they find, and three of them the telemetry.
-/

namespace QuestVdWired.Host

/-- The telemetry is carried as a whole. -/
structure PersistedStatus (T : Type*) where
  lifecycle : StateSnapshot
  daemonPid : Option UInt32
  daemonRunning : Bool
  runtimeReady : Bool
  updatedUnixMs : Nat
  telemetry : Option T

namespace StateStore
variable {T : Type*}

/-- `serde_json` for the documents. -/
structure Format (T : Type*) where
  toVecPretty : PersistedStatus T → List UInt8
  fromSlice : List UInt8 → Option (PersistedStatus T)

/-- What a call writes is read back. -/
def Format.ReadsBack (format : Format T) : Prop :=
  ∀ document, format.fromSlice (format.toVecPretty document) = some document

/-- The content of the file, if there is one. -/
abbrev File := Option (List UInt8)

section
variable (format : Format T)

/-- The document in the file, if it can be read. -/
def existing (file : File) : Option (PersistedStatus T) := file.bind format.fromSlice

def writeDocument (snapshot : StateSnapshot) (daemonPid : Option UInt32) (runtimeReady : Bool)
    (telemetry : Option T) (now : Nat) : List UInt8 :=
  format.toVecPretty {
    lifecycle := snapshot
    daemonPid
    daemonRunning := daemonPid.isSome
    runtimeReady := daemonPid.isSome && runtimeReady
    updatedUnixMs := now
    telemetry }

/-- The document is ready for this process. -/
def carriesReady (daemonPid : Option UInt32) (file : File) : Bool :=
  daemonPid.isSome && (existing format file).any fun status =>
    status.daemonPid = daemonPid && status.runtimeReady

def write (snapshot : StateSnapshot) (daemonPid : Option UInt32) (now : Nat) (file : File) :
    List UInt8 :=
  writeDocument format snapshot daemonPid (carriesReady format daemonPid file)
    ((existing format file).bind (·.telemetry)) now

def writeWithTelemetry (snapshot : StateSnapshot) (daemonPid : Option UInt32) (telemetry : T)
    (now : Nat) (file : File) : List UInt8 :=
  writeDocument format snapshot daemonPid (carriesReady format daemonPid file) (some telemetry) now

def writeRuntimeNotReady (snapshot : StateSnapshot) (daemonPid : UInt32) (now : Nat) :
    List UInt8 :=
  writeDocument format snapshot (some daemonPid) false none now

def writeRuntimeReady (snapshot : StateSnapshot) (daemonPid : UInt32) (now : Nat) (file : File) :
    List UInt8 :=
  writeDocument format snapshot (some daemonPid) true ((existing format file).bind (·.telemetry))
    now

end

inductive Call (T : Type*) where
  | write (snapshot : StateSnapshot) (daemonPid : Option UInt32)
  | writeWithTelemetry (snapshot : StateSnapshot) (daemonPid : Option UInt32) (telemetry : T)
  | writeRuntimeNotReady (snapshot : StateSnapshot) (daemonPid : UInt32)
  | writeRuntimeReady (snapshot : StateSnapshot) (daemonPid : UInt32)

/-- A call with its time. One that fails leaves the file as it is, since the new content replaces
the old in one step. -/
structure Attempt (T : Type*) where
  call : Call T
  now : Nat
  fails : Bool

def content (format : Format T) (now : Nat) (file : File) : Call T → List UInt8
  | .write snapshot daemonPid => write format snapshot daemonPid now file
  | .writeWithTelemetry snapshot daemonPid telemetry =>
      writeWithTelemetry format snapshot daemonPid telemetry now file
  | .writeRuntimeNotReady snapshot daemonPid => writeRuntimeNotReady format snapshot daemonPid now
  | .writeRuntimeReady snapshot daemonPid => writeRuntimeReady format snapshot daemonPid now file

def step (format : Format T) (file : File) (attempt : Attempt T) : File :=
  if attempt.fails then file else some (content format attempt.now file attempt.call)

def run (format : Format T) (file : File) (attempts : List (Attempt T)) : File :=
  attempts.foldl (step format) file

/-- The calls that did not fail. -/
def written (attempts : List (Attempt T)) : List (Call T) :=
  (attempts.filter (!·.fails)).map (·.call)

namespace Call

/-- It says that this process is ready. -/
def SetsReady (p : UInt32) : Call T → Prop
  | .writeRuntimeReady _ daemonPid => daemonPid = p
  | _ => False

/-- It is a call for this process that leaves readiness as it is. -/
def KeepsReady (p : UInt32) : Call T → Prop
  | .write _ daemonPid => daemonPid = some p
  | .writeWithTelemetry _ daemonPid _ => daemonPid = some p
  | _ => False

def SetsTelemetry (t : T) : Call T → Prop
  | .writeWithTelemetry _ _ telemetry => telemetry = t
  | _ => False

def KeepsTelemetry : Call T → Prop
  | .write _ _ => True
  | .writeRuntimeReady _ _ => True
  | _ => False

end Call

/-- The file says that this process is ready. -/
def SaysReady (format : Format T) (file : File) (p : UInt32) : Prop :=
  ∃ status, existing format file = some status ∧ status.daemonPid = some p ∧
    status.runtimeReady = true

/-! ### One call -/

section
variable {format : Format T} (readsBack : format.ReadsBack) {snapshot : StateSnapshot}
  {daemonPid : Option UInt32} {runtimeReady : Bool} {telemetry : Option T} {now : Nat}
  {file : File} {call : Call T} {attempts : List (Attempt T)} {p : UInt32} {t : T}

theorem carriesReady_iff : carriesReady format daemonPid file = true ↔
    ∃ p, daemonPid = some p ∧ SaysReady format file p := by
  simp only [carriesReady, SaysReady, Bool.and_eq_true, Option.any_eq_true, decide_eq_true_eq,
    Option.isSome_iff_exists]
  constructor
  · rintro ⟨⟨p, rfl⟩, status, is, same, ready⟩
    exact ⟨p, rfl, status, is, same, ready⟩
  · rintro ⟨p, rfl, status, is, same, ready⟩
    exact ⟨⟨p, rfl⟩, status, is, same, ready⟩

include readsBack

theorem existing_writeDocument :
    existing format (some (writeDocument format snapshot daemonPid runtimeReady telemetry now)) =
      some ⟨snapshot, daemonPid, daemonPid.isSome, daemonPid.isSome && runtimeReady, now,
        telemetry⟩ :=
  readsBack _

theorem saysReady_writeDocument :
    SaysReady format
        (some (writeDocument format snapshot daemonPid runtimeReady telemetry now)) p ↔
      daemonPid = some p ∧ runtimeReady = true := by
  rw [SaysReady, existing_writeDocument readsBack]
  constructor
  · rintro ⟨status, is, same, ready⟩
    cases is
    exact ⟨same, (Bool.and_eq_true_iff.mp ready).2⟩
  · rintro ⟨rfl, rfl⟩
    exact ⟨_, rfl, rfl, rfl⟩

/-- A call sets readiness, or leaves it as it was. -/
theorem saysReady_content : SaysReady format (some (content format now file call)) p ↔
    call.SetsReady p ∨ call.KeepsReady p ∧ SaysReady format file p := by
  have carried {daemonPid : Option UInt32} :
      daemonPid = some p ∧ carriesReady format daemonPid file = true ↔
        daemonPid = some p ∧ SaysReady format file p := by
    rw [carriesReady_iff]
    constructor
    · rintro ⟨rfl, q, is, ready⟩
      cases is
      exact ⟨rfl, ready⟩
    · rintro ⟨rfl, ready⟩
      exact ⟨rfl, p, rfl, ready⟩
  cases call with
  | write snapshot daemonPid =>
      rw [content, write, saysReady_writeDocument readsBack]
      simpa [Call.SetsReady, Call.KeepsReady] using carried
  | writeWithTelemetry snapshot daemonPid telemetry =>
      rw [content, writeWithTelemetry, saysReady_writeDocument readsBack]
      simpa [Call.SetsReady, Call.KeepsReady] using carried
  | writeRuntimeNotReady snapshot daemonPid =>
      rw [content, writeRuntimeNotReady, saysReady_writeDocument readsBack]
      simp [Call.SetsReady, Call.KeepsReady]
  | writeRuntimeReady snapshot daemonPid =>
      rw [content, writeRuntimeReady, saysReady_writeDocument readsBack]
      simp [Call.SetsReady, Call.KeepsReady]

theorem telemetry_content :
    (existing format (some (content format now file call))).bind (·.telemetry) = some t ↔
      call.SetsTelemetry t ∨
        call.KeepsTelemetry ∧ (existing format file).bind (·.telemetry) = some t := by
  cases call with
  | write snapshot daemonPid =>
      rw [content, write, existing_writeDocument readsBack]
      simp [Call.SetsTelemetry, Call.KeepsTelemetry]
  | writeWithTelemetry snapshot daemonPid telemetry =>
      rw [content, writeWithTelemetry, existing_writeDocument readsBack]
      simp [Call.SetsTelemetry, Call.KeepsTelemetry]
  | writeRuntimeNotReady snapshot daemonPid =>
      rw [content, writeRuntimeNotReady, existing_writeDocument readsBack]
      simp [Call.SetsTelemetry, Call.KeepsTelemetry]
  | writeRuntimeReady snapshot daemonPid =>
      rw [content, writeRuntimeReady, existing_writeDocument readsBack]
      simp [Call.SetsTelemetry, Call.KeepsTelemetry]

/-- What is written can be read, and is ready only for a process. -/
theorem existing_content : ∃ status, existing format (some (content format now file call)) =
    some status ∧ (status.runtimeReady = true → ∃ p, status.daemonPid = some p) := by
  have document : ∃ snapshot daemonPid runtimeReady telemetry, content format now file call =
      writeDocument format snapshot daemonPid runtimeReady telemetry now := by
    cases call with
    | write | writeWithTelemetry | writeRuntimeNotReady | writeRuntimeReady =>
        exact ⟨_, _, _, _, rfl⟩
  obtain ⟨snapshot, daemonPid, runtimeReady, telemetry, is⟩ := document
  rw [is, existing_writeDocument readsBack]
  refine ⟨_, rfl, fun ready => ?_⟩
  exact Option.isSome_iff_exists.mp (Bool.and_eq_true_iff.mp ready).1

/-! ### Any calls -/

omit readsBack in
theorem run_append {attempt : Attempt T} :
    run format file (attempts ++ [attempt]) = step format (run format file attempts) attempt := by
  rw [run, List.foldl_append]
  rfl

omit readsBack in
theorem written_append {attempt : Attempt T} : written (attempts ++ [attempt]) =
    if attempt.fails then written attempts else written attempts ++ [attempt.call] := by
  cases fails : attempt.fails <;> simp [written, List.filter_append, fails]

omit readsBack in
/-- A property of the file that each call sets or leaves as it was has held since a call that set
it. -/
theorem since_run {P : File → Prop} {sets keeps : Call T → Prop}
    (one : ∀ now file call,
      P (some (content format now file call)) ↔ sets call ∨ keeps call ∧ P file) :
    P (run format file attempts) ↔
      Transition.Since sets keeps (P file) (written attempts) := by
  induction attempts using List.reverseRecOn with
  | nil => exact Transition.since_nil.symm
  | append_singleton attempts attempt ih =>
      rw [run_append, written_append, step]
      split
      · exact ih
      · rw [one, Transition.since_append, ih]

theorem run_readable (some_ : written attempts ≠ []) :
    ∃ status, existing format (run format file attempts) = some status ∧
      (status.runtimeReady = true → ∃ p, status.daemonPid = some p) := by
  induction attempts using List.reverseRecOn with
  | nil => exact absurd rfl some_
  | append_singleton attempts attempt ih =>
      rw [run_append, step]
      rw [written_append] at some_
      split
      · rename_i fails
        rw [if_pos fails] at some_
        exact ih some_
      · exact existing_content readsBack

/-- The document behind any calls, of which one was written at least. It is ready if and only if it
is so for its process, and since it was so, by a call or at the beginning, there were only calls for
that process that leave it. Its telemetry is the last that was written, unless it was cleared. -/
theorem persisted_history (written_ : written attempts ≠ []) :
    ∃ status, existing format (run format file attempts) = some status ∧
      (status.runtimeReady = true ↔ ∃ p, status.daemonPid = some p ∧
        Transition.Since (Call.SetsReady p) (Call.KeepsReady p) (SaysReady format file p)
          (written attempts)) ∧
      ∀ t, status.telemetry = some t ↔
        Transition.Since (Call.SetsTelemetry t) Call.KeepsTelemetry
          ((existing format file).bind (·.telemetry) = some t) (written attempts) := by
  have readable : ∃ status, existing format (run format file attempts) = some status ∧
      (status.runtimeReady = true → ∃ p, status.daemonPid = some p) :=
    run_readable readsBack written_
  obtain ⟨status, is, owned⟩ := readable
  refine ⟨status, is, ?_, fun t => ?_⟩
  · have each (p : UInt32) : SaysReady format (run format file attempts) p ↔
        Transition.Since (Call.SetsReady p) (Call.KeepsReady p) (SaysReady format file p)
          (written attempts) :=
      since_run (P := fun file => SaysReady format file p)
        fun now file call => saysReady_content readsBack
    constructor
    · intro ready
      obtain ⟨p, pid⟩ := owned ready
      exact ⟨p, pid, (each p).mp ⟨status, is, pid, ready⟩⟩
    · rintro ⟨p, pid, since⟩
      obtain ⟨status', is', _, ready⟩ := (each p).mpr since
      rw [is] at is'
      cases is'
      exact ready
  · have last : (existing format (run format file attempts)).bind (·.telemetry) = some t ↔
        Transition.Since (Call.SetsTelemetry t) Call.KeepsTelemetry
          ((existing format file).bind (·.telemetry) = some t) (written attempts) :=
      since_run (P := fun file => (existing format file).bind (·.telemetry) = some t)
        fun now file call => telemetry_content readsBack
    rw [← last, is, Option.bind_some]

end

/-! ### A document that is ready -/

/-- The fields of a document without telemetry, as numbers. -/
def fields (document : PersistedStatus Empty) : Nat × Option (List Nat) × Nat × Option (List Nat) ×
    Option Nat × Bool × Bool × Nat :=
  (document.lifecycle.state.ctorIdx, document.lifecycle.sessionId.map (·.toList.map Char.toNat),
    document.lifecycle.missedHeartbeats, document.lifecycle.reason.map (·.toList.map Char.toNat),
    document.daemonPid.map UInt32.toNat, document.daemonRunning, document.runtimeReady,
    document.updatedUnixMs)

theorem fields_injective : Function.Injective fields := by
  have texts : Function.Injective fun text : String => text.toList.map Char.toNat :=
    fun text text' same => String.toList_injective
      (List.map_injective_iff.mpr (fun c c' is => Char.toNat_inj.mp is) same)
  have states : Function.Injective HostState.ctorIdx := by
    intro state state' same
    cases state <;> cases state' <;> first | rfl | cases same
  have pids : Function.Injective UInt32.toNat := fun pid pid' same => UInt32.toNat_inj.mp same
  rintro ⟨⟨state, sessionId, missed, reason⟩, pid, running, ready, updated, telemetry⟩
    ⟨⟨state', sessionId', missed', reason'⟩, pid', running', ready', updated', telemetry'⟩ same
  simp only [fields, Prod.mk.injEq] at same
  obtain ⟨is, id, rfl, why, who, rfl, rfl, rfl⟩ := same
  cases states is
  cases Option.map_injective texts id
  cases Option.map_injective texts why
  cases Option.map_injective pids who
  rcases telemetry with _ | ⟨⟨⟩⟩
  rcases telemetry' with _ | ⟨⟨⟩⟩
  rfl

instance : Countable (PersistedStatus Empty) := fields_injective.countable

def preparing : StateSnapshot := ⟨.preparing, none, 0, none⟩

def readyDocument : PersistedStatus Empty := ⟨preparing, some 7, true, true, 0, none⟩

def readyText : List UInt8 :=
  ("\x7b\n  \"lifecycle\": \x7b\n    \"state\": \"preparing\",\n    \"session_id\": null,\n" ++
    "    \"missed_heartbeats\": 0,\n    \"reason\": null\n  \x7d,\n  \"daemon_pid\": 7,\n" ++
    "  \"daemon_running\": true,\n  \"runtime_ready\": true,\n  \"updated_unix_ms\": 0,\n" ++
    "  \"telemetry\": null\n\x7d").toList.map fun c => c.val.toUInt8

open Classical in
/-- The text of the ready document, and for every other one a text of its own. -/
noncomputable def toSampleText (document : PersistedStatus Empty) : List UInt8 :=
  if document = readyDocument then readyText
  else List.replicate ((exists_injective_nat (PersistedStatus Empty)).choose document) 0

open Classical in
noncomputable def sampleFormat : Format Empty where
  toVecPretty := toSampleText
  fromSlice bytes := if h : ∃ document, toSampleText document = bytes then some h.choose else none

theorem head?_append_text {s t : String} {c : Char} (front : s.toList.head? = some c) :
    (s ++ t).toList.head? = some c := by
  rw [String.toList_append, List.head?_append, front]
  rfl

theorem head?_readyText : readyText.head? = some 123 := by
  have front : List.head? (String.toList
      "\x7b\n  \"lifecycle\": \x7b\n    \"state\": \"preparing\",\n    \"session_id\": null,\n") =
        some '\x7b' := by
    decide +kernel
  exact List.head?_map.trans
    (congrArg _ (head?_append_text (head?_append_text (head?_append_text front))))

theorem toSampleText_injective : Function.Injective toSampleText := by
  have apart (n : Nat) : readyText ≠ List.replicate n 0 := by
    intro same
    have first := head?_readyText
    rw [same, List.head?_replicate] at first
    split at first
    · cases first
    · cases first
  intro document document' same
  rw [toSampleText, toSampleText] at same
  split at same
  · rename_i is
    split at same
    · rename_i is'
      exact is.trans is'.symm
    · exact absurd same (apart _)
  · split at same
    · exact absurd same.symm (apart _)
    · have lengths := congrArg List.length same
      rw [List.length_replicate, List.length_replicate] at lengths
      exact (exists_injective_nat (PersistedStatus Empty)).choose_spec lengths

theorem sampleFormat_readsBack : sampleFormat.ReadsBack := by
  intro document
  have there : ∃ document', toSampleText document' = toSampleText document := ⟨document, rfl⟩
  exact (dif_pos there).trans (congrArg some (toSampleText_injective there.choose_spec))

/-- A process says that it is ready, and writes once more. -/
def readyAttempts : List (Attempt Empty) :=
  [⟨.writeRuntimeReady preparing 7, 0, false⟩, ⟨.write preparing (some 7), 0, false⟩]

theorem ready_persisted :
    existing sampleFormat (run sampleFormat none readyAttempts) = some readyDocument := by
  have first : existing sampleFormat
      (some (writeRuntimeReady sampleFormat preparing 7 0 none)) = some readyDocument :=
    existing_writeDocument sampleFormat_readsBack
  have second : write sampleFormat preparing (some 7) 0
      (some (writeRuntimeReady sampleFormat preparing 7 0 none)) =
        writeDocument sampleFormat preparing (some 7) true none 0 := by
    rw [write, carriesReady, first]
    rfl
  have both : run sampleFormat none readyAttempts = some (write sampleFormat preparing (some 7) 0
      (some (writeRuntimeReady sampleFormat preparing 7 0 none))) := rfl
  rw [both, second]
  exact existing_writeDocument sampleFormat_readsBack

theorem persisted_history_ready :
    existing sampleFormat (run sampleFormat none readyAttempts) = some readyDocument ∧
      (readyDocument.runtimeReady = true ↔ ∃ p, readyDocument.daemonPid = some p ∧
        Transition.Since (Call.SetsReady p) (Call.KeepsReady p) (SaysReady sampleFormat none p)
          (written readyAttempts)) := by
  refine ⟨ready_persisted, ?_⟩
  have some_ : written readyAttempts ≠ [] := by simp [written, readyAttempts]
  obtain ⟨status, is, ready, _⟩ := persisted_history sampleFormat_readsBack some_
  rw [ready_persisted] at is
  cases is
  exact ready

end StateStore
end QuestVdWired.Host
