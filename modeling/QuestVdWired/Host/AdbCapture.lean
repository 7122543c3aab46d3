import QuestVdWired.Host.AdbController
import QuestVdWired.Transition.System
import QuestVdWired.Wire.Utf8
import Mathlib.Data.List.Induction

/-!
The output of an ADB command, from `collect_child_output`. Two threads read the pipes of the
child and send what they read over one channel; the caller appends it, up to a limit, and
waits for both. What it gets of a stream does not depend on how the stream came in.
-/

namespace QuestVdWired.Host.AdbCapture
open Wire Transition

def MAX_ADB_OUTPUT_BYTES : Nat := 1024 * 1024
def OUTPUT_CHANNEL_CAPACITY : Nat := 16

def OUTPUT_TRUNCATED_MARKER : List UInt8 :=
  Utf8.encode "\n[ADB output truncated]\n".toList

inductive OutputStream
  | stdout
  | stderr
  deriving DecidableEq, Repr

inductive OutputEvent
  | chunk (stream : OutputStream) (bytes : List UInt8)
  | finished (stream : OutputStream)
  | failed (stream : OutputStream) (error : String)
  deriving DecidableEq, Repr

structure OutputAccumulator where
  captured : List UInt8
  truncated : Bool
  deriving DecidableEq, Repr

namespace OutputAccumulator

def default : OutputAccumulator := ⟨[], false⟩

def push (accumulator : OutputAccumulator) (bytes : List UInt8) : OutputAccumulator :=
  let remaining := MAX_ADB_OUTPUT_BYTES - accumulator.captured.length
  let retained := min remaining bytes.length
  { captured := accumulator.captured ++ bytes.take retained
    truncated := accumulator.truncated || retained < bytes.length }

def finish (accumulator : OutputAccumulator) : List UInt8 :=
  if accumulator.truncated then
    let retained := MAX_ADB_OUTPUT_BYTES - OUTPUT_TRUNCATED_MARKER.length
    accumulator.captured.take retained ++ OUTPUT_TRUNCATED_MARKER
  else accumulator.captured

end OutputAccumulator

/-- What `apply_output_event` writes to. -/
structure Captures where
  accumulator : OutputStream → OutputAccumulator
  readersDone : OutputStream → Bool

def Captures.default : Captures := ⟨fun _ => .default, fun _ => false⟩

def OutputStream.name : OutputStream → String
  | .stdout => "stdout"
  | .stderr => "stderr"

def applyOutputEvent (captures : Captures) : OutputEvent → Captures × Except AdbError Unit
  | .chunk stream bytes =>
      let accumulator := (captures.accumulator stream).push bytes
      (⟨Function.update captures.accumulator stream accumulator, captures.readersDone⟩, .ok ())
  | .finished stream =>
      (⟨captures.accumulator, Function.update captures.readersDone stream true⟩, .ok ())
  | .failed stream error =>
      (⟨captures.accumulator, Function.update captures.readersDone stream true⟩,
        .error (.read ("ADB " ++ stream.name ++ " capture failed: " ++ error)))

/-- Where the thread of `stream_output` stands. -/
inductive Reader
  | starting
  | reading
  /-- bytes were read, and `cancelled` is checked again -/
  | checking (bytes : List UInt8)
  /-- the event waits for room in the channel -/
  | sending (event : OutputEvent)
  | returned
  deriving DecidableEq, Repr

/-- The bytes of the output before they are decoded with `from_utf8_lossy`. -/
structure Collected where
  status : Int
  stdout : List UInt8
  stderr : List UInt8
  deriving DecidableEq, Repr

structure Collection where
  /-- what a reader has not read of the stream of the child -/
  pipe : OutputStream → List UInt8
  reader : OutputStream → Reader
  cancelled : Bool
  channel : List OutputEvent
  captures : Captures
  result : Option (Except AdbError Collected)

/-- A step of a reader, or of the caller. -/
inductive Turn
  | check (stream : OutputStream)
  | read (stream : OutputStream) (length : Nat)
  | readFails (stream : OutputStream) (error : String)
  | send (stream : OutputStream)
  | receive
  | exited (status : Int) (disarmed : Except String Unit)
  | disconnected
  | waitFails (error : String)
  | timeout (limit : Nat)

namespace Collection

def move (c : Collection) (stream : OutputStream) (reader : Reader) : Collection :=
  { c with reader := Function.update c.reader stream reader }

/-- `terminate_child_tree`, which cancels the readers, and the error. -/
def abort (c : Collection) (error : AdbError) : Collection :=
  { c with cancelled := true, result := some (.error error) }

/-- The loop of `stream_output` up to the next call or check. -/
def check (c : Collection) (stream : OutputStream) : Option Collection :=
  match c.reader stream with
  | .starting => some (c.move stream (if c.cancelled then .returned else .reading))
  | .checking bytes =>
      some (c.move stream (if c.cancelled then .returned else .sending (.chunk stream bytes)))
  | _ => none

/-- A call of `read` returns some bytes that fit the buffer, or none at the end. -/
def read (c : Collection) (stream : OutputStream) (length : Nat) : Option Collection :=
  if c.reader stream = .reading then
    if c.pipe stream = [] then some (c.move stream (.sending (.finished stream)))
    else if 0 < length ∧ length ≤ 16 * 1024 ∧ length ≤ (c.pipe stream).length then
      some { c.move stream (.checking ((c.pipe stream).take length)) with
        pipe := Function.update c.pipe stream ((c.pipe stream).drop length) }
    else none
  else none

def readFails (c : Collection) (stream : OutputStream) (error : String) : Option Collection :=
  if c.reader stream = .reading then some (c.move stream (.sending (.failed stream error)))
  else none

/-- `send` fails once the caller has returned. -/
def send (c : Collection) (stream : OutputStream) : Option Collection :=
  match c.reader stream with
  | .sending event =>
      if c.result.isSome then some (c.move stream .returned)
      else if c.channel.length < OUTPUT_CHANNEL_CAPACITY then
        let after := match event with
          | .chunk _ _ => .starting
          | _ => .returned
        some { c.move stream after with channel := c.channel ++ [event] }
      else none
  | _ => none

def receive (c : Collection) : Option Collection :=
  match c.channel with
  | [] => none
  | event :: channel =>
      let (captures, applied) := applyOutputEvent c.captures event
      let c := { c with channel := channel, captures := captures }
      match applied with
      | .ok () => some c
      | .error error => some (c.abort error)

/-- The child has exited and both readers are done. -/
def exited (c : Collection) (status : Int) (disarmed : Except String Unit) :
    Option Collection :=
  if c.captures.readersDone .stdout ∧ c.captures.readersDone .stderr then
    match disarmed with
    | .error error => some { c with result := some (.error (.containment error)) }
    | .ok () =>
        some { c with result := some (.ok {
          status := status
          stdout := (c.captures.accumulator .stdout).finish
          stderr := (c.captures.accumulator .stderr).finish }) }
  else none

/-- Both senders are gone before the readers have reported their end. -/
def disconnected (c : Collection) : Option Collection :=
  if c.channel = [] ∧ c.reader .stdout = .returned ∧ c.reader .stderr = .returned ∧
      ¬ (c.captures.readersDone .stdout ∧ c.captures.readersDone .stderr) then
    some (c.abort (.read "ADB output reader stopped without reporting completion"))
  else none

/-- The caller takes no step behind its result. -/
def running (c : Collection) (step : Collection → Option Collection) : Option Collection :=
  if c.result.isSome then none else step c

def step : Turn → Collection → Option Collection
  | .check stream, c => c.check stream
  | .read stream length, c => c.read stream length
  | .readFails stream error, c => c.readFails stream error
  | .send stream, c => c.send stream
  | .receive, c => c.running receive
  | .exited status disarmed, c => c.running (exited · status disarmed)
  | .disconnected, c => c.running disconnected
  | .waitFails error, c => c.running fun c => some (c.abort (.wait error))
  | .timeout limit, c => c.running fun c => some (c.abort (.timeout limit))

end Collection

/-- The threads and their caller over a child that writes these streams. -/
def collection (output : OutputStream → List UInt8) : System Collection Turn where
  init := ⟨output, fun _ => .starting, false, [], .default, none⟩
  step := Collection.step

/-! ### What is kept of a stream -/

/-- A stream that fits, or its beginning with the marker behind it. -/
def bounded (bytes : List UInt8) : List UInt8 :=
  if bytes.length ≤ MAX_ADB_OUTPUT_BYTES then bytes
  else bytes.take (MAX_ADB_OUTPUT_BYTES - OUTPUT_TRUNCATED_MARKER.length) ++
    OUTPUT_TRUNCATED_MARKER

theorem marker_length_le : OUTPUT_TRUNCATED_MARKER.length ≤ MAX_ADB_OUTPUT_BYTES := by
  decide +kernel

theorem bounded_length_le (bytes : List UInt8) :
    (bounded bytes).length ≤ MAX_ADB_OUTPUT_BYTES := by
  have marker := marker_length_le
  unfold bounded
  split
  · assumption
  · rw [List.length_append, List.length_take]
    omega

/-- The accumulator after some bytes, however these were cut. -/
structure Captured (bytes : List UInt8) (accumulator : OutputAccumulator) : Prop where
  captured : accumulator.captured = bytes.take MAX_ADB_OUTPUT_BYTES
  truncated : accumulator.truncated = true ↔ MAX_ADB_OUTPUT_BYTES < bytes.length

theorem captured_default : Captured [] .default := by
  refine ⟨rfl, ?_⟩
  simp [OutputAccumulator.default]

theorem Captured.push {bytes : List UInt8} {accumulator : OutputAccumulator}
    (captured : Captured bytes accumulator) (more : List UInt8) :
    Captured (bytes ++ more) (accumulator.push more) := by
  have taken : (bytes.take MAX_ADB_OUTPUT_BYTES).length =
      min MAX_ADB_OUTPUT_BYTES bytes.length := List.length_take
  have room : MAX_ADB_OUTPUT_BYTES - min MAX_ADB_OUTPUT_BYTES bytes.length =
      MAX_ADB_OUTPUT_BYTES - bytes.length := by omega
  refine ⟨?_, ?_⟩
  · rw [OutputAccumulator.push, captured.captured, taken, room, List.take_append,
      List.take_eq_take_min]
    simp
  · rw [OutputAccumulator.push, captured.captured, taken, room]
    simp only [Bool.or_eq_true, decide_eq_true_eq, captured.truncated, List.length_append]
    omega

theorem Captured.finish {bytes : List UInt8} {accumulator : OutputAccumulator}
    (captured : Captured bytes accumulator) : accumulator.finish = bounded bytes := by
  unfold OutputAccumulator.finish bounded
  by_cases fits : bytes.length ≤ MAX_ADB_OUTPUT_BYTES
  · have whole : ¬ accumulator.truncated = true := by
      rw [captured.truncated]
      exact Nat.not_lt_of_le fits
    rw [if_neg whole, if_pos fits, captured.captured, List.take_of_length_le fits]
  · have cut : accumulator.truncated = true := captured.truncated.mpr (Nat.lt_of_not_le fits)
    rw [if_pos cut, if_neg fits, captured.captured]
    simp only [List.take_take, Nat.min_eq_left (Nat.sub_le _ _)]

namespace OutputEvent

def stream : OutputEvent → OutputStream
  | chunk stream _ => stream
  | finished stream => stream
  | failed stream _ => stream

def bytes : OutputEvent → List UInt8
  | chunk _ bytes => bytes
  | _ => []

end OutputEvent

/-- The events of one stream, in their order. -/
def events (stream : OutputStream) (channel : List OutputEvent) : List OutputEvent :=
  channel.filter (·.stream = stream)

def contents (channel : List OutputEvent) : List UInt8 :=
  channel.flatMap OutputEvent.bytes

theorem contents_append {l l' : List OutputEvent} :
    contents (l ++ l') = contents l ++ contents l' :=
  List.flatMap_append

theorem contents_cons {event : OutputEvent} {channel : List OutputEvent} :
    contents (event :: channel) = event.bytes ++ contents channel :=
  List.flatMap_cons

theorem contents_events {stream : OutputStream} {event : OutputEvent} (none : event.bytes = []) :
    contents (events stream [event]) = [] := by
  by_cases own : event.stream = stream
  · simp [events, own, contents, none]
  · simp [events, own, contents]

theorem captured_apply {captures : Captures} {stream : OutputStream} {bytes : List UInt8}
    (captured : Captured bytes (captures.accumulator stream)) (event : OutputEvent) :
    Captured (bytes ++ contents (events stream [event]))
      ((applyOutputEvent captures event).1.accumulator stream) := by
  cases event with
  | chunk own more =>
      by_cases same : own = stream
      · subst same
        simpa [applyOutputEvent, events, OutputEvent.stream, contents, OutputEvent.bytes] using
          captured.push more
      · simpa [applyOutputEvent, events, OutputEvent.stream, contents, same,
          Function.update_of_ne (Ne.symm same)] using captured
  | finished own =>
      rw [contents_events rfl, List.append_nil]
      exact captured
  | failed own error =>
      rw [contents_events rfl, List.append_nil]
      exact captured

/-- The events of both streams in any order and any pieces. -/
theorem captured_foldl (stream : OutputStream) (channel : List OutputEvent) :
    Captured (contents (events stream channel))
      ((channel.foldl (fun captures event => (applyOutputEvent captures event).1)
        .default).accumulator stream) := by
  induction channel using List.reverseRecOn with
  | nil => exact captured_default
  | append_singleton channel event ih =>
      rw [List.foldl_append, events, List.filter_append, contents_append]
      exact captured_apply ih event

/-! ### The threads -/

namespace Reader

/-- Bytes that were read and not sent. -/
def held : Reader → List UInt8
  | checking bytes => bytes
  | sending event => event.bytes
  | _ => []

end Reader

/-- A stream on its way, as long as the readers are not cancelled: nothing is lost or
reordered between the pipe and the accumulator, and its end comes last. -/
structure Flow (stream : OutputStream) (whole : List UInt8) (accumulator : OutputAccumulator)
    (done : Bool) (queue : List OutputEvent) (reader : Reader) (pipe : List UInt8) : Prop where
  own : ∀ event, reader = .sending event → event.stream = stream
  bytes : ∃ pushed, Captured pushed accumulator ∧
    pushed ++ (contents queue ++ (reader.held ++ pipe)) = whole
  closed : done = true ∨ .finished stream ∈ queue ∨ reader = .sending (.finished stream) →
    pipe = [] ∧ (reader = .sending (.finished stream) ∨ reader = .returned)
  last : ∀ before after, queue = before ++ .finished stream :: after → contents after = []
  drained : done = true → contents queue = []

namespace Flow
variable {stream : OutputStream} {whole pipe : List UInt8} {accumulator : OutputAccumulator}
  {done : Bool} {queue : List OutputEvent} {reader : Reader}

theorem start : Flow stream whole .default false [] .starting whole := by
  refine ⟨?_, ⟨[], captured_default, rfl⟩, ?_, ?_, ?_⟩
  · intro event sending
    cases sending
  · rintro (isDone | mem | sending)
    · cases isDone
    · cases mem
    · cases sending
  · intro before after split
    simp at split
  · intro isDone
    cases isDone

/-- A reader that goes on with what it holds, or with a part of what is left in the pipe. -/
theorem goOn {reader' : Reader} {pipe' : List UInt8}
    (flow : Flow stream whole accumulator done queue reader pipe)
    (open_ : reader ≠ .returned ∧ reader ≠ .sending (.finished stream))
    (same : reader'.held ++ pipe' = reader.held ++ pipe)
    (own : ∀ event, reader' = .sending event → event.stream = stream)
    (ends : reader' = .sending (.finished stream) → pipe' = []) :
    Flow stream whole accumulator done queue reader' pipe' := by
  refine ⟨own, ?_, ?_, flow.last, flow.drained⟩
  · obtain ⟨pushed, captured, split⟩ := flow.bytes
    exact ⟨pushed, captured, by rw [same, split]⟩
  · rintro (isDone | mem | sending)
    · exact absurd (flow.closed (.inl isDone)).2 (by simp [open_])
    · exact absurd (flow.closed (.inr (.inl mem))).2 (by simp [open_])
    · exact ⟨ends sending, .inl sending⟩

/-- The held event goes to the end of the queue. -/
theorem send {event : OutputEvent} {reader' : Reader}
    (flow : Flow stream whole accumulator done queue (.sending event) pipe)
    (idle : reader'.held = []) (own : ∀ event, reader' ≠ .sending event)
    (ends : event = .finished stream → reader' = .returned) :
    Flow stream whole accumulator done (queue ++ [event]) reader' pipe := by
  have finishes : done = true ∨ .finished stream ∈ queue ∨ event = .finished stream →
      event = .finished stream := by
    intro closing
    have closed := flow.closed (closing.imp id (Or.imp id (congrArg Reader.sending)))
    simpa using closed.2
  refine ⟨fun event' sending => absurd sending (own event'), ?_, ?_, ?_, ?_⟩
  · obtain ⟨pushed, captured, split⟩ := flow.bytes
    refine ⟨pushed, captured, ?_⟩
    rw [contents_append, contents_cons, idle, List.nil_append, ← split]
    simp [contents, Reader.held]
  · intro closing
    have ended : event = .finished stream := by
      rcases closing with isDone | mem | sending
      · exact finishes (.inl isDone)
      · rcases List.mem_append.mp mem with earlier | now
        · exact finishes (.inr (.inl earlier))
        · exact (List.mem_singleton.mp now).symm
      · exact absurd sending (own _)
    exact ⟨(flow.closed (.inr (.inr (congrArg Reader.sending ended)))).1, .inr (ends ended)⟩
  · intro before after split
    rcases List.eq_nil_or_concat after with rfl | ⟨after', last, rfl⟩
    · rfl
    · rw [List.concat_eq_append, ← List.cons_append, ← List.append_assoc] at split
      obtain ⟨earlier, same⟩ := List.append_inj' split rfl
      have ended := finishes (.inr (.inl (by rw [earlier]; simp)))
      rw [List.concat_eq_append, contents_append, flow.last before after' earlier, ← same, ended]
      rfl
  · intro isDone
    rw [contents_append, flow.drained isDone, finishes (.inl isDone)]
    rfl

/-- The first event of the queue is applied. -/
theorem receive {event : OutputEvent} {accumulator' : OutputAccumulator}
    (flow : Flow stream whole accumulator done (event :: queue) reader pipe)
    (pushes : ∀ pushed, Captured pushed accumulator →
      Captured (pushed ++ event.bytes) accumulator') :
    Flow stream whole accumulator' (done || event = .finished stream) queue reader pipe := by
  have isDone : (done || decide (event = .finished stream)) = true →
      done = true ∨ event = .finished stream := by
    simp
  refine ⟨flow.own, ?_, ?_, ?_, ?_⟩
  · obtain ⟨pushed, captured, split⟩ := flow.bytes
    refine ⟨pushed ++ event.bytes, pushes pushed captured, ?_⟩
    rw [← split, contents_cons, List.append_assoc, List.append_assoc]
  · rintro (now | mem | sending)
    · rcases isDone now with before | ended
      · exact flow.closed (.inl before)
      · exact flow.closed (.inr (.inl (ended ▸ List.mem_cons_self)))
    · exact flow.closed (.inr (.inl (List.mem_cons_of_mem _ mem)))
    · exact flow.closed (.inr (.inr sending))
  · intro before after split
    exact flow.last (event :: before) after (by rw [split]; rfl)
  · intro now
    rcases isDone now with before | ended
    · have empty := flow.drained before
      rw [contents_cons] at empty
      exact (List.append_eq_nil_iff.mp empty).2
    · exact flow.last [] queue (by rw [ended]; rfl)

/-- A reader whose end has arrived only returns. -/
theorem leave (flow : Flow stream whole accumulator true queue reader pipe) :
    Flow stream whole accumulator true queue .returned pipe := by
  obtain ⟨empty, ended⟩ := flow.closed (.inl rfl)
  refine ⟨?_, ?_, fun _ => ⟨empty, .inr rfl⟩, flow.last, flow.drained⟩
  · intro event sending
    cases sending
  · obtain ⟨pushed, captured, split⟩ := flow.bytes
    refine ⟨pushed, captured, ?_⟩
    rw [← split]
    rcases ended with rfl | rfl <;> rfl

/-- All of a stream has arrived once its end has. -/
theorem complete (flow : Flow stream whole accumulator true queue reader pipe) :
    accumulator.finish = bounded whole := by
  obtain ⟨pushed, captured, split⟩ := flow.bytes
  obtain ⟨empty, ended⟩ := flow.closed (.inl rfl)
  have nothing : reader.held = [] := by
    rcases ended with rfl | rfl <;> rfl
  rw [flow.drained rfl, nothing, empty, List.append_nil, List.append_nil, List.append_nil] at split
  rw [captured.finish, split]

end Flow

section Runs
variable {output : OutputStream → List UInt8} {c c' : Collection} {stream : OutputStream}

/-- A collection that nothing has stopped: every stream flows, and a result came behind the
end of both. -/
structure Going (output : OutputStream → List UInt8) (c : Collection) : Prop where
  cancelled : c.cancelled = false
  flow : ∀ stream, Flow stream (output stream) (c.captures.accumulator stream)
    (c.captures.readersDone stream) (events stream c.channel) (c.reader stream) (c.pipe stream)
  done : c.result.isSome → ∀ stream, c.captures.readersDone stream = true
  kept : ∀ collected, c.result = some (.ok collected) →
    collected.stdout = bounded (output .stdout) ∧ collected.stderr = bounded (output .stderr)

def Stopped (c : Collection) : Prop :=
  c.cancelled = true ∧ ∃ error, c.result = some (.error error)

theorem going_init : Going output (collection output).init := by
  refine ⟨rfl, fun stream => Flow.start, ?_, ?_⟩
  · intro some_
    cases some_
  · intro collected some_
    cases some_

/-- What a step of a reader changes: its own place, its pipe, and the end of the channel. -/
structure ReaderStep (stream : OutputStream) (c c' : Collection) : Prop where
  cancelled : c'.cancelled = c.cancelled
  result : c'.result = c.result
  captures : c'.captures = c.captures
  others : ∀ other, other ≠ stream → events other c'.channel = events other c.channel ∧
    c'.reader other = c.reader other ∧ c'.pipe other = c.pipe other

theorem ReaderStep.going (step : ReaderStep stream c c') (going : Going output c)
    (own : Flow stream (output stream) (c.captures.accumulator stream)
      (c.captures.readersDone stream) (events stream c'.channel) (c'.reader stream)
      (c'.pipe stream)) : Going output c' := by
  refine ⟨step.cancelled.trans going.cancelled, ?_, ?_, ?_⟩
  · intro other
    rw [step.captures]
    by_cases same : other = stream
    · rw [same]
      exact own
    · obtain ⟨queue, reader, pipe⟩ := step.others other same
      rw [queue, reader, pipe]
      exact going.flow other
  · rw [step.result, step.captures]
    exact going.done
  · rw [step.result]
    exact going.kept

/-- A collection goes on, or it was stopped and stays as it is to its caller. -/
def Keeps (output : OutputStream → List UInt8) (c c' : Collection) : Prop :=
  (Going output c → Going output c') ∧ (Stopped c → Stopped c')

theorem keeps_stopped (cancelled : c'.cancelled = c.cancelled) (result : c'.result = c.result) :
    Stopped c → Stopped c' := by
  intro stopped
  rw [Stopped, cancelled, result]
  exact stopped

/-- The reader takes another place while its pipe stays as it is. -/
theorem going_move {reader : Reader} (going : Going output c)
    (own : Flow stream (output stream) (c.captures.accumulator stream)
      (c.captures.readersDone stream) (events stream c.channel) reader (c.pipe stream)) :
    Going output (c.move stream reader) := by
  have step : ReaderStep stream c (c.move stream reader) :=
    ⟨rfl, rfl, rfl, fun _ other => ⟨rfl, Function.update_of_ne other _ _, rfl⟩⟩
  have place : (c.move stream reader).reader stream = reader := Function.update_self ..
  refine step.going going ?_
  rw [place]
  exact own

theorem check_keeps (taken : c.check stream = some c') : Keeps output c c' := by
  unfold Collection.check at taken
  split at taken
  · rename_i starting
    cases taken
    refine ⟨fun going => going_move going ?_, keeps_stopped rfl rfl⟩
    rw [going.cancelled]
    refine (going.flow stream).goOn ?_ ?_ ?_ ?_ <;> simp [starting, Reader.held]
  · rename_i bytes checking
    cases taken
    refine ⟨fun going => going_move going ?_, keeps_stopped rfl rfl⟩
    rw [going.cancelled]
    refine (going.flow stream).goOn ?_ ?_ ?_ ?_ <;>
      simp [checking, Reader.held, OutputEvent.bytes, OutputEvent.stream]
  · cases taken

theorem read_keeps {length : Nat} (taken : c.read stream length = some c') :
    Keeps output c c' := by
  unfold Collection.read at taken
  split at taken
  · rename_i reading
    split at taken
    · rename_i empty
      cases taken
      refine ⟨fun going => going_move going ?_, keeps_stopped rfl rfl⟩
      refine (going.flow stream).goOn ?_ ?_ ?_ ?_ <;>
        simp [reading, empty, Reader.held, OutputEvent.bytes, OutputEvent.stream]
    · split at taken
      · cases taken
        refine ⟨fun going => ?_, keeps_stopped rfl rfl⟩
        refine ReaderStep.going (?_ : ReaderStep stream c _) going ?_
        · refine ⟨rfl, rfl, rfl, fun other ne => ⟨rfl, ?_, ?_⟩⟩
          · exact Function.update_of_ne ne _ _
          · exact Function.update_of_ne ne _ _
        · refine (going.flow stream).goOn ?_ ?_ ?_ ?_ <;>
            simp [reading, Reader.held, Collection.move]
      · cases taken
  · cases taken

theorem readFails_keeps {error : String} (taken : c.readFails stream error = some c') :
    Keeps output c c' := by
  unfold Collection.readFails at taken
  split at taken
  · rename_i reading
    cases taken
    refine ⟨fun going => going_move going ?_, keeps_stopped rfl rfl⟩
    refine (going.flow stream).goOn ?_ ?_ ?_ ?_ <;>
      simp [reading, Reader.held, OutputEvent.bytes, OutputEvent.stream]
  · cases taken

theorem send_keeps (taken : c.send stream = some c') : Keeps output c c' := by
  unfold Collection.send at taken
  split at taken
  · rename_i event sending
    split at taken
    · rename_i decided
      cases taken
      refine ⟨fun going => going_move going ?_, keeps_stopped rfl rfl⟩
      have flow := going.flow stream
      rw [going.done decided stream] at flow ⊢
      exact flow.leave
    · split at taken
      · cases taken
        refine ⟨fun going => ?_, keeps_stopped rfl rfl⟩
        have flow := going.flow stream
        have own : event.stream = stream := flow.own event sending
        refine ReaderStep.going (?_ : ReaderStep stream c _) going ?_
        · refine ⟨rfl, rfl, rfl, fun other ne => ⟨?_, Function.update_of_ne ne _ _, rfl⟩⟩
          simp [events, own, Ne.symm ne]
        · rw [sending] at flow
          have sent :
              events stream (c.channel ++ [event]) = events stream c.channel ++ [event] := by
            simp [events, own]
          rw [sent]
          simp only [Collection.move, Function.update_self]
          cases event with
          | chunk => exact flow.send rfl (by simp) (by simp)
          | finished | failed => exact flow.send rfl (by simp) (by simp)
      · cases taken
  · cases taken

theorem stopped_abort (error : AdbError) : Stopped (c.abort error) :=
  ⟨rfl, error, rfl⟩

theorem events_cons {event : OutputEvent} {channel : List OutputEvent} :
    events stream (event :: channel) =
      if event.stream = stream then event :: events stream channel else events stream channel := by
  by_cases own : event.stream = stream
  · simp [events, own]
  · simp [events, own]

theorem readersDone_apply {captures : Captures} {event : OutputEvent}
    (applied : (applyOutputEvent captures event).2 = .ok ()) (stream : OutputStream) :
    (applyOutputEvent captures event).1.readersDone stream =
      (captures.readersDone stream || event = .finished stream) := by
  cases event with
  | chunk => simp [applyOutputEvent]
  | finished own =>
      by_cases same : own = stream
      · simp [applyOutputEvent, same]
      · simp [applyOutputEvent, same, Function.update_of_ne (Ne.symm same)]
  | failed => cases applied

/-- An event is applied to its stream and to no other. -/
theorem accumulator_apply {captures : Captures} {event : OutputEvent}
    (other : event.stream ≠ stream) :
    (applyOutputEvent captures event).1.accumulator stream = captures.accumulator stream := by
  cases event with
  | chunk => exact Function.update_of_ne (Ne.symm other) _ _
  | finished | failed => rfl

theorem flow_apply {event : OutputEvent} {channel : List OutputEvent} (going : Going output c)
    (first : c.channel = event :: channel)
    (applied : (applyOutputEvent c.captures event).2 = .ok ()) (stream : OutputStream) :
    Flow stream (output stream) ((applyOutputEvent c.captures event).1.accumulator stream)
      ((applyOutputEvent c.captures event).1.readersDone stream) (events stream channel)
      (c.reader stream) (c.pipe stream) := by
  have flow := going.flow stream
  rw [first, events_cons] at flow
  rw [readersDone_apply applied]
  by_cases own : event.stream = stream
  · rw [if_pos own] at flow
    refine flow.receive fun pushed captured => ?_
    have pushes := captured_apply captured event
    simpa [events, own, contents] using pushes
  · rw [if_neg own] at flow
    have other : event ≠ .finished stream := by
      rintro rfl
      exact own rfl
    rw [accumulator_apply own, decide_eq_false other, Bool.or_false]
    exact flow

theorem receive_keeps (running : c.result = none) (taken : c.receive = some c')
    (going : Going output c) : Going output c' ∨ Stopped c' := by
  unfold Collection.receive at taken
  split at taken
  · cases taken
  · rename_i event channel first
    simp only at taken
    split at taken
    · rename_i applied
      cases taken
      refine .inl ⟨going.cancelled, flow_apply going first applied, ?_, ?_⟩
      · intro some_
        simp [running] at some_
      · intro collected ok
        simp [running] at ok
    · cases taken
      exact .inr (stopped_abort _)

theorem exited_keeps {status : Int} {disarmed : Except String Unit}
    (taken : c.exited status disarmed = some c') (going : Going output c) : Going output c' := by
  unfold Collection.exited at taken
  split at taken
  · rename_i both
    have done : ∀ stream, c.captures.readersDone stream = true := by
      intro stream
      cases stream
      · exact both.1
      · exact both.2
    have finish : ∀ stream, (c.captures.accumulator stream).finish = bounded (output stream) := by
      intro stream
      have flow := going.flow stream
      rw [done stream] at flow
      exact flow.complete
    split at taken
    · cases taken
      refine ⟨going.cancelled, going.flow, fun _ => done, ?_⟩
      intro collected ok
      cases ok
    · cases taken
      refine ⟨going.cancelled, going.flow, fun _ => done, ?_⟩
      intro collected ok
      cases ok
      exact ⟨finish .stdout, finish .stderr⟩
  · cases taken

theorem running_eq_some {step : Collection → Option Collection} :
    c.running step = some c' ↔ c.result = none ∧ step c = some c' := by
  unfold Collection.running
  cases c.result <;> simp

theorem step_keeps {turn : Turn} (before : Going output c ∨ Stopped c)
    (taken : Collection.step turn c = some c') : Going output c' ∨ Stopped c' := by
  have reader : Keeps output c c' → Going output c' ∨ Stopped c' :=
    fun keeps => before.imp keeps.1 keeps.2
  -- The caller acts before its result only, so nothing has stopped the readers.
  have going : c.result = none → Going output c := by
    intro running
    refine before.resolve_right ?_
    rintro ⟨-, error, stopped⟩
    rw [running] at stopped
    cases stopped
  cases turn <;> simp only [Collection.step] at taken
  case check => exact reader (check_keeps taken)
  case read => exact reader (read_keeps taken)
  case readFails => exact reader (readFails_keeps taken)
  case send => exact reader (send_keeps taken)
  case receive =>
      obtain ⟨running, taken⟩ := running_eq_some.mp taken
      exact receive_keeps running taken (going running)
  case exited =>
      obtain ⟨running, taken⟩ := running_eq_some.mp taken
      exact .inl (exited_keeps taken (going running))
  case disconnected =>
      obtain ⟨-, taken⟩ := running_eq_some.mp taken
      unfold Collection.disconnected at taken
      split at taken
      · cases taken
        exact .inr (stopped_abort _)
      · cases taken
  case waitFails | timeout =>
      obtain ⟨-, taken⟩ := running_eq_some.mp taken
      cases taken
      exact .inr (stopped_abort _)

theorem going_or_stopped (reached : (collection output).Reachable Free c) :
    Going output c ∨ Stopped c :=
  reached.invariant (I := fun c => Going output c ∨ Stopped c) (.inl going_init)
    fun _ _ _ before _ taken => step_keeps before taken

theorem collected_bounded (reached : (collection output).Reachable Free c)
    {collected : Collected} (ok : c.result = some (.ok collected)) :
    collected.stdout = bounded (output .stdout) ∧ collected.stderr = bounded (output .stderr) := by
  rcases going_or_stopped reached with going | ⟨-, error, stopped⟩
  · exact going.kept collected ok
  · rw [ok] at stopped
    cases stopped

end Runs

/-- What is captured of a stream. However the events of the two streams are mixed and
however their bytes are cut into pieces, the capture is a function of the bytes of the
stream: the stream, or its beginning with the marker, and never more than the limit. So is
what the command returns, over every run of the readers and their caller. -/
theorem capture_chunk_independent :
    (∀ (channel : List OutputEvent) (stream : OutputStream),
      let captures := channel.foldl (fun captures event => (applyOutputEvent captures event).1)
        .default
      (captures.accumulator stream).finish = bounded (contents (events stream channel)) ∧
        ((captures.accumulator stream).truncated = true →
          OUTPUT_TRUNCATED_MARKER <:+ (captures.accumulator stream).finish)) ∧
    (∀ output c, (collection output).Reachable Free c →
      ∀ collected, c.result = some (.ok collected) →
        collected.stdout = bounded (output .stdout) ∧
          collected.stderr = bounded (output .stderr)) ∧
    (∀ bytes, bytes.length ≤ MAX_ADB_OUTPUT_BYTES → bounded bytes = bytes) ∧
    (∀ bytes, MAX_ADB_OUTPUT_BYTES < bytes.length → bounded bytes =
      bytes.take (MAX_ADB_OUTPUT_BYTES - OUTPUT_TRUNCATED_MARKER.length) ++
        OUTPUT_TRUNCATED_MARKER) ∧
    ∀ bytes, (bounded bytes).length ≤ MAX_ADB_OUTPUT_BYTES := by
  refine ⟨?_, ?_, ?_, ?_, bounded_length_le⟩
  · intro channel stream captures
    have captured := captured_foldl stream channel
    refine ⟨captured.finish, fun truncated => ?_⟩
    have long := captured.truncated.mp truncated
    rw [captured.finish, bounded, if_neg (Nat.not_le_of_lt long)]
    exact List.suffix_append _ _
  · intro output c reached collected ok
    exact collected_bounded reached ok
  · intro bytes fits
    exact if_pos fits
  · intro bytes long
    exact if_neg (Nat.not_le_of_lt long)

/-- A short output in two pieces over the threads, and one byte too many. -/
theorem capture_chunk_independent_run :
    (∃ c collected,
      (collection fun stream => if stream = .stdout then [79, 75, 10] else []).Reachable Free c ∧
        c.result = some (.ok collected) ∧ collected.stdout = [79, 75, 10]) ∧
    bounded (List.replicate (MAX_ADB_OUTPUT_BYTES + 1) 120) =
      List.replicate (MAX_ADB_OUTPUT_BYTES - OUTPUT_TRUNCATED_MARKER.length) 120 ++
        OUTPUT_TRUNCATED_MARKER := by
  obtain ⟨-, runs, short, cut, -⟩ := capture_chunk_independent
  refine ⟨?_, ?_⟩
  · have replay : ∃ c collected,
        (collection fun stream => if stream = .stdout then [79, 75, 10] else []).replay Free
          (collection fun stream => if stream = .stdout then [79, 75, 10] else []).init
          [.check .stdout, .read .stdout 2, .check .stderr, .check .stdout, .send .stdout,
            .read .stderr 0, .receive, .check .stdout, .read .stdout 1, .send .stderr,
            .check .stdout, .send .stdout, .check .stdout, .receive, .read .stdout 0, .receive,
            .send .stdout, .receive, .exited 0 (.ok ())] = some c ∧
          c.result = some (.ok collected) := ⟨_, _, rfl, rfl⟩
    obtain ⟨c, collected, replay, ok⟩ := replay
    have reached := System.reachable_of_replay _ replay
    have whole := (runs _ c reached collected ok).1
    exact ⟨c, collected, reached, ok, whole.trans (short _ (by decide))⟩
  · rw [cut _ (by rw [List.length_replicate]; exact Nat.lt_succ_self _), List.take_replicate,
      Nat.min_eq_left (Nat.le_succ_of_le (Nat.sub_le _ _))]

end QuestVdWired.Host.AdbCapture
