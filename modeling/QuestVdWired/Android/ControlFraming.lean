import QuestVdWired.Android.ControlLoop

/-!
The frames the loop processes when its socket times out between, or inside, them. A read that
is cut short takes its part of the frame with it, so the loop keeps in step with the stream
exactly as long as every timeout that still has bytes to come falls between two frames.
-/

namespace QuestVdWired.Android
open Wire

/-- What the host sends after the handshake. -/
def HostFrame (session : UUID) (frame : Gnr4Frame) : Prop :=
  frame.sessionId = session ∧ frame.payload.length ≤ Gnr4.MAX_PAYLOAD ∧
    (frame.type = .heartbeat ∧ frame.payload.length = 16 ∨ frame.type = .status ∨
      frame.type = .suspended ∨ frame.type = .stop)

/-- A list of them. The peer's side of the connection ends with a STOP. -/
def HostFrames (session : UUID) : List Gnr4Frame → Prop
  | [] => True
  | frame :: frames =>
      HostFrame session frame ∧ (frame.type = .stop → frames = []) ∧ HostFrames session frames

/-- All that is still to come. -/
def remaining (later : List (Expiry × List UInt8)) : List UInt8 :=
  (later.map Prod.snd).flatten

/-- The bytes end where a frame of the list ends. -/
def Boundary (frames : List Gnr4Frame) (bytes : List UInt8) : Prop :=
  ∃ done rest, frames = done ++ rest ∧ encodeMany Gnr4.write done = .ok bytes

/-- Every expiry with bytes still to come finds the loop between two frames, and paused or
without a wake to confirm. `seen` has arrived before the first one. -/
def Harmless (frames : List Gnr4Frame) : List UInt8 → List (Expiry × List UInt8) → Prop
  | _, [] => True
  | seen, (expiry, bytes) :: later =>
      (bytes ++ remaining later ≠ [] →
        (expiry.paused = true ∨ expiry.wakePending = false) ∧ Boundary frames seen) ∧
      Harmless frames (seen ++ bytes) later

/-- Never three expiries in a row, those that find the loop paused aside. -/
def Spaced : Nat → List (Expiry × List UInt8) → Prop
  | _, [] => True
  | missed, (expiry, bytes) :: later =>
      let missed := if expiry.paused then missed else missed + 1
      missed < 3 ∧ Spaced (if bytes = [] then missed else 0) later

attribute [local grind =] HostFrames Harmless Spaced

section Frames
variable {session : UUID} {frame : Gnr4Frame} {frames : List Gnr4Frame}
  {arrived rest more bytes : List UInt8}

@[simp] theorem remaining_nil : remaining [] = [] := rfl

@[simp] theorem remaining_cons (expiry : Expiry) (later : List (Expiry × List UInt8)) :
    remaining ((expiry, bytes) :: later) = bytes ++ remaining later := rfl

theorem write_ne_nil (written : Gnr4.write frame = .ok bytes) : bytes ≠ [] := by
  obtain ⟨-, rfl⟩ := Gnr4.write_eq_ok.mp written
  simp [Gnr4.MAGIC]

theorem encodeMany_eq_nil (encoded : encodeMany Gnr4.write frames = .ok []) : frames = [] := by
  cases frames with
  | nil => rfl
  | cons frame frames =>
      obtain ⟨first, more, own, -, whole⟩ := encodeMany_cons_eq_ok.mp encoded
      exact absurd (List.append_eq_nil_iff.mp whole.symm).1 (write_ne_nil own)

/-- A frame that is read from in front of the encodings is the first of them. -/
theorem read_encoded (encoded : encodeMany Gnr4.write frames = .ok (arrived ++ more))
    (taken : Gnr4.read (some session) arrived = .ok (frame, rest)) :
    ∃ bytes frames', Gnr4.write frame = .ok bytes ∧ arrived = bytes ++ rest ∧
      frames = frame :: frames' ∧ encodeMany Gnr4.write frames' = .ok (rest ++ more) := by
  obtain ⟨bytes, written, rfl⟩ := (Gnr4.read_reads _ _ _).mp (Gnr4.read_session.mp taken).1
  rw [List.append_assoc] at encoded
  cases frames with
  | nil =>
      cases written' : bytes with
      | nil => exact absurd written' (write_ne_nil written)
      | cons b bs =>
          rw [written'] at encoded
          cases encoded
  | cons first frames =>
      obtain ⟨own, others, ownWritten, othersWritten, whole⟩ := encodeMany_cons_eq_ok.mp encoded
      have read := Gnr4.read_write ownWritten others
      rw [← whole, Gnr4.read_write written] at read
      cases read
      exact ⟨bytes, frames, written, rfl, rfl, othersWritten⟩

/-- The first of the encodings is read. -/
theorem read_first (valid : HostFrame session frame)
    (encoded : encodeMany Gnr4.write (frame :: frames) = .ok bytes) (more : List UInt8) :
    ∃ rest, Gnr4.read (some session) (bytes ++ more) = .ok (frame, rest ++ more) := by
  obtain ⟨own, others, written, -, rfl⟩ := encodeMany_cons_eq_ok.mp encoded
  refine ⟨others, Gnr4.read_session.mpr ⟨?_, valid.1⟩⟩
  rw [List.append_assoc]
  exact Gnr4.read_write written _

theorem read_nil : Gnr4.read (some session) [] = .error .eof := rfl

theorem onFrame_stop (l : FrameLoop) (stop : frame.type = .stop) :
    (l.onFrame session frame).ends = some .returned := by
  simp [FrameLoop.onFrame, stop]

theorem onFrame_other (l : FrameLoop) (valid : HostFrame session frame)
    (other : frame.type ≠ .stop) :
    (l.onFrame session frame).ends = none ∧ (l.onFrame session frame).loop.missed = 0 := by
  obtain ⟨-, -, ⟨type, wide⟩ | type | type | type⟩ := valid
  · simp only [FrameLoop.onFrame, type, Gnr4.parseHeartbeatPayload, wide, ne_eq,
      not_true_eq_false, if_false]
    split <;> exact ⟨rfl, rfl⟩
  · simp [FrameLoop.onFrame, type, FrameLoop.goesOn]
  · simp [FrameLoop.onFrame, type, FrameLoop.goesOn]
  · exact absurd type other

end Frames

/-- The loop is in step: what it has processed are the first of the frames, and the rest are
still to be read. -/
structure InStep (session : UUID) (frames : List Gnr4Frame) (seen : List UInt8) (r : Reading)
    (rest : List Gnr4Frame) : Prop where
  running : r.ended = none
  whole : frames = r.processed ++ rest
  valid : HostFrames session rest
  seen : ∃ done, encodeMany Gnr4.write r.processed = .ok done ∧ seen = done ++ r.arrived
  unread : encodeMany Gnr4.write rest = .ok (r.arrived ++ remaining r.later)
  spaced : Spaced (if r.arrived = [] then r.loop.missed else 0) r.later

/-- Bytes are missing for good: fewer are left than the frames not yet processed take. -/
def Short (total : Nat) (r : Reading) : Prop :=
  ∃ done, encodeMany Gnr4.write r.processed = .ok done ∧
    done.length + (r.arrived ++ remaining r.later).length < total

/-- The loop comes to stand, ended or waiting for bytes, with exactly the frames processed. -/
inductive Finishes (session : UUID) (frames : List Gnr4Frame) : Reading → Prop
  | stands {r : Reading} (stands : r.turn session = none) (processed : r.processed = frames) :
      Finishes session frames r
  | turn {r r' : Reading} (taken : r.turn session = some r')
      (after : Finishes session frames r') : Finishes session frames r

section Framing
variable {session : UUID} {frames rest : List Gnr4Frame} {seen bytes : List UInt8}
  {r r' : Reading} {later : List (Expiry × List UInt8)}

theorem finishes_of_turn (taken : r.turn session = some r') :
    Finishes session frames r ↔ Finishes session frames r' := by
  constructor
  · intro h
    cases h with
    | stands stands _ =>
        rw [stands] at taken
        cases taken
    | turn taken' after =>
        cases taken.symm.trans taken'
        exact after
  · exact .turn taken

theorem finishes_of_stands (stands : r.turn session = none) :
    Finishes session frames r ↔ r.processed = frames := by
  constructor
  · intro h
    cases h with
    | stands _ processed => exact processed
    | turn taken _ =>
        rw [stands] at taken
        cases taken
  · exact .stands stands

/-- An ended loop stands where it is. -/
theorem turn_of_ended {how : LoopEnd} (ended : r.ended = some how) : r.turn session = none := by
  simp [Reading.turn, ended]

theorem turn_of_read {frame : Gnr4Frame} (running : r.ended = none)
    (taken : Gnr4.read (some session) r.arrived = .ok (frame, bytes)) :
    r.turn session = some ({ r with arrived := bytes, processed := r.processed ++ [frame] }.take
      (r.loop.onFrame session frame)) := by
  simp [Reading.turn, running, taken]

theorem turn_of_expiry {expiry : Expiry} (running : r.ended = none)
    (cut : Gnr4.read (some session) r.arrived = .error .eof)
    (next : r.later = (expiry, bytes) :: later) :
    r.turn session = some ({ r with arrived := bytes, later := later }.take
      (r.loop.onTimeout session expiry)) := by
  simp [Reading.turn, running, cut, next]

/-- Everything a turn can do. -/
theorem turn_cases (taken : r.turn session = some r') :
    (∃ frame rest, Gnr4.read (some session) r.arrived = .ok (frame, rest) ∧
      r'.arrived = rest ∧ r'.later = r.later ∧ r'.processed = r.processed ++ [frame]) ∨
    (∃ expiry, r.later = (expiry, r'.arrived) :: r'.later ∧ r'.processed = r.processed) ∨
    (r'.arrived = r.arrived ∧ r'.later = r.later ∧ r'.processed = r.processed) := by
  unfold Reading.turn at taken
  split at taken
  · cases taken
  · split at taken
    · rename_i frame rest read
      cases taken
      exact .inl ⟨frame, rest, read, rfl, rfl, rfl⟩
    · split at taken
      · cases taken
      · rename_i expiry bytes later next
        cases taken
        exact .inr (.inl ⟨expiry, next, rfl⟩)
    · cases taken
      exact .inr (.inr ⟨rfl, rfl, rfl⟩)

theorem Short.turn {total : Nat} (short : Short total r) (taken : r.turn session = some r') :
    Short total r' := by
  obtain ⟨done, encoded, fewer⟩ := short
  rcases turn_cases taken with ⟨frame, rest, read, arrived, later, processed⟩ |
    ⟨expiry, later, processed⟩ | ⟨arrived, later, processed⟩
  · obtain ⟨bytes, written, whole⟩ := (Gnr4.read_reads _ _ _).mp (Gnr4.read_session.mp read).1
    refine ⟨done ++ bytes, ?_, ?_⟩
    · rw [processed]
      exact encodeMany_append encoded (encodeMany_singleton written)
    · rw [arrived, later]
      simp only [whole, List.length_append] at fewer ⊢
      omega
  · refine ⟨done, processed ▸ encoded, ?_⟩
    simp only [later, remaining_cons, List.length_append] at fewer ⊢
    omega
  · exact ⟨done, processed ▸ encoded, by rwa [arrived, later]⟩

theorem Short.not_finishes {whole : List UInt8}
    (encoded : encodeMany Gnr4.write frames = .ok whole) (short : Short whole.length r) :
    ¬ Finishes session frames r := by
  intro h
  induction h with
  | stands _ processed =>
      obtain ⟨done, own, fewer⟩ := short
      rw [processed, encoded] at own
      cases own
      omega
  | turn taken _ ih => exact ih (short.turn taken)

theorem harmless_of_remaining_nil (none : remaining later = []) : Harmless frames seen later := by
  induction later generalizing seen with
  | nil => trivial
  | cons next later ih =>
      obtain ⟨expiry, bytes⟩ := next
      obtain ⟨rfl, nothing⟩ := List.append_eq_nil_iff.mp none
      exact ⟨fun some => absurd none some, ih nothing⟩

/-- Where the next harmful expiry is not inside a frame, whole frames have arrived. -/
theorem InStep.arrived_whole (step : InStep session frames seen r rest)
    (harmless : Harmless frames seen r.later) :
    ∃ l, (∃ l', rest = l ++ l') ∧ encodeMany Gnr4.write l = .ok r.arrived := by
  have all (none : remaining r.later = []) :
      ∃ l, (∃ l', rest = l ++ l') ∧ encodeMany Gnr4.write l = .ok r.arrived := by
    refine ⟨rest, ⟨[], (List.append_nil rest).symm⟩, ?_⟩
    have unread := step.unread
    rwa [none, List.append_nil] at unread
  cases next : r.later with
  | nil => exact all (by rw [next, remaining_nil])
  | cons first later =>
      obtain ⟨expiry, bytes⟩ := first
      by_cases none : bytes ++ remaining later = []
      · exact all (by rw [next, remaining_cons, none])
      · rw [next] at harmless
        obtain ⟨-, done', rest', parts, encoded'⟩ := harmless.1 none
        obtain ⟨done, encoded, split⟩ := step.seen
        have either := step.whole.symm.trans parts
        rcases List.append_eq_append_iff.mp either with ⟨mid, longer, same⟩ | ⟨mid, shorter, same⟩
        · rw [longer] at encoded'
          obtain ⟨before, after, first, second, bytesEq⟩ := encodeMany_append_eq_ok.mp encoded'
          rw [encoded] at first
          cases first
          rw [split] at bytesEq
          exact ⟨mid, ⟨rest', same⟩, List.append_cancel_left bytesEq ▸ second⟩
        · -- The boundary does not lie before the end of what was processed.
          rw [shorter] at encoded
          obtain ⟨before, after, first, -, bytesEq⟩ := encodeMany_append_eq_ok.mp encoded
          rw [encoded'] at first
          cases first
          have lengths := congrArg List.length (bytesEq ▸ split)
          simp only [List.length_append] at lengths
          have nothing : r.arrived = [] := List.length_eq_zero_iff.mp (by omega)
          exact ⟨[], ⟨rest, rfl⟩, by rw [nothing]; rfl⟩

theorem InStep.read_of_harmless (step : InStep session frames seen r rest)
    (harmless : Harmless frames seen r.later) (arrived : r.arrived ≠ []) :
    ∃ frame bytes, Gnr4.read (some session) r.arrived = .ok (frame, bytes) := by
  obtain ⟨l, ⟨l', split⟩, encoded⟩ := step.arrived_whole harmless
  cases l with
  | nil => exact absurd (Except.ok.inj encoded).symm arrived
  | cons frame l =>
      have valid := step.valid
      rw [split] at valid
      obtain ⟨bytes, read⟩ := read_first valid.1 encoded []
      rw [List.append_nil] at read
      exact ⟨frame, bytes ++ [], read⟩

/-- A frame is read: the loop stays in step, or the STOP was the last of the frames. -/
theorem InStep.read (step : InStep session frames seen r rest) {frame : Gnr4Frame}
    (taken : Gnr4.read (some session) r.arrived = .ok (frame, bytes)) :
    ∃ r' rest', r.turn session = some r' ∧ r'.later = r.later ∧
      r'.arrived.length < r.arrived.length ∧
      (InStep session frames seen r' rest' ∨
        r'.turn session = none ∧ r'.processed = frames ∧ remaining r.later = []) := by
  obtain ⟨own, rest', written, arrived, rfl, unread⟩ := read_encoded step.unread taken
  obtain ⟨done, encoded, split⟩ := step.seen
  have valid := step.valid
  have shorter : bytes.length < r.arrived.length := by
    have := List.length_pos_iff.mpr (write_ne_nil written)
    simp only [arrived, List.length_append]
    omega
  have whole : frames = (r.processed ++ [frame]) ++ rest' := by
    rw [step.whole, List.append_assoc, List.singleton_append]
  refine ⟨_, rest', turn_of_read step.running taken, rfl, shorter, ?_⟩
  by_cases stop : frame.type = .stop
  · have last := valid.2.1 stop
    subst last
    cases unreadNil : bytes ++ remaining r.later with
    | cons b bs =>
        rw [unreadNil] at unread
        cases unread
    | nil =>
        refine .inr ⟨turn_of_ended (onFrame_stop r.loop stop), ?_, ?_⟩
        · rw [List.append_nil] at whole
          exact whole.symm
        · exact (List.append_eq_nil_iff.mp unreadNil).2
  · obtain ⟨goesOn, heard⟩ := onFrame_other r.loop valid.1 stop
    refine .inl ⟨goesOn, whole, valid.2.2, ⟨done ++ own, ?_, ?_⟩, unread, ?_⟩
    · exact encodeMany_append encoded (encodeMany_singleton written)
    · rw [split, arrived, List.append_assoc]
      rfl
    · have spaced := step.spaced
      rw [if_neg (by simp [arrived, write_ne_nil written])] at spaced
      simpa [Reading.take, heard] using spaced


/-- An expiry between two frames. -/
theorem InStep.expire (step : InStep session frames seen r rest) {expiry : Expiry}
    (arrived : r.arrived = []) (next : r.later = (expiry, bytes) :: later)
    (tolerated : expiry.paused = true ∨ expiry.wakePending = false) :
    InStep session frames (seen ++ bytes)
      ({ r with arrived := bytes, later := later }.take (r.loop.onTimeout session expiry)) rest := by
  obtain ⟨done, encoded, split⟩ := step.seen
  have unread := step.unread
  have spaced := step.spaced
  rw [if_pos arrived, next] at spaced
  rw [arrived, next] at unread
  rw [arrived, List.append_nil] at split
  have turn : (r.loop.onTimeout session expiry).ends = none ∧
      (r.loop.onTimeout session expiry).loop.missed =
        if expiry.paused then r.loop.missed else r.loop.missed + 1 := by
    unfold FrameLoop.onTimeout
    by_cases paused : expiry.paused = true
    · simp [paused, FrameLoop.goesOn]
    · have few : ¬ 3 ≤ r.loop.missed + 1 := by
        have := spaced.1
        rw [if_neg paused] at this
        omega
      simp [paused, tolerated.resolve_left paused, few]
  refine ⟨turn.1, step.whole, step.valid, ⟨done, encoded, by rw [split]; rfl⟩, unread, ?_⟩
  simpa [Reading.take, turn.2] using spaced.2

theorem InStep.processed_iff (step : InStep session frames seen r rest) :
    r.processed = frames ↔ r.arrived ++ remaining r.later = [] := by
  have whole := step.whole
  constructor
  · intro processed
    rw [← processed, List.self_eq_append_right] at whole
    have unread := step.unread
    rw [whole] at unread
    exact (Except.ok.inj unread).symm
  · intro nothing
    have unread := step.unread
    rw [nothing] at unread
    rw [whole, encodeMany_eq_nil unread, List.append_nil]

/-- What is left of a frame that an expiry cuts is too short. -/
theorem InStep.short (step : InStep session frames seen r rest) {expiry : Expiry}
    (arrived : r.arrived ≠ []) (next : r.later = (expiry, bytes) :: later) :
    ∃ whole, encodeMany Gnr4.write frames = .ok whole ∧ Short whole.length
      ({ r with arrived := bytes, later := later }.take (r.loop.onTimeout session expiry)) := by
  obtain ⟨done, encoded, -⟩ := step.seen
  refine ⟨_, step.whole ▸ encodeMany_append encoded step.unread, done, encoded, ?_⟩
  have some := List.length_pos_iff.mpr arrived
  simp only [Reading.take, next, remaining_cons, List.length_append]
  omega

theorem InStep.finishes_iff (step : InStep session frames seen r rest) :
    Finishes session frames r ↔ Harmless frames seen r.later := by
  -- Every turn reads a frame or uses up an expiry.
  induction measure : r.arrived.length + (remaining r.later).length + r.later.length
    using Nat.strongRecOn generalizing r seen rest with
  | _ size ih =>
  cases read : Gnr4.read (some session) r.arrived with
  | ok result =>
      obtain ⟨frame, bytes⟩ := result
      obtain ⟨r', rest', taken, later, fewer, goesOn | ⟨stands, processed, nothing⟩⟩ := step.read read
      · rw [finishes_of_turn taken, ih _ (by rw [later]; omega) goesOn rfl, later]
      · rw [finishes_of_turn taken, finishes_of_stands stands]
        exact iff_of_true processed (harmless_of_remaining_nil nothing)
  | error e =>
      by_cases arrived : r.arrived = []
      · rw [arrived, read_nil] at read
        cases read
        cases next : r.later with
        | nil =>
            have stands : r.turn session = none := by
              simp [Reading.turn, step.running, arrived, read_nil, next]
            rw [finishes_of_stands stands, step.processed_iff]
            exact iff_of_true (by simp [arrived, next]) trivial
        | cons first later =>
            obtain ⟨expiry, bytes⟩ := first
            have waits : Gnr4.read (some session) r.arrived = .error .eof := arrived ▸ read_nil
            have taken := turn_of_expiry step.running waits next
            rw [finishes_of_turn taken]
            by_cases tolerated : expiry.paused = true ∨ expiry.wakePending = false
            · have fewer : bytes.length + (remaining later).length + later.length < size := by
                rw [← measure, next, remaining_cons, List.length_append, List.length_cons]
                omega
              have boundary : Boundary frames seen := by
                obtain ⟨done, encoded, split⟩ := step.seen
                rw [arrived, List.append_nil] at split
                exact ⟨_, _, step.whole, split ▸ encoded⟩
              rw [ih _ fewer (step.expire arrived next tolerated) rfl]
              exact ⟨fun h => ⟨fun _ => ⟨tolerated, boundary⟩, h⟩, fun h => h.2⟩
            · have threw : (r.loop.onTimeout session expiry).ends = some .threw := by
                rw [not_or] at tolerated
                simp [FrameLoop.onTimeout, tolerated.1, tolerated.2]
              rw [finishes_of_stands (turn_of_ended threw)]
              refine step.processed_iff.trans ?_
              rw [arrived, next, remaining_cons, List.nil_append]
              constructor
              · intro nothing
                exact ⟨fun some => absurd nothing some,
                  harmless_of_remaining_nil (List.append_eq_nil_iff.mp nothing).2⟩
              · intro h
                by_contra some
                exact tolerated (h.1 some).1
      · have harmful : ¬ Harmless frames seen r.later := by
          intro harmless
          obtain ⟨frame, bytes, ok⟩ := step.read_of_harmless harmless arrived
          rw [read] at ok
          cases ok
        refine iff_of_false ?_ harmful
        by_cases eof : e = .eof
        · subst eof
          cases next : r.later with
          | nil => exact absurd (next ▸ trivial) harmful
          | cons first later =>
              obtain ⟨expiry, bytes⟩ := first
              obtain ⟨whole, encoded, short⟩ := step.short arrived next
              rw [finishes_of_turn (turn_of_expiry step.running read next)]
              exact short.not_finishes encoded
        · have taken : r.turn session = some { r with ended := some .threw } := by
            simp only [Reading.turn, step.running, read]
          rw [finishes_of_turn taken, finishes_of_stands (turn_of_ended rfl)]
          refine fun processed => arrived ?_
          exact (List.append_eq_nil_iff.mp (step.processed_iff.mp processed)).1

/-- The loop processes exactly the host's frames, whatever is cut where, when and only when
every expiry with bytes still to come falls between two frames and finds the loop paused or
without a wake to confirm. -/
theorem framing_survives_iff {later : List (Expiry × List UInt8)} {arrived : List UInt8}
    (valid : HostFrames session frames) (loop : FrameLoop) (fresh : loop.missed = 0)
    (cut : encodeMany Gnr4.write frames = .ok (arrived ++ remaining later))
    (spaced : Spaced 0 later) :
    Finishes session frames ⟨loop, arrived, later, [], none⟩ ↔ Harmless frames arrived later := by
  refine InStep.finishes_iff ⟨rfl, rfl, valid, ⟨[], rfl, rfl⟩, cut, ?_⟩
  simpa [fresh] using spaced

/-- A STATUS without a payload, as it crosses the wire. -/
def statusBytes : List UInt8 :=
  [0x47, 0x4E, 0x52, 0x34, 0, 4, 0, 7, 0, 0, 0, 0, 0, 0, 0, 0, 0, 0, 0, 1, 0, 0, 0, 0, 0, 0, 0, 2]

/-- Two frames with a heartbeat between them. -/
theorem framing_survives_idle_second :
    Finishes ⟨1, 2⟩ [⟨.status, ⟨1, 2⟩, []⟩, ⟨.status, ⟨1, 2⟩, []⟩]
      ⟨⟨0, 0, []⟩, statusBytes, [(⟨false, false, 5⟩, statusBytes)], [], none⟩ := by
  have frame : HostFrame ⟨1, 2⟩ ⟨.status, ⟨1, 2⟩, []⟩ := ⟨rfl, by decide, .inr (.inl rfl)⟩
  have valid : HostFrames ⟨1, 2⟩ [⟨.status, ⟨1, 2⟩, []⟩, ⟨.status, ⟨1, 2⟩, []⟩] :=
    ⟨frame, by simp, frame, by simp, trivial⟩
  have spaced : Spaced 0 [(⟨false, false, 5⟩, statusBytes)] := ⟨by decide, trivial⟩
  refine (framing_survives_iff valid _ rfl rfl spaced).mpr ⟨fun _ => ⟨.inr rfl, ?_⟩, trivial⟩
  exact ⟨[⟨.status, ⟨1, 2⟩, []⟩], [⟨.status, ⟨1, 2⟩, []⟩], rfl, rfl⟩

/-- An expiry behind the magic of a frame: the next read starts inside it. -/
theorem timeout_inside_frame_drops_it :
    ¬ ∀ (session : UUID) (frames : List Gnr4Frame) (loop : FrameLoop) (arrived : List UInt8)
        (later : List (Expiry × List UInt8)), HostFrames session frames → loop.missed = 0 →
      encodeMany Gnr4.write frames = .ok (arrived ++ remaining later) → Spaced 0 later →
      Finishes session frames ⟨loop, arrived, later, [], none⟩ := by
  intro claim
  have valid : HostFrames ⟨1, 2⟩ [⟨.status, ⟨1, 2⟩, []⟩] :=
    ⟨⟨rfl, by decide, .inr (.inl rfl)⟩, by simp, trivial⟩
  have finishes := claim ⟨1, 2⟩ [⟨.status, ⟨1, 2⟩, []⟩] ⟨0, 0, []⟩ (statusBytes.take 4)
    [(⟨true, false, 5⟩, statusBytes.drop 4)] valid rfl rfl ⟨by decide, trivial⟩
  have cut := (finishes_of_turn rfl).mp finishes
  have threw := (finishes_of_turn rfl).mp cut
  have processed := (finishes_of_stands rfl).mp threw
  cases processed

end Framing

end QuestVdWired.Android
