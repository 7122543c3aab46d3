import QuestVdWired.Host.HevUdpFrame
import QuestVdWired.Wire.Framing
import QuestVdWired.Wire.Text
import Mathlib.Data.List.Destutter

/-!
The decoder of `adb track-devices`: frames with a length in hexadecimal, or lines of text, told
apart by the first four bytes. What it returns does not depend on how the output was cut.
-/

namespace QuestVdWired.Host
open Wire

def MAX_TRACK_DEVICES_PAYLOAD : Nat := 16 * 1024

inductive TrackDevicesMode
  | unknown
  | framed
  | text
  deriving DecidableEq, Repr

inductive TrackDevicesDecodeError
  | invalidLength
  | oversized (length : Nat)
  | invalidUtf8
  deriving DecidableEq, Repr

structure TrackDevicesTextParser where
  inSnapshot : Bool
  deviceAvailable : Bool
  deriving DecidableEq, Repr

structure TrackDevicesDecoder where
  mode : TrackDevicesMode
  buffer : List UInt8
  text : TrackDevicesTextParser
  lastUpdate : Option Bool
  deriving DecidableEq, Repr

def hexValue (byte : UInt8) : Nat :=
  if byte ≤ 57 then byte.toNat - 48 else if byte ≤ 70 then byte.toNat - 55 else byte.toNat - 87

/-- Hexadecimal digits are UTF-8 and parse as a number. -/
def parseTrackLength (bytes : List UInt8) : Except TrackDevicesDecodeError Nat :=
  if bytes.length ≠ 4 ∨ !bytes.all isAsciiHexdigit then .error .invalidLength
  else .ok (bytes.foldl (fun length byte => length * 16 + hexValue byte) 0)

/-- The first word behind the first tab is `device`. -/
def stateIsDevice (line : List Char) : Bool :=
  match Text.splitOnce '\t' line with
  | none => false
  | some (_, state) => (Text.splitWhitespace state).head? = some ['d', 'e', 'v', 'i', 'c', 'e']

def parseTrackSnapshot (payload : List UInt8) : Except TrackDevicesDecodeError Bool :=
  match fromUtf8 payload with
  | none => .error .invalidUtf8
  | some text => .ok ((Text.lines text.toList).any stateIsDevice)

def TrackDevicesTextParser.pushLine (parser : TrackDevicesTextParser) (line : List Char) :
    Option Bool × TrackDevicesTextParser :=
  let line := Text.trimEndMatches '\r' line
  if line = "List of devices attached".toList then
    (if parser.inSnapshot then some parser.deviceAvailable else none, ⟨true, false⟩)
  else if line.isEmpty then
    (some (parser.inSnapshot && parser.deviceAvailable), ⟨false, false⟩)
  else
    let parser :=
      if !parser.inSnapshot && line.contains '\t' then ⟨true, false⟩ else parser
    if !parser.inSnapshot then (none, parser)
    else
      let available := stateIsDevice line
      (if available then some true else none,
        { parser with deviceAvailable := parser.deviceAvailable || available })

namespace TrackDevicesDecoder

def default : TrackDevicesDecoder := ⟨.unknown, [], ⟨false, false⟩, none⟩

/-- An update that repeats the last one is not returned. -/
def update (d : TrackDevicesDecoder) (updates : List Bool) (available : Bool) :
    List Bool × TrackDevicesDecoder :=
  if d.lastUpdate = some available then (updates, d)
  else (updates ++ [available], { d with lastUpdate := some available })

/-- The snapshot at the front of the buffer and where it ends, once it is all there. -/
def nextFrame (buffer : List UInt8) : Except TrackDevicesDecodeError (Option (Nat × Bool)) :=
  if buffer.length < 4 then .ok none
  else
    match parseTrackLength (buffer.take 4) with
    | .error e => .error e
    | .ok length =>
        if MAX_TRACK_DEVICES_PAYLOAD < length then .error (.oversized length)
        else if buffer.length < 4 + length then .ok none
        else
          match parseTrackSnapshot ((buffer.drop 4).take length) with
          | .error e => .error e
          | .ok available => .ok (some (4 + length, available))

theorem update_buffer (d : TrackDevicesDecoder) (updates : List Bool) (available : Bool) :
    (d.update updates available).2.buffer = d.buffer := by
  rw [update]
  split <;> rfl

theorem update_mode (d : TrackDevicesDecoder) (updates : List Bool) (available : Bool) :
    (d.update updates available).2.mode = d.mode := by
  rw [update]
  split <;> rfl

/-- The lines that are complete. -/
def pushLines (d : TrackDevicesDecoder) (updates : List Bool) :
    Except TrackDevicesDecodeError (List Bool) × TrackDevicesDecoder :=
  match _found : d.buffer.findIdx? (· = 10) with
  | none => (.ok updates, d)
  | some newline =>
      let line := d.buffer.take newline
      let line := if line.getLast? = some 13 then line.dropLast else line
      let drained := { d with buffer := d.buffer.drop (newline + 1) }
      match fromUtf8 line with
      | none => (.error .invalidUtf8, drained)
      | some line =>
          let (completed, text) := d.text.pushLine line.toList
          match completed with
          | none => pushLines { drained with text := text } updates
          | some available =>
              let updated := update { drained with text := text } updates available
              pushLines updated.2 updated.1
  termination_by d.buffer.length
  decreasing_by
    all_goals
      have inside := (List.findIdx?_eq_some_iff_getElem.mp _found).1
      simp only [update_buffer, List.length_drop]
      omega

/-- A turn of the loop in `push`: it returns, or goes on. -/
inductive Turn
  | done (result : Except TrackDevicesDecodeError (List Bool)) (d : TrackDevicesDecoder)
  | again (updates : List Bool) (d : TrackDevicesDecoder)

def framedTurn (d : TrackDevicesDecoder) (updates : List Bool) : Turn :=
  match nextFrame d.buffer with
  | .error e => .done (.error e) d
  | .ok none => .done (.ok updates) d
  | .ok (some (length, available)) =>
      let (updates, d) := update { d with buffer := d.buffer.drop length } updates available
      .again updates d

def textTurn (d : TrackDevicesDecoder) (updates : List Bool) : Turn :=
  match pushLines d updates with
  | (.error e, d) => .done (.error e) d
  | (.ok updates, d) =>
      if MAX_TRACK_DEVICES_PAYLOAD < d.buffer.length then
        .done (.error (.oversized d.buffer.length)) d
      else .done (.ok updates) d

def turn (d : TrackDevicesDecoder) (updates : List Bool) : Turn :=
  match d.mode with
  | .unknown =>
      if d.buffer.length < 4 then .done (.ok updates) d
      else if (d.buffer.take 4).all isAsciiHexdigit then
        match parseTrackLength (d.buffer.take 4) with
        | .error e => .done (.error e) d
        | .ok length =>
            if MAX_TRACK_DEVICES_PAYLOAD < length then .done (.error (.oversized length)) d
            else framedTurn { d with mode := .framed } updates
      else textTurn { d with mode := .text } updates
  | .framed => framedTurn d updates
  | .text => textTurn d updates

attribute [local grind =] pushLines

theorem buffer_of_update {d d' : TrackDevicesDecoder} {updates updates' : List Bool}
    {available : Bool} (updated : d.update updates available = (updates', d')) :
    d'.buffer = d.buffer := by
  rw [← update_buffer d updates available, updated]

theorem nextFrame_pos {buffer : List UInt8} {n : Nat} {available : Bool}
    (found : nextFrame buffer = .ok (some (n, available))) : 0 < n ∧ n ≤ buffer.length := by
  unfold nextFrame at found
  split at found
  · cases found
  · split at found
    · cases found
    · split at found
      · cases found
      · split at found
        · cases found
        · split at found
          · cases found
          · cases found
            omega

theorem textTurn_ne_again {d d' : TrackDevicesDecoder} {updates updates' : List Bool} :
    d.textTurn updates ≠ .again updates' d' := by
  unfold textTurn
  split
  · simp
  · split <;> simp

/-- Only a frame makes the loop go on. -/
theorem turn_again {d d' : TrackDevicesDecoder} {updates updates' : List Bool}
    (more : d.turn updates = .again updates' d') :
    ∃ length available, nextFrame d.buffer = .ok (some (length, available)) ∧
      update { d with mode := .framed, buffer := d.buffer.drop length } updates available =
        (updates', d') := by
  have framed {d : TrackDevicesDecoder} (more : d.framedTurn updates = .again updates' d') :
      ∃ length available, nextFrame d.buffer = .ok (some (length, available)) ∧
        update { d with buffer := d.buffer.drop length } updates available = (updates', d') := by
    unfold framedTurn at more
    split at more
    · cases more
    · cases more
    · rename_i length available found
      cases more
      exact ⟨length, available, found, rfl⟩
  unfold turn at more
  split at more
  · split at more
    · cases more
    · split at more
      · split at more
        · cases more
        · split at more
          · cases more
          · exact framed more
      · exact absurd more textTurn_ne_again
  · rename_i mode
    have own : d = { d with mode := .framed } := by rw [← mode]
    rw [own] at more
    exact framed more
  · exact absurd more textTurn_ne_again

theorem turn_again_mode {d d' : TrackDevicesDecoder} {updates updates' : List Bool}
    (more : d.turn updates = .again updates' d') : d'.mode = .framed := by
  obtain ⟨length, available, _, updated⟩ := turn_again more
  have kept := update_mode { d with mode := .framed, buffer := d.buffer.drop length } updates
    available
  rw [updated] at kept
  exact kept

theorem turn_shorter {d d' : TrackDevicesDecoder} {updates updates' : List Bool}
    (more : d.turn updates = .again updates' d') : d'.buffer.length < d.buffer.length := by
  obtain ⟨length, available, found, updated⟩ := turn_again more
  have pos := nextFrame_pos found
  rw [buffer_of_update updated, List.length_drop]
  omega

/-- The loop in `push`. -/
def loop (d : TrackDevicesDecoder) (updates : List Bool) :
    Except TrackDevicesDecodeError (List Bool) × TrackDevicesDecoder :=
  match _turned : d.turn updates with
  | .done result d => (result, d)
  | .again updates d' => loop d' updates
  termination_by d.buffer.length
  decreasing_by exact turn_shorter _turned

def push (d : TrackDevicesDecoder) (bytes : List UInt8) :
    Except TrackDevicesDecodeError (List Bool) × TrackDevicesDecoder :=
  loop { d with buffer := d.buffer ++ bytes } []

/-- Pushes up to the first that fails, with the updates of all. -/
def pushes (d : TrackDevicesDecoder) :
    List (List UInt8) → Except TrackDevicesDecodeError (List Bool × TrackDevicesDecoder)
  | [] => .ok ([], d)
  | chunk :: chunks =>
      match d.push chunk with
      | (.error e, _) => .error e
      | (.ok updates, d) =>
          match pushes d chunks with
          | .error e => .error e
          | .ok (later, d) => .ok (updates ++ later, d)

attribute [local grind =] loop pushes

/-! More bytes behind what is buffered. -/

def extend (d : TrackDevicesDecoder) (more : List UInt8) : TrackDevicesDecoder :=
  { d with buffer := d.buffer ++ more }

section
variable {d d' : TrackDevicesDecoder} {updates updates' : List Bool} {more buffer : List UInt8}
  {e : TrackDevicesDecodeError}

theorem update_extend (d : TrackDevicesDecoder) (updates : List Bool) (available : Bool)
    (more : List UInt8) :
    (d.extend more).update updates available =
      ((d.update updates available).1, (d.update updates available).2.extend more) := by
  unfold update extend
  split <;> rfl

/-- What more bytes do not change: all but waiting for them. -/
theorem nextFrame_append (ready : nextFrame buffer ≠ .ok none) (more : List UInt8) :
    nextFrame (buffer ++ more) = nextFrame buffer := by
  by_cases short : buffer.length < 4
  · exact absurd (by rw [nextFrame, if_pos short]) ready
  · have field : (buffer ++ more).take 4 = buffer.take 4 :=
      List.take_append_of_le_length (Nat.le_of_not_lt short)
    have rest : (buffer ++ more).drop 4 = buffer.drop 4 ++ more :=
      List.drop_append_of_le_length (Nat.le_of_not_lt short)
    unfold nextFrame at ready ⊢
    rw [if_neg short] at ready ⊢
    rw [if_neg (by rw [List.length_append]; omega), field, rest]
    split
    · rfl
    · rename_i length parsed
      simp only [parsed] at ready
      split
      · rfl
      · rename_i small
        rw [if_neg small] at ready
        by_cases part : buffer.length < 4 + length
        · exact absurd (if_pos part) ready
        · rw [if_neg part, if_neg (by rw [List.length_append]; omega),
            List.take_append_of_le_length (by rw [List.length_drop]; omega)]

theorem pushLines_none (none : d.buffer.findIdx? (· = 10) = none) :
    d.pushLines updates = (.ok updates, d) := by
  rw [pushLines]
  split
  · rfl
  · rename_i found
    rw [none] at found
    cases found

/-- The line up to a line feed. -/
def lineAt (buffer : List UInt8) (newline : Nat) : List UInt8 :=
  let line := buffer.take newline
  if line.getLast? = some 13 then line.dropLast else line

theorem pushLines_some {newline : Nat} (found : d.buffer.findIdx? (· = 10) = some newline) :
    d.pushLines updates =
      match fromUtf8 (lineAt d.buffer newline) with
      | none => (.error .invalidUtf8, { d with buffer := d.buffer.drop (newline + 1) })
      | some line =>
          let drained := { d with
            buffer := d.buffer.drop (newline + 1), text := (d.text.pushLine line.toList).2 }
          match (d.text.pushLine line.toList).1 with
          | none => drained.pushLines updates
          | some available =>
              (drained.update updates available).2.pushLines
                (drained.update updates available).1 := by
  rw [pushLines]
  split
  · rename_i none
    rw [found] at none
    cases none
  · rename_i newline' found'
    cases found.symm.trans found'
    rfl

theorem pushLines_extend (pushed : d.pushLines updates = (.ok updates', d')) (more : List UInt8) :
    (d.extend more).pushLines updates = (d'.extend more).pushLines updates' := by
  induction length : d.buffer.length using Nat.strongRecOn generalizing d updates with
  | ind length ih =>
      subst length
      cases found : d.buffer.findIdx? (· = 10) with
      | none =>
          rw [pushLines_none found] at pushed
          cases pushed
          rfl
      | some newline =>
          have inside := (List.findIdx?_eq_some_iff_getElem.mp found).1
          have found' : (d.extend more).buffer.findIdx? (· = 10) = some newline := by
            rw [extend, List.findIdx?_append, found]
            rfl
          have line : lineAt (d.extend more).buffer newline = lineAt d.buffer newline := by
            rw [extend, lineAt, List.take_append_of_le_length (Nat.le_of_lt inside), lineAt]
          have rest : (d.extend more).buffer.drop (newline + 1) =
              d.buffer.drop (newline + 1) ++ more :=
            List.drop_append_of_le_length inside
          rw [pushLines_some found] at pushed
          rw [pushLines_some found', line, rest]
          have shorter : (d.buffer.drop (newline + 1)).length < d.buffer.length := by
            rw [List.length_drop]
            omega
          cases decoded : fromUtf8 (lineAt d.buffer newline) with
          | none =>
              rw [decoded] at pushed
              cases pushed
          | some line =>
              rw [decoded] at pushed
              simp only at pushed ⊢
              have same : (d.extend more).text = d.text := rfl
              rw [same]
              split at pushed
              · exact ih _ shorter pushed rfl
              · rename_i available _
                have step := ih _ (by rw [update_buffer]; exact shorter) pushed rfl
                let drained : TrackDevicesDecoder := { d with
                  buffer := d.buffer.drop (newline + 1), text := (d.text.pushLine line.toList).2 }
                change ((drained.extend more).update updates available).2.pushLines
                  ((drained.extend more).update updates available).1 = _
                rw [update_extend]
                exact step

/-! The updates of one push behind those of another. -/

theorem update_after (d : TrackDevicesDecoder) (earlier updates : List Bool) (available : Bool) :
    d.update (earlier ++ updates) available =
      (earlier ++ (d.update updates available).1, (d.update updates available).2) := by
  unfold update
  split
  · rfl
  · rw [List.append_assoc]

theorem pushLines_after (earlier : List Bool) :
    d.pushLines (earlier ++ updates) =
      ((d.pushLines updates).1.map (earlier ++ ·), (d.pushLines updates).2) := by
  fun_induction pushLines d updates with
  | case1 d updates none => exact pushLines_none none
  | case2 d updates newline found _ _ _ invalid =>
      rw [pushLines_some found]
      have invalid : fromUtf8 (lineAt d.buffer newline) = none := invalid
      rw [invalid]
      rfl
  | case3 d updates newline found _ _ _ line decoded text completed ih =>
      rw [pushLines_some found]
      have decoded : fromUtf8 (lineAt d.buffer newline) = some line := decoded
      rw [decoded]
      simp only [completed]
      exact ih
  | case4 d updates newline found _ _ _ line decoded text available _ completed ih =>
      rw [pushLines_some found]
      have decoded : fromUtf8 (lineAt d.buffer newline) = some line := decoded
      rw [decoded]
      simp only [completed, update_after]
      exact ih

theorem pushLines_mode : (d.pushLines updates).2.mode = d.mode := by
  fun_induction pushLines d updates with
  | case1 | case2 => rfl
  | case3 d updates newline found _ _ _ line decoded text completed ih => exact ih
  | case4 d updates newline found _ _ _ line decoded text available _ completed ih =>
      rw [ih]
      exact update_mode _ updates available

def Turn.after (earlier : List Bool) : Turn → Turn
  | .done result d => .done (result.map (earlier ++ ·)) d
  | .again updates d => .again (earlier ++ updates) d

theorem framedTurn_after (earlier : List Bool) :
    d.framedTurn (earlier ++ updates) = (d.framedTurn updates).after earlier := by
  unfold framedTurn
  split
  · rfl
  · rfl
  · rw [update_after]
    rfl

theorem textTurn_after (earlier : List Bool) :
    d.textTurn (earlier ++ updates) = (d.textTurn updates).after earlier := by
  unfold textTurn
  rw [pushLines_after]
  obtain ⟨e | updates, d⟩ := d.pushLines updates
  · rfl
  · simp only [Except.map]
    split <;> rfl

theorem turn_after (earlier : List Bool) :
    d.turn (earlier ++ updates) = (d.turn updates).after earlier := by
  unfold turn
  split
  · split
    · rfl
    · split
      · split
        · rfl
        · split
          · rfl
          · exact framedTurn_after earlier
      · exact textTurn_after earlier
  · exact framedTurn_after earlier
  · exact textTurn_after earlier

theorem loop_done {result : Except TrackDevicesDecodeError (List Bool)}
    (turned : d.turn updates = .done result d') : d.loop updates = (result, d') := by
  rw [loop]
  split
  · rename_i other
    cases turned.symm.trans other
    rfl
  · rename_i other
    cases turned.symm.trans other

theorem loop_again (turned : d.turn updates = .again updates' d') :
    d.loop updates = d'.loop updates' := by
  rw [loop]
  split
  · rename_i other
    cases turned.symm.trans other
  · rename_i other
    cases turned.symm.trans other
    rfl

theorem loop_after (earlier : List Bool) :
    d.loop (earlier ++ updates) =
      ((d.loop updates).1.map (earlier ++ ·), (d.loop updates).2) := by
  fun_induction loop d updates with
  | case1 d updates result d' turned =>
      exact loop_done (by rw [turn_after, turned]; rfl)
  | case2 d updates updates' d' turned ih =>
      rw [← ih]
      exact loop_again (by rw [turn_after, turned]; rfl)

/-! A stream is decoded as its pieces are. -/

/-- The first four bytes are a length. -/
def Hex (buffer : List UInt8) : Prop := 4 ≤ buffer.length ∧ (buffer.take 4).all isAsciiHexdigit

theorem extend_nil (d : TrackDevicesDecoder) : d.extend [] = d := by
  rw [extend, List.append_nil]

/-- Four bytes decide what the rest is taken for. -/
theorem turn_cases (d : TrackDevicesDecoder) :
    (d.mode = .unknown ∧ d.buffer.length < 4 ∧ ∀ updates, d.turn updates = .done (.ok updates) d) ∨
    (d.mode = .unknown ∧ ∃ e, ∀ more updates,
      (d.extend more).turn updates = .done (.error e) (d.extend more)) ∨
    ((d.mode = .framed ∨ d.mode = .unknown ∧ Hex d.buffer) ∧ ∀ more updates,
      (d.extend more).turn updates = ({ d with mode := .framed }.extend more).framedTurn updates) ∨
    ((d.mode = .text ∨ d.mode = .unknown ∧ 4 ≤ d.buffer.length ∧ ¬ Hex d.buffer) ∧
      ∀ more updates,
        (d.extend more).turn updates =
          ({ d with mode := .text }.extend more).textTurn updates) := by
  cases mode : d.mode with
  | framed =>
      refine .inr (.inr (.inl ⟨.inl rfl, fun more updates => ?_⟩))
      have own : d = { d with mode := .framed } := by rw [← mode]
      rw [own]
      rfl
  | text =>
      refine .inr (.inr (.inr ⟨.inl rfl, fun more updates => ?_⟩))
      have own : d = { d with mode := .text } := by rw [← mode]
      rw [own]
      rfl
  | unknown =>
      by_cases short : d.buffer.length < 4
      · refine .inl ⟨rfl, short, fun updates => ?_⟩
        rw [turn]
        simp only [mode, if_pos short]
      · have long (more : List UInt8) : ¬ (d.extend more).buffer.length < 4 := by
          rw [extend, List.length_append]
          omega
        have field (more : List UInt8) : (d.extend more).buffer.take 4 = d.buffer.take 4 :=
          List.take_append_of_le_length (Nat.le_of_not_lt short)
        have mode' (more : List UInt8) : (d.extend more).mode = .unknown := mode
        by_cases hex : (d.buffer.take 4).all isAsciiHexdigit
        · cases parsed : parseTrackLength (d.buffer.take 4) with
          | error e =>
              refine .inr (.inl ⟨rfl, e, fun more updates => ?_⟩)
              rw [turn]
              simp only [mode', if_neg (long more), field, if_pos hex, parsed]
          | ok length =>
              by_cases large : MAX_TRACK_DEVICES_PAYLOAD < length
              · refine .inr (.inl ⟨rfl, .oversized length, fun more updates => ?_⟩)
                rw [turn]
                simp only [mode', if_neg (long more), field, if_pos hex, parsed, if_pos large]
              · refine .inr (.inr (.inl ⟨.inr ⟨rfl, Nat.le_of_not_lt short, hex⟩,
                  fun more updates => ?_⟩))
                rw [turn]
                simp only [mode', if_neg (long more), field, if_pos hex, parsed, if_neg large]
                rfl
        · refine .inr (.inr (.inr ⟨.inr ⟨rfl, Nat.le_of_not_lt short, fun h => hex h.2⟩,
            fun more updates => ?_⟩))
          rw [turn]
          simp only [mode', if_neg (long more), field, if_neg hex]
          rfl

theorem turn_again_extend (turned : d.turn updates = .again updates' d') (more : List UInt8) :
    (d.extend more).turn updates = .again updates' (d'.extend more) := by
  obtain ⟨length, available, found, updated⟩ := turn_again turned
  rcases turn_cases d with ⟨_, _, same⟩ | ⟨_, e, failed⟩ | ⟨_, framed⟩ | ⟨_, text⟩
  · rw [same] at turned
    cases turned
  · have failed := failed [] updates
    rw [extend_nil, turned] at failed
    cases failed
  · have whole := (nextFrame_pos found).2
    rw [framed, framedTurn, extend, nextFrame_append (by rw [found]; simp), found]
    simp only [List.drop_append_of_le_length whole]
    let behind : TrackDevicesDecoder :=
      { d with mode := .framed, buffer := d.buffer.drop length }
    have step := update_extend behind updates available more
    rw [updated] at step
    change Turn.again ((behind.extend more).update updates available).1
      ((behind.extend more).update updates available).2 = _
    rw [step]
  · have text := text [] updates
    rw [extend_nil, turned, extend_nil] at text
    exact absurd text.symm textTurn_ne_again

theorem loop_congr {d₁ d₂ : TrackDevicesDecoder} {updates₁ updates₂ : List Bool}
    (turned : d₁.turn updates₁ = d₂.turn updates₂) : d₁.loop updates₁ = d₂.loop updates₂ := by
  cases second : d₂.turn updates₂ with
  | done result d => rw [loop_done (turned.trans second), loop_done second]
  | again updates d => rw [loop_again (turned.trans second), loop_again second]

/-- How the loop returns: it waits for four bytes, for the rest of a frame or for the rest of a
line. -/
theorem turn_done (turned : d.turn updates = .done (.ok updates') d') :
    (d' = d ∧ updates' = updates ∧ d.mode = .unknown ∧ d.buffer.length < 4) ∨
    (d' = { d with mode := .framed } ∧ updates' = updates ∧ nextFrame d.buffer = .ok none ∧
      ∀ more updates, (d.extend more).turn updates = (d'.extend more).turn updates) ∨
    ((d.mode = .text ∨ d.mode = .unknown ∧ 4 ≤ d.buffer.length ∧ ¬ Hex d.buffer) ∧
      d'.buffer.length ≤ MAX_TRACK_DEVICES_PAYLOAD ∧
      ∀ more, (d.extend more).turn updates = (d'.extend more).turn updates') := by
  rcases turn_cases d with ⟨mode, short, same⟩ | ⟨_, e, failed⟩ | ⟨_, framed⟩ | ⟨mode, text⟩
  · cases (same updates).symm.trans turned
    exact .inl ⟨rfl, rfl, mode, short⟩
  · have failed := failed [] updates
    rw [extend_nil, turned] at failed
    cases failed
  · have here := framed [] updates
    rw [extend_nil, extend_nil, turned, framedTurn] at here
    split at here
    · cases here
    · rename_i waiting
      cases here
      exact .inr (.inl ⟨rfl, rfl, waiting, framed⟩)
    · cases here
  · have here := text [] updates
    rw [extend_nil, extend_nil, turned, textTurn] at here
    cases pushed : pushLines { d with mode := .text } updates with
    | mk result d' =>
        rw [pushed] at here
        cases result with
        | error e => cases here
        | ok updates' =>
            simp only at here
            split at here
            · cases here
            · rename_i small
              cases here
              refine .inr (.inr ⟨mode, Nat.le_of_not_lt small, fun more => ?_⟩)
              have kept : (d'.extend more).mode = .text := by
                have kept := @pushLines_mode { d with mode := .text } updates
                rw [pushed] at kept
                exact kept
              rw [text, textTurn, pushLines_extend pushed more, turn]
              simp only [kept]
              rfl

theorem loop_extend (looped : d.loop updates = (.ok updates', d')) (more : List UInt8) :
    (d.extend more).loop updates = (d'.extend more).loop updates' := by
  fun_induction loop d updates with
  | case1 d updates result d'' turned =>
      cases looped
      rcases turn_done turned with ⟨rfl, rfl, _⟩ | ⟨_, rfl, _, same⟩ | ⟨_, _, same⟩
      · rfl
      · exact loop_congr (same more updates')
      · exact loop_congr (same more)
  | case2 d updates updates'' d'' turned ih =>
      rw [loop_again (turn_again_extend turned more)]
      exact ih looped

/-- In frames a failure stays one, whatever comes behind it. -/
theorem loop_extend_error (framed : d.mode = .framed ∨ d.mode = .unknown ∧ Hex d.buffer)
    (looped : d.loop updates = (.error e, d')) (more : List UInt8) :
    ∃ d'', (d.extend more).loop updates = (.error e, d'') := by
  fun_induction loop d updates with
  | case1 d updates result d'' turned =>
      cases looped
      rcases turn_cases d with ⟨_, _, same⟩ | ⟨_, e, failed⟩ | ⟨_, framed⟩ | ⟨text, _⟩
      · cases (same updates).symm.trans turned
      · have here := failed [] updates
        rw [extend_nil, turned] at here
        cases here
        exact ⟨_, loop_done (failed more updates)⟩
      · have here := framed [] updates
        rw [extend_nil, extend_nil, turned, framedTurn] at here
        split at here
        · rename_i failed
          cases here
          have still : (d.extend more).turn updates =
              .done (.error e) ({ d with mode := .framed }.extend more) := by
            rw [framed, framedTurn, extend, nextFrame_append (by rw [failed]; simp), failed]
          exact ⟨_, loop_done still⟩
        · cases here
        · cases here
      · rcases framed with mode | ⟨mode, hex⟩
        · rw [mode] at text
          simp at text
        · rw [mode] at text
          simp [hex] at text
  | case2 d updates updates'' d'' turned ih =>
      rw [loop_again (turn_again_extend turned more)]
      exact ih (.inl (turn_again_mode turned)) looped

/-- What one push leaves is where the next goes on. -/
theorem push_append {a b : List UInt8} (first : d.push a = (.ok updates, d')) :
    d.push (a ++ b) = ((d'.push b).1.map (updates ++ ·), (d'.push b).2) := by
  have joined := loop_extend first b
  rw [extend, List.append_assoc] at joined
  rw [push, joined, ← List.append_nil updates, loop_after, List.append_nil, push, extend]

end

/-! What a stream of frames says. -/

/-- The snapshot at the front of a stream, by its length field. -/
def snapshotSize (stream : List UInt8) : Option Nat :=
  match parseTrackLength (stream.take 4) with
  | .error _ => none
  | .ok length => if 4 + length ≤ stream.length then some (4 + length) else none

/-- Some line of the snapshot has a tab, and the first word behind the first one is `device`. -/
def Available (snapshot : List UInt8) : Prop :=
  ∃ text, fromUtf8 (snapshot.drop 4) = some text ∧ ∃ line ∈ Text.lines text.toList,
    ∃ serial state, line = serial ++ '\t' :: state ∧ '\t' ∉ serial ∧
      (Text.splitWhitespace state).head? = some ['d', 'e', 'v', 'i', 'c', 'e']

/-- Those that differ from the one before. -/
def fresh : Option Bool → List Bool → List Bool
  | _, [] => []
  | last, available :: later =>
      if last = some available then fresh last later
      else available :: fresh (some available) later

attribute [local grind =] fresh

section
variable {d d' : TrackDevicesDecoder} {updates updates' : List Bool} {buffer payload : List UInt8}
  {n : Nat} {available : Bool}

theorem stateIsDevice_iff {line : List Char} :
    stateIsDevice line = true ↔ ∃ serial state, line = serial ++ '\t' :: state ∧ '\t' ∉ serial ∧
      (Text.splitWhitespace state).head? = some ['d', 'e', 'v', 'i', 'c', 'e'] := by
  unfold stateIsDevice
  constructor
  · intro device
    split at device
    · cases device
    · rename_i serial state cut
      obtain ⟨whole, first⟩ := Text.splitOnce_eq_some.mp cut
      exact ⟨serial, state, whole, first, of_decide_eq_true device⟩
  · rintro ⟨serial, state, whole, first, device⟩
    rw [Text.splitOnce_eq_some.mpr ⟨whole, first⟩]
    exact decide_eq_true device

theorem parseTrackSnapshot_eq_ok {snapshot : List UInt8}
    (parsed : parseTrackSnapshot (snapshot.drop 4) = .ok available) :
    available = true ↔ Available snapshot := by
  unfold parseTrackSnapshot at parsed
  split at parsed
  · cases parsed
  · rename_i text decoded
    cases parsed
    simp only [Available, decoded, Option.some.injEq, exists_eq_left', List.any_eq_true,
      stateIsDevice_iff]

/-- What the decoder takes for a snapshot is one. -/
theorem nextFrame_some (found : nextFrame buffer = .ok (some (n, available))) :
    snapshotSize buffer = some n ∧ (available = true ↔ Available (buffer.take n)) := by
  unfold nextFrame at found
  split at found
  · cases found
  · split at found
    · cases found
    · rename_i length parsed
      split at found
      · cases found
      · split at found
        · cases found
        · split at found
          · cases found
          · rename_i whole available snapshot
            cases found
            constructor
            · rw [snapshotSize, parsed]
              exact if_pos (by omega)
            · refine parseTrackSnapshot_eq_ok ?_
              rw [List.drop_take, Nat.add_sub_cancel_left]
              exact snapshot

theorem nextFrame_none (waiting : nextFrame buffer = .ok none) :
    snapshotSize buffer = none ∧ buffer.length ≤ 4 + MAX_TRACK_DEVICES_PAYLOAD := by
  unfold nextFrame at waiting
  split at waiting
  · rename_i short
    refine ⟨?_, by omega⟩
    rw [snapshotSize, parseTrackLength, if_pos (.inl (by rw [List.length_take]; omega))]
  · split at waiting
    · cases waiting
    · rename_i length parsed
      split at waiting
      · cases waiting
      · split at waiting
        · refine ⟨?_, by omega⟩
          rw [snapshotSize, parsed]
          exact if_neg (by omega)
        · split at waiting <;> cases waiting

theorem update_fresh (updated : d.update updates available = (updates', d'))
    (later : List Bool) :
    updates ++ fresh d.lastUpdate (available :: later) = updates' ++ fresh d'.lastUpdate later := by
  unfold update at updated
  rw [fresh]
  split at updated
  · rename_i same
    cases updated
    rw [if_pos same]
  · rename_i other
    cases updated
    rw [if_neg other, List.append_assoc]
    rfl

/-- The frames of a stream, and the updates they make. -/
theorem loop_snapshots (framed : d.mode = .framed ∨ d.mode = .unknown ∧ Hex d.buffer)
    (looped : d.loop updates = (.ok updates', d')) :
    ∃ snapshots availabilities, Splits snapshotSize d.buffer snapshots d'.buffer ∧
      List.Forall₂ (fun snapshot available => available = true ↔ Available snapshot) snapshots
        availabilities ∧
      updates' = updates ++ fresh d.lastUpdate availabilities := by
  fun_induction loop d updates with
  | case1 d updates result d'' turned =>
      cases looped
      rcases turn_done turned with ⟨_, _, mode, short⟩ | ⟨rfl, rfl, waiting, _⟩ | ⟨text, _⟩
      · rw [mode] at framed
        have long := (framed.resolve_left (by simp)).2.1
        omega
      · exact ⟨[], [], .rest (nextFrame_none waiting).1, .nil, (List.append_nil _).symm⟩
      · rcases framed with mode | ⟨mode, hex⟩
        · rw [mode] at text
          simp at text
        · rw [mode] at text
          simp [hex] at text
  | case2 d updates updates'' d'' turned ih =>
      obtain ⟨length, available, found, updated⟩ := turn_again turned
      obtain ⟨size, same⟩ := nextFrame_some found
      obtain ⟨snapshots, availabilities, splits, each, rfl⟩ :=
        ih (.inl (turn_again_mode turned)) looped
      have rest : d''.buffer = d.buffer.drop length := buffer_of_update updated
      rw [rest] at splits
      exact ⟨_, _, .frame size splits, .cons same each, (update_fresh updated availabilities).symm⟩

theorem loop_bounded (looped : d.loop updates = (.ok updates', d')) :
    d'.buffer.length ≤ 4 + MAX_TRACK_DEVICES_PAYLOAD := by
  fun_induction loop d updates with
  | case1 d updates result d'' turned =>
      cases looped
      rcases turn_done turned with ⟨rfl, _, _, short⟩ | ⟨rfl, _, waiting, _⟩ | ⟨_, small, _⟩
      · omega
      · exact (nextFrame_none waiting).2
      · omega
  | case2 d updates updates'' d'' turned ih => exact ih looped

/-! The pushes of a whole stream. -/

theorem push_short {bytes : List UInt8} (short : bytes.length < 4) :
    default.push bytes = (.ok [], { default with buffer := bytes }) := by
  refine loop_done ?_
  rw [turn]
  exact if_pos short

theorem pushes_ok {stream : List UInt8} {chunks : List (List UInt8)}
    (earlier : default.push stream = (.ok updates, d))
    (pushed : d.pushes chunks = .ok (updates', d')) :
    default.push (stream ++ chunks.flatten) = (.ok (updates ++ updates'), d') := by
  induction chunks generalizing stream updates updates' d with
  | nil =>
      cases pushed
      rw [List.flatten_nil, List.append_nil, List.append_nil, earlier]
  | cons chunk chunks ih =>
      rw [pushes] at pushed
      split at pushed
      · cases pushed
      · rename_i first d₁ here
        split at pushed
        · cases pushed
        · rename_i later _ rest
          cases pushed
          have both := push_append earlier (b := chunk)
          rw [here] at both
          rw [List.flatten_cons, ← List.append_assoc, ih both rest, List.append_assoc]

/-- In frames the push that fails does so in the whole stream. -/
theorem pushes_error {stream : List UInt8} {chunks : List (List UInt8)}
    {e : TrackDevicesDecodeError} (earlier : default.push stream = (.ok updates, d))
    (hex : Hex (stream ++ chunks.flatten)) (failed : d.pushes chunks = .error e) :
    ∃ d', default.push (stream ++ chunks.flatten) = (.error e, d') := by
  induction chunks generalizing stream updates d with
  | nil => cases failed
  | cons chunk chunks ih =>
      rw [List.flatten_cons, ← List.append_assoc] at hex ⊢
      have both := push_append earlier (b := chunk)
      rw [pushes] at failed
      split at failed
      · rename_i here
        cases failed
        rw [here] at both
        have long : 4 ≤ (stream ++ chunk).length := by
          by_contra short
          rw [push_short (Nat.lt_of_not_le short)] at both
          cases both
        have own : Hex (stream ++ chunk) := by
          refine ⟨long, ?_⟩
          rw [← List.take_append_of_le_length long]
          exact hex.2
        exact loop_extend_error (d := { default with buffer := stream ++ chunk }) (.inr ⟨rfl, own⟩)
          both chunks.flatten
      · rename_i first d₁ here
        rw [here] at both
        split at failed
        · rename_i rest
          cases failed
          exact ih both hex rest
        · cases failed

theorem fresh_some (last : Bool) (availabilities : List Bool) :
    last :: fresh (some last) availabilities = availabilities.destutter' (· ≠ ·) last := by
  induction availabilities generalizing last with
  | nil => rfl
  | cons available later ih =>
      rw [fresh, List.destutter']
      by_cases same : last = available
      · rw [if_pos (congrArg some same), if_neg (not_not.mpr same), ih]
      · rw [if_neg fun other => same (Option.some.inj other), if_pos same, ih]

theorem fresh_none (availabilities : List Bool) :
    fresh none availabilities = availabilities.destutter (· ≠ ·) := by
  cases availabilities with
  | nil => rfl
  | cons available later => exact fresh_some available later

end

/-- What pushes return is what one push of the whole stream returns, and they leave the same. In
frames they fail exactly when it does, and the updates are the availabilities of the snapshots
without repetitions. No push that returns leaves more than one snapshot unread. -/
theorem decoding_chunk_independent (chunks : List (List UInt8)) :
    (∀ updates d, default.pushes chunks = .ok (updates, d) →
      default.push chunks.flatten = (.ok updates, d)) ∧
    (Hex chunks.flatten →
      ((∃ e, default.pushes chunks = .error e) ↔
        ∃ e d, default.push chunks.flatten = (.error e, d)) ∧
      ∀ updates d, default.pushes chunks = .ok (updates, d) →
        ∃ snapshots availabilities rest, Splits snapshotSize chunks.flatten snapshots rest ∧
          List.Forall₂ (fun snapshot available => available = true ↔ Available snapshot) snapshots
            availabilities ∧
          updates = availabilities.destutter (· ≠ ·)) ∧
    ∀ d bytes updates d', push d bytes = (.ok updates, d') →
      d'.buffer.length ≤ 4 + MAX_TRACK_DEVICES_PAYLOAD := by
  have whole {updates : List Bool} {d : TrackDevicesDecoder}
      (pushed : default.pushes chunks = .ok (updates, d)) :
      default.push chunks.flatten = (.ok updates, d) :=
    pushes_ok (push_short (by decide)) pushed
  refine ⟨fun _ _ => whole, fun hex => ⟨⟨?_, ?_⟩, fun updates d pushed => ?_⟩,
    fun _ _ _ _ => loop_bounded⟩
  · rintro ⟨e, failed⟩
    obtain ⟨d, failed⟩ := pushes_error (push_short (show [].length < 4 by decide)) hex failed
    exact ⟨e, d, failed⟩
  · rintro ⟨e, d, failed⟩
    cases pushed : default.pushes chunks with
    | error e => exact ⟨e, rfl⟩
    | ok pair =>
        rw [whole pushed] at failed
        cases failed
  · obtain ⟨snapshots, availabilities, splits, each, same⟩ :=
      loop_snapshots (d := { default with buffer := chunks.flatten }) (.inr ⟨rfl, hex⟩)
        (whole pushed)
    refine ⟨snapshots, availabilities, _, splits, each, ?_⟩
    rw [same, List.nil_append]
    exact fresh_none availabilities

end TrackDevicesDecoder
end QuestVdWired.Host
