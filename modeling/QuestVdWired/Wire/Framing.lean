import Mathlib.Data.List.Basic
import Mathlib.Tactic.Common

/-!
Streams cut into frames. `size` tells how long the first frame of a stream is, once all of it is
there. What the frames are does not depend on how the stream came in.
-/

namespace Wire
variable {α : Type*}

/-- A frame has a first element and is all there; what follows it does not change it. -/
structure Framing (size : List α → Option Nat) : Prop where
  pos : ∀ {stream n}, size stream = some n → 0 < n
  le : ∀ {stream n}, size stream = some n → n ≤ stream.length
  more : ∀ {stream n}, size stream = some n → ∀ later, size (stream ++ later) = some n

/-- The frames of a stream, and what follows the last of them. -/
inductive Splits (size : List α → Option Nat) : List α → List (List α) → List α → Prop
  | rest {stream : List α} (incomplete : size stream = none) : Splits size stream [] stream
  | frame {stream rest : List α} {frames : List (List α)} {n : Nat} (found : size stream = some n)
      (after : Splits size (stream.drop n) frames rest) :
      Splits size stream (stream.take n :: frames) rest

namespace Splits
variable {size : List α → Option Nat} {stream later rest rest' : List α}
  {frames frames' : List (List α)}

theorem flatten (h : Splits size stream frames rest) : frames.flatten ++ rest = stream := by
  induction h with
  | rest => rfl
  | frame _ _ ih => rw [List.flatten_cons, List.append_assoc, ih, List.take_append_drop]

theorem incomplete (h : Splits size stream frames rest) : size rest = none := by
  induction h with
  | rest incomplete => exact incomplete
  | frame _ _ ih => exact ih

/-- What follows the first frame. -/
theorem of_found {n : Nat} (h : Splits size stream frames rest) (found : size stream = some n) :
    ∃ frames', frames = stream.take n :: frames' ∧ Splits size (stream.drop n) frames' rest := by
  cases h with
  | rest incomplete =>
      rw [found] at incomplete
      cases incomplete
  | frame found' after =>
      cases found.symm.trans found'
      exact ⟨_, rfl, after⟩

theorem unique (h : Splits size stream frames rest) (h' : Splits size stream frames' rest') :
    frames = frames' ∧ rest = rest' := by
  induction h generalizing frames' with
  | rest incomplete =>
      cases h' with
      | rest => exact ⟨rfl, rfl⟩
      | frame found => simp [incomplete] at found
  | frame found _ ih =>
      cases h' with
      | rest incomplete => simp [incomplete] at found
      | frame found' after' =>
          obtain rfl : _ = _ := Option.some.inj (found.symm.trans found')
          obtain ⟨rfl, rfl⟩ := ih after'
          exact ⟨rfl, rfl⟩

variable (framing : Framing size)
include framing

/-- More of the stream comes in behind what is left of it. -/
theorem append (h : Splits size stream frames rest)
    (h' : Splits size (rest ++ later) frames' rest') :
    Splits size (stream ++ later) (frames ++ frames') rest' := by
  induction h with
  | rest => exact h'
  | @frame stream rest frames n found _ ih =>
      have whole := framing.le found
      have step := Splits.frame (framing.more found later)
        (by rw [List.drop_append_of_le_length whole]; exact ih h')
      rwa [List.take_append_of_le_length whole] at step

theorem exists_of (stream : List α) : ∃ frames rest, Splits size stream frames rest := by
  induction length : stream.length using Nat.strongRecOn generalizing stream with
  | ind length ih =>
      subst length
      cases found : size stream with
      | none => exact ⟨[], stream, .rest found⟩
      | some n =>
          have whole := framing.le found
          have begun := framing.pos found
          obtain ⟨frames, rest, after⟩ := ih (stream.drop n).length
            (by rw [List.length_drop]; omega) _ rfl
          exact ⟨_, _, .frame found after⟩

/-- A stream put together from frames. -/
theorem of_flatten (frames : List (List α)) (each : ∀ frame ∈ frames,
      size frame = some frame.length) (incomplete : size rest = none) :
    Splits size (frames.flatten ++ rest) frames rest := by
  induction frames with
  | nil => exact .rest incomplete
  | cons frame frames ih =>
      have own := each frame (List.mem_cons_self ..)
      have later := ih fun other member => each other (List.mem_cons_of_mem _ member)
      have found := framing.more own (frames.flatten ++ rest)
      rw [List.flatten_cons, List.append_assoc]
      have step := Splits.frame found (by rw [List.drop_left]; exact later)
      rwa [List.take_left] at step

/-- Every frame was found where it begins. -/
theorem size_frame (h : Splits size stream frames rest) {frame : List α} (member : frame ∈ frames) :
    ∃ later, size (frame ++ later) = some frame.length := by
  induction h with
  | rest => cases member
  | @frame stream rest frames n found _ ih =>
      rcases List.mem_cons.mp member with rfl | member
      · refine ⟨stream.drop n, ?_⟩
        rw [List.take_append_drop, found, List.length_take, Nat.min_eq_left (framing.le found)]
      · exact ih member

end Splits
end Wire
