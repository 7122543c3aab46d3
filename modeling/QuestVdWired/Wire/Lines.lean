import Mathlib.Data.List.Basic
import Mathlib.Tactic.Common

/-!
Text in lines that each end in a mark, and what is left of it behind the last mark.
-/

namespace Wire
variable {α : Type*} [DecidableEq α]

/-- The lines of a text that are complete, with their marks, from the line under way. -/
def completeFrom (mark : α) (line : List α) : List α → List (List α)
  | [] => []
  | c :: text =>
      if c = mark then (line ++ [c]) :: completeFrom mark [] text
      else completeFrom mark (line ++ [c]) text

def completeLines (mark : α) (text : List α) : List (List α) := completeFrom mark [] text

/-- What stands behind the last mark. -/
def tornFrom (mark : α) (line : List α) : List α → List α
  | [] => line
  | c :: text => tornFrom mark (if c = mark then [] else line ++ [c]) text

def tornPart (mark : α) (text : List α) : List α := tornFrom mark [] text

attribute [local grind =] completeFrom tornFrom

section
variable {mark : α} {line text later body : List α}

theorem completeFrom_append :
    completeFrom mark line (text ++ later) =
      completeFrom mark line text ++ completeFrom mark (tornFrom mark line text) later := by
  induction text generalizing line with
  | nil => rfl
  | cons c text ih =>
      rw [List.cons_append, completeFrom, completeFrom, tornFrom]
      split
      · rw [ih, List.cons_append]
      · rw [ih]

theorem tornFrom_append :
    tornFrom mark line (text ++ later) = tornFrom mark (tornFrom mark line text) later := by
  induction text generalizing line with
  | nil => rfl
  | cons c text ih => rw [List.cons_append, tornFrom, tornFrom, ih]

theorem completeFrom_body (unmarked : mark ∉ body) : completeFrom mark line body = [] := by
  induction body generalizing line with
  | nil => rfl
  | cons c body ih =>
      rw [List.mem_cons, not_or] at unmarked
      rw [completeFrom, if_neg (Ne.symm unmarked.1), ih unmarked.2]

theorem tornFrom_body (unmarked : mark ∉ body) : tornFrom mark line body = line ++ body := by
  induction body generalizing line with
  | nil => rw [tornFrom, List.append_nil]
  | cons c body ih =>
      rw [List.mem_cons, not_or] at unmarked
      rw [tornFrom, if_neg (Ne.symm unmarked.1), ih unmarked.2, List.append_assoc,
        List.singleton_append]

/-- More text takes nothing from the lines that are complete. -/
theorem completeLines_append (text later : List α) :
    completeLines mark (text ++ later) =
      completeLines mark text ++ completeFrom mark (tornPart mark text) later :=
  completeFrom_append

theorem completeLines_append_line (whole : tornPart mark text = []) (unmarked : mark ∉ body) :
    completeLines mark (text ++ (body ++ [mark])) =
      completeLines mark text ++ [body ++ [mark]] := by
  rw [completeLines_append, whole, completeFrom_append, completeFrom_body unmarked,
    tornFrom_body unmarked, List.nil_append, List.nil_append, completeFrom, if_pos rfl,
    completeFrom]

theorem tornPart_append_line (text body : List α) :
    tornPart mark (text ++ (body ++ [mark])) = [] := by
  rw [tornPart, tornFrom_append, tornFrom_append, tornFrom, if_pos rfl, tornFrom]

end
end Wire
