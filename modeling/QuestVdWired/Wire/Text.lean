import Mathlib.Algebra.Group.Nat.Defs
import Mathlib.Data.List.TakeWhile
import Mathlib.Tactic.Common

/-!
The string operations of the Rust standard library that the host's output parsers use, on
character lists.
-/

namespace Wire
namespace Text

/-- `char::is_whitespace`: the Unicode `White_Space` property. -/
def isWhitespace (c : Char) : Bool :=
  (9 ≤ c.toNat && c.toNat ≤ 13) || c.toNat = 0x20 || c.toNat = 0x85 || c.toNat = 0xA0 ||
    c.toNat = 0x1680 || (0x2000 ≤ c.toNat && c.toNat ≤ 0x200A) || c.toNat = 0x2028 ||
    c.toNat = 0x2029 || c.toNat = 0x202F || c.toNat = 0x205F || c.toNat = 0x3000

/-- `str::trim`. -/
def trim (text : List Char) : List Char :=
  ((text.dropWhile isWhitespace).reverse.dropWhile isWhitespace).reverse

/-- `str::lines` from the line under way, reversed. A carriage return goes with the line
feed it stands before; what follows the last line feed is a line only if it is not empty. -/
def linesFrom (line : List Char) : List Char → List (List Char)
  | [] => if line.isEmpty then [] else [line.reverse]
  | c :: rest =>
      if c = '\n' then
        (if line.head? = some '\r' then line.tail else line).reverse :: linesFrom [] rest
      else linesFrom (c :: line) rest

def lines (text : List Char) : List (List Char) := linesFrom [] text

/-- `str::split_whitespace` from the word under way, reversed. -/
def wordsFrom (word : List Char) : List Char → List (List Char)
  | [] => if word.isEmpty then [] else [word.reverse]
  | c :: rest =>
      if isWhitespace c then
        (if word.isEmpty then [] else [word.reverse]) ++ wordsFrom [] rest
      else wordsFrom (c :: word) rest

def splitWhitespace (text : List Char) : List (List Char) := wordsFrom [] text

/-- `str::contains`. -/
def contains (text pattern : List Char) : Bool :=
  text.tails.any pattern.isPrefixOf

/-- `str::strip_prefix`. -/
def stripPrefix (text pattern : List Char) : Option (List Char) :=
  if pattern.isPrefixOf text then some (text.drop pattern.length) else none

/-- `str::split_once` at a character. -/
def splitOnce (separator : Char) : List Char → Option (List Char × List Char)
  | [] => none
  | c :: rest =>
      if c = separator then some ([], rest)
      else (splitOnce separator rest).map fun (before, after) => (c :: before, after)

/-- `str::trim_end_matches` of a character. -/
def trimEndMatches (c : Char) (text : List Char) : List Char :=
  (text.reverse.dropWhile (· = c)).reverse

/-- `str::to_ascii_lowercase`. -/
def toAsciiLowercase (text : List Char) : List Char :=
  text.map Char.toLower

attribute [local grind =] splitOnce

theorem trim_eq_nil {text : List Char} : trim text = [] ↔ ∀ c ∈ text, isWhitespace c = true := by
  rw [trim, List.reverse_eq_nil_iff, List.dropWhile_eq_nil_iff]
  simp only [List.mem_reverse]
  constructor
  · intro blank
    rw [← List.takeWhile_append_dropWhile (p := isWhitespace) (l := text)]
    intro c member
    rcases List.mem_append.mp member with first | later
    · exact List.mem_takeWhile_imp first
    · exact blank c later
  · intro blank c member
    exact blank c ((List.dropWhile_sublist _).mem member)

theorem mem_of_mem_linesFrom {text line l : List Char} (member : l ∈ linesFrom line text) {c : Char}
    (inside : c ∈ l) : c ∈ line ∨ c ∈ text := by
  induction text generalizing line with
  | nil =>
      unfold linesFrom at member
      split at member
      · cases member
      · rw [List.mem_singleton.mp member, List.mem_reverse] at inside
        exact .inl inside
  | cons d text ih =>
      unfold linesFrom at member
      split at member
      · rcases List.mem_cons.mp member with rfl | member
        · rw [List.mem_reverse] at inside
          split at inside
          · exact .inl (List.mem_of_mem_tail inside)
          · exact .inl inside
        · rcases ih member with none | later
          · cases none
          · exact .inr (List.mem_cons_of_mem _ later)
      · rcases ih member with here | later
        · rcases List.mem_cons.mp here with rfl | before
          · exact .inr (List.mem_cons_self ..)
          · exact .inl before
        · exact .inr (List.mem_cons_of_mem _ later)

/-- The characters of a line are characters of the text. -/
theorem mem_of_mem_lines {text line : List Char} (member : line ∈ lines text) {c : Char}
    (inside : c ∈ line) : c ∈ text :=
  (mem_of_mem_linesFrom member inside).resolve_left List.not_mem_nil

theorem splitOnce_eq_some {separator : Char} {text before after : List Char} :
    splitOnce separator text = some (before, after) ↔
      text = before ++ separator :: after ∧ separator ∉ before := by
  induction text generalizing before with
  | nil => simp [splitOnce]
  | cons c text ih =>
      rw [splitOnce]
      by_cases here : c = separator
      · subst here
        rw [if_pos rfl]
        cases before with
        | nil => simp [eq_comm]
        | cons d before =>
            simp only [Option.some.injEq, Prod.mk.injEq, List.nil_eq, reduceCtorEq, false_and,
              List.cons_append, List.cons.injEq, List.mem_cons, not_or, false_iff]
            rintro ⟨⟨same, _⟩, other, _⟩
            exact other same
      · rw [if_neg here]
        cases before with
        | nil => simp [here]
        | cons d before =>
            have step : (splitOnce separator text).map (fun (before, after) => (c :: before, after)) =
                some (d :: before, after) ↔
                  c = d ∧ splitOnce separator text = some (before, after) := by
              cases splitOnce separator text with
              | none => simp
              | some pair => simp [Prod.ext_iff, and_assoc]
            rw [step, ih, List.cons_append, List.cons.injEq, List.mem_cons, not_or]
            constructor
            · rintro ⟨rfl, whole, fresh⟩
              exact ⟨⟨rfl, whole⟩, fun same => here same.symm, fresh⟩
            · rintro ⟨⟨rfl, whole⟩, _, fresh⟩
              exact ⟨rfl, whole, fresh⟩

/-- No letter is whitespace, so lower case hides none. -/
theorem isWhitespace_toLower {c : Char} (blank : isWhitespace c.toLower = true) :
    isWhitespace c = true := by
  unfold Char.toLower at blank
  split at blank
  · rename_i letter
    have low : 65 ≤ c.val.toNat := letter.1
    have high : c.val.toNat ≤ 90 := letter.2
    have lower : (c.val + ('a'.val - 'A'.val)).toNat = c.val.toNat + 32 := by
      rw [UInt32.toNat_add, show ('a'.val - 'A'.val).toNat = 32 from rfl]
      exact Nat.mod_eq_of_lt (by omega)
    simp only [isWhitespace, Char.toNat, lower, Bool.or_eq_true, Bool.and_eq_true,
      decide_eq_true_eq] at blank
    omega
  · exact blank

end Text
end Wire
