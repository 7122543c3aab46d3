import QuestVdWired.Host.AdbTransactions

/-!
The verdict of `verify_vpn_closed` on the text of a dump. Absence is looked for anywhere in the
text, in any case of its letters; the descriptor only in lines of its own.
-/

namespace QuestVdWired.Host
open Oracle Oracle.Asking Wire

/-- A `vpnFdOpen` line with anything but `false`. -/
def ShowsOpen (output : String) : Prop := ∃ value ∈ vpnFdValues output, value ≠ "false".toList

/-- The service or its process is not there. An empty dump is one of a service that is not. -/
def StatesAbsent (output : String) : Prop :=
  let normalized := Text.toAsciiLowercase output.toList
  Text.trim normalized = [] ∨ Text.contains normalized "no services match".toList = true ∨
    Text.contains normalized "no service records found".toList = true ∨
    Text.contains normalized "pid=(not running)".toList = true

/-- The text gives the descriptor as closed, or no descriptor and the service as absent. -/
def SaysClosed (output : String) : Prop :=
  (vpnFdValues output ≠ [] ∧ ∀ value ∈ vpnFdValues output, value = "false".toList) ∨
    vpnFdValues output = [] ∧ StatesAbsent output

/-- A text that shows the descriptor open is never judged closed, and a check that returns `Ok`
on the text does so because it says closed. -/
structure FailsClosed (c : AdbController) (output : String) : Prop where
  poll : ShowsOpen output → judgedClosed output = false
  verify : Ensures c.verifyVpnClosed fun l r => r = .ok () →
    ∃ before answer, l = before ++ [⟨c.dumpsysQuery, .ok answer⟩] ∧
      (answer.stdout = output → SaysClosed output)

/-- An open descriptor beside a text that reads as absence: `pid=(not running)` is overridden by
`true` only. -/
def Masked (output : String) : Prop :=
  let normalized := Text.toAsciiLowercase output.toList
  ShowsOpen output ∧
    (Text.contains normalized "no services match".toList = true ∨
      Text.contains normalized "no service records found".toList = true ∨
      Text.contains normalized "pid=(not running)".toList = true ∧
        ∀ line ∈ Text.lines normalized, Text.trim line ≠ "vpnfdopen=true".toList)

variable {output : String}

theorem vpnDescriptorExplicitlyClosed_iff :
    vpnDescriptorExplicitlyClosed output = true ↔
      vpnFdValues output ≠ [] ∧ ∀ value ∈ vpnFdValues output, value = "false".toList := by
  simp [vpnDescriptorExplicitlyClosed, and_comm]

theorem judgedClosed_iff :
    judgedClosed output = true ↔
      (Text.trim (Text.toAsciiLowercase output.toList) = [] ∨
          Text.contains (Text.toAsciiLowercase output.toList) "no services match".toList = true ∨
          Text.contains (Text.toAsciiLowercase output.toList)
            "no service records found".toList = true ∨
          Text.contains (Text.toAsciiLowercase output.toList) "pid=(not running)".toList = true ∧
            ∀ line ∈ Text.lines (Text.toAsciiLowercase output.toList),
              Text.trim line ≠ "vpnfdopen=true".toList) ∨
        vpnDescriptorExplicitlyClosed output = true := by
  simp only [judgedClosed, Bool.or_eq_true, Bool.and_eq_true, Bool.not_eq_true',
    List.isEmpty_iff, List.any_eq_false, decide_eq_true_iff, or_assoc]

/-- An empty dump has no lines to show anything. -/
theorem vpnFdValues_of_blank (blank : Text.trim (Text.toAsciiLowercase output.toList) = []) :
    vpnFdValues output = [] := by
  have whitespace : ∀ c ∈ output.toList, Text.isWhitespace c = true := by
    intro c member
    exact Text.isWhitespace_toLower (Text.trim_eq_nil.mp blank _ (List.mem_map_of_mem member))
  refine List.filterMap_eq_nil_iff.mpr fun line member => ?_
  have empty : Text.trim line = [] :=
    Text.trim_eq_nil.mpr fun c inside => whitespace c (Text.mem_of_mem_lines member inside)
  rw [empty]
  rfl

theorem judgedClosed_of_masked (masked : Masked output) : judgedClosed output = true := by
  obtain ⟨_, absent⟩ := masked
  exact judgedClosed_iff.mpr (.inl (.inr absent))

theorem saysClosed_of_judged (clear : ¬ Masked output) (judged : judgedClosed output = true) :
    SaysClosed output := by
  rcases judgedClosed_iff.mp judged with absent | closed
  · by_cases shows : ShowsOpen output
    · obtain blank | absent := absent
      · obtain ⟨value, member, _⟩ := shows
        rw [vpnFdValues_of_blank blank] at member
        cases member
      · exact absurd ⟨shows, absent⟩ clear
    · by_cases values : vpnFdValues output = []
      · refine .inr ⟨values, ?_⟩
        rcases absent with blank | match' | records | ⟨stopped, _⟩
        · exact .inl blank
        · exact .inr (.inl match')
        · exact .inr (.inr (.inl records))
        · exact .inr (.inr (.inr stopped))
      · refine .inl ⟨values, fun value member => ?_⟩
        by_contra other
        exact shows ⟨value, member, other⟩
  · exact .inl (vpnDescriptorExplicitlyClosed_iff.mp closed)

theorem not_showsOpen_of_saysClosed (closed : SaysClosed output) : ¬ ShowsOpen output := by
  rintro ⟨value, member, other⟩
  rcases closed with ⟨_, closed⟩ | ⟨none, _⟩
  · exact other (closed value member)
  · rw [none] at member
    cases member

/-- A check fails closed on a text exactly when the text does not mask an open descriptor. -/
theorem closure_fails_closed_iff (c : AdbController) (output : String) :
    FailsClosed c output ↔ ¬ Masked output := by
  constructor
  · intro fails masked
    have closed := judgedClosed_of_masked masked
    rw [fails.poll masked.1] at closed
    cases closed
  · intro clear
    constructor
    · intro shows
      by_contra judged
      rw [Bool.not_eq_false] at judged
      exact not_showsOpen_of_saysClosed (saysClosed_of_judged clear judged) shows
    · refine AdbController.verifyVpnClosed_spec.mono ?_
      rintro l r ⟨_, verified⟩ ok
      obtain ⟨before, answer, calls, _, judged⟩ := verified ok
      refine ⟨before, answer, calls, ?_⟩
      rintro rfl
      exact saysClosed_of_judged clear judged

/-- The last error quotes what an absent service would print. -/
theorem open_descriptor_judged_closed :
    ¬ FailsClosed ⟨0, 0, 0⟩ "vpnFdOpen=true\nlastError=no services match" := by
  intro fails
  have judged := fails.poll ⟨"true".toList, by decide, by decide⟩
  exact absurd judged (by decide)

end QuestVdWired.Host
