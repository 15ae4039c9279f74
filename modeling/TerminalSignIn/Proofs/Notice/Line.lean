import Mathlib.Data.Bool.AllAny
import TerminalSignIn.Notice
import TerminalSignIn.Proofs.Text.Display

/-!
# An error as a notice and as a line

The notice board and the line sink leave out the same errors, and show the message of any other one in the same form.
They part over the title: the board shows it in display form, and the line sink as it was given. So the two agree
exactly on the titles that display changes nothing about.
-/

namespace TerminalSignIn

/-- The line for a notice: its format, under the default title if it has none. -/
def Notice.line (notice : Notice) : Text :=
  format { notice with title := some (notice.title.getD LineSink.defaultTitle) }

namespace Notice

theorem line_eq (notice : Notice) :
    notice.line = notice.title.getD LineSink.defaultTitle ++ ": ".toList ++ notice.message := rfl

theorem ofError?_eq_some {title : Option Text} {message : Text} {notice : Notice}
    (noticed : ofError? title message = some notice) :
    notice.title = (title.map Text.display).filter (fun title => !title.isEmpty) ∧
      notice.message = message.display := by
  rw [ofError?] at noticed
  split at noticed
  · contradiction
  · cases noticed
    exact ⟨rfl, rfl⟩

end Notice

namespace LineSink

theorem errorLine?_eq (title : Option Text) (message : Text) :
    errorLine? title message = (Notice.ofError? title message).map fun notice =>
      title.getD defaultTitle ++ ": ".toList ++ notice.message := by
  rw [errorLine?, Notice.ofError?]
  split <;> rfl

theorem contents_write (sink : LineSink) (working : sink.broken = false) (line : Text) :
    (sink.write line).contents = sink.contents ++ line ++ ['\n'] := by
  simp [write, working, contents]

theorem showError_of_notice {title : Option Text} {message : Text} {notice : Notice}
    (noticed : Notice.ofError? title message = some notice) (sink : LineSink) :
    sink.showError title message = sink.write (title.getD defaultTitle ++ ": ".toList ++ notice.message) := by
  rw [showError, errorLine?_eq, noticed]
  rfl

theorem showError_of_none {title : Option Text} {message : Text} (unnoticed : Notice.ofError? title message = none)
    (sink : LineSink) : sink.showError title message = sink := by
  rw [showError, errorLine?_eq, unnoticed]
  rfl

theorem isShown_iff (given : Text) :
    given = (Option.filter (fun title => !title.isEmpty) (some given.display)).getD defaultTitle ↔ given.IsShown := by
  by_cases nothing : given.display = []
  · rw [nothing]
    constructor
    · intro same
      have default : given = defaultTitle := same
      rw [default] at nothing
      exact absurd nothing (by decide)
    · intro shown
      exact absurd (shown.fixed.symm.trans nothing) shown.filled
  · have kept : Option.filter (fun title => !title.isEmpty) (some given.display) = some given.display := by
      simp [nothing]
    rw [kept, Option.getD_some]
    exact ⟨fun same => ⟨fun empty => nothing (same.symm.trans empty), same.symm⟩, fun shown => shown.fixed.symm⟩

theorem line_eq_iff {title : Option Text} {message : Text} {notice : Notice}
    (noticed : Notice.ofError? title message = some notice) :
    title.getD defaultTitle ++ ": ".toList ++ notice.message = notice.line ↔ ∀ given ∈ title, given.IsShown := by
  rw [Notice.line_eq, List.append_left_inj, List.append_left_inj, (Notice.ofError?_eq_some noticed).1]
  cases title with
  | none => exact ⟨fun _ => nofun, fun _ => rfl⟩
  | some given => simpa using isShown_iff given

/-- All that a line shows but its title can be displayed, so what holds of every such character holds of the line if it
holds of the title. -/
theorem forall_mem_line_iff (holds : Char → Prop)
    (displayed : ∀ char, Text.isPrintable char = true ∨ char = ' ' → holds char)
    {title : Option Text} {message : Text} {notice : Notice} (noticed : Notice.ofError? title message = some notice) :
    (∀ char ∈ title.getD defaultTitle ++ ": ".toList ++ notice.message, holds char) ↔
      ∀ given ∈ title, ∀ char ∈ given, holds char := by
  have between : ∀ char ∈ ": ".toList, holds char := by
    have each : ∀ char ∈ ": ".toList, Text.isPrintable char = true ∨ char = ' ' :=
      List.all_iff_forall_prop.mp (by decide)
    exact fun char member => displayed char (each char member)
  have behind : ∀ char ∈ notice.message, holds char := by
    intro char member
    rw [(Notice.ofError?_eq_some noticed).2] at member
    exact displayed char ((Text.tidy_display message).flows.mem member)
  rw [List.forall_mem_append, List.forall_mem_append]
  cases title with
  | none =>
    have before : ∀ char ∈ defaultTitle, Text.isPrintable char = true ∨ char = ' ' :=
      List.all_iff_forall_prop.mp (by decide)
    exact ⟨fun _ => nofun, fun _ => ⟨⟨fun char member => displayed char (before char member), between⟩, behind⟩⟩
  | some given =>
    constructor
    · rintro ⟨⟨before, _⟩, _⟩ _ ⟨⟩
      exact before
    · intro before
      exact ⟨⟨before given rfl, between⟩, behind⟩

end LineSink

/-- What of an error cannot be displayed is left out by the board and by the line sink alike. Any other error is one
notice on the board and one text with a line end in the sink. That text is the line for the notice exactly if the title
is displayed as it is, a single line exactly if the title has no line feed, and free of control characters, and so of
escape sequences, exactly if the title is. -/
theorem sinks_agree_iff_shown (title : Option Text) (message : Text) :
    (Notice.ofError? title message = none →
      (∀ board : NoticeBoard, board.showError title message = board) ∧
      ∀ sink : LineSink, sink.showError title message = sink) ∧
    ∀ notice, Notice.ofError? title message = some notice → ∃ line,
      (∀ board : NoticeBoard, board.showError title message = board.post notice) ∧
      (∀ sink : LineSink, sink.broken = false →
        (sink.showError title message).contents = sink.contents ++ line ++ ['\n']) ∧
      (line = notice.line ↔ ∀ given ∈ title, given.IsShown) ∧
      ((∀ char ∈ line, char ≠ '\n') ↔ ∀ given ∈ title, ∀ char ∈ given, char ≠ '\n') ∧
      ((∀ char ∈ line, isControl char = false) ↔ ∀ given ∈ title, ∀ char ∈ given, isControl char = false) := by
  constructor
  · intro unnoticed
    exact ⟨fun board => by rw [NoticeBoard.showError, unnoticed], LineSink.showError_of_none unnoticed⟩
  · intro notice noticed
    refine ⟨title.getD LineSink.defaultTitle ++ ": ".toList ++ notice.message, fun board => ?_,
      fun sink working => ?_, LineSink.line_eq_iff noticed, ?_, ?_⟩
    · rw [NoticeBoard.showError, noticed]
    · rw [LineSink.showError_of_notice noticed, LineSink.contents_write _ working]
    · apply LineSink.forall_mem_line_iff (· ≠ '\n') ?_ noticed
      rintro char (printable | rfl)
      · rintro rfl
        exact absurd printable (by decide)
      · decide
    · apply LineSink.forall_mem_line_iff (isControl · = false) ?_ noticed
      rintro char (printable | rfl)
      · exact (Text.isPrintable_iff.mp printable).2
      · decide

/-- A title of two lines is one line on the board, and the line sink writes two. -/
theorem sinks_agree_iff_shown_across_lines :
    let title : Option Text := some "Sign in\nfailed".toList
    let message : Text := "\x1b[1mLocked\x1b[0m".toList
    let notice : Notice := ⟨some "Sign in failed".toList, "Locked".toList⟩
    let written : Text := ((⟨false, []⟩ : LineSink).showError title message).contents
    Notice.ofError? title message = some notice ∧ (NoticeBoard.empty.showError title message).latest? = some notice ∧
    written = "Sign in\nfailed: Locked\n".toList ∧ notice.line = "Sign in failed: Locked".toList ∧
    ∃ line, written = line ++ ['\n'] ∧ line ≠ notice.line ∧ ¬ (∀ char ∈ line, char ≠ '\n') ∧
      ¬ ∀ char ∈ line, isControl char = false := by
  intro title message notice written
  have noticed : Notice.ofError? title message = some notice := by decide
  obtain ⟨line, posted, writes, agrees, single, clean⟩ := (sinks_agree_iff_shown title message).2 notice noticed
  have feed : ¬ ∀ given ∈ title, ∀ char ∈ given, char ≠ '\n' :=
    fun single => single _ rfl '\n' (by decide) rfl
  have control : ¬ ∀ given ∈ title, ∀ char ∈ given, isControl char = false :=
    fun clean => absurd (clean _ rfl '\n' (by decide)) (by decide)
  refine ⟨noticed, by rw [posted]; rfl, by decide, by decide, line, writes _ rfl, ?_, mt single.mp feed,
    mt clean.mp control⟩
  intro same
  exact absurd (agrees.mp same _ rfl).fixed (by decide)

end TerminalSignIn
