import TerminalSignIn.Proofs.Desk.Gate
import TerminalSignIn.Proofs.Desk.Trace
import TerminalSignIn.Proofs.Text.Display

/-!
# The message of the service

Attempts overlap and are answered in any order, mixed with edits, and every one of them may leave a message on the
form. The message that stands there is the one of the last turn that writes or clears it, and each rejection tells
the sink once, in the same words.
-/

namespace TerminalSignIn

namespace Rejection

/-- What a rejection says on the form: the display form of its message, or the default when that is empty. -/
def shown (rejection : Rejection) : Text :=
  if rejection.message.text.display = [] then "Sign in failed".toList else rejection.message.text.display

theorem text_displayed (rejection : Rejection) : rejection.displayed.text = rejection.shown := by
  have blank := Text.trim_display_eq_nil_iff rejection.message.text
  rw [displayed, shown, NonBlank.ofText?]
  by_cases empty : rejection.message.text.display = []
  · rw [dif_neg (not_not_intro (blank.mpr empty)), if_pos empty]
    rfl
  · rw [dif_pos (mt blank.mp empty), if_neg empty]
    rfl

theorem display_shown (rejection : Rejection) : rejection.shown.display = rejection.shown := by
  rw [shown]
  split
  · decide
  · exact Text.display_display _

theorem display_displayed (rejection : Rejection) : rejection.displayed.text.display = rejection.displayed.text := by
  rw [text_displayed, display_shown]

end Rejection

theorem NonBlank.text_ne_nil (message : NonBlank) : message.text ≠ [] := by
  intro empty
  exact message.visible (by rw [empty]; rfl)

theorem NonBlank.ofOption?_text (message : NonBlank) : ofOption? (some message.text) = some message := by
  simp [ofOption?, ofText?, message.visible]

theorem NonBlank.map_ofOption? (message : Option Text) :
    (ofOption? message).map text = message.filter fun text => text.trim ≠ [] := by
  cases message with
  | none => rfl
  | some text => by_cases blank : text.trim = [] <;> simp [ofOption?, ofText?, blank, Option.filter]

namespace Form

theorem field_fails_server {form : Form} (fresh : form.Fresh) (field : Field) :
    (form.field field).fails .server = form.serverError.isSome := by
  have exact : (form.field field).fails .server = true ↔ form.serverError ≠ none := by
    rw [FieldState.fails, List.contains_iff_mem, fresh field, server_mem_failing_iff]
    rfl
  rw [Bool.eq_iff_iff, exact, Option.isSome_iff_ne_none]

end Form

namespace Desk

variable {σ : Type}

/-- What a turn writes as the message of the service; `some none` clears it. -/
def Turn.message? : Turn σ → Option (Option Text)
  | .begin => some none
  | .complete _ (.rejected rejection) => some (some rejection.shown)
  | .setServerError message => some (message.filter fun text => text.trim ≠ [])
  | .edit (.serverError message) => some (message.map NonBlank.text)
  | .edit .reset => some none
  | _ => none

/-- What a turn does to the sink: a rejection is reported once, and the owner of the desk may do anything. -/
def Turn.onSink [NoticeSink σ] (title : Option Text) (sink : σ) : Turn σ → σ
  | .complete _ (.rejected rejection) => NoticeSink.report sink title rejection.shown
  | .replaceSink other => other
  | _ => sink

section

variable [NoticeSink σ]

theorem complete_rejected_message (desk : Desk σ) (id : AttemptId) (rejection : Rejection) :
    (desk.complete id (.rejected rejection)).2.form.serverError = some rejection.displayed := by
  simp [complete, settle, absorb, setServerError, edit, Form.update, NonBlank.ofOption?_text]

theorem complete_rejected_sink (desk : Desk σ) (id : AttemptId) (rejection : Rejection) :
    (desk.complete id (.rejected rejection)).2.sink = NoticeSink.report desk.sink desk.title rejection.shown := by
  rw [← Rejection.text_displayed]
  rfl

theorem message_takeTurn (desk : Desk σ) (turn : Turn σ) :
    (desk.takeTurn turn).form.serverError.map NonBlank.text =
      turn.message?.getD (desk.form.serverError.map NonBlank.text) := by
  cases turn with
  | edit edit =>
    cases edit <;>
      simp [takeTurn, Desk.edit, Turn.message?, Form.update, Form.empty, Form.ofCredentials, Field.all]
  | setServerError message =>
    simp [takeTurn, setServerError, edit, Form.update, Turn.message?, NonBlank.map_ofOption?]
  | installValidators => simp [takeTurn, installValidators, edit, Form.update, Turn.message?]
  | begin => simp [takeTurn, begin_message, Turn.message?]
  | complete id answer =>
    cases answer with
    | accepted => rfl
    | rejected rejection =>
      rw [takeTurn, complete_rejected_message, Option.map_some, Rejection.text_displayed]
      rfl
  | replaceSink sink => rfl

theorem title_takeTurn (desk : Desk σ) (turn : Turn σ) : (desk.takeTurn turn).title = desk.title := by
  cases turn with
  | begin =>
    rw [takeTurn, begin_eq]
    split <;> rfl
  | complete id answer => cases answer <;> rfl
  | _ => rfl

theorem sink_takeTurn (desk : Desk σ) (turn : Turn σ) :
    (desk.takeTurn turn).sink = turn.onSink desk.title desk.sink := by
  cases turn with
  | begin => exact begin_sink desk
  | complete id answer =>
    cases answer with
    | accepted => rfl
    | rejected rejection => exact complete_rejected_sink desk id rejection
  | _ => rfl

theorem title_takeTurns (desk : Desk σ) (turns : List (Turn σ)) : (desk.takeTurns turns).title = desk.title := by
  induction turns generalizing desk with
  | nil => rfl
  | cons turn turns ih => exact (ih (desk.takeTurn turn)).trans (title_takeTurn desk turn)

theorem sink_takeTurns (desk : Desk σ) (turns : List (Turn σ)) :
    (desk.takeTurns turns).sink = turns.foldl (Turn.onSink desk.title) desk.sink := by
  induction turns generalizing desk with
  | nil => rfl
  | cons turn turns ih =>
    refine (ih (desk.takeTurn turn)).trans ?_
    rw [title_takeTurn, sink_takeTurn]
    rfl

/-- In every run of a desk, with attempts overlapping and answered in any order: the message on the form is the one of
the last turn that wrote or cleared it; the sink was told of every rejection once, under the title of the desk; an
acceptance touches neither form nor sink, and a rejection reports what it leaves on the form; and the message counts
as a failing check on both fields or on none. -/
theorem message_of_last_writer (form : Form) (title : Option Text) (sink : σ) (operations : List (Operation σ)) :
    let start := withForm form title sink
    let desk := start.run operations
    desk.form.serverError.map NonBlank.text =
      (decided Turn.message? (start.trace operations)).getD (form.serverError.map NonBlank.text) ∧
    desk.sink = (start.trace operations).foldl (Turn.onSink title) sink ∧
    (∀ id, (desk.complete id .accepted).2.form = desk.form ∧ (desk.complete id .accepted).2.sink = desk.sink) ∧
    (∀ id rejection,
      (desk.complete id (.rejected rejection)).2.form.serverError.map NonBlank.text = some rejection.shown ∧
      (desk.complete id (.rejected rejection)).2.sink = NoticeSink.report desk.sink title rejection.shown) ∧
    ∀ field, (desk.form.field field).fails .server = desk.form.serverError.isSome := by
  intro start desk
  have turned : desk = start.takeTurns (start.trace operations) := (takeTurns_trace start operations).symm
  have titled : desk.title = title := by
    rw [turned, title_takeTurns]
    rfl
  have initial : start.form.serverError = form.serverError := by
    simp [start, withForm, installValidators, edit, Form.update]
  refine ⟨?_, ?_, fun id => ⟨rfl, rfl⟩, fun id rejection => ⟨?_, ?_⟩, ?_⟩
  · rw [turned, read_takeTurns (fun desk => desk.form.serverError.map NonBlank.text) _ message_takeTurn, initial]
  · rw [turned, sink_takeTurns]
    rfl
  · rw [complete_rejected_message, Option.map_some, Rejection.text_displayed]
  · rw [complete_rejected_sink, titled]
  · exact Form.field_fails_server (fresh_run (fresh_withForm form title sink) operations)

/-- Of two overlapping attempts that are rejected, the one that is answered last has the word, and an edit between
the answers changes nothing. -/
example : let start := withForm (.ofCredentials ⟨some "a@b.c".toList, some ['x']⟩) none NoticeBoard.empty
    ((start.run [.begin, .begin, .complete ⟨2⟩ (.rejected ⟨⟨['n'], by decide⟩⟩), .edit (.typed .password ['y']),
      .complete ⟨1⟩ (.rejected ⟨⟨['m'], by decide⟩⟩)]).form.serverError.map NonBlank.text) = some ['m'] := by
  decide

end

end Desk

end TerminalSignIn
