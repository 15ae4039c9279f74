import Mathlib.Data.List.Induction
import TerminalSignIn.Proofs.Desk.Message
import TerminalSignIn.Proofs.Session.Run

/-!
# The notice, the message, the phase and the outcome

A rejection is told in four places: by the notice on display, by the message on the form, by the phase and by the last
outcome. Different operations write them, and its text passes through `Text.display` twice on the way to the notice
but once on the way to the form. They agree in every state that a session comes to, since a displayed text is tidy.
-/

namespace TerminalSignIn

namespace NoticeBoard

theorem visible?_dismiss (board : NoticeBoard) : board.dismiss.visible? = none := rfl

theorem visible?_post (board : NoticeBoard) (notice : Notice) : (board.post notice).visible? = some notice := by
  simp [post, visible?, latest?]

theorem visible?_showError (board : NoticeBoard) (title : Option Text) {message : Text} (filled : message ≠ [])
    (fixed : message.display = message) :
    (board.showError title message).visible?.map Notice.message = some message := by
  simp [showError, Notice.ofError?, fixed, filled, visible?_post]

end NoticeBoard

structure Desk.Coherent (desk : Desk NoticeBoard) (outcome : Option Outcome) : Prop where
  notice : desk.sink.visible?.map Notice.message = desk.form.serverError.map NonBlank.text
  displayed : ∀ message ∈ desk.form.serverError, message.text.display = message.text
  settled : desk.inFlight = [] →
    (desk.phase = .idle ∧ ∀ message, outcome ≠ some (.rejected message)) ∨
    ∃ message, desk.phase = .rejected ∧ outcome = some (.rejected message) ∧ desk.form.serverError = some message

namespace Desk.Coherent

variable {desk : Desk NoticeBoard} {outcome : Option Outcome}

theorem withForm (credentials : Credentials) (title : Option Text) :
    (Desk.withForm (.ofCredentials credentials) title NoticeBoard.empty).Coherent none where
  notice := rfl
  displayed := nofun
  settled _ := .inl ⟨rfl, nofun⟩

theorem edited {form : Form} (coherent : desk.Coherent outcome) (kept : form.serverError = desk.form.serverError) :
    ({ desk with form := form } : Desk NoticeBoard).Coherent outcome where
  notice := coherent.notice.trans (by rw [kept])
  displayed := kept ▸ coherent.displayed
  settled := by
    intro noneOut
    rw [kept]
    exact coherent.settled noneOut

theorem begun (hidden : desk.sink.visible? = none)
    (settled : desk.begin.2.inFlight = [] → desk.begin.2.phase = .idle ∧ outcome = some .aborted) :
    desk.begin.2.Coherent outcome where
  notice := by
    rw [begin_sink, hidden, begin_message]
    rfl
  displayed := by
    rw [begin_message]
    exact nofun
  settled := by
    intro noneOut
    obtain ⟨idle, aborted⟩ := settled noneOut
    exact .inl ⟨idle, aborted ▸ nofun⟩

theorem blocked (hidden : desk.sink.visible? = none) (blocked : desk.begin.1 = none) :
    desk.begin.2.Coherent (some .aborted) := by
  apply begun hidden
  intro noneOut
  rw [(begin_blocked desk blocked).1] at noneOut
  rw [begin_phase_blocked desk blocked, noneOut]
  exact ⟨rfl, rfl⟩

/-- Whatever the last outcome was, it is of no account while the attempt that was let through is out. -/
theorem passed {attempt : Attempt} (hidden : desk.sink.visible? = none) (passed : desk.begin.1 = some attempt) :
    desk.begin.2.Coherent outcome := by
  apply begun hidden
  intro noneOut
  obtain ⟨_, _, inFlight⟩ := begin_passed desk passed
  rw [inFlight] at noneOut
  split at noneOut
  next present => simp [noneOut] at present
  · simp at noneOut

theorem complete (coherent : desk.Coherent outcome) (id : AttemptId) (answer : Answer) :
    (desk.complete id answer).2.Coherent (some (desk.complete id answer).1) := by
  cases answer with
  | accepted =>
    refine ⟨coherent.notice, coherent.displayed, ?_⟩
    intro noneOut
    rw [complete_inFlight] at noneOut
    rw [complete_phase, noneOut]
    exact .inl ⟨rfl, nofun⟩
  | rejected rejection =>
    have message := complete_rejected_message desk id rejection
    refine ⟨?_, ?_, ?_⟩
    · rw [complete_rejected_sink, message, ← Rejection.text_displayed]
      exact NoticeBoard.visible?_showError _ _ rejection.displayed.text_ne_nil rejection.display_displayed
    · rw [message]
      rintro _ ⟨rfl⟩
      exact rejection.display_displayed
    · intro noneOut
      rw [complete_inFlight] at noneOut
      rw [complete_phase, noneOut]
      exact .inr ⟨rejection.displayed, rfl, rfl, message⟩

end Desk.Coherent

namespace Session

theorem serverError_setFocus (session : Session) (field : Field) :
    (session.setFocus field).form.serverError = session.form.serverError := by
  rw [setFocus]
  split
  · rfl
  · exact Form.serverError_touch ..

theorem serverError_setFocusedText (session : Session) (text : Text) :
    (session.setFocusedText text).form.serverError = session.form.serverError :=
  Form.serverError_validate ..

theorem serverError_performEditing (session : Session) (editing : Editing) :
    (session.performEditing editing).form.serverError = session.form.serverError := by
  cases editing with
  | insertChar char => exact serverError_setFocusedText ..
  | backspace =>
    rw [performEditing, backspace]
    split
    · rfl
    · exact serverError_setFocusedText ..
  | clearField => exact serverError_setFocusedText ..
  | focusNext => exact serverError_setFocus ..
  | focusPrevious => exact serverError_setFocus ..
  | setFocus field => exact serverError_setFocus ..

theorem coherent_editing {session : Session} (coherent : session.desk.Coherent session.lastOutcome)
    (editing : Editing) :
    (session.performEditing editing).desk.Coherent (session.performEditing editing).lastOutcome := by
  have kept := serverError_performEditing session editing
  obtain ⟨edits, focus, edited⟩ := performEditing_eq session editing
  rw [edited] at kept ⊢
  exact coherent.edited kept

theorem coherent_submit (session : Session) :
    session.submit.2.desk.Coherent session.submit.2.lastOutcome := by
  have hidden : session.dismissNotice.desk.sink.visible? = none := NoticeBoard.visible?_dismiss _
  cases gate : session.dismissNotice.desk.begin.1 with
  | none =>
    rw [submit_blocked session gate]
    exact .blocked hidden gate
  | some attempt =>
    rw [submit_passed session gate]
    exact .passed hidden gate

theorem coherent_applyAll {session : Session} (coherent : session.desk.Coherent session.lastOutcome)
    (answers : List (Attempt × Answer)) :
    (session.applyAll answers).desk.Coherent (session.applyAll answers).lastOutcome := by
  induction answers generalizing session with
  | nil => exact coherent
  | cons answered answers ih =>
    obtain ⟨attempt, answer⟩ := answered
    apply @ih (session.apply attempt answer)
    obtain ⟨signedIn, quitting, applied⟩ := apply_eq session attempt answer
    rw [applied]
    exact coherent.complete attempt.id answer

theorem coherent_operate {session : Session} (coherent : session.desk.Coherent session.lastOutcome)
    (operation : Operation) :
    (session.operate operation).desk.Coherent (session.operate operation).lastOutcome := by
  cases operation with
  | editing editing => exact coherent_editing coherent editing
  | requestQuit => exact coherent
  | submit => exact coherent_submit session
  | answer number answer =>
    rcases answerCall_eq session number answer with ⟨_, _, _, taken⟩ | lost
    · rw [operate, taken]
      exact coherent
    · rw [operate, lost]
      exact coherent
  | processQueue => exact @coherent_applyAll { session with queue := [] } coherent session.queue
  | shutdown => exact coherent

theorem coherent_run {session : Session} (coherent : session.desk.Coherent session.lastOutcome)
    (operations : List Operation) :
    (session.run operations).desk.Coherent (session.run operations).lastOutcome := by
  induction operations generalizing session with
  | nil => exact coherent
  | cons operation operations ih => exact ih (coherent_operate coherent operation)

/-- In every state that steps of any kind lead to: a notice is on display exactly when the form has a message, and
says the same; what it says is not empty and is displayed as it is; and once no attempt is out, the phase is that of a
rejection exactly when the last outcome is one, with the message that stands on the form, and otherwise that of a desk
at rest. -/
theorem rejection_told_alike (settings : SessionSettings) (steps : List Step) :
    let session := (start settings).proceed steps
    session.notice?.map Notice.message = session.form.serverError.map NonBlank.text ∧
    (∀ notice ∈ session.notice?, notice.message ≠ [] ∧ notice.message.display = notice.message) ∧
    (session.inFlight = 0 →
      (session.phase = .rejected ↔ ∃ message, session.lastOutcome = some (.rejected message)) ∧
      (∀ message, session.lastOutcome = some (.rejected message) → session.form.serverError = some message) ∧
      (session.phase ≠ .rejected → session.phase = .idle)) := by
  intro session
  have coherent : session.desk.Coherent session.lastOutcome := by
    unfold session
    rw [proceed_eq_run]
    exact coherent_run (.withForm _ settings.title) _
  refine ⟨coherent.notice, ?_, ?_⟩
  · intro notice shown
    have told := coherent.notice
    rw [show session.desk.sink.visible? = some notice from shown, Option.map_some, eq_comm,
      Option.map_eq_some_iff] at told
    obtain ⟨message, onForm, same⟩ := told
    rw [← same]
    exact ⟨message.text_ne_nil, coherent.displayed message onForm⟩
  · intro noneOut
    have settled := coherent.settled (List.eq_nil_of_length_eq_zero noneOut)
    rcases settled with ⟨idle, other⟩ | ⟨message, rejected, told, onForm⟩
    · have resting : session.phase = .idle := idle
      refine ⟨⟨?_, ?_⟩, fun message told => absurd told (other message), fun _ => resting⟩
      · intro rejected
        exact absurd (resting.symm.trans rejected) nofun
      · rintro ⟨message, told⟩
        exact absurd told (other message)
    · have resting : session.phase = .rejected := rejected
      refine ⟨⟨fun _ => ⟨message, told⟩, fun _ => resting⟩, ?_, fun different => absurd resting different⟩
      intro same toldSame
      rw [told, Option.some.injEq, Outcome.rejected.injEq] at toldSame
      exact toldSame ▸ onForm

/-- A rejection that consists of one escape sequence is told by the default message in all four places, after an
answer to an overlapping attempt that succeeded. -/
theorem rejection_told_alike_escapes :
    let colour : NonBlank := ⟨"\x1b[31m".toList, by decide⟩
    let steps : List Step := [.event (.paste ['x']), .event (.key (.pressed .enter)), .operation .submit,
      .operation (.answer 1 .accepted), .operation (.answer 0 (.rejected ⟨colour⟩)), .operation .processQueue]
    let session := (start ⟨some "a@b.c".toList, none, ⟨false, false⟩⟩).proceed steps
    let notice : Notice := ⟨none, "Sign in failed".toList⟩
    notice ∈ session.notice? ∧ notice.message ≠ [] ∧ notice.message.display = notice.message ∧
    session.inFlight = 0 ∧ session.lastOutcome = some (.rejected Rejection.defaultMessage) ∧
    session.phase = .rejected ∧ session.form.serverError = some Rejection.defaultMessage := by
  intro colour steps session notice
  have shown : notice ∈ session.notice? := by decide
  have noneOut : session.inFlight = 0 := by decide
  have told : session.lastOutcome = some (.rejected Rejection.defaultMessage) := by decide
  obtain ⟨_, tidy, settled⟩ := rejection_told_alike ⟨some "a@b.c".toList, none, ⟨false, false⟩⟩ steps
  obtain ⟨filled, fixed⟩ := tidy notice shown
  obtain ⟨phase, onForm, _⟩ := settled noneOut
  exact ⟨shown, filled, fixed, noneOut, told, phase.mpr ⟨_, told⟩, onForm _ told⟩

end Session

end TerminalSignIn
