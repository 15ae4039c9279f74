import TerminalSignIn.Proofs.Session.Delivery

/-!
# Edits and answers interleave

While calls are out, the form is edited and answers are processed in turns. An edit checks one field against the
message on the form, and a rejection replaces the message and checks both, but each edit and each answer can trade
places without a trace. So the state to which edits and answers lead does not depend on how they are interleaved, nor
on how many answers are processed at once.
-/

namespace TerminalSignIn

namespace Form

/-- It makes no difference whether an edit or a message of the service comes first. -/
def Edit.Independent (edit : Edit) : Prop :=
  ∀ form message, (update form edit).update (.serverError message) = (update form (.serverError message)).update edit

theorem Edit.independent_typed (field : Field) (value : Text) : (Edit.typed field value).Independent := by
  intro form message
  -- In either order the field is checked last with its new value, and the other one with the new message.
  cases field <;> rfl

theorem Edit.independent_left (field : Field) : (Edit.left field).Independent := by
  intro form message
  cases field <;> rfl

end Form

def Answer.outcome : Answer → Outcome
  | .accepted => .authenticated
  | .rejected rejection => .rejected rejection.displayed

namespace Desk

variable {σ : Type} [NoticeSink σ]

theorem complete_outcome (desk : Desk σ) (id : AttemptId) (answer : Answer) :
    (desk.complete id answer).1 = answer.outcome := by
  cases answer <;> rfl

theorem complete_edit (desk : Desk σ) {edit : Form.Edit} (independent : edit.Independent) (id : AttemptId)
    (answer : Answer) : ((desk.edit edit).complete id answer).2 = (desk.complete id answer).2.edit edit := by
  cases answer with
  | accepted => rfl
  | rejected rejection =>
    have swapped := independent desk.form (NonBlank.ofOption? rejection.displayed.text)
    exact congrArg (fun form => { (desk.complete id (.rejected rejection)).2 with form := form }) swapped

end Desk

namespace Session

theorem apply_edit (session : Session) {edit : Form.Edit} (independent : edit.Independent) (attempt : Attempt)
    (answer : Answer) : (session.edit edit).apply attempt answer = (session.apply attempt answer).edit edit := by
  have desks := session.desk.complete_edit independent attempt.id answer
  cases answer with
  | accepted => rfl
  | rejected rejection =>
    rw [apply_rejected, apply_rejected]
    exact congrArg (fun desk => { session with
      desk := desk
      lastOutcome := some (.rejected rejection.displayed) }) desks

theorem focusedText_apply (session : Session) (attempt : Attempt) (answer : Answer) :
    (session.apply attempt answer).focusedText = session.focusedText := by
  cases answer with
  | accepted => rfl
  | rejected rejection =>
    have kept : (session.apply attempt (.rejected rejection)).form.credentials = session.form.credentials :=
      Form.credentials_validateAll _
    exact congrArg (fun credentials => (credentials.value session.focus).getD []) kept

theorem focus_apply (session : Session) (attempt : Attempt) (answer : Answer) :
    (session.apply attempt answer).focus = session.focus := by
  cases answer <;> rfl

theorem apply_setFocusedText (session : Session) (text : Text) (attempt : Attempt) (answer : Answer) :
    (session.setFocusedText text).apply attempt answer = (session.apply attempt answer).setFocusedText text := by
  rw [setFocusedText, setFocusedText, focus_apply]
  exact apply_edit session (Form.Edit.independent_typed _ _) attempt answer

theorem apply_setFocus (session : Session) (field : Field) (attempt : Attempt) (answer : Answer) :
    (session.setFocus field).apply attempt answer = (session.apply attempt answer).setFocus field := by
  rw [setFocus, setFocus, focus_apply]
  split
  · rfl
  · rw [← apply_edit session (Form.Edit.independent_left _) attempt answer]
    cases answer <;> rfl

/-- The diamond: one edit and one answer can trade places. -/
theorem apply_performEditing (session : Session) (editing : Editing) (attempt : Attempt) (answer : Answer) :
    (session.performEditing editing).apply attempt answer = (session.apply attempt answer).performEditing editing := by
  cases editing with
  | insertChar char =>
    rw [performEditing, performEditing, insertChar, insertChar, focusedText_apply]
    exact apply_setFocusedText ..
  | backspace =>
    rw [performEditing, performEditing, backspace, backspace, focusedText_apply]
    split
    · rfl
    · exact apply_setFocusedText ..
  | clearField => exact apply_setFocusedText ..
  | focusNext =>
    rw [performEditing, performEditing, focusNext, focusNext, focus_apply]
    exact apply_setFocus ..
  | focusPrevious =>
    rw [performEditing, performEditing, focusPrevious, focusPrevious, focus_apply]
    exact apply_setFocus ..
  | setFocus field => exact apply_setFocus ..

theorem applyAll_performEditing (session : Session) (editing : Editing) (answers : List (Attempt × Answer)) :
    (session.performEditing editing).applyAll answers = (session.applyAll answers).performEditing editing := by
  induction answers generalizing session with
  | nil => rfl
  | cons answered answers ih =>
    obtain ⟨attempt, answer⟩ := answered
    rw [applyAll_cons, applyAll_cons, apply_performEditing]
    exact ih (session.apply attempt answer)

theorem performEditing_withAnswers (session : Session) (waiting : List Attempt) (queue : List (Attempt × Answer))
    (editing : Editing) :
    (session.withAnswers waiting queue).performEditing editing =
      (session.performEditing editing).withAnswers waiting queue := by
  have moved : ∀ field,
      (session.withAnswers waiting queue).setFocus field = (session.setFocus field).withAnswers waiting queue := by
    intro field
    show (if field = session.focus then _ else _) =
      (if field = session.focus then _ else _ : Session).withAnswers waiting queue
    split <;> rfl
  cases editing with
  | backspace =>
    show (if session.focusedText.isEmpty then _ else _) =
      (if session.focusedText.isEmpty then _ else _ : Session).withAnswers waiting queue
    split <;> rfl
  | focusNext => exact moved _
  | focusPrevious => exact moved _
  | setFocus field => exact moved field
  | _ => rfl

theorem performEditing_answers (session : Session) (editing : Editing) :
    (session.performEditing editing).calls = session.calls ∧
    (session.performEditing editing).waiting = session.waiting ∧
    (session.performEditing editing).queue = session.queue := by
  obtain ⟨edits, focus, edited⟩ := performEditing_eq session editing
  rw [edited]
  exact ⟨rfl, rfl, rfl⟩

theorem processQueue_performEditing (session : Session) (editing : Editing) :
    (session.performEditing editing).processQueue = session.processQueue.performEditing editing := by
  obtain ⟨_, waiting, queue⟩ := performEditing_answers session editing
  calc
    _ = ((session.performEditing editing).applyAll (session.performEditing editing).queue).withAnswers
        (session.performEditing editing).waiting [] := processQueue_withAnswers ..
    _ = ((session.applyAll session.queue).withAnswers session.waiting []).performEditing editing := by
      rw [waiting, queue, applyAll_performEditing, performEditing_withAnswers]
    _ = _ := congrArg (performEditing · editing) (processQueue_withAnswers ..).symm

theorem answering_performEditing (session : Session) (editing : Editing) (answers : List (Nat × Answer)) :
    (session.performEditing editing).run (answering answers) =
      (session.run (answering answers)).performEditing editing := by
  obtain ⟨calls, waiting, queue⟩ := performEditing_answers session editing
  rw [run_answering, run_answering, calls, waiting, queue, performEditing_withAnswers]

/-- Answers may be processed in one batch or in two. -/
theorem processQueue_answering (session : Session) (answers : List (Nat × Answer)) :
    (session.processQueue.run (answering answers)).processQueue = (session.run (answering answers)).processQueue := by
  obtain ⟨calls, waiting, queue⟩ := processQueue_answers session
  have batches : session.processQueue = (session.applyAll session.queue).withAnswers session.waiting [] :=
    processQueue_withAnswers ..
  rw [run_answering, run_answering, calls, waiting, queue, List.nil_append, processQueue_withAnswers,
    processQueue_withAnswers, batches, applyAll_withAnswers, applyAll_append]
  rfl

/-- Operations that edit and let answers arrive as listed, and process answers whenever they like. -/
inductive Interleaves : List Editing → List (Nat × Answer) → List Operation → Prop where
  | nil : Interleaves [] [] []
  | editing {editings : List Editing} {answers : List (Nat × Answer)} {operations : List Operation}
      (editing : Editing) : Interleaves editings answers operations →
      Interleaves (editing :: editings) answers (.editing editing :: operations)
  | answer {editings : List Editing} {answers : List (Nat × Answer)} {operations : List Operation}
      (number : Nat) (answer : Answer) : Interleaves editings answers operations →
      Interleaves editings ((number, answer) :: answers) (.answer number answer :: operations)
  | processQueue {editings : List Editing} {answers : List (Nat × Answer)} {operations : List Operation} :
      Interleaves editings answers operations → Interleaves editings answers (.processQueue :: operations)

def outcomesOf (session : Session) : List (Attempt × Answer) → List (Attempt × Outcome)
  | [] => []
  | (attempt, answer) :: answers =>
    (attempt, (session.desk.complete attempt.id answer).1) :: (session.apply attempt answer).outcomesOf answers

def outcomes (session : Session) : List Operation → List (Attempt × Outcome)
  | [] => []
  | operation :: operations =>
    session.outcomesOf (session.applied operation) ++ (session.operate operation).outcomes operations

theorem outcomesOf_eq (session : Session) (answers : List (Attempt × Answer)) :
    session.outcomesOf answers = answers.map (Prod.map id Answer.outcome) := by
  induction answers generalizing session with
  | nil => rfl
  | cons answered answers ih =>
    obtain ⟨attempt, answer⟩ := answered
    rw [outcomesOf, ih, Desk.complete_outcome]
    rfl

theorem Interleaves.processQueue_run {editings : List Editing} {answers : List (Nat × Answer)}
    {operations : List Operation} (interleaves : Interleaves editings answers operations) (session : Session) :
    (session.run operations).processQueue =
      (session.run (answering answers)).processQueue.run (editings.map .editing) := by
  -- Each edit moves behind all the answers, and each batch joins the ones behind it.
  induction interleaves generalizing session with
  | nil => rfl
  | editing editing _ ih =>
    refine (ih (session.performEditing editing)).trans ?_
    rw [answering_performEditing, processQueue_performEditing]
    rfl
  | answer number answer _ ih => exact ih (session.operate (.answer number answer))
  | processQueue _ ih =>
    refine (ih session.processQueue).trans ?_
    rw [processQueue_answering]

/-- The answers that were applied and those that are still queued are the answers that arrived. -/
theorem Interleaves.outcomes_append {editings : List Editing} {answers : List (Nat × Answer)}
    {operations : List Operation} (interleaves : Interleaves editings answers operations) (session : Session) :
    session.outcomes operations ++ (session.run operations).queue.map (Prod.map id Answer.outcome) =
      (session.run (answering answers)).queue.map (Prod.map id Answer.outcome) := by
  induction interleaves generalizing session with
  | nil => rfl
  | editing editing _ ih =>
    refine (ih (session.performEditing editing)).trans ?_
    rw [answering_performEditing, (performEditing_answers _ editing).2.2]
  | answer number answer _ ih => exact ih (session.operate (.answer number answer))
  | @processQueue _ answers _ _ ih =>
    obtain ⟨calls, waiting, queue⟩ := processQueue_answers session
    have later : (session.run (answering answers)).queue =
        session.queue ++ (session.processQueue.run (answering answers)).queue := by
      rw [run_answering, run_answering, calls, waiting, queue]
      rfl
    rw [outcomes, outcomesOf_eq, List.append_assoc, later, List.map_append]
    exact congrArg _ (ih session.processQueue)

/-- From any session, edits and answers lead to the same session, and each answer to the same outcome, however they are
interleaved and however many answers are processed at once, as soon as all of them have been processed. -/
theorem interleaving_invisible (session : Session) {editings : List Editing} {answers : List (Nat × Answer)}
    {operations others : List Operation} (interleaves : Interleaves editings answers operations)
    (otherwise : Interleaves editings answers others) (done : (session.run operations).queue = [])
    (otherDone : (session.run others).queue = []) :
    session.run operations = session.run others ∧ session.outcomes operations = session.outcomes others := by
  constructor
  · rw [← processQueue_of_empty done, ← processQueue_of_empty otherDone, interleaves.processQueue_run,
      otherwise.processQueue_run]
  · have first := interleaves.outcomes_append session
    have second := otherwise.outcomes_append session
    rw [done, List.map_nil, List.append_nil] at first
    rw [otherDone, List.map_nil, List.append_nil] at second
    exact first.trans second.symm

/-- Two answers are processed one by one between edits, and both at once behind them. -/
theorem interleaving_invisible_behind_rejection :
    let session := (start ⟨some "a@b.c".toList, none, ⟨false, false⟩⟩).run
      [.editing (.insertChar 'x'), .submit, .submit]
    let rejected : Answer := .rejected ⟨⟨['n', 'o'], by decide⟩⟩
    let editings : List Editing := [.clearField, .setFocus .email, .insertChar 'd']
    let operations : List Operation := [.answer 1 rejected, .editing .clearField, .processQueue,
      .editing (.setFocus .email), .answer 0 .accepted, .processQueue, .editing (.insertChar 'd')]
    let others : List Operation := editings.map .editing ++ [.answer 1 rejected, .answer 0 .accepted, .processQueue]
    Interleaves editings [(1, rejected), (0, .accepted)] operations ∧
    Interleaves editings [(1, rejected), (0, .accepted)] others ∧
    (session.run operations).queue = [] ∧ (session.run others).queue = [] ∧
    session.run operations = session.run others ∧
    session.outcomes operations = session.outcomes others ∧
    (session.outcomes others).map Prod.snd = [rejected.outcome, .authenticated] := by
  intro session rejected editings operations others
  have interleaves : Interleaves editings [(1, rejected), (0, .accepted)] operations :=
    .answer _ _ (.editing _ (.processQueue (.editing _ (.answer _ _ (.processQueue (.editing _ .nil))))))
  have otherwise : Interleaves editings [(1, rejected), (0, .accepted)] others :=
    .editing _ (.editing _ (.editing _ (.answer _ _ (.answer _ _ (.processQueue .nil)))))
  have done : (session.run operations).queue = [] := rfl
  have otherDone : (session.run others).queue = [] := rfl
  obtain ⟨same, outcomes⟩ := interleaving_invisible session interleaves otherwise done otherDone
  exact ⟨interleaves, otherwise, done, otherDone, same, outcomes, by decide⟩

end Session

end TerminalSignIn
