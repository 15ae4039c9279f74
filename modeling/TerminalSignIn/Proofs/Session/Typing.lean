import Mathlib.Data.List.Induction
import TerminalSignIn.Proofs.Desk.Values
import TerminalSignIn.Proofs.Session.Delivery

/-!
# Typing

Of the values that are typed into a field one after another only the last one counts. So a text that is inserted
character by character amounts to one edit, and characters that are taken off again leave the text before them. No check
is ever stale, so checking the field again changes nothing either.
-/

namespace TerminalSignIn

namespace Form

theorem update_typed_typed (form : Form) (field : Field) (first second : Text) :
    (form.update (.typed field first)).update (.typed field second) = form.update (.typed field second) := by
  cases field <;> rfl

end Form

namespace Session

theorem setFocusedText_setFocusedText (session : Session) (first second : Text) :
    (session.setFocusedText first).setFocusedText second = session.setFocusedText second :=
  congrArg (fun form => { session with desk := { session.desk with form := form } })
    (session.form.update_typed_typed session.focus first second)

theorem value_setFocusedText (session : Session) (text : Text) (field : Field) :
    (session.setFocusedText text).form.credentials.value field =
      if field = session.focus then some text else session.form.credentials.value field := by
  unfold setFocusedText form edit Desk.edit
  rw [Form.update, Form.credentials_validate, Credentials.value_withValue]

theorem field_setFocusedText (session : Session) (text : Text) (field : Field) :
    (session.setFocusedText text).form.field field = if field = session.focus then
      { session.form.field field with failing := field.failing ⟨some text, session.form.serverError⟩ }
    else session.form.field field := by
  unfold setFocusedText form edit Desk.edit
  rw [Form.update, Form.validate, Form.field_modifyField, Form.field_withCredentials, Form.input,
    Credentials.value_withValue, if_pos rfl]
  split
  next same => rw [same]
  · rfl

theorem focusedText_setFocusedText (session : Session) (text : Text) :
    (session.setFocusedText text).focusedText = text := by
  have typed := session.value_setFocusedText text session.focus
  rw [if_pos rfl] at typed
  exact congrArg (·.getD []) typed

theorem setFocusedText_insertText (session : Session) (text more : Text) :
    (session.setFocusedText text).insertText more = session.setFocusedText (text ++ more) := by
  induction more generalizing text with
  | nil => rw [List.append_nil]; rfl
  | cons char more ih =>
    have inserted : (session.setFocusedText text).insertChar char = session.setFocusedText (text ++ [char]) := by
      rw [insertChar, focusedText_setFocusedText, setFocusedText_setFocusedText]
    calc
      (session.setFocusedText text).insertText (char :: more) =
          ((session.setFocusedText text).insertChar char).insertText more := rfl
      _ = session.setFocusedText (text ++ char :: more) := by
        rw [inserted, ih, List.append_assoc, List.singleton_append]

theorem insertText_eq (session : Session) {text : Text} (filled : text ≠ []) :
    session.insertText text = session.setFocusedText (session.focusedText ++ text) := by
  obtain ⟨char, more, rfl⟩ := List.exists_cons_of_ne_nil filled
  calc
    session.insertText (char :: more) = (session.setFocusedText (session.focusedText ++ [char])).insertText more := rfl
    _ = session.setFocusedText (session.focusedText ++ char :: more) := by
      rw [setFocusedText_insertText, List.append_assoc, List.singleton_append]

theorem backspace_setFocusedText (session : Session) (text : Text) (char : Char) :
    (session.setFocusedText (text ++ [char])).backspace = session.setFocusedText text := by
  have filled : ¬ (text ++ [char]).isEmpty = true := by simp
  rw [backspace, focusedText_setFocusedText, if_neg filled, List.dropLast_concat, setFocusedText_setFocusedText]

def backspaces (count : Nat) : List Operation :=
  List.replicate count (.editing .backspace)

/-- What was typed last is taken off first, so the induction goes from the end. -/
theorem run_backspaces (session : Session) (text more : Text) :
    (session.setFocusedText (text ++ more)).run (backspaces more.length) = session.setFocusedText text := by
  induction more using List.reverseRecOn with
  | nil =>
    rw [List.append_nil]
    rfl
  | append_singleton more char ih =>
    have first : backspaces (more ++ [char]).length = .editing .backspace :: backspaces more.length := by
      rw [List.length_append, List.length_singleton, backspaces, List.replicate_succ]
      rfl
    rw [first, run_cons, ← List.append_assoc]
    show ((session.setFocusedText (text ++ more ++ [char])).backspace).run (backspaces more.length) = _
    rw [backspace_setFocusedText, ih]

theorem fresh_applyAll {session : Session} (fresh : session.form.Fresh) (answers : List (Attempt × Answer)) :
    (session.applyAll answers).form.Fresh := by
  induction answers generalizing session with
  | nil => exact fresh
  | cons answered answers ih =>
    obtain ⟨attempt, answer⟩ := answered
    obtain ⟨signedIn, quitting, applied⟩ := apply_eq session attempt answer
    apply @ih (session.apply attempt answer)
    rw [applied]
    exact Desk.fresh_run fresh [.complete attempt.id answer]

theorem fresh_operate {session : Session} (fresh : session.form.Fresh) (operation : Operation) :
    (session.operate operation).form.Fresh := by
  cases operation with
  | editing editing =>
    obtain ⟨edits, focus, edited⟩ := performEditing_eq session editing
    rw [operate, edited]
    exact Form.fresh_updates fresh edits
  | submit =>
    obtain ⟨calls, waiting, lastOutcome, submitted⟩ := submit_eq session
    rw [operate, submitted]
    exact @Desk.fresh_run _ _ session.dismissNotice.desk fresh [.begin]
  | answer number answer =>
    rcases answerCall_eq session number answer with ⟨_, _, _, taken⟩ | lost
    · rw [operate, taken]
      exact fresh
    · rw [operate, lost]
      exact fresh
  | processQueue => exact @fresh_applyAll { session with queue := [] } fresh session.queue
  | requestQuit => exact fresh
  | shutdown => exact fresh

theorem fresh_proceed (settings : SessionSettings) (steps : List Step) :
    ((start settings).proceed steps).form.Fresh := by
  have initial : (start settings).form.Fresh := Desk.fresh_withForm _ _ _
  rw [proceed_eq_run]
  generalize start settings = session at initial
  induction steps.flatMap operationsOf generalizing session with
  | nil => exact initial
  | cons operation operations ih => exact ih _ (fresh_operate initial operation)

def emptied (session : Session) (field : Field) : Session :=
  { session with desk := { session.desk with form :=
    { session.form with credentials := session.form.credentials.withValue field [] } } }

theorem setFocusedText_focusedText {session : Session} (fresh : session.form.Fresh) :
    session.setFocusedText session.focusedText = session ∨
      session.form.credentials.value session.focus = none ∧
        session.setFocusedText session.focusedText = session.emptied session.focus := by
  have held : session.setFocusedText session.focusedText = { session with desk := { session.desk with form :=
      { session.form with credentials := session.form.credentials.withValue session.focus session.focusedText } } } :=
    congrArg (fun form => { session with desk := { session.desk with form := form } })
      (Form.update_typed_held fresh session.focus)
  rw [held, focusedText]
  cases value : session.form.credentials.value session.focus with
  | none => exact Or.inr ⟨rfl, rfl⟩
  | some text =>
    left
    rw [Option.getD_some, Credentials.withValue_value value]
    rfl

/-- Characters that are inserted and taken off again leave the session as it was, but for a focused field that was never
filled in. -/
theorem run_insertions_backspaces {session : Session} (fresh : session.form.Fresh) (text : Text) :
    let after := (session.run (insertions text)).run (backspaces text.length)
    after = session ∨
      session.form.credentials.value session.focus = none ∧ after = session.emptied session.focus := by
  intro after
  by_cases blank : text = []
  · left
    unfold after
    rw [blank]
    rfl
  · have retyped : after = session.setFocusedText session.focusedText := by
      unfold after
      rw [run_insertions, insertText_eq session blank, run_backspaces]
    rw [retyped]
    exact setFocusedText_focusedText fresh

end Session

end TerminalSignIn
