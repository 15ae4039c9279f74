import TerminalSignIn.Proofs.Desk.Values
import TerminalSignIn.Proofs.Session.Typing
import TerminalSignIn.View.Picture

/-!
# Nothing and the empty text

A field that was never filled in cannot be told from one that was emptied. The proof is a bisimulation: sessions that
become equal when every empty field is filled in show the same, and whatever happens to both of them keeps them so.
Characters that are typed and taken off again therefore leave no trace.
-/

namespace TerminalSignIn

namespace Desk

variable {σ : Type}

theorem begin_fill (desk : Desk σ) :
    (desk.mapValues Field.fill).begin = (desk.begin.1, desk.begin.2.mapValues Field.fill) := by
  have carried : (desk.mapValues Field.fill).nextAttempt = desk.nextAttempt := rfl
  rw [mapValues_begin Field.unnoticed_fill, carried, begin_attempt]
  split <;> rfl

end Desk

namespace Session

/-- All that a person, the terminal and the service can see of a session: what stands in the fields and what is recorded
about them, the state of the flow, the calls, what a submission and an answer would come to, and every picture. -/
structure Observation where
  text : Field → Text
  state : Field → FieldState
  serverError : Option NonBlank
  canSubmit : Bool
  focus : Field
  phase : Phase
  inFlight : List AttemptId
  notice : Option Notice
  lastOutcome : Option Outcome
  signedIn : Option Text
  quitting : Bool
  calls : List Attempt
  waiting : List Attempt
  queue : List (Attempt × Answer)
  aborted : List Attempt
  submission : Option Attempt
  takes : Nat → Answer → Bool
  picture : (width height tick : Nat) → Widths → Picture

def observe (session : Session) : Observation where
  text field := (session.form.credentials.value field).getD []
  state := session.form.field
  serverError := session.form.serverError
  canSubmit := session.desk.canSubmit
  focus := session.focus
  phase := session.phase
  inFlight := session.desk.inFlight
  notice := session.notice?
  lastOutcome := session.lastOutcome
  signedIn := session.signedIn
  quitting := session.quitting
  calls := session.calls
  waiting := session.waiting
  queue := session.queue
  aborted := session.aborted
  submission := session.submit.1
  takes number answer := (session.answerCall number answer).1
  picture width height tick widths := session.draw width height tick widths

/-- A relation under which sessions show the same, and which lasts whatever happens to both of them. -/
structure IsBisimulation (related : Session → Session → Prop) : Prop where
  observe {session other : Session} : related session other → session.observe = other.observe
  react {session other : Session} : related session other → ∀ step, related (session.react step) (other.react step)

def Bisimilar (session other : Session) : Prop :=
  ∃ related, IsBisimulation related ∧ related session other

/-- Sessions are bisimilar if no list of steps ever makes them show something different. -/
theorem bisimilar_iff (session other : Session) :
    session.Bisimilar other ↔ ∀ later, (session.proceed later).observe = (other.proceed later).observe := by
  constructor
  · rintro ⟨related, bisimulation, start⟩ later
    induction later generalizing session other with
    | nil => exact bisimulation.observe start
    | cons step later ih => exact ih _ _ (bisimulation.react start step)
  · intro same
    refine ⟨fun session other => ∀ later, (session.proceed later).observe = (other.proceed later).observe, ?_, same⟩
    exact ⟨fun same => same [], fun same step later => same (step :: later)⟩

theorem Bisimilar.refl (session : Session) : session.Bisimilar session :=
  (bisimilar_iff session session).mpr fun _ => rfl

def filled (session : Session) : Session :=
  { session with desk := session.desk.mapValues Field.fill }

section

variable (session : Session)

theorem filled_edit {edit : Form.Edit} (mapped : Form.Edit.Mapped Field.fill edit edit) :
    (session.edit edit).filled = session.filled.edit edit :=
  congrArg (fun desk => { session with desk := desk }) (Desk.mapValues_edit Field.unnoticed_fill session.desk mapped)

theorem value_filled (field : Field) :
    session.filled.form.credentials.value field = some ((session.form.credentials.value field).getD []) :=
  session.form.credentials.value_mapValues field

theorem focusedText_filled : session.filled.focusedText = session.focusedText :=
  congrArg (·.getD []) (session.value_filled session.focus)

theorem filled_setFocusedText (text : Text) :
    (session.setFocusedText text).filled = session.filled.setFocusedText text :=
  session.filled_edit (.typed rfl)

theorem filled_setFocus (field : Field) : (session.setFocus field).filled = session.filled.setFocus field := by
  have focused : session.filled.focus = session.focus := rfl
  rw [setFocus, setFocus, focused]
  split
  · rfl
  · exact congrArg (fun session => { session with focus := field }) (session.filled_edit (.left session.focus))

theorem filled_performEditing (editing : Editing) :
    (session.performEditing editing).filled = session.filled.performEditing editing := by
  cases editing with
  | insertChar char =>
    rw [performEditing, performEditing, insertChar, insertChar, focusedText_filled, filled_setFocusedText]
  | backspace =>
    rw [performEditing, performEditing, backspace, backspace, focusedText_filled]
    split
    · rfl
    · exact session.filled_setFocusedText _
  | clearField => exact session.filled_setFocusedText []
  | focusNext => exact session.filled_setFocus _
  | focusPrevious => exact session.filled_setFocus _
  | setFocus field => exact session.filled_setFocus field

theorem submit_filled : session.filled.submit = (session.submit.1, session.submit.2.filled) := by
  have begun : session.filled.dismissNotice.desk.begin = (session.dismissNotice.desk.begin.1,
      session.dismissNotice.desk.begin.2.mapValues Field.fill) := session.dismissNotice.desk.begin_fill
  cases gate : session.dismissNotice.desk.begin.1 with
  | none =>
    rw [submit_blocked session gate, submit_blocked session.filled ((congrArg Prod.fst begun).trans gate), begun]
    rfl
  | some attempt =>
    rw [submit_passed session gate, submit_passed session.filled ((congrArg Prod.fst begun).trans gate), begun]
    rfl

theorem answerCall_filled (number : Nat) (answer : Answer) : session.filled.answerCall number answer =
    ((session.answerCall number answer).1, (session.answerCall number answer).2.filled) := by
  have called : session.filled.calls = session.calls := rfl
  have waits : session.filled.waiting = session.waiting := rfl
  rw [answerCall, answerCall, called]
  cases session.calls[number]? with
  | none => rfl
  | some attempt =>
    simp only [Session.answer, waits]
    split <;> rfl

theorem filled_apply (attempt : Attempt) (answer : Answer) :
    (session.apply attempt answer).filled = session.filled.apply attempt answer := by
  have completed := Desk.mapValues_complete Field.unnoticed_fill session.desk attempt.id answer
  cases answer with
  | accepted => rfl
  | rejected rejection =>
    exact congrArg (fun completed => { session with desk := completed.2, lastOutcome := some completed.1 })
      completed.symm

theorem filled_applyAll (answers : List (Attempt × Answer)) :
    (session.applyAll answers).filled = session.filled.applyAll answers := by
  induction answers generalizing session with
  | nil => rfl
  | cons answered answers ih =>
    obtain ⟨attempt, answer⟩ := answered
    rw [applyAll_cons, applyAll_cons, ih, filled_apply]

theorem filled_operate (operation : Operation) :
    (session.operate operation).filled = session.filled.operate operation := by
  cases operation with
  | editing editing => exact session.filled_performEditing editing
  | requestQuit => rfl
  | submit => exact (congrArg Prod.snd session.submit_filled).symm
  | answer number answer => exact (congrArg Prod.snd (session.answerCall_filled number answer)).symm
  | processQueue => exact filled_applyAll { session with queue := [] } session.queue
  | shutdown => rfl

theorem filled_run (operations : List Operation) : (session.run operations).filled = session.filled.run operations := by
  induction operations generalizing session with
  | nil => rfl
  | cons operation operations ih => rw [run_cons, run_cons, ih, filled_operate]

theorem shownText_filled (field : Field) : session.filled.shownText field = session.shownText field := by
  unfold shownText
  rw [value_filled]
  rfl

theorem view_filled : session.filled.view = session.view := by
  have errors (field : Field) : session.filled.form.fieldError? field = session.form.fieldError? field := by
    cases field <;> rfl
  have fields (field : Field) : session.filled.fieldView field = session.fieldView field := by
    have states : session.filled.form.field field = session.form.field field := Form.field_mapValues ..
    rw [fieldView, fieldView, shownText_filled, errors, states]
    rfl
  rw [view, view, fields, fields]
  rfl

theorem observe_filled : session.filled.observe = session.observe := by
  have text (field : Field) : (session.filled.form.credentials.value field).getD [] =
      (session.form.credentials.value field).getD [] := congrArg (·.getD []) (session.value_filled field)
  have state : session.filled.form.field = session.form.field := funext fun field => Form.field_mapValues ..
  have submission : session.filled.submit.1 = session.submit.1 := by rw [submit_filled]
  have takes (number : Nat) (answer : Answer) :
      (session.filled.answerCall number answer).1 = (session.answerCall number answer).1 := by rw [answerCall_filled]
  have picture (width height tick : Nat) (widths : Widths) :
      session.filled.draw width height tick widths = session.draw width height tick widths := by
    rw [draw, draw, view_filled]
  simp only [observe, text, state, submission, takes, picture]
  rfl

end

theorem isBisimulation_filled : IsBisimulation fun session other => session.filled = other.filled where
  observe same := by rw [← observe_filled, same, observe_filled]
  react same step := by rw [react_eq_run, react_eq_run, filled_run, filled_run, same]

theorem filled_emptied {session : Session} {field : Field}
    (unfilled : session.form.credentials.value field = none) : (session.emptied field).filled = session.filled := by
  have credentials : (session.form.credentials.withValue field []).mapValues Field.fill =
      session.form.credentials.mapValues Field.fill := by
    rw [Credentials.mapValues_withValue _ rfl]
    apply Credentials.withValue_value
    rw [Credentials.value_mapValues, unfilled]
    rfl
  exact congrArg (fun credentials => { session with desk := { session.desk with form :=
    { session.form with credentials := credentials } } }) credentials

/-- A field that was never filled in cannot be told from an empty one, whatever happens later. -/
theorem bisimilar_emptied {session : Session} {field : Field}
    (unfilled : session.form.credentials.value field = none) : session.Bisimilar (session.emptied field) :=
  ⟨_, isBisimulation_filled, (filled_emptied unfilled).symm⟩

/-- In every session that steps lead to: characters that are inserted, in whatever way, and taken off again one by one
leave the session as it was, but for a focused field that was never filled in and now holds the empty text. No later
steps tell the two sessions apart, and a field that was never filled in is bisimilar to an empty one. -/
theorem typed_text_untraceable (settings : SessionSettings) (before : List Step) {text : Text}
    {typing deleting : List Step} (typed : typing.flatMap operationsOf = insertions text)
    (deleted : deleting.flatMap operationsOf = backspaces text.length) :
    let session := (start settings).proceed before
    let after := session.proceed (typing ++ deleting)
    (after = session ∨
      session.form.credentials.value session.focus = none ∧ after = session.emptied session.focus) ∧
    (∀ later, (session.proceed later).observe = (after.proceed later).observe) ∧
    ∀ field, session.form.credentials.value field = none → session.Bisimilar (session.emptied field) := by
  intro session after
  have spelled : after = (session.run (insertions text)).run (backspaces text.length) := by
    have append : after = (session.proceed typing).proceed deleting := List.foldl_append
    rw [append, proceed_eq_run, proceed_eq_run, typed, deleted]
  have left := run_insertions_backspaces (fresh_proceed settings before) text
  rw [← spelled] at left
  have bisimilar : session.Bisimilar after := by
    rcases left with same | ⟨unfilled, emptied⟩
    · rw [same]
      exact .refl session
    · rw [emptied]
      exact bisimilar_emptied unfilled
  exact ⟨left, (bisimilar_iff session after).mp bisimilar, fun field unfilled => bisimilar_emptied unfilled⟩

/-- A password that was never filled in: two characters are pasted with a line break between them, a third is typed, and
all are taken off again before the form is submitted. -/
theorem typed_text_untraceable_pasted :
    let settings : SessionSettings := ⟨none, none, ⟨false, false⟩⟩
    let before : List Step := [.event (.key (.pressed .tab))]
    let typing : List Step := [.event (.paste ['x', '\n', 'y']), .event (.key (.pressed (.char 'z')))]
    let deleting : List Step := [.event (.key (.pressed .backspace)), .operation (.editing .backspace),
      .event (.key ⟨.backspace, .none, .repeated⟩)]
    let session := (start settings).proceed before
    let after := session.proceed (typing ++ deleting)
    typing.flatMap operationsOf = insertions ['x', 'y', 'z'] ∧ deleting.flatMap operationsOf = backspaces 3 ∧
    session.form.credentials.value .password = none ∧ after = session.emptied .password ∧ after ≠ session ∧
    session.submit.2.observe = after.submit.2.observe ∧ session.Bisimilar (session.emptied .password) := by
  intro settings before typing deleting session after
  have typed : typing.flatMap operationsOf = insertions ['x', 'y', 'z'] := rfl
  have deleted : deleting.flatMap operationsOf = backspaces 3 := rfl
  have unfilled : session.form.credentials.value .password = none := rfl
  have blank : after.form.credentials.value .password = some [] := by decide
  have differs : after ≠ session := by
    intro same
    rw [same, unfilled] at blank
    contradiction
  obtain ⟨left, later, bisimilar⟩ := typed_text_untraceable settings before typed deleted
  rcases left with same | ⟨_, emptied⟩
  · exact absurd same differs
  · exact ⟨typed, deleted, unfilled, emptied, differs, later [.operation .submit], bisimilar .password unfilled⟩

end Session

end TerminalSignIn
