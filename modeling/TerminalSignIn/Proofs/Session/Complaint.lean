import TerminalSignIn.Proofs.Session.Effect
import TerminalSignIn.View.Picture

/-!
# What is said under the fields

The line under a field is read off the checks that were recorded for it, its touch and the message of the service, each
of which is written by different operations. In every session that steps lead to it is nothing but a verdict on what the
field holds, and the message of the service never stands on a form with a field that counts as untouched.
-/

namespace TerminalSignIn

theorem Field.head?_failing (field : Field) (input : FieldInput) :
    (field.failing input).head? =
      (field.validators.find? fun validator => !validator.passes input).map Validator.check := by
  rw [failing, List.head?_map, List.head?_filter]

namespace Form

variable {form : Form}

theorem fieldError?_of_touched (fresh : form.Fresh) {field : Field} (touched : (form.field field).touched = true) :
    form.fieldError? field = (field.validators.find? fun validator => !validator.passes (form.input field)).bind
      fun validator => form.complaint? field validator.check := by
  rw [fieldError?, if_pos touched, fresh field, Field.head?_failing, Option.bind_map]
  rfl

/-- An email address that is missing is not called wrong, and the service has no say under it. -/
theorem fieldError?_email (fresh : form.Fresh) :
    form.fieldError? .email =
      if form.email.touched then
        if form.credentials.email.getD [] = [] then some "Email is required".toList
        else if Email.isAddress (form.credentials.email.getD []) then none
        else some "Enter a valid email address".toList
      else none := by
  by_cases touched : form.email.touched = true
  · have required : Validator.required.passes (form.input .email) = true ↔ form.credentials.email.getD [] ≠ [] :=
      Validator.required_passes _
    have email : Validator.email.passes (form.input .email) = true ↔
        form.credentials.email.getD [] = [] ∨ Email.isAddress (form.credentials.email.getD []) = true :=
      Validator.email_passes _
    have looked : (form.field .email).touched = true := touched
    rw [if_pos touched, fieldError?_of_touched fresh looked, Field.validators]
    split
    next empty =>
      have fails : Validator.required.passes (form.input .email) = false := by simpa [empty] using required
      rw [List.find?_cons_of_pos (by simp [fails])]
      rfl
    next filled =>
      rw [List.find?_cons_of_neg (by simp [required.mpr filled])]
      split
      next fits =>
        -- Only the service can find fault with the email now, and what it says is not said here.
        rw [List.find?_cons_of_neg (by simp [email.mpr (.inr fits)]), List.find?_singleton]
        split <;> rfl
      next unfit =>
        have fails : Validator.email.passes (form.input .email) = false := by
          rw [← Bool.not_eq_true, email]
          exact not_or.mpr ⟨filled, unfit⟩
        rw [List.find?_cons_of_pos (by simp [fails])]
        rfl
  · rw [if_neg touched, fieldError?]
    exact if_neg touched

theorem fieldError?_password (fresh : form.Fresh) :
    form.fieldError? .password =
      if form.password.touched then
        if form.credentials.password.getD [] = [] then some "Password is required".toList
        else form.serverError.map NonBlank.text
      else none := by
  by_cases touched : form.password.touched = true
  · have required : Validator.required.passes (form.input .password) = true ↔
        form.credentials.password.getD [] ≠ [] :=
      Validator.required_passes _
    have server : Validator.server.passes (form.input .password) = true ↔ form.serverError = none :=
      Validator.server_passes _
    have looked : (form.field .password).touched = true := touched
    rw [if_pos touched, fieldError?_of_touched fresh looked, Field.validators]
    split
    next empty =>
      have fails : Validator.required.passes (form.input .password) = false := by simpa [empty] using required
      rw [List.find?_cons_of_pos (by simp [fails])]
      rfl
    next filled =>
      rw [List.find?_cons_of_neg (by simp [required.mpr filled]), List.find?_singleton]
      by_cases silent : form.serverError = none
      · rw [if_neg (by simp [server.mpr silent]), silent]
        rfl
      · have fails : Validator.server.passes (form.input .password) = false := by
          rw [← Bool.not_eq_true, server]
          exact silent
        rw [if_pos (by simp [fails])]
        rfl
  · rw [if_neg touched, fieldError?]
    exact if_neg touched

/-- Whatever the service says, or if it says nothing, the line under the email is the same. -/
theorem fieldError?_email_update_serverError (fresh : form.Fresh) (message : Option NonBlank) :
    (form.update (.serverError message)).fieldError? .email = form.fieldError? .email := by
  have values : (form.update (.serverError message)).credentials = form.credentials := by
    simp [update]
  have touched : (form.update (.serverError message)).email.touched = form.email.touched := rfl
  rw [fieldError?_email (fresh_update fresh _), fieldError?_email fresh, values, touched]

end Form

namespace Session

variable {session later : Session}

theorem Effect.editing (session : Session) (editing : Editing) : session.Effect (session.performEditing editing) := by
  cases editing with
  | insertChar char => exact perform session (show Action.insert char ≠ .submit from nofun)
  | backspace => exact perform session (show Action.backspace ≠ .submit from nofun)
  | clearField => exact perform session (show Action.clear ≠ .submit from nofun)
  | focusNext => exact perform session (show Action.focusNext ≠ .submit from nofun)
  | focusPrevious => exact perform session (show Action.focusPrevious ≠ .submit from nofun)
  | setFocus field => exact setFocus session field

theorem Effect.stays_touched (effect : session.Effect later) {field : Field}
    (touched : (session.form.field field).touched = true) : (later.form.field field).touched = true := by
  by_contra untouched
  have changed : (later.form.field field).touched ≠ (session.form.field field).touched := by
    rw [touched]
    exact untouched
  exact untouched (effect.touched changed).2.2

/-- A call has started before anything waits to be applied and before the service has left a message, and it has not
started before both fields were looked at. -/
structure Examined (session : Session) : Prop where
  touched : session.calls ≠ [] → ∀ field, (session.form.field field).touched = true
  queued : session.queue ≠ [] → session.calls ≠ []
  message : session.form.serverError ≠ none → session.calls ≠ []

namespace Examined

theorem start (settings : SessionSettings) : (start settings).Examined where
  touched := fun called => absurd rfl called
  queued := fun queued => absurd rfl queued
  message := fun told => absurd rfl told

theorem effect (examined : session.Examined) (effect : session.Effect later) : later.Examined := by
  have flow := effect.sameFlow
  refine ⟨?_, ?_, ?_⟩
  · intro called field
    rw [flow.calls] at called
    exact effect.stays_touched (examined.touched called field)
  · rw [flow.queue, flow.calls]
    exact examined.queued
  · rw [flow.message, flow.calls]
    exact examined.message

theorem submit (examined : session.Examined) : session.submit.2.Examined := by
  have touched : ∀ field, (session.submit.2.form.field field).touched = true := by
    intro field
    obtain ⟨calls, waiting, lastOutcome, submitted⟩ := submit_eq session
    rw [submitted]
    show (session.dismissNotice.desk.begin.2.form.field field).touched = true
    rw [Desk.begin_form]
    exact Desk.touched_updates_examination _ field
  have cleared : session.submit.2.form.serverError = none := by
    obtain ⟨calls, waiting, lastOutcome, submitted⟩ := submit_eq session
    rw [submitted]
    exact Desk.begin_message _
  have kept := calls_operate session .submit
  refine ⟨fun _ => touched, ?_, fun told => absurd cleared told⟩
  intro queued
  have unchanged : session.submit.2.queue = session.queue := by
    obtain ⟨calls, waiting, lastOutcome, submitted⟩ := submit_eq session
    rw [submitted]
  rw [unchanged] at queued
  rw [show session.submit.2 = session.operate .submit from rfl, kept]
  exact List.append_ne_nil_of_left_ne_nil (examined.queued queued) _

theorem touched_applyAll (session : Session) (answers : List (Attempt × Answer)) (field : Field) :
    ((session.applyAll answers).form.field field).touched = (session.form.field field).touched := by
  induction answers generalizing session with
  | nil => rfl
  | cons answered answers ih =>
    obtain ⟨attempt, answer⟩ := answered
    have first : ((session.apply attempt answer).form.field field).touched = (session.form.field field).touched := by
      obtain ⟨signedIn, quitting, applied⟩ := apply_eq session attempt answer
      rw [applied]
      cases answer <;> cases field <;> rfl
    rw [applyAll_cons, ih, first]

theorem processQueue (examined : session.Examined) : session.processQueue.Examined := by
  by_cases empty : session.queue = []
  · rw [processQueue_of_empty empty]
    exact examined
  · have called := examined.queued empty
    obtain ⟨calls, _, queue⟩ := processQueue_answers session
    refine ⟨?_, ?_, ?_⟩
    · intro _ field
      rw [processQueue_eq, touched_applyAll]
      exact examined.touched called field
    · rw [calls]
      exact fun _ => called
    · rw [calls]
      exact fun _ => called

theorem operate (examined : session.Examined) (operation : Operation) : (session.operate operation).Examined := by
  cases operation with
  | editing editing => exact examined.effect (.editing session editing)
  | requestQuit => exact examined.effect .quits
  | submit => exact examined.submit
  | answer number answer =>
    rcases answerCall_eq session number answer with ⟨attempt, found, _, taken⟩ | lost
    · have called : session.calls ≠ [] := List.ne_nil_of_mem (List.mem_of_getElem? found)
      rw [Session.operate, taken]
      exact ⟨examined.touched, fun _ => called, examined.message⟩
    · rw [Session.operate, lost]
      exact examined
  | processQueue => exact examined.processQueue
  | shutdown => exact ⟨examined.touched, examined.queued, examined.message⟩

theorem proceed (settings : SessionSettings) (steps : List Step) :
    ((Session.start settings).proceed steps).Examined := by
  rw [proceed_eq_run]
  have initial := start settings
  generalize Session.start settings = session at initial
  induction steps.flatMap operationsOf generalizing session with
  | nil => exact initial
  | cons operation operations ih => exact ih _ (initial.operate operation)

end Examined

/-- In every session that steps lead to, the lines under the fields tell the truth about what the fields hold now. The
line under the email judges the email alone, whatever the service says; the one under the password tells that there is
no password, or else what the service said. Nothing is said under a field that counts as untouched, and there is no such
field once the service has said something. -/
theorem complaints_truthful (settings : SessionSettings) (steps : List Step) :
    let session := (start settings).proceed steps
    let email := session.form.credentials.email.getD []
    let password := session.form.credentials.password.getD []
    session.view.email.error =
      (if session.form.email.touched then
        if email = [] then some "Email is required".toList
        else if Email.isAddress email then none
        else some "Enter a valid email address".toList
      else none) ∧
    session.view.password.error =
      (if session.form.password.touched then
        if password = [] then some "Password is required".toList else session.form.serverError.map NonBlank.text
      else none) ∧
    (∀ message, (session.form.update (.serverError message)).fieldError? .email = session.view.email.error) ∧
    ∀ message, session.form.serverError = some message →
      session.form.email.touched = true ∧ session.form.password.touched = true ∧
      session.view.password.error = some (if password = [] then "Password is required".toList else message.text) := by
  intro session email password
  have fresh : session.form.Fresh := fresh_proceed settings steps
  have examined : session.Examined := .proceed settings steps
  have passwordLine : session.view.password.error = _ := Form.fieldError?_password fresh
  refine ⟨Form.fieldError?_email fresh, passwordLine, Form.fieldError?_email_update_serverError fresh, ?_⟩
  intro message told
  have called : session.calls ≠ [] := examined.message (by rw [told]; exact Option.some_ne_none message)
  have touched : session.form.password.touched = true := examined.touched called .password
  refine ⟨examined.touched called .email, touched, ?_⟩
  rw [passwordLine, if_pos touched, told]
  exact (apply_ite some ..).symm

/-- A rejected password, and the same one after it was taken off again and the email made a wrong one. -/
theorem complaints_truthful_behind_rejection :
    let settings : SessionSettings := ⟨some "a@b.c".toList, none, ⟨false, false⟩⟩
    let rejected : List Step := [.event (.paste ['x']), .event (.key (.pressed .enter)),
      .operation (.answer 0 (.rejected ⟨⟨['n', 'o'], by decide⟩⟩)), .operation .processQueue]
    let edited : List Step := rejected ++ [.event (.key (.pressed .backspace)), .event (.key (.pressed .tab)),
      .event (.key (.pressed (.char '@')))]
    let session := (start settings).proceed rejected
    let later := (start settings).proceed edited
    let message : NonBlank := ⟨['n', 'o'], by decide⟩
    session.form.serverError = some message ∧ session.view.email.error = none ∧
    session.view.password.error = some message.text ∧
    later.form.serverError = some message ∧ later.view.email.error = some "Enter a valid email address".toList ∧
    later.view.password.error = some "Password is required".toList := by
  intro settings rejected edited session later message
  have told : session.form.serverError = some message := by decide
  have stillTold : later.form.serverError = some message := by decide
  obtain ⟨email, _, _, service⟩ := complaints_truthful settings rejected
  obtain ⟨laterEmail, _, _, laterService⟩ := complaints_truthful settings edited
  exact ⟨told, email.trans (by decide), (service message told).2.2.trans (by decide), stillTold,
    laterEmail.trans (by decide), (laterService message stillTold).2.2.trans (by decide)⟩

end Session

end TerminalSignIn
