import TerminalSignIn.Proofs.Session.Twin
import TerminalSignIn.View.Picture

/-!
# The password stays secret

Two runs of a session with the same steps and the same answers, which differ only in the characters that are inserted
while the password has the focus, cannot be told apart: all that is drawn, described or decided depends on the number
of those characters at most.
-/

namespace TerminalSignIn

namespace Form

theorem field_veil (form : Form) (field : Field) : form.veil.field field = form.field field := by
  cases field <;> rfl

theorem fieldError?_veil (form : Form) (field : Field) : form.veil.fieldError? field = form.fieldError? field := by
  cases field <;> rfl

end Form

namespace Session

def inserted? : Step → Option Text
  | .operation (.editing (.insertChar char)) => some [char]
  | .event (.key event) => match action? event with
    | some (.insert char) => some [char]
    | _ => none
  | .event (.paste text) => some (text.filter fun char => !isLineBreak char)
  | _ => none

theorem operationsOf_inserted {step : Step} {text : Text} (found : inserted? step = some text) :
    operationsOf step = insertions text := by
  unfold inserted? at found
  split at found
  · cases found
    rfl
  next event =>
    split at found
    next char bound =>
      cases found
      simp [operationsOf, bound, Action.operation, insertions]
    · contradiction
  · cases found
    rfl
  · contradiction

/-- Lists of steps for two runs, the first of which starts from a given session: they differ only in what they insert
while the password has the focus, and not in how much. -/
inductive Twins : Session → List Step → List Step → Prop where
  | nil (session : Session) : Twins session [] []
  | same {session : Session} {steps others : List Step} (step : Step) :
    Twins (session.react step) steps others → Twins session (step :: steps) (step :: others)
  | typed {session : Session} {steps others : List Step} {step other : Step} {text otherText : Text} :
    session.focus = .password → inserted? step = some text → inserted? other = some otherText →
    text.length = otherText.length →
    Twins (session.react step) steps others → Twins session (step :: steps) (other :: others)

/-- Every answer goes to a call that waits for it: the service answers a call once, and none that was aborted. -/
def AnswersOnce (session : Session) (out : List Nat) : List Operation → Prop
  | [] => True
  | operation :: operations =>
    Answerable out operation ∧ (session.operate operation).AnswersOnce (session.outAfter out operation) operations

instance (out : List Nat) (operation : Operation) : Decidable (Answerable out operation) := by
  cases operation <;> unfold Answerable <;> infer_instance

instance decidableAnswersOnce (session : Session) (out : List Nat) :
    (operations : List Operation) → Decidable (session.AnswersOnce out operations)
  | [] => isTrue trivial
  | operation :: operations =>
    have := decidableAnswersOnce (session.operate operation) (session.outAfter out operation) operations
    inferInstanceAs (Decidable (_ ∧ _))

theorem AnswersOnce.of_append {session : Session} {out : List Nat} {operations more : List Operation}
    (once : session.AnswersOnce out (operations ++ more)) : session.AnswersOnce out operations := by
  induction operations generalizing session out with
  | nil => trivial
  | cons operation operations ih => exact ⟨once.1, ih once.2⟩

theorem Twins.take {session : Session} {steps others : List Step} (twins : Twins session steps others) (count : Nat) :
    Twins session (steps.take count) (others.take count) := by
  induction twins generalizing count with
  | nil session =>
    rw [List.take_nil]
    exact .nil session
  | same step _ ih =>
    cases count with
    | zero => exact .nil _
    | succ count => exact .same step (ih count)
  | typed secret found otherFound same _ ih =>
    cases count with
    | zero => exact .nil _
    | succ count => exact .typed secret found otherFound same (ih count)

namespace Twinned

variable {session other : Session} {out : List Nat}

theorem run (twinned : Twinned session other out) {operations more : List Operation}
    (once : session.AnswersOnce out (operations ++ more)) :
    ∃ later, Twinned (session.run operations) (other.run operations) later ∧
      (session.run operations).AnswersOnce later more := by
  induction operations generalizing session other out with
  | nil => exact ⟨out, twinned, once⟩
  | cons operation operations ih => exact ih (twinned.operate once.1) once.2

theorem insert (twinned : Twinned session other out) (secret : session.focus = .password) {text otherText : Text}
    (same : text.length = otherText.length) {more : List Operation}
    (once : session.AnswersOnce out (insertions text ++ more)) :
    Twinned (session.run (insertions text)) (other.run (insertions otherText)) out ∧
      (session.run (insertions text)).AnswersOnce out more := by
  induction text generalizing session other otherText with
  | nil =>
    cases List.length_eq_zero_iff.mp same.symm
    exact ⟨twinned, once⟩
  | cons char text ih =>
    cases otherText with
    | nil => contradiction
    | cons otherChar otherText =>
      have inserted : Twinned (session.insertChar char) (other.insertChar otherChar) out :=
        ⟨twinned.alike.insertChar (by rw [secret]; rfl), ⟨twinned.tracks.started, twinned.tracks.waiting⟩,
          ⟨twinned.otherTracks.started, twinned.otherTracks.waiting⟩⟩
      exact ih inserted secret (Nat.succ.inj same) once.2

theorem proceed {steps others : List Step} (twins : Twins session steps others) (twinned : Twinned session other out)
    (once : session.AnswersOnce out (steps.flatMap operationsOf)) :
    ∃ later, Twinned (session.proceed steps) (other.proceed others) later := by
  -- Twins follow the first session only, so the second one is whatever is alike to it at each step.
  induction twins generalizing other out with
  | nil => exact ⟨out, twinned⟩
  | same step _ ih =>
    rw [List.flatMap_cons] at once
    obtain ⟨later, advanced, rest⟩ := twinned.run once
    rw [← react_eq_run, ← react_eq_run] at advanced
    rw [← react_eq_run] at rest
    exact ih advanced rest
  | typed secret found otherFound same _ ih =>
    rw [List.flatMap_cons, operationsOf_inserted found] at once
    obtain ⟨advanced, rest⟩ := twinned.insert secret same once
    rw [← operationsOf_inserted found] at advanced rest
    rw [← operationsOf_inserted otherFound, ← react_eq_run, ← react_eq_run] at advanced
    rw [← react_eq_run] at rest
    exact ih advanced rest

end Twinned

namespace Alike

variable {session other : Session}

theorem passwordLength (alike : session.Alike other) :
    session.form.credentials.password.map List.length = other.form.credentials.password.map List.length := by
  have lengths : List.length ∘ Field.password.veil = List.length := funext fun text => List.length_replicate
  have values := congrArg (Option.map List.length) (alike.value .password)
  rwa [Option.map_map, Option.map_map, lengths] at values

theorem field (alike : session.Alike other) (field : Field) :
    session.form.field field = other.form.field field := by
  rw [← Form.field_veil, ← Form.field_veil other.form]
  exact congrArg (fun desk => desk.form.field field) alike.desk

theorem shownText (alike : session.Alike other) (field : Field) : session.shownText field = other.shownText field := by
  have shown : field.veil ((session.form.credentials.value field).getD []) =
      field.veil ((other.form.credentials.value field).getD []) := by
    rw [Field.veil_getD, alike.value, ← Field.veil_getD]
  cases field with
  | email => exact shown
  | password =>
    rw [Session.shownText, Session.shownText, alike.options, (Field.veil_password_eq_iff _ _).mp shown]

theorem fieldError (alike : session.Alike other) (field : Field) :
    session.form.fieldError? field = other.form.fieldError? field := by
  rw [← Form.fieldError?_veil, ← Form.fieldError?_veil other.form]
  exact congrArg (fun desk => desk.form.fieldError? field) alike.desk

theorem fieldView (alike : session.Alike other) (field : Field) : session.fieldView field = other.fieldView field := by
  rw [Session.fieldView, Session.fieldView, alike.focus, alike.field, alike.shownText, alike.fieldError]

theorem statusView (alike : session.Alike other) : session.statusView = other.statusView := by
  have phase : session.desk.veil.phase = other.desk.veil.phase := by rw [alike.desk]
  have inFlight : session.inFlight = other.inFlight := congrArg (fun desk => desk.inFlight.length) alike.desk
  rw [Session.statusView, Session.statusView, alike.signedIn, inFlight,
    show session.phase = other.phase from phase]

theorem view (alike : session.Alike other) : session.view = other.view := by
  have canSubmit : session.desk.canSubmit = other.desk.canSubmit :=
    congrArg (fun desk => desk.form.canSubmit) alike.desk
  have notice : session.notice? = other.notice? := congrArg (fun desk => desk.sink.visible?) alike.desk
  rw [Session.view, Session.view, alike.options, alike.fieldView, alike.fieldView, canSubmit, alike.statusView, notice]

theorem describedCredentials (alike : session.Alike other) :
    session.form.credentials.describe = other.form.credentials.describe := by
  rw [← Credentials.describe_veil, ← Credentials.describe_veil other.form.credentials]
  exact congrArg (fun desk => desk.form.credentials.describe) alike.desk

theorem describedCalls (alike : session.Alike other) :
    session.calls.map Attempt.describe = other.calls.map Attempt.describe := by
  have described := congrArg (List.map Attempt.describe) alike.calls
  rwa [List.map_map, List.map_map] at described

end Alike

/-- Two runs from the same settings that differ only in which characters are inserted while the password has the
focus: after every step the sessions are alike, the passwords have equally many characters, every picture is the same,
and so are the descriptions of the credentials and of the attempts that the service was asked about. -/
theorem password_unobservable (settings : SessionSettings) (steps others : List Step)
    (twins : Twins (start settings) steps others)
    (once : (start settings).AnswersOnce [] (steps.flatMap operationsOf)) (count : Nat) :
    let session := (start settings).proceed (steps.take count)
    let other := (start settings).proceed (others.take count)
    session.Alike other ∧
    session.form.credentials.password.map List.length = other.form.credentials.password.map List.length ∧
    (∀ width height tick widths, session.draw width height tick widths = other.draw width height tick widths) ∧
    session.form.credentials.describe = other.form.credentials.describe ∧
    session.calls.map Attempt.describe = other.calls.map Attempt.describe := by
  intro session other
  have answersOnce : (start settings).AnswersOnce [] ((steps.take count).flatMap operationsOf) := by
    rw [← List.take_append_drop count steps, List.flatMap_append] at once
    exact once.of_append
  obtain ⟨_, twinned⟩ := (Twinned.start settings).proceed (twins.take count) answersOnce
  have alike : session.Alike other := twinned.alike
  refine ⟨alike, alike.passwordLength, ?_, alike.describedCredentials, alike.describedCalls⟩
  intro width height tick widths
  rw [draw, draw, alike.view]

/-- Two passwords of two characters, one of them pasted with a line break, both submitted and rejected. -/
theorem password_unobservable_pasted :
    let settings : SessionSettings := ⟨some "a@b.c".toList, none, ⟨false, false⟩⟩
    let submitted : List Step := [.event (.key (.pressed .enter)),
      .operation (.answer 0 (.rejected ⟨⟨['n', 'o'], by decide⟩⟩)), .operation .processQueue]
    let steps : List Step := .event (.paste ['x', 'y']) :: submitted
    let others : List Step := .event (.paste ['u', '\n', 'v']) :: submitted
    let session := (start settings).proceed (steps.take 4)
    let other := (start settings).proceed (others.take 4)
    Twins (start settings) steps others ∧
    (start settings).AnswersOnce [] (steps.flatMap operationsOf) ∧
    session.form.credentials.password ≠ other.form.credentials.password ∧
    session.phase = .rejected ∧ session.Alike other ∧ session.draw 60 24 0 = other.draw 60 24 0 ∧
    session.calls.map Attempt.describe = other.calls.map Attempt.describe := by
  intro settings submitted steps others session other
  have twins : Twins (start settings) steps others :=
    .typed rfl rfl rfl rfl (.same _ (.same _ (.same _ (.nil _))))
  have once : (start settings).AnswersOnce [] (steps.flatMap operationsOf) := by decide
  have different : session.form.credentials.password ≠ other.form.credentials.password := by decide
  have rejected : session.phase = .rejected := by decide
  obtain ⟨alike, _, drawn, _, calls⟩ := password_unobservable settings steps others twins once 4
  exact ⟨twins, once, different, rejected, alike, drawn 60 24 0 .standard, calls⟩

end Session

end TerminalSignIn
