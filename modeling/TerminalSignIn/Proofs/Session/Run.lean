import TerminalSignIn.Proofs.Desk.Run
import TerminalSignIn.Session.Intake

/-!
# Runs of a session

What can happen to a session, in any order: the person edits, submits and quits, the service answers calls, answers are
processed, calls are aborted. Each kind of operation is described once by the parts of the session that it changes. A
step is an operation or a terminal event. A terminal event is nothing but a list of operations, so whatever holds of
every run of operations holds of every run of steps.
-/

namespace TerminalSignIn

namespace Session

inductive Editing where
  | insertChar (char : Char)
  | backspace
  | clearField
  | focusNext
  | focusPrevious
  | setFocus (field : Field)

def performEditing (session : Session) : Editing → Session
  | .insertChar char => session.insertChar char
  | .backspace => session.backspace
  | .clearField => session.clearField
  | .focusNext => session.focusNext
  | .focusPrevious => session.focusPrevious
  | .setFocus field => session.setFocus field

inductive Operation where
  | editing (editing : Editing)
  | requestQuit
  | submit
  /-- The service answers the call with a number. -/
  | answer (number : Nat) (answer : Answer)
  | processQueue
  | shutdown

def operate (session : Session) : Operation → Session
  | .editing editing => session.performEditing editing
  | .requestQuit => session.requestQuit
  | .submit => session.submit.2
  | .answer number answer => (session.answerCall number answer).2
  | .processQueue => session.processQueue
  | .shutdown => session.shutdown

def run (session : Session) (operations : List Operation) : Session :=
  operations.foldl operate session

theorem run_cons (session : Session) (operation : Operation) (operations : List Operation) :
    session.run (operation :: operations) = (session.operate operation).run operations := rfl

theorem run_append (session : Session) (operations : List Operation) (operation : Operation) :
    session.run (operations ++ [operation]) = (session.run operations).operate operation := by
  simp [run]

theorem performEditing_eq (session : Session) (editing : Editing) :
    ∃ edits focus, session.performEditing editing =
      { session with desk := { session.desk with form := session.desk.form.updates edits }, focus := focus } := by
  have moved : ∀ field, ∃ edits focus, session.setFocus field =
      { session with desk := { session.desk with form := session.desk.form.updates edits }, focus := focus } := by
    intro field
    by_cases same : field = session.focus
    · exact ⟨[], session.focus, by rw [setFocus, if_pos same]; rfl⟩
    · exact ⟨[.left session.focus], field, by rw [setFocus, if_neg same]; rfl⟩
  cases editing with
  | insertChar char => exact ⟨[.typed session.focus (session.focusedText ++ [char])], session.focus, rfl⟩
  | backspace =>
    by_cases blank : session.focusedText.isEmpty
    · exact ⟨[], session.focus, by rw [performEditing, backspace, if_pos blank]; rfl⟩
    · exact ⟨[.typed session.focus session.focusedText.dropLast], session.focus, by
        rw [performEditing, backspace, if_neg blank]; rfl⟩
  | clearField => exact ⟨[.typed session.focus []], session.focus, rfl⟩
  | focusNext => exact moved _
  | focusPrevious => exact moved _
  | setFocus field => exact moved field

theorem submit_passed (session : Session) {attempt : Attempt}
    (passed : session.dismissNotice.desk.begin.1 = some attempt) :
    session.submit = (some attempt, { session with
      desk := session.dismissNotice.desk.begin.2
      calls := session.calls ++ [attempt]
      waiting := session.waiting ++ [attempt] }) := by
  rw [submit, show session.dismissNotice.desk.begin = (some attempt, session.dismissNotice.desk.begin.2) from
    Prod.ext passed rfl]
  rfl

theorem submit_blocked (session : Session) (blocked : session.dismissNotice.desk.begin.1 = none) :
    session.submit = (none, { session with
      desk := session.dismissNotice.desk.begin.2
      lastOutcome := some .aborted }) := by
  rw [submit, show session.dismissNotice.desk.begin = (none, session.dismissNotice.desk.begin.2) from
    Prod.ext blocked rfl]
  rfl

theorem answerCall_waiting (session : Session) {number : Nat} {attempt : Attempt}
    (found : session.calls[number]? = some attempt) (waits : attempt ∈ session.waiting) (answer : Answer) :
    session.answerCall number answer = (true, { session with
      waiting := session.waiting.erase attempt
      queue := session.queue ++ [(attempt, answer)] }) := by
  simp [answerCall, found, Session.answer, waits]

/-- An answer moves its call from those that wait to the end of the queue; any other answer is lost. -/
theorem answerCall_eq (session : Session) (number : Nat) (answer : Answer) :
    (∃ attempt, session.calls[number]? = some attempt ∧ attempt ∈ session.waiting ∧
      session.answerCall number answer = (true, { session with
        waiting := session.waiting.erase attempt
        queue := session.queue ++ [(attempt, answer)] })) ∨
    session.answerCall number answer = (false, session) := by
  cases found : session.calls[number]? with
  | none => exact Or.inr (by simp [answerCall, found])
  | some attempt =>
    by_cases waits : attempt ∈ session.waiting
    · exact Or.inl ⟨attempt, rfl, waits, answerCall_waiting session found waits answer⟩
    · exact Or.inr (by simp [answerCall, found, Session.answer, waits])

theorem apply_eq (session : Session) (attempt : Attempt) (answer : Answer) :
    ∃ signedIn quitting, session.apply attempt answer = { session with
      desk := (session.desk.complete attempt.id answer).2
      lastOutcome := some (session.desk.complete attempt.id answer).1
      signedIn := signedIn
      quitting := quitting } := by
  unfold apply
  dsimp only
  split
  · exact ⟨some attempt.email, true, rfl⟩
  · exact ⟨session.signedIn, session.quitting, rfl⟩

theorem apply_accepted (session : Session) (attempt : Attempt) :
    session.apply attempt .accepted = { session with
      desk := (session.desk.complete attempt.id .accepted).2
      lastOutcome := some .authenticated
      signedIn := some attempt.email
      quitting := true } := rfl

theorem apply_rejected (session : Session) (attempt : Attempt) (rejection : Rejection) :
    session.apply attempt (.rejected rejection) = { session with
      desk := (session.desk.complete attempt.id (.rejected rejection)).2
      lastOutcome := some (.rejected rejection.displayed) } := rfl

def applyAll (session : Session) (answers : List (Attempt × Answer)) : Session :=
  answers.foldl (fun session (attempt, answer) => session.apply attempt answer) session

theorem applyAll_cons (session : Session) (attempt : Attempt) (answer : Answer) (answers : List (Attempt × Answer)) :
    session.applyAll ((attempt, answer) :: answers) = (session.apply attempt answer).applyAll answers := rfl

theorem processQueue_eq (session : Session) :
    session.processQueue = applyAll { session with queue := [] } session.queue := rfl

theorem applyAll_parts (session : Session) (answers : List (Attempt × Answer)) :
    (session.applyAll answers).calls = session.calls ∧
    (session.applyAll answers).waiting = session.waiting ∧
    (session.applyAll answers).queue = session.queue ∧
    (session.applyAll answers).aborted = session.aborted ∧
    (session.applyAll answers).desk.nextId = session.desk.nextId ∧
    (session.applyAll answers).desk.inFlight =
      session.desk.inFlight.filter (· ∉ answers.map fun answered => answered.1.id) := by
  induction answers generalizing session with
  | nil =>
    refine ⟨rfl, rfl, rfl, rfl, rfl, ?_⟩
    exact (List.filter_eq_self.mpr (by simp)).symm
  | cons answered answers ih =>
    obtain ⟨attempt, answer⟩ := answered
    obtain ⟨signedIn, quitting, applied⟩ := apply_eq session attempt answer
    have parts := ih (session.apply attempt answer)
    rw [applyAll_cons]
    rw [applied] at parts ⊢
    simp only [Desk.complete_nextId, Desk.complete_inFlight, List.filter_filter] at parts
    refine ⟨parts.1, parts.2.1, parts.2.2.1, parts.2.2.2.1, parts.2.2.2.2.1, parts.2.2.2.2.2.trans ?_⟩
    apply List.filter_congr
    intro id _
    by_cases this : id = attempt.id <;> simp [this]

def started? (session : Session) : Operation → Option Attempt
  | .submit => session.submit.1
  | _ => none

/-- No call is ever forgotten, and a call starts with every attempt that is handed out. -/
theorem calls_operate (session : Session) (operation : Operation) :
    (session.operate operation).calls = session.calls ++ (session.started? operation).toList := by
  have unchanged : ∀ calls : List Attempt, calls = calls ++ (none : Option Attempt).toList :=
    fun calls => (List.append_nil calls).symm
  cases operation with
  | editing editing =>
    obtain ⟨edits, focus, edited⟩ := performEditing_eq session editing
    rw [operate, edited]
    exact unchanged _
  | requestQuit => exact unchanged _
  | submit =>
    rw [operate, started?]
    cases passed : session.dismissNotice.desk.begin.1 with
    | none =>
      rw [submit_blocked session passed]
      exact unchanged _
    | some attempt =>
      rw [submit_passed session passed]
      rfl
  | answer number answer =>
    rcases answerCall_eq session number answer with ⟨_, _, _, taken⟩ | lost
    · rw [operate, taken]
      exact unchanged _
    · rw [operate, lost]
      exact unchanged _
  | processQueue =>
    rw [operate, processQueue_eq, (applyAll_parts _ _).1]
    exact unchanged _
  | shutdown => exact unchanged _

end Session

/-! ### Steps -/

namespace Session

inductive Step where
  | operation (operation : Operation)
  | event (event : TerminalEvent)

def react (session : Session) : Step → Session
  | .operation operation => session.operate operation
  | .event event => session.takeEvent event

def proceed (session : Session) (steps : List Step) : Session :=
  steps.foldl react session

def Action.operation : Action → Operation
  | .quit => .requestQuit
  | .clear => .editing .clearField
  | .focusNext => .editing .focusNext
  | .focusPrevious => .editing .focusPrevious
  | .submit => .submit
  | .backspace => .editing .backspace
  | .insert char => .editing (.insertChar char)

def insertions (text : Text) : List Operation :=
  text.map fun char => .editing (.insertChar char)

def operationsOf : Step → List Operation
  | .operation operation => [operation]
  | .event (.key event) => (action? event).toList.map Action.operation
  | .event (.paste text) => insertions (text.filter fun char => !isLineBreak char)
  | .event .report => []

theorem perform_eq_operate (session : Session) (action : Action) :
    session.perform action = session.operate action.operation := by
  cases action <;> rfl

theorem run_insertions (session : Session) (text : Text) : session.run (insertions text) = session.insertText text := by
  simp only [run, insertions, List.foldl_map]
  rfl

theorem react_eq_run (session : Session) (step : Step) : session.react step = session.run (operationsOf step) := by
  cases step with
  | operation operation => rfl
  | event event =>
    cases event with
    | key event =>
      simp only [react, takeEvent, operationsOf]
      cases action? event with
      | none => rfl
      | some action => exact perform_eq_operate session action
    | paste text => exact (run_insertions session _).symm
    | report => rfl

theorem proceed_eq_run (session : Session) (steps : List Step) :
    session.proceed steps = session.run (steps.flatMap operationsOf) := by
  induction steps generalizing session with
  | nil => rfl
  | cons step steps ih =>
    rw [List.flatMap_cons, run, List.foldl_append]
    show (session.react step).proceed steps = (session.run (operationsOf step)).run (steps.flatMap operationsOf)
    rw [react_eq_run]
    exact ih _

end Session

end TerminalSignIn
