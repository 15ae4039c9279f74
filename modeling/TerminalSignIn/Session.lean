import TerminalSignIn.Desk

/-!
# The session

A session is the form on the screen: a desk with a notice board, a focus, and the calls to the service. Calls
run beside the form, which stays editable; their answers queue up and are processed between two frames.
-/

namespace TerminalSignIn

structure DisplayOptions where
  asciiOnly : Bool
  highContrast : Bool
deriving DecidableEq

structure SessionSettings where
  email : Option Text
  title : Option Text
  options : DisplayOptions

/-- The state of the form on the screen. `calls` holds every call ever started; a call is waiting until it
is answered, then its answer stands in the queue until it is processed. A shutdown aborts waiting calls. -/
structure Session where
  desk : Desk NoticeBoard
  focus : Field
  calls : List Attempt
  waiting : List Attempt
  queue : List (Attempt × Answer)
  aborted : List Attempt
  lastOutcome : Option Outcome
  signedIn : Option Text
  quitting : Bool
  options : DisplayOptions

namespace Session

/-- A new session. With an email given in advance the password has the focus. -/
def start (settings : SessionSettings) : Session where
  desk := .withForm (.ofCredentials ⟨settings.email, none⟩) settings.title .empty
  focus := if settings.email.isSome then .password else .email
  calls := []
  waiting := []
  queue := []
  aborted := []
  lastOutcome := none
  signedIn := none
  quitting := false
  options := settings.options

def form (session : Session) : Form :=
  session.desk.form

def phase (session : Session) : Phase :=
  session.desk.phase

def notice? (session : Session) : Option Notice :=
  session.desk.sink.visible?

def requestQuit (session : Session) : Session :=
  { session with quitting := true }

def edit (session : Session) (edit : Form.Edit) : Session :=
  { session with desk := session.desk.edit edit }

/-- Move the focus. The field that loses it counts as touched. -/
def setFocus (session : Session) (field : Field) : Session :=
  if field = session.focus then session
  else { session.edit (.left session.focus) with focus := field }

def focusNext (session : Session) : Session :=
  session.setFocus session.focus.next

def focusPrevious (session : Session) : Session :=
  session.setFocus session.focus.previous

def focusedText (session : Session) : Text :=
  (session.form.credentials.value session.focus).getD []

def setFocusedText (session : Session) (text : Text) : Session :=
  session.edit (.typed session.focus text)

def insertChar (session : Session) (char : Char) : Session :=
  session.setFocusedText (session.focusedText ++ [char])

def insertText (session : Session) (text : Text) : Session :=
  text.foldl insertChar session

def backspace (session : Session) : Session :=
  if session.focusedText.isEmpty then session
  else session.setFocusedText session.focusedText.dropLast

def clearField (session : Session) : Session :=
  session.setFocusedText []

def dismissNotice (session : Session) : Session :=
  { session with desk := { session.desk with sink := session.desk.sink.dismiss } }

def submit (session : Session) : Option Attempt × Session :=
  let session := session.dismissNotice
  match session.desk.begin with
  | (none, desk) => (none, { session with desk := desk, lastOutcome := some .aborted })
  | (some attempt, desk) =>
    (some attempt, { session with
      desk := desk
      calls := session.calls ++ [attempt]
      waiting := session.waiting ++ [attempt] })

/-- The answer to a call arrives. It changes nothing unless the call is waiting. -/
def answer (session : Session) (attempt : Attempt) (answer : Answer) : Bool × Session :=
  if session.waiting.contains attempt then
    (true, { session with
      waiting := session.waiting.erase attempt
      queue := session.queue ++ [(attempt, answer)] })
  else (false, session)

def answerCall (session : Session) (number : Nat) (answer : Answer) : Bool × Session :=
  match session.calls[number]? with
  | none => (false, session)
  | some attempt => session.answer attempt answer

/-- Apply one answer. A success signs in the email of its own call and ends the session. -/
def apply (session : Session) (attempt : Attempt) (answer : Answer) : Session :=
  let (outcome, desk) := session.desk.complete attempt.id answer
  let session := { session with desk := desk, lastOutcome := some outcome }
  if outcome = .authenticated then { session with signedIn := some attempt.email, quitting := true }
  else session

def processQueue (session : Session) : Session :=
  session.queue.foldl (fun session (attempt, answer) => session.apply attempt answer)
    { session with queue := [] }

def shutdown (session : Session) : Session :=
  { session with waiting := [], aborted := session.aborted ++ session.waiting }

def inFlight (session : Session) : Nat :=
  session.desk.inFlight.length

end Session

end TerminalSignIn
