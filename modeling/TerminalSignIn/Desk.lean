import TerminalSignIn.Attempt
import TerminalSignIn.Notice

/-!
# The desk

The desk stands between the form, the service and the sink for notices. It lets a submission through when the
form passes its checks, keeps the attempts that are out, and absorbs the answers: a rejection becomes a notice
and a message on the form, and goes no further.
-/

namespace TerminalSignIn

structure Desk (σ : Type) where
  form : Form
  phase : Phase
  title : Option Text
  nextId : AttemptId
  inFlight : List AttemptId
  sink : σ

namespace Desk

variable {σ : Type}

def edit (desk : Desk σ) (edit : Form.Edit) : Desk σ :=
  { desk with form := desk.form.update edit }

def installValidators (desk : Desk σ) : Desk σ :=
  desk.edit (.serverError desk.form.serverError)

def withForm (form : Form) (title : Option Text) (sink : σ) : Desk σ :=
  installValidators ⟨form, .idle, title, .first, [], sink⟩

/-- Replace the message of the service. A blank message counts as none. -/
def setServerError (desk : Desk σ) (message : Option Text) : Desk σ :=
  desk.edit (.serverError (NonBlank.ofOption? message))

def canSubmit (desk : Desk σ) : Bool :=
  desk.form.canSubmit

/-- Come to rest in a phase, unless an attempt is still out. -/
def settle (desk : Desk σ) (resting : Phase) : Desk σ :=
  { desk with phase := match AttemptId.greatest? desk.inFlight with
      | some id => .authenticating id
      | none => resting }

def examine (desk : Desk σ) : Desk σ :=
  ({ desk with phase := .validating }.edit .checkAll).setServerError none

def begin (desk : Desk σ) : Option Attempt × Desk σ :=
  let desk := desk.examine
  if desk.canSubmit then
    let id := desk.nextId
    let attempt : Attempt :=
      ⟨id, desk.form.credentials.email.getD [], desk.form.credentials.password.getD []⟩
    (some attempt, { desk with
      nextId := id.next
      inFlight := if desk.inFlight.contains id then desk.inFlight else desk.inFlight ++ [id]
      phase := .authenticating id })
  else (none, desk.settle .idle)

def release (desk : Desk σ) (id : AttemptId) : Desk σ :=
  { desk with inFlight := desk.inFlight.filter (· ≠ id) }

def absorb [NoticeSink σ] (desk : Desk σ) (message : NonBlank) : Desk σ :=
  { desk with sink := NoticeSink.report desk.sink desk.title message.text }.setServerError message.text

def complete [NoticeSink σ] (desk : Desk σ) (id : AttemptId) : Answer → Outcome × Desk σ
  | .accepted => (.authenticated, (desk.release id).settle .idle)
  | .rejected rejection =>
    (.rejected rejection.displayed, ((desk.release id).absorb rejection.displayed).settle .rejected)

structure Submission (σ : Type) where
  outcome : Outcome
  call : Option Attempt
  desk : Desk σ

def signIn [NoticeSink σ] (desk : Desk σ) (service : Attempt → Answer) : Submission σ :=
  match desk.begin with
  | (none, desk) => ⟨.aborted, none, desk⟩
  | (some attempt, desk) =>
    let (outcome, desk) := desk.complete attempt.id (service attempt)
    ⟨outcome, some attempt, desk⟩

end Desk

end TerminalSignIn
