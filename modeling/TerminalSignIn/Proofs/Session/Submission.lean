import TerminalSignIn.Proofs.Session.Delivery
import TerminalSignIn.Proofs.Session.Notice

/-!
# A submission in one piece

The form submits, waits and processes the answer between two frames; where there is no form, one call of the desk does
it all. Both come to the same, except that the form hides the notice of an earlier rejection first, on a board that a
new rejection puts on display again.
-/

namespace TerminalSignIn

namespace NoticeBoard

theorem showError_dismiss (board : NoticeBoard) (title : Option Text) {message : Text} (filled : message ≠ [])
    (fixed : message.display = message) :
    board.dismiss.showError title message = board.showError title message := by
  simp [showError, Notice.ofError?, fixed, filled, post, dismiss]

end NoticeBoard

namespace Desk

theorem begin_withSink {σ : Type} (desk : Desk σ) (sink : σ) :
    ({ desk with sink := sink } : Desk σ).begin = (desk.begin.1, { desk.begin.2 with sink := sink }) := by
  rw [begin_eq, begin_eq]
  dsimp only [nextAttempt]
  split <;> rfl

def dismissNotice (desk : Desk NoticeBoard) : Desk NoticeBoard :=
  { desk with sink := desk.sink.dismiss }

def hideUnless (desk : Desk NoticeBoard) : Outcome → Desk NoticeBoard
  | .rejected _ => desk
  | .authenticated | .aborted => desk.dismissNotice

theorem absorb_dismissNotice (desk : Desk NoticeBoard) (rejection : Rejection) :
    desk.dismissNotice.absorb rejection.displayed = desk.absorb rejection.displayed := by
  show ({ desk with sink := desk.sink.dismiss.showError desk.title rejection.displayed.text } :
    Desk NoticeBoard).setServerError _ = _
  rw [NoticeBoard.showError_dismiss _ _ rejection.displayed.text_ne_nil rejection.display_displayed]
  rfl

theorem complete_dismissNotice (desk : Desk NoticeBoard) (id : AttemptId) (answer : Answer) :
    desk.dismissNotice.complete id answer =
      ((desk.complete id answer).1, (desk.complete id answer).2.hideUnless (desk.complete id answer).1) := by
  cases answer with
  | accepted => rfl
  | rejected rejection =>
    -- The board is put on display again, so nothing is left of its having been hidden.
    show (_, ((desk.release id).dismissNotice.absorb rejection.displayed).settle .rejected) = _
    rw [absorb_dismissNotice]
    rfl

theorem signIn_dismissNotice (desk : Desk NoticeBoard) (service : Attempt → Answer) :
    desk.dismissNotice.signIn service =
      ⟨(desk.signIn service).outcome, (desk.signIn service).call,
        (desk.signIn service).desk.hideUnless (desk.signIn service).outcome⟩ := by
  have begun : desk.dismissNotice.begin = (desk.begin.1, desk.begin.2.dismissNotice) := by
    rw [dismissNotice, begin_withSink, dismissNotice, begin_sink]
  cases gate : desk.begin.1 with
  | none =>
    rw [signIn_blocked desk gate, signIn_blocked _ ((congrArg Prod.fst begun).trans gate), begun]
    rfl
  | some attempt =>
    rw [signIn_passed desk gate, signIn_passed _ ((congrArg Prod.fst begun).trans gate), begun,
      complete_dismissNotice]

end Desk

namespace Session

open scoped List

/-- What a session does to submit, when the service answers the new call before anything else happens. If the form does
not pass its checks there is no new call, and the answer is lost. -/
def submission (session : Session) (answer : Answer) : List Operation :=
  [.submit, .answer session.calls.length answer, .processQueue]

theorem run_submission_eq (session : Session) (answer : Answer) :
    session.run (session.submission answer) =
      (session.submit.2.answerCall session.calls.length answer).2.processQueue := by
  simp only [run, submission, List.foldl_cons, List.foldl_nil, operate]

theorem run_submission_blocked (session : Session) (idle : session.queue = [])
    (blocked : session.dismissNotice.desk.begin.1 = none) (answer : Answer) :
    session.run (session.submission answer) = session.submit.2 := by
  have noCall : session.submit.2.calls[session.calls.length]? = none := by
    simp [submit_blocked session blocked]
  have lost : (session.submit.2.answerCall session.calls.length answer).2 = session.submit.2 := by
    rw [answerCall, noCall]
  have unanswered : session.submit.2.queue = [] := by rw [submit_blocked session blocked, idle]
  rw [run_submission_eq, lost, processQueue_of_empty unanswered]

theorem run_submission_passed (session : Session) (idle : session.queue = []) {attempt : Attempt}
    (passed : session.dismissNotice.desk.begin.1 = some attempt) (answer : Answer) :
    session.run (session.submission answer) =
      (session.submit.2.apply attempt answer).withAnswers ((session.waiting ++ [attempt]).erase attempt) [] := by
  have found : session.submit.2.calls[session.calls.length]? = some attempt := by
    simp [submit_passed session passed]
  have waits : attempt ∈ session.submit.2.waiting := by simp [submit_passed session passed]
  have alone : session.submit.2.queue ++ [(attempt, answer)] = [(attempt, answer)] := by
    rw [submit_passed session passed, idle, List.nil_append]
  have waiting : session.submit.2.waiting = session.waiting ++ [attempt] := by rw [submit_passed session passed]
  rw [run_submission_eq, answerCall_waiting _ found waits, alone, waiting]
  exact processQueue_withAnswers session.submit.2 _ [(attempt, answer)]

/-- With nothing queued, the desk of a session goes through a submission as if in one piece, once its notice is
hidden. -/
theorem run_submission (session : Session) (idle : session.queue = []) (answer : Answer) :
    let after := session.run (session.submission answer)
    let shot := session.desk.dismissNotice.signIn fun _ => answer
    after.desk = shot.desk ∧ after.lastOutcome = some shot.outcome ∧
    after.calls = session.calls ++ shot.call.toList ∧ after.queue = [] ∧ after.waiting.Perm session.waiting := by
  intro after shot
  cases gate : session.desk.dismissNotice.begin.1 with
  | none =>
    have blocked : shot = ⟨.aborted, none, session.desk.dismissNotice.begin.2⟩ := Desk.signIn_blocked _ gate _
    have ran : after = session.submit.2 := run_submission_blocked session idle gate answer
    rw [ran, blocked, submit_blocked session gate]
    exact ⟨rfl, rfl, (List.append_nil _).symm, idle, .refl _⟩
  | some attempt =>
    have passed : shot = _ := Desk.signIn_passed _ gate _
    have ran : after = _ := run_submission_passed session idle gate answer
    obtain ⟨signedIn, quitting, applied⟩ := apply_eq session.submit.2 attempt answer
    rw [ran, passed, applied, submit_passed session gate]
    refine ⟨rfl, rfl, rfl, rfl, ?_⟩
    -- Another call with the same content could wait, so the calls are the same but for their order.
    calc
      _ = (session.waiting ++ [attempt]).erase attempt := rfl
      _ ~ (attempt :: session.waiting).erase attempt := (List.perm_append_singleton ..).erase attempt
      _ = session.waiting := List.erase_cons_head ..

/-- From any session with nothing queued, whatever calls wait: to submit, to have the new call answered and to process
the answer makes the same call as a submission in one piece, comes to the same outcome, and leaves the same desk, save
that the notice on display is hidden unless a new one has taken its place. -/
theorem submission_in_one_piece (session : Session) (idle : session.queue = []) (answer : Answer) :
    let after := session.run (session.submission answer)
    let shot := session.desk.signIn fun _ => answer
    after.desk = shot.desk.hideUnless shot.outcome ∧
    after.desk.sink.history = shot.desk.sink.history ∧
    after.lastOutcome = some shot.outcome ∧
    after.calls = session.calls ++ shot.call.toList ∧
    after.queue = [] ∧ after.waiting.Perm session.waiting := by
  intro after shot
  obtain ⟨desk, outcome, calls, queue, waiting⟩ := run_submission session idle answer
  rw [Desk.signIn_dismissNotice] at desk outcome calls
  refine ⟨desk, ?_, outcome, calls, queue, waiting⟩
  rw [desk]
  cases shot.outcome <;> rfl

/-- With a call waiting and a notice on display, a success in the form hides the notice, and one at the desk does
not. -/
theorem submission_in_one_piece_behind_rejection :
    let session := (start ⟨some "a@b.c".toList, none, ⟨false, false⟩⟩).run
      [.editing (.insertChar 'x'), .submit, .submit, .answer 0 (.rejected ⟨⟨['n', 'o'], by decide⟩⟩), .processQueue]
    let after := session.run (session.submission .accepted)
    let shot := session.desk.signIn fun _ => .accepted
    session.queue = [] ∧ session.waiting.map Attempt.id = [⟨2⟩] ∧ session.notice?.isSome = true ∧
    after.desk = shot.desk.hideUnless shot.outcome ∧ after.lastOutcome = some .authenticated ∧
    after.calls.map Attempt.id = [⟨1⟩, ⟨2⟩, ⟨3⟩] ∧ after.notice? = none ∧
    shot.desk.sink.visible? = session.notice? := by
  intro session after shot
  have idle : session.queue = [] := by decide
  obtain ⟨desk, _, outcome, calls, _⟩ := submission_in_one_piece session idle .accepted
  have called : after.calls.map Attempt.id = [⟨1⟩, ⟨2⟩, ⟨3⟩] :=
    (congrArg (List.map Attempt.id) calls).trans (by decide)
  exact ⟨idle, by decide, by decide, desk, outcome.trans (by decide), called, by decide, by decide⟩

end Session

end TerminalSignIn
