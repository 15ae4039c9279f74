import Mathlib.Data.List.Induction
import TerminalSignIn.LineMode
import TerminalSignIn.Proofs.Desk.Gate
import TerminalSignIn.Proofs.Session.Run

/-!
# What the service is asked about

The gate of the desk in every state that a desk comes to, and what follows for each way to reach the service: whole
submissions, the form on the screen, and line mode never ask it about anything but an email address and a password
that is not empty.
-/

namespace TerminalSignIn

namespace Desk

variable {σ : Type}

structure ExactGate (desk : Desk σ) : Prop where
  /-- The gate looks at what was typed and at nothing else. -/
  attempt : desk.begin.1 = if desk.form.credentials.Submittable then some desk.nextAttempt else none
  /-- What is let through was offered before. -/
  offered : desk.begin.1.isSome = true → desk.canSubmit = true
  /-- Without a message of the service, whatever is offered is let through. -/
  honoured : desk.form.serverError = none → desk.begin.1.isSome = desk.canSubmit
  cleared : desk.begin.2.form.serverError = none
  touched : ∀ field, (desk.begin.2.form.field field).touched = true
  kept : desk.begin.2.form.credentials = desk.form.credentials
  blocked : desk.begin.1 = none → desk.begin.2.inFlight = desk.inFlight ∧ desk.begin.2.nextId = desk.nextId ∧
    desk.begin.2.sink = desk.sink

theorem exactGate_of_fresh {desk : Desk σ} (fresh : desk.form.Fresh) : desk.ExactGate where
  attempt := begin_attempt_eq desk
  offered := by
    intro passed
    exact (Form.canSubmit_iff fresh).mpr (Or.inr ((begin_isSome_iff desk).mp passed))
  honoured := by
    intro clear
    rw [Bool.eq_iff_iff, begin_isSome_iff, canSubmit, Form.canSubmit_iff fresh]
    simp [clear]
  cleared := begin_message desk
  touched := by
    intro field
    rw [begin_form]
    exact touched_updates_examination desk.form field
  kept := by rw [begin_form, credentials_updates_examination]
  blocked := by
    intro blocked
    have unchanged := begin_blocked desk blocked
    exact ⟨unchanged.1, unchanged.2, begin_sink desk⟩

end Desk

namespace Session

theorem submittable_of_started {session : Session} {operation : Operation} {attempt : Attempt}
    (started : session.started? operation = some attempt) : Submittable attempt.email attempt.password := by
  cases operation with
  | submit =>
    have passed : session.dismissNotice.desk.begin.1 = some attempt := by
      rw [started?] at started
      cases begun : session.dismissNotice.desk.begin.1 with
      | none => rwa [submit_blocked session begun] at started
      | some other => rwa [submit_passed session begun] at started
    exact Desk.submittable_of_begin passed
  | _ => contradiction

theorem submittable_of_calls (settings : SessionSettings) (operations : List Operation) :
    ∀ attempt ∈ ((start settings).run operations).calls, Submittable attempt.email attempt.password := by
  induction operations using List.reverseRecOn with
  | nil => simp [run, start]
  | append_singleton operations operation ih =>
    intro attempt called
    rw [run_append, calls_operate] at called
    rcases List.mem_append.mp called with before | now
    · exact ih attempt before
    · exact submittable_of_started (Option.mem_toList.mp now)

end Session

theorem LineMode.submittable_of_call {email title : Option Text} {input : Bytes} {outputBroken errorsBroken : Bool}
    {service : Attempt → Answer} {attempt : Attempt}
    (called : (run email title input outputBroken errorsBroken service).call = some attempt) :
    Submittable attempt.email attempt.password := by
  unfold run at called
  dsimp only at called
  split at called
  · contradiction
  next credentials _ =>
    have asked :
        ((Desk.withForm (.ofCredentials credentials) title (⟨errorsBroken, []⟩ : LineSink)).signIn service).call =
        some attempt := by
      unfold submit at called
      dsimp only at called
      split at called
      · split at called <;> exact called
      · exact called
      · exact called
    exact Desk.submittable_of_begin ((Desk.signIn_call _ service).symm.trans asked)

/-- In every state that a desk comes to, a submission is let through exactly when what was typed may be asked about,
and whatever the service is asked about in any run has passed this gate. -/
theorem gate_exact {σ : Type} [NoticeSink σ] :
    (∀ (form : Form) (title : Option Text) (sink : σ) (operations : List (Desk.Operation σ)),
      ((Desk.withForm form title sink).run operations).ExactGate ∧
      ∀ attempt ∈ (Desk.withForm form title sink).attempts operations,
        Submittable attempt.email attempt.password) ∧
    (∀ (settings : SessionSettings) (operations : List Session.Operation),
      ∀ attempt ∈ ((Session.start settings).run operations).calls,
        Submittable attempt.email attempt.password) ∧
    (∀ (email title : Option Text) (input : Bytes) (outputBroken errorsBroken : Bool)
      (service : Attempt → Answer) (attempt : Attempt),
      (LineMode.run email title input outputBroken errorsBroken service).call = some attempt →
        Submittable attempt.email attempt.password) := by
  refine ⟨fun form title sink operations => ⟨?_, ?_⟩, Session.submittable_of_calls, ?_⟩
  · exact Desk.exactGate_of_fresh (Desk.fresh_run (Desk.fresh_withForm form title sink) operations)
  · exact Desk.submittable_of_attempts _ operations
  · intro email title input outputBroken errorsBroken service attempt
    exact LineMode.submittable_of_call

/-- The gate of a desk behind a rejection, and one attempt that each way to the service lets through. -/
theorem gate_exact_behind_rejection :
    let email := "a@b.c".toList
    let fresh := Desk.withForm (.ofCredentials ⟨some email, some ['x']⟩) none NoticeBoard.empty
    let desk := fresh.run [.setServerError (some ['n', 'o'])]
    let session := (Session.start ⟨some email, none, ⟨false, false⟩⟩).run [.editing (.insertChar 'x'), .submit]
    let report := LineMode.run (some email) none [0x78] false false fun _ => .accepted
    let attempt := desk.nextAttempt
    (desk.begin.1 = some attempt ∧ desk.canSubmit = true) ∧
    (attempt ∈ fresh.attempts [.setServerError (some ['n', 'o']), .begin] ∧
      Submittable attempt.email attempt.password) ∧
    (attempt ∈ session.calls ∧ Submittable attempt.email attempt.password) ∧
    (report.call = some attempt ∧ Submittable attempt.email attempt.password) := by
  intro email fresh desk session report attempt
  obtain ⟨ofDesk, ofSession, ofLines⟩ := gate_exact (σ := NoticeBoard)
  obtain ⟨exact, _⟩ := ofDesk (.ofCredentials ⟨some email, some ['x']⟩) none NoticeBoard.empty
    [.setServerError (some ['n', 'o'])]
  have fit : desk.form.credentials.Submittable := by decide
  have passed : desk.begin.1 = some attempt := by rw [exact.attempt, if_pos fit]
  have attempted : attempt ∈ fresh.attempts [.setServerError (some ['n', 'o']), .begin] := by decide
  have called : attempt ∈ session.calls := by decide
  have asked : report.call = some attempt := by decide
  exact ⟨⟨passed, exact.offered (by rw [passed]; rfl)⟩,
    ⟨attempted, (ofDesk _ none NoticeBoard.empty _).2 attempt attempted⟩,
    ⟨called, ofSession _ _ attempt called⟩, ⟨asked, ofLines _ _ _ _ _ _ attempt asked⟩⟩

end TerminalSignIn
