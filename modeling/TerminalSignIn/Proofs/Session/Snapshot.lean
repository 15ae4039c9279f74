import TerminalSignIn.Proofs.Session.Delivery
import TerminalSignIn.Proofs.Session.Gate

/-!
# Calls are snapshots

The form stays open to edits while calls are out, and answers come in any order. A call carries what stood in the form
when it was submitted, and whoever is signed in is known from the call whose success was processed last, never from the
form. A docket is kept beside a session for this, in which answers are entered under the numbers of their calls.
-/

namespace TerminalSignIn

def Attempt.credentials (attempt : Attempt) : Credentials :=
  ⟨some attempt.email, some attempt.password⟩

namespace Session

def submitted? (session : Session) : Operation → Option Credentials
  | .submit => if session.submit.1.isSome then some session.form.credentials else none
  | _ => none

def submissions (session : Session) : List Operation → List Credentials
  | [] => []
  | operation :: operations =>
    (session.submitted? operation).toList ++ (session.operate operation).submissions operations

theorem credentials_of_begin {σ : Type} {desk : Desk σ} {attempt : Attempt} (passed : desk.begin.1 = some attempt) :
    attempt.credentials = desk.form.credentials := by
  obtain ⟨email, _, password⟩ := Desk.submittable_of_begin passed
  obtain ⟨rfl, _⟩ := Desk.begin_passed desk passed
  -- What the gate lets through is not empty, so it does not stand for a field that was never filled in.
  have filled : ∀ value : Option Text, value.getD [] ≠ [] → some (value.getD []) = value := by
    intro value nonempty
    cases value with
    | none => exact absurd rfl nonempty
    | some text => rfl
  exact congrArg₂ Credentials.mk (filled _ email) (filled _ password)

theorem submitted?_eq (session : Session) (operation : Operation) :
    session.submitted? operation = (session.started? operation).map Attempt.credentials := by
  cases operation with
  | submit =>
    rw [submitted?, started?]
    cases gate : session.dismissNotice.desk.begin.1 with
    | none =>
      rw [submit_blocked session gate]
      rfl
    | some attempt =>
      have copied : attempt.credentials = session.dismissNotice.desk.form.credentials := credentials_of_begin gate
      rw [submit_passed session gate, Option.map_some, copied]
      rfl
  | _ => rfl

theorem calls_run (session : Session) (operations : List Operation) :
    (session.run operations).calls.map Attempt.credentials =
      session.calls.map Attempt.credentials ++ session.submissions operations := by
  induction operations generalizing session with
  | nil => exact (List.append_nil _).symm
  | cons operation operations ih =>
    rw [run_cons, ih, calls_operate, List.map_append, List.append_assoc, submissions, submitted?_eq, Option.toList_map]

/-- The answers that wait to be processed and those that were, each under the number of its call, in the order in which
they arrived. -/
structure Docket where
  arrived : List (Nat × Answer)
  processed : List (Nat × Answer)

def Docket.empty : Docket := ⟨[], []⟩

def enter (session : Session) (docket : Docket) : Operation → Docket
  | .answer number answer =>
    if (session.answerCall number answer).1 then
      { docket with arrived := docket.arrived ++ [(number, answer)] }
    else docket
  | .processQueue => ⟨[], docket.processed ++ docket.arrived⟩
  | _ => docket

def enterAll (session : Session) (docket : Docket) : List Operation → Docket
  | [] => docket
  | operation :: operations => (session.operate operation).enterAll (session.enter docket operation) operations

/-- The answers of a session are those of its docket, with the calls in the place of their numbers. -/
structure Docketed (session : Session) (docket : Docket) : Prop where
  arrived : session.queue.map (Prod.map some id) = docket.arrived.map (Prod.map (session.calls[·]?) id)
  signedIn : session.signedIn.map some =
    (lastAccepted? docket.processed).map fun number => (session.calls[number]?).map Attempt.email
  quitting : session.signedIn.isSome = true → session.quitting = true

namespace Docketed

variable {session : Session} {docket : Docket}

theorem called (docketed : session.Docketed docket) (attempt : Attempt) (waiting : List Attempt)
    (desk : Desk NoticeBoard) : Docketed { session with
      desk := desk
      calls := session.calls ++ [attempt]
      waiting := waiting } docket := by
  have kept : ∀ number : Nat, session.calls[number]? ≠ none →
      (session.calls ++ [attempt])[number]? = session.calls[number]? := by
    intro number named
    exact List.getElem?_append_left (Nat.lt_of_not_le (mt List.getElem?_eq_none_iff.mpr named))
  refine ⟨docketed.arrived.trans (List.map_congr_left ?_), docketed.signedIn.trans ?_, docketed.quitting⟩
  · rintro ⟨number, answer⟩ member
    have entered : Prod.map (session.calls[·]?) id (number, answer) ∈ session.queue.map (Prod.map some id) :=
      docketed.arrived ▸ List.mem_map_of_mem member
    obtain ⟨answered, _, same⟩ := List.mem_map.mp entered
    have found : some answered.1 = session.calls[number]? := congrArg Prod.fst same
    have named : session.calls[number]? ≠ none := found ▸ Option.some_ne_none _
    exact Prod.ext (kept number named).symm rfl
  · have told := docketed.signedIn
    cases last : lastAccepted? docket.processed with
    | none => rfl
    | some number =>
      rw [last] at told
      have named : session.calls[number]? ≠ none := by
        intro missing
        rw [Option.map_some, missing] at told
        cases signedIn : session.signedIn <;> simp [signedIn] at told
      rw [Option.map_some, Option.map_some, kept number named]

theorem answered (docketed : session.Docketed docket) {number : Nat} {attempt : Attempt} (answer : Answer)
    (found : session.calls[number]? = some attempt) (waiting : List Attempt) :
    Docketed { session with
      waiting := waiting
      queue := session.queue ++ [(attempt, answer)] }
      { docket with arrived := docket.arrived ++ [(number, answer)] } where
  arrived := by
    rw [List.map_append, List.map_append, docketed.arrived, List.map_singleton, List.map_singleton, Prod.map_apply,
      Prod.map_apply, found]
  signedIn := docketed.signedIn
  quitting := docketed.quitting

theorem processed (docketed : session.Docketed docket) :
    session.processQueue.Docketed ⟨[], docket.processed ++ docket.arrived⟩ := by
  obtain ⟨calls, _, queue⟩ := processQueue_answers session
  rw [processQueue_eq] at calls queue
  have last : (lastAccepted? session.queue).map some =
      (lastAccepted? docket.arrived).map (session.calls[·]?) := by
    rw [← lastAccepted?_map, ← lastAccepted?_map, docketed.arrived]
  rw [processQueue_eq]
  refine ⟨congrArg (List.map _) queue, ?_, ?_⟩
  · have emails : ((lastAccepted? session.queue).map Attempt.email).map some =
        (lastAccepted? docket.arrived).map fun number => (session.calls[number]?).map Attempt.email := by
      have named := congrArg (Option.map (Option.map Attempt.email)) last
      simp only [Option.map_map] at named ⊢
      exact named
    rw [signedIn_applyAll, calls, lastAccepted?_append, Option.map_or, Option.map_or, emails, docketed.signedIn]
  · rw [signedIn_applyAll, quitting_applyAll, Option.isSome_or, Option.isSome_map, Bool.or_eq_true, Bool.or_eq_true]
    exact Or.imp_right docketed.quitting

theorem operate (docketed : session.Docketed docket) (operation : Operation) :
    (session.operate operation).Docketed (session.enter docket operation) := by
  cases operation with
  | editing editing =>
    obtain ⟨edits, focus, edited⟩ := performEditing_eq session editing
    rw [Session.operate, edited]
    exact ⟨docketed.arrived, docketed.signedIn, docketed.quitting⟩
  | requestQuit => exact ⟨docketed.arrived, docketed.signedIn, fun _ => rfl⟩
  | submit =>
    rw [Session.operate]
    cases gate : session.dismissNotice.desk.begin.1 with
    | none =>
      rw [submit_blocked session gate]
      exact ⟨docketed.arrived, docketed.signedIn, docketed.quitting⟩
    | some attempt =>
      rw [submit_passed session gate]
      exact docketed.called attempt _ _
  | answer number answer =>
    rw [Session.operate, enter]
    rcases answerCall_eq session number answer with ⟨attempt, found, _, taken⟩ | lost
    · rw [taken]
      exact docketed.answered answer found _
    · rw [lost]
      exact docketed
  | processQueue => exact docketed.processed
  | shutdown => exact ⟨docketed.arrived, docketed.signedIn, docketed.quitting⟩

theorem run (docketed : session.Docketed docket) (operations : List Operation) :
    (session.run operations).Docketed (session.enterAll docket operations) := by
  induction operations generalizing session docket with
  | nil => exact docketed
  | cons operation operations ih => exact ih (docketed.operate operation)

end Docketed

theorem signedIn_run (session : Session) (signedIn : session.signedIn.isSome = true) (operations : List Operation) :
    (session.run operations).signedIn.isSome = true := by
  induction operations generalizing session with
  | nil => exact signedIn
  | cons operation operations ih =>
    apply ih
    rw [(ending_operate session operation).1, Option.isSome_or, signedIn, Bool.or_true]

theorem quitting_run (session : Session) (quitting : session.quitting = true) (operations : List Operation) :
    (session.run operations).quitting = true := by
  induction operations generalizing session with
  | nil => exact quitting
  | cons operation operations ih => exact ih _ ((ending_operate session operation).2.mpr (.inl quitting))

/-- In every run, however calls overlap and are answered: the calls carry what stood in the form at each successful
submission, in order; somebody is signed in exactly when a success was processed, with the email of the call whose
success was processed last; nothing but a success that is processed changes this, and nothing takes it back; and a
session that somebody is signed in to has ended, for good. -/
theorem calls_are_snapshots (settings : SessionSettings) (operations : List Operation) :
    let session := (start settings).run operations
    let docket := (start settings).enterAll .empty operations
    session.calls.map Attempt.credentials = (start settings).submissions operations ∧
    (session.signedIn.isSome = true ↔ .accepted ∈ docket.processed.map Prod.snd) ∧
    (∀ number, lastAccepted? docket.processed = some number →
      ∃ call, session.calls[number]? = some call ∧ session.signedIn = some call.email) ∧
    (∀ operation, .accepted ∉ (session.applied operation).map Prod.snd →
      (session.operate operation).signedIn = session.signedIn) ∧
    (session.signedIn.isSome = true → session.quitting = true) ∧
    ∀ later,
      (session.signedIn.isSome = true → (session.run later).signedIn.isSome = true) ∧
      (session.quitting = true → (session.run later).quitting = true) := by
  intro session docket
  have initial : (start settings).Docketed .empty := ⟨rfl, rfl, nofun⟩
  have docketed : session.Docketed docket := initial.run operations
  refine ⟨calls_run _ operations, ?_, ?_, ?_, docketed.quitting, ?_⟩
  · have told := congrArg Option.isSome docketed.signedIn
    rw [Option.isSome_map, Option.isSome_map] at told
    rw [told, lastAccepted?_isSome_iff]
  · intro number last
    have told := docketed.signedIn
    rw [last, Option.map_some, Option.map_eq_some_iff] at told
    obtain ⟨email, signedIn, named⟩ := told
    obtain ⟨call, found, same⟩ := Option.map_eq_some_iff.mp named.symm
    exact ⟨call, found, signedIn.trans (congrArg some same.symm)⟩
  · intro operation rejected
    have none : lastAccepted? (session.applied operation) = none := by
      rw [← Option.not_isSome_iff_eq_none, lastAccepted?_isSome_iff]
      exact rejected
    rw [(ending_operate session operation).1, none]
    rfl
  · intro later
    exact ⟨fun signedIn => signedIn_run session signedIn later, fun quitting => quitting_run session quitting later⟩

/-- Two calls overlap and both succeed, the first one last; its email is signed in, although the form has held another
one since, and stays so when the form is cleared and a third call is rejected. -/
theorem calls_are_snapshots_overlapping :
    let settings : SessionSettings := ⟨some "a@b.c".toList, none, ⟨false, false⟩⟩
    let operations : List Operation := [.editing (.insertChar 'x'), .submit, .editing (.setFocus .email),
      .editing (.insertChar 'd'), .submit, .answer 1 .accepted, .answer 0 .accepted, .processQueue]
    let later : List Operation := [.submit, .editing .clearField, .answer 2 (.rejected ⟨⟨['n', 'o'], by decide⟩⟩),
      .processQueue]
    let session := (start settings).run operations
    let docket := (start settings).enterAll .empty operations
    session.calls.map Attempt.credentials =
      [⟨some "a@b.c".toList, some ['x']⟩, ⟨some "a@b.cd".toList, some ['x']⟩] ∧
    lastAccepted? docket.processed = some 0 ∧ session.signedIn = some "a@b.c".toList ∧
    .accepted ∉ (session.applied .shutdown).map Prod.snd ∧
    (session.operate .shutdown).signedIn = session.signedIn ∧
    session.signedIn.isSome = true ∧ session.quitting = true ∧
    (session.run later).signedIn.isSome = true ∧ (session.run later).quitting = true := by
  intro settings operations later session docket
  obtain ⟨snapshots, _, named, unchanged, ends, lasts⟩ := calls_are_snapshots settings operations
  have last : lastAccepted? docket.processed = some 0 := by decide
  obtain ⟨call, found, told⟩ := named 0 last
  have first : session.calls[0]? = some ⟨.first, "a@b.c".toList, ['x']⟩ := by decide
  obtain rfl := Option.some.inj (first.symm.trans found)
  have signedIn : session.signedIn = some "a@b.c".toList := told
  have isSome : session.signedIn.isSome = true := by rw [signedIn]; rfl
  have none : .accepted ∉ (session.applied .shutdown).map Prod.snd := nofun
  have quitting := ends isSome
  exact ⟨snapshots.trans (by decide), last, signedIn, none, unchanged .shutdown none, isSome, quitting,
    (lasts later).1 isSome, (lasts later).2 quitting⟩

end Session

end TerminalSignIn
