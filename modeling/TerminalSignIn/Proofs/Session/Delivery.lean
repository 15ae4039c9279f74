import Mathlib.Data.List.Basic
import TerminalSignIn.Proofs.Session.Run

/-!
# Answers arrive and are applied

Which calls a list of answers reaches depends on the calls and on which of them wait, and on nothing else. Among the
answers that are applied, the last success says who is signed in.
-/

namespace TerminalSignIn

def lastAccepted? {α : Type} (answers : List (α × Answer)) : Option α :=
  (answers.reverse.find? fun answered => answered.2 = .accepted).map Prod.fst

theorem lastAccepted?_append {α : Type} (earlier later : List (α × Answer)) :
    lastAccepted? (earlier ++ later) = (lastAccepted? later).or (lastAccepted? earlier) := by
  simp only [lastAccepted?, List.reverse_append, List.find?_append, Option.map_or]

theorem lastAccepted?_cons {α : Type} (first : α × Answer) (answers : List (α × Answer)) :
    lastAccepted? (first :: answers) = (lastAccepted? answers).or (lastAccepted? [first]) :=
  lastAccepted?_append [first] answers

theorem lastAccepted?_map {α β : Type} (name : α → β) (answers : List (α × Answer)) :
    lastAccepted? (answers.map (Prod.map name id)) = (lastAccepted? answers).map name := by
  simp only [lastAccepted?, ← List.map_reverse, List.find?_map, Option.map_map]
  rfl

theorem lastAccepted?_isSome_iff {α : Type} (answers : List (α × Answer)) :
    (lastAccepted? answers).isSome = true ↔ .accepted ∈ answers.map Prod.snd := by
  simp [lastAccepted?]

namespace Session

/-- The answers among these that reach a call that waits for one. -/
def received (calls : List Attempt) : List Attempt → List (Nat × Answer) → List (Attempt × Answer)
  | _, [] => []
  | waiting, (number, answer) :: answers => match calls[number]? with
    | none => received calls waiting answers
    | some attempt =>
      if attempt ∈ waiting then (attempt, answer) :: received calls (waiting.erase attempt) answers
      else received calls waiting answers

def answering (answers : List (Nat × Answer)) : List Operation :=
  answers.map fun (number, answer) => .answer number answer

def withAnswers (session : Session) (waiting : List Attempt) (queue : List (Attempt × Answer)) : Session :=
  { session with waiting := waiting, queue := queue }

/-- Answers that arrive move their calls from those that wait to the queue, and do nothing else. -/
theorem run_answering (session : Session) (answers : List (Nat × Answer)) :
    session.run (answering answers) =
      session.withAnswers (session.waiting.diff ((received session.calls session.waiting answers).map Prod.fst))
        (session.queue ++ received session.calls session.waiting answers) := by
  induction answers generalizing session with
  | nil =>
    rw [received, List.append_nil]
    rfl
  | cons first answers ih =>
    obtain ⟨number, answer⟩ := first
    rw [answering, List.map_cons, run_cons, ← answering, ih, received]
    cases found : session.calls[number]? with
    | none => simp only [operate, answerCall, found]
    | some attempt =>
      by_cases waits : attempt ∈ session.waiting
      · simp only [operate, answerCall_waiting session found waits, if_pos waits, List.map_cons, List.diff_cons,
          List.append_assoc, List.singleton_append]
        rfl
      · have lost : session.answerCall number answer = (false, session) := by
          simp [answerCall, found, Session.answer, waits]
        simp only [operate, lost, if_neg waits]

def applied (session : Session) : Operation → List (Attempt × Answer)
  | .processQueue => session.queue
  | _ => []

theorem applyAll_append (session : Session) (earlier later : List (Attempt × Answer)) :
    session.applyAll (earlier ++ later) = (session.applyAll earlier).applyAll later :=
  List.foldl_append

theorem applyAll_withAnswers (session : Session) (waiting : List Attempt) (queue : List (Attempt × Answer))
    (answers : List (Attempt × Answer)) :
    (session.withAnswers waiting queue).applyAll answers = (session.applyAll answers).withAnswers waiting queue := by
  induction answers generalizing session with
  | nil => rfl
  | cons answered answers ih =>
    obtain ⟨attempt, answer⟩ := answered
    have first : (session.withAnswers waiting queue).apply attempt answer =
        (session.apply attempt answer).withAnswers waiting queue := by
      cases answer <;> rfl
    rw [applyAll_cons, first]
    exact ih (session.apply attempt answer)

theorem processQueue_withAnswers (session : Session) (waiting : List Attempt) (queue : List (Attempt × Answer)) :
    (session.withAnswers waiting queue).processQueue = (session.applyAll queue).withAnswers waiting [] :=
  applyAll_withAnswers session waiting [] queue

theorem processQueue_answers (session : Session) :
    session.processQueue.calls = session.calls ∧ session.processQueue.waiting = session.waiting ∧
    session.processQueue.queue = [] := by
  obtain ⟨calls, waiting, queue, _⟩ := applyAll_parts { session with queue := [] } session.queue
  exact ⟨calls, waiting, queue⟩

theorem processQueue_of_empty {session : Session} (empty : session.queue = []) : session.processQueue = session := by
  rw [processQueue_eq, empty]
  show { session with queue := [] } = session
  rw [← empty]

theorem signedIn_applyAll (session : Session) (answers : List (Attempt × Answer)) :
    (session.applyAll answers).signedIn = ((lastAccepted? answers).map Attempt.email).or session.signedIn := by
  induction answers generalizing session with
  | nil => rfl
  | cons answered answers ih =>
    obtain ⟨attempt, answer⟩ := answered
    have first : (session.apply attempt answer).signedIn =
        ((lastAccepted? [(attempt, answer)]).map Attempt.email).or session.signedIn := by
      cases answer <;> rfl
    rw [applyAll_cons, ih, first, lastAccepted?_cons (attempt, answer) answers, Option.map_or, Option.or_assoc]

theorem quitting_applyAll (session : Session) (answers : List (Attempt × Answer)) :
    (session.applyAll answers).quitting = ((lastAccepted? answers).isSome || session.quitting) := by
  induction answers generalizing session with
  | nil => rfl
  | cons answered answers ih =>
    obtain ⟨attempt, answer⟩ := answered
    have first : (session.apply attempt answer).quitting =
        ((lastAccepted? [(attempt, answer)]).isSome || session.quitting) := by
      cases answer <;> rfl
    rw [applyAll_cons, ih, first, lastAccepted?_cons (attempt, answer) answers, Option.isSome_or, Bool.or_assoc]

theorem submit_eq (session : Session) :
    ∃ calls waiting lastOutcome, session.submit.2 = { session with
      desk := session.dismissNotice.desk.begin.2
      calls := calls
      waiting := waiting
      lastOutcome := lastOutcome } := by
  cases gate : session.dismissNotice.desk.begin.1 with
  | none => exact ⟨session.calls, session.waiting, some .aborted, by rw [submit_blocked session gate]⟩
  | some attempt =>
    exact ⟨session.calls ++ [attempt], session.waiting ++ [attempt], session.lastOutcome, by
      rw [submit_passed session gate]⟩

/-- A success signs in and ends the session, a request ends it, and nothing else does either. -/
theorem ending_operate (session : Session) (operation : Operation) :
    (session.operate operation).signedIn =
      ((lastAccepted? (session.applied operation)).map Attempt.email).or session.signedIn ∧
    ((session.operate operation).quitting = true ↔ session.quitting = true ∨ operation = .requestQuit ∨
      (lastAccepted? (session.applied operation)).isSome = true) := by
  cases operation with
  | editing editing =>
    obtain ⟨edits, focus, edited⟩ := performEditing_eq session editing
    rw [operate, edited]
    exact ⟨rfl, by simp [applied, lastAccepted?]⟩
  | requestQuit => exact ⟨rfl, by simp [operate, requestQuit]⟩
  | submit =>
    obtain ⟨calls, waiting, lastOutcome, submitted⟩ := submit_eq session
    rw [operate, submitted]
    exact ⟨rfl, by simp [applied, lastAccepted?]⟩
  | answer number answer =>
    rcases answerCall_eq session number answer with ⟨_, _, _, taken⟩ | lost
    · rw [operate, taken]
      exact ⟨rfl, by simp [applied, lastAccepted?]⟩
    · rw [operate, lost]
      exact ⟨rfl, by simp [applied, lastAccepted?]⟩
  | processQueue =>
    refine ⟨signedIn_applyAll { session with queue := [] } session.queue, ?_⟩
    rw [operate, processQueue_eq, quitting_applyAll, applied]
    simp [or_comm]
  | shutdown => exact ⟨rfl, by simp [operate, shutdown, applied, lastAccepted?]⟩

end Session

end TerminalSignIn
