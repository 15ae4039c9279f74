import Mathlib.Data.List.Induction
import Mathlib.Data.List.Nodup
import TerminalSignIn.Proofs.Session.Run

/-!
# Every attempt is accounted for

Attempts overlap, and what is known about them is spread over the desk, the calls that wait and the queue of
answers. A ledger is kept beside a session; the invariant `Accounted` ties all of these together, and every operation
keeps it as long as the numbers of attempts do not wrap around.
-/

namespace TerminalSignIn

namespace Session

open scoped List

/-- What is written down beside a session: the attempts handed out, the answers that reached a waiting call, and the
answers that were applied, each in the order in which it happened. -/
structure Ledger where
  submitted : List Attempt
  answered : List (Attempt × Answer)
  applied : List (Attempt × Answer)

def Ledger.empty : Ledger := ⟨[], [], []⟩

def reached? (session : Session) (number : Nat) (answer : Answer) : Option Attempt :=
  if (session.answerCall number answer).1 then session.calls[number]? else none

def book (session : Session) (ledger : Ledger) : Operation → Ledger
  | .submit => { ledger with submitted := ledger.submitted ++ session.submit.1.toList }
  | .answer number answer =>
    { ledger with answered := ledger.answered ++ (session.reached? number answer).toList.map (·, answer) }
  | .processQueue => { ledger with applied := ledger.applied ++ session.queue }
  | _ => ledger

def bookAll (session : Session) (ledger : Ledger) : List Operation → Ledger
  | [] => ledger
  | operation :: operations => (session.operate operation).bookAll (session.book ledger operation) operations

theorem bookAll_append (session : Session) (ledger : Ledger) (operations : List Operation) (operation : Operation) :
    session.bookAll ledger (operations ++ [operation]) =
      (session.run operations).book (session.bookAll ledger operations) operation := by
  induction operations generalizing session ledger with
  | nil => rfl
  | cons earlier operations ih => exact ih _ _

def outstanding (session : Session) : List Attempt :=
  session.queue.map Prod.fst ++ (session.waiting ++ session.aborted)

structure Accounted (session : Session) (ledger : Ledger) : Prop where
  submitted : session.calls = ledger.submitted
  numbers : session.calls.map Attempt.id = (List.range session.calls.length).map AttemptId.afterStarts
  next : session.desk.nextId = AttemptId.afterStarts session.calls.length
  stages : session.calls.Perm (ledger.applied.map Prod.fst ++ session.outstanding)
  order : ledger.answered = ledger.applied ++ session.queue
  inFlight : session.desk.inFlight.Perm (session.outstanding.map Attempt.id)

theorem Accounted.rising {session : Session} {ledger : Ledger} (accounted : session.Accounted ledger)
    (few : session.calls.length < AttemptId.startLimit) :
    session.calls.Pairwise fun earlier later => earlier.id.value.toNat < later.id.value.toNat := by
  have numbers := AttemptId.pairwise_afterStarts (Nat.le_of_lt few)
  rw [← accounted.numbers, List.pairwise_map] at numbers
  exact numbers.imp UInt64.lt_iff_toNat_lt.mp

theorem Accounted.nodup_ids {session : Session} {ledger : Ledger} (accounted : session.Accounted ledger)
    (few : session.calls.length < AttemptId.startLimit) : (session.calls.map Attempt.id).Nodup := by
  rw [accounted.numbers]
  exact AttemptId.nodup_of_rising (AttemptId.pairwise_afterStarts (Nat.le_of_lt few))

theorem Accounted.nodup_outstanding {session : Session} {ledger : Ledger} (accounted : session.Accounted ledger)
    (few : session.calls.length < AttemptId.startLimit) : (session.outstanding.map Attempt.id).Nodup := by
  have all := (accounted.stages.map Attempt.id).nodup_iff.mp (accounted.nodup_ids few)
  rw [List.map_append] at all
  exact all.of_append_right

theorem Accounted.next_notMem {session : Session} {ledger : Ledger} (accounted : session.Accounted ledger)
    (few : session.calls.length < AttemptId.startLimit) : session.desk.nextId ∉ session.desk.inFlight := by
  intro out
  rw [accounted.inFlight.mem_iff, accounted.next] at out
  have called : AttemptId.afterStarts session.calls.length ∈ session.calls.map Attempt.id := by
    rw [(accounted.stages.map Attempt.id).mem_iff, List.map_append]
    exact List.mem_append_right _ out
  rw [accounted.numbers, List.mem_map] at called
  obtain ⟨count, inRange, same⟩ := called
  rw [List.mem_range] at inRange
  have values := congrArg (fun id => id.value.toNat) same
  simp only [AttemptId.toNat_afterStarts few, AttemptId.toNat_afterStarts (Nat.lt_trans inRange few)] at values
  omega

theorem accounted_start (settings : SessionSettings) : (start settings).Accounted .empty where
  submitted := rfl
  numbers := rfl
  next := AttemptId.afterStarts_zero.symm
  stages := List.Perm.refl _
  order := rfl
  inFlight := List.Perm.refl _

theorem accounted_editing {session : Session} {ledger : Ledger} (accounted : session.Accounted ledger)
    (editing : Editing) : (session.performEditing editing).Accounted ledger := by
  obtain ⟨edits, focus, edited⟩ := performEditing_eq session editing
  rw [edited]
  exact ⟨accounted.submitted, accounted.numbers, accounted.next, accounted.stages, accounted.order,
    accounted.inFlight⟩

theorem outstanding_started (session : Session) (attempt : Attempt) :
    (session.outstanding ++ [attempt]).Perm
      (session.queue.map Prod.fst ++ (session.waiting ++ [attempt] ++ session.aborted)) := by
  simp only [outstanding, List.append_assoc]
  exact (List.perm_append_comm.append_left session.waiting).append_left _

theorem outstanding_answered (session : Session) {attempt : Attempt} (waits : attempt ∈ session.waiting)
    (answer : Answer) :
    session.outstanding.Perm ((session.queue ++ [(attempt, answer)]).map Prod.fst ++
      (session.waiting.erase attempt ++ session.aborted)) := by
  simp only [outstanding, List.map_append, List.map_singleton, List.append_assoc, List.singleton_append]
  exact ((List.perm_cons_erase waits).append_right session.aborted).append_left _

theorem accounted_submit {session : Session} {ledger : Ledger} (accounted : session.Accounted ledger)
    (few : session.calls.length < AttemptId.startLimit) :
    session.submit.2.Accounted (session.book ledger .submit) := by
  rw [book]
  cases passed : session.dismissNotice.desk.begin.1 with
  | none =>
    obtain ⟨inFlight, nextId⟩ := Desk.begin_blocked _ passed
    rw [submit_blocked session passed]
    refine ⟨?_, accounted.numbers, nextId.trans accounted.next, accounted.stages, accounted.order, ?_⟩
    · exact accounted.submitted.trans (List.append_nil _).symm
    · exact inFlight ▸ accounted.inFlight
  | some attempt =>
    obtain ⟨copied, nextId, inFlight⟩ := Desk.begin_passed _ passed
    have number : attempt.id = session.desk.nextId := congrArg Attempt.id copied
    have started := outstanding_started session attempt
    rw [submit_passed session passed]
    refine ⟨?_, ?_, ?_, ?_, accounted.order, ?_⟩
    · exact congrArg (· ++ [attempt]) accounted.submitted
    · simp only [List.map_append, List.map_singleton, List.length_append, List.length_singleton,
        List.range_succ, accounted.numbers, number, accounted.next]
    · rw [nextId, show session.dismissNotice.desk.nextId = session.desk.nextId from rfl, accounted.next,
        AttemptId.next_afterStarts, List.length_append, List.length_singleton]
    · refine (accounted.stages.append_right [attempt]).trans ?_
      rw [List.append_assoc]
      exact started.append_left _
    · have fresh : session.desk.nextId ∉ session.desk.inFlight := accounted.next_notMem few
      have out : session.dismissNotice.desk.begin.2.inFlight = session.desk.inFlight ++ [attempt.id] := by
        rw [inFlight, number]
        exact if_neg (mt List.contains_iff_mem.mp fresh)
      rw [out]
      refine (accounted.inFlight.append_right [attempt.id]).trans ?_
      rw [← List.map_singleton, ← List.map_append]
      exact started.map Attempt.id

theorem accounted_answer {session : Session} {ledger : Ledger} (accounted : session.Accounted ledger)
    (number : Nat) (answer : Answer) :
    (session.answerCall number answer).2.Accounted (session.book ledger (.answer number answer)) := by
  rw [book, reached?]
  rcases answerCall_eq session number answer with ⟨attempt, found, waits, taken⟩ | lost
  · have answered := outstanding_answered session waits answer
    rw [taken, found]
    refine ⟨accounted.submitted, accounted.numbers, accounted.next, ?_, ?_, ?_⟩
    · exact accounted.stages.trans (answered.append_left _)
    · exact (congrArg (· ++ [(attempt, answer)]) accounted.order).trans (List.append_assoc ..)
    · exact accounted.inFlight.trans (answered.map Attempt.id)
  · rw [lost]
    refine ⟨accounted.submitted, accounted.numbers, accounted.next, accounted.stages, ?_, accounted.inFlight⟩
    exact (List.append_nil _).trans accounted.order

theorem filter_notMem_append {α : Type} [DecidableEq α] {taken kept : List α} (nodup : (taken ++ kept).Nodup) :
    (taken ++ kept).filter (· ∉ taken) = kept := by
  have none : taken.filter (· ∉ taken) = [] := List.filter_eq_nil_iff.mpr (by simp)
  have all : kept.filter (· ∉ taken) = kept := by
    apply List.filter_eq_self.mpr
    intro item isKept
    exact decide_eq_true fun isTaken => List.disjoint_of_nodup_append nodup isTaken isKept
  rw [List.filter_append, none, all, List.nil_append]

theorem Accounted.inFlight_applyAll {session : Session} {ledger : Ledger} (accounted : session.Accounted ledger)
    (few : session.calls.length < AttemptId.startLimit) {before after : List (Attempt × Answer)}
    (split : session.queue = before ++ after) :
    (applyAll { session with queue := [] } before).desk.inFlight.Perm
      ((after.map Prod.fst ++ (session.waiting ++ session.aborted)).map Attempt.id) := by
  have parts : session.outstanding.map Attempt.id = before.map (fun answered => answered.1.id) ++
      (after.map Prod.fst ++ (session.waiting ++ session.aborted)).map Attempt.id := by
    simp only [outstanding, split, List.map_append, List.map_map, List.append_assoc]
    rfl
  have nodup := accounted.nodup_outstanding few
  have left := accounted.inFlight.filter (· ∉ before.map fun answered => answered.1.id)
  rw [parts] at nodup left
  rw [filter_notMem_append nodup] at left
  rw [(applyAll_parts _ before).2.2.2.2.2]
  exact left

theorem accounted_processQueue {session : Session} {ledger : Ledger} (accounted : session.Accounted ledger)
    (few : session.calls.length < AttemptId.startLimit) :
    session.processQueue.Accounted (session.book ledger .processQueue) := by
  obtain ⟨calls, waiting, queue, aborted, nextId, _⟩ := applyAll_parts { session with queue := [] } session.queue
  have left := accounted.inFlight_applyAll few (List.append_nil session.queue).symm
  rw [processQueue_eq, book]
  refine ⟨calls.trans accounted.submitted, ?_, ?_, ?_, ?_, ?_⟩
  · rw [calls]
    exact accounted.numbers
  · rw [calls, nextId]
    exact accounted.next
  · rw [calls, outstanding, queue, waiting, aborted, List.map_append, List.append_assoc]
    exact accounted.stages
  · rw [queue, List.append_nil]
    exact accounted.order
  · rw [outstanding, queue, waiting, aborted]
    exact left

theorem accounted_shutdown {session : Session} {ledger : Ledger} (accounted : session.Accounted ledger) :
    session.shutdown.Accounted ledger := by
  have moved : session.outstanding.Perm session.shutdown.outstanding :=
    List.perm_append_comm.append_left _
  exact ⟨accounted.submitted, accounted.numbers, accounted.next, accounted.stages.trans (moved.append_left _),
    accounted.order, accounted.inFlight.trans (moved.map Attempt.id)⟩

theorem accounted_operate {session : Session} {ledger : Ledger} (accounted : session.Accounted ledger)
    (few : session.calls.length < AttemptId.startLimit) (operation : Operation) :
    (session.operate operation).Accounted (session.book ledger operation) := by
  cases operation with
  | editing editing => exact accounted_editing accounted editing
  | requestQuit =>
    exact ⟨accounted.submitted, accounted.numbers, accounted.next, accounted.stages, accounted.order,
      accounted.inFlight⟩
  | submit => exact accounted_submit accounted few
  | answer number answer => exact accounted_answer accounted number answer
  | processQueue => exact accounted_processQueue accounted few
  | shutdown => exact accounted_shutdown accounted

theorem accounted_run (settings : SessionSettings) (operations : List Operation)
    (few : ((start settings).run operations).calls.length < AttemptId.startLimit) :
    ((start settings).run operations).Accounted ((start settings).bookAll .empty operations) := by
  induction operations using List.reverseRecOn with
  | nil => exact accounted_start settings
  | append_singleton operations operation ih =>
    rw [run_append] at few ⊢
    rw [bookAll_append]
    rw [calls_operate, List.length_append] at few
    have fewBefore := Nat.lt_of_le_of_lt (Nat.le_add_right _ _) few
    exact accounted_operate (ih fewBefore) fewBefore operation

/-- In every run, as long as the numbers of attempts do not wrap around: the attempts handed out are the calls, and
their numbers rise; each is in exactly one stage, waiting, queued, applied or aborted; what was answered is what was
applied, in that order, and then what is queued; every answer that is applied finds its attempt out; and what is out
is what waits, is queued or was aborted. -/
theorem attempts_accounted (settings : SessionSettings) (operations : List Operation)
    (few : ((start settings).run operations).calls.length < AttemptId.startLimit) :
    let session := (start settings).run operations
    let ledger := (start settings).bookAll .empty operations
    let stages := session.waiting ++ session.queue.map Prod.fst ++ ledger.applied.map Prod.fst ++ session.aborted
    session.calls = ledger.submitted ∧
    session.calls.Pairwise (fun earlier later => earlier.id.value.toNat < later.id.value.toNat) ∧
    (session.calls.Perm stages ∧ stages.Nodup) ∧
    ledger.answered = ledger.applied ++ session.queue ∧
    (∀ before attempt answer after, session.queue = before ++ (attempt, answer) :: after →
      attempt.id ∈ (applyAll { session with queue := [] } before).desk.inFlight) ∧
    session.inFlight = session.waiting.length + session.queue.length + session.aborted.length := by
  intro session ledger stages
  have accounted : session.Accounted ledger := accounted_run settings operations few
  have arranged : session.calls.Perm stages := by
    refine accounted.stages.trans ?_
    simp only [stages, outstanding, List.append_assoc]
    calc
      _ ~ session.queue.map Prod.fst ++ (ledger.applied.map Prod.fst ++ (session.waiting ++ session.aborted)) :=
        List.perm_append_comm_assoc _ _ _
      _ ~ session.queue.map Prod.fst ++ (session.waiting ++ (ledger.applied.map Prod.fst ++ session.aborted)) :=
        (List.perm_append_comm_assoc _ _ _).append_left _
      _ ~ _ := List.perm_append_comm_assoc _ _ _
  have apart : session.calls.Nodup := (accounted.nodup_ids few).of_map
  refine ⟨accounted.submitted, accounted.rising few, ⟨arranged, arranged.nodup_iff.mp apart⟩, accounted.order,
    ?_, ?_⟩
  · intro before attempt answer after split
    rw [(accounted.inFlight_applyAll few split).mem_iff]
    simp
  · have count := accounted.inFlight.length_eq
    simp only [outstanding, List.length_map, List.length_append] at count
    rw [inFlight, count]
    omega

/-- Of three attempts the second was applied, the first is queued, and the third was aborted. -/
theorem attempts_accounted_overlapping :
    let settings : SessionSettings := ⟨some "a@b.c".toList, none, ⟨false, false⟩⟩
    let operations : List Operation := [.editing (.insertChar 'x'), .submit, .submit, .submit, .answer 1 .accepted,
      .processQueue, .answer 0 .accepted, .shutdown]
    let session := (start settings).run operations
    let attempt : Attempt := ⟨.first, "a@b.c".toList, ['x']⟩
    session.calls.length < AttemptId.startLimit ∧ session.queue = [] ++ (attempt, .accepted) :: [] ∧
    attempt.id ∈ (applyAll { session with queue := [] } []).desk.inFlight ∧
    session.inFlight = session.waiting.length + session.queue.length + session.aborted.length ∧
    session.inFlight = 2 := by
  intro settings operations session attempt
  have few : session.calls.length < AttemptId.startLimit := by decide
  have queued : session.queue = [] ++ (attempt, .accepted) :: [] := by decide
  obtain ⟨_, _, _, _, found, count⟩ := attempts_accounted settings operations few
  exact ⟨few, queued, found [] attempt .accepted [] queued, count, by decide⟩

end Session

end TerminalSignIn
