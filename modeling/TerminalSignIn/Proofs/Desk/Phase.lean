import Mathlib.Data.List.Induction
import Mathlib.Data.List.Nodup
import TerminalSignIn.Proofs.Desk.Trace

/-!
# The phase of a desk

The phase is written in several places, while the attempts that are out come and go in any order. In every state
that a desk comes to it names the attempt that was started last among those that are out, and once none is out it
tells how the last submission or completion ended.
-/

namespace TerminalSignIn

theorem Phase.among_of_rising {inFlight : List AttemptId} (resting : Phase)
    (rising : inFlight.Pairwise fun earlier later => earlier.value < later.value) :
    Phase.among inFlight resting = match inFlight.getLast? with
      | some id => .authenticating id
      | none => resting := by
  have greatest := AttemptId.greatest?_of_rising rising
  cases last : inFlight.getLast? <;> simp only [among, greatest, last]

namespace Desk

variable {σ : Type}

def Turn.resting? : Turn σ → Option Phase
  | .begin => some .idle
  | .complete _ answer => some answer.resting
  | _ => none

structure Standing (desk : Desk σ) (started : List AttemptId) (resting : Phase) : Prop where
  numbers : started = (List.range started.length).map AttemptId.afterStarts
  next : desk.nextId = AttemptId.afterStarts started.length
  out : desk.inFlight.Sublist started
  phase : desk.phase = Phase.among desk.inFlight resting
  settled : resting ≠ .validating

def startedIds (attempt? : Option Attempt) : List AttemptId :=
  attempt?.toList.map Attempt.id

namespace Standing

variable {desk : Desk σ} {started : List AttemptId} {resting : Phase}

theorem rising (standing : desk.Standing started resting) (few : started.length ≤ AttemptId.startLimit) :
    started.Pairwise fun earlier later => earlier.value < later.value := by
  rw [standing.numbers]
  exact AttemptId.pairwise_afterStarts (by simpa using few)

theorem lt_next (standing : desk.Standing started resting) (few : started.length < AttemptId.startLimit) :
    ∀ id ∈ desk.inFlight, id.value < desk.nextId.value := by
  intro id isOut
  have begun := standing.out.subset isOut
  rw [standing.numbers, List.mem_map] at begun
  obtain ⟨count, inRange, rfl⟩ := begun
  rw [standing.next]
  exact AttemptId.afterStarts_lt (List.mem_range.mp inRange) few

theorem next_notMem (standing : desk.Standing started resting) (few : started.length < AttemptId.startLimit) :
    desk.nextId ∉ desk.inFlight := by
  intro isOut
  exact UInt64.lt_irrefl _ (standing.lt_next few _ isOut)

theorem quiet {other : Desk σ} (standing : desk.Standing started resting) (nextId : other.nextId = desk.nextId)
    (inFlight : other.inFlight = desk.inFlight) (phase : other.phase = desk.phase) :
    other.Standing started resting where
  numbers := standing.numbers
  next := nextId.trans standing.next
  out := inFlight ▸ standing.out
  phase := by rw [phase, inFlight, standing.phase]
  settled := standing.settled

theorem blocked (standing : desk.Standing started resting) (blocked : desk.begin.1 = none) :
    desk.begin.2.Standing started .idle := by
  obtain ⟨inFlight, nextId⟩ := begin_blocked desk blocked
  refine ⟨standing.numbers, nextId.trans standing.next, inFlight ▸ standing.out, ?_, by decide⟩
  rw [begin_phase_blocked desk blocked, inFlight]

/-- The attempt that a submission lets through is the greatest of those that are out from then on. -/
theorem passed {attempt : Attempt} (standing : desk.Standing started resting) (passed : desk.begin.1 = some attempt)
    (few : (started ++ [attempt.id]).length < AttemptId.startLimit) :
    desk.begin.2.Standing (started ++ [attempt.id]) .idle := by
  obtain ⟨copied, nextId, inFlight⟩ := begin_passed desk passed
  have number : attempt.id = AttemptId.afterStarts started.length :=
    (congrArg Attempt.id copied).trans standing.next
  have fewBefore : started.length < AttemptId.startLimit := by
    rw [List.length_append, List.length_singleton] at few
    omega
  -- Every number that is out is smaller than the new one, so the new one is not out yet.
  have out : desk.begin.2.inFlight = desk.inFlight ++ [attempt.id] := by
    rw [inFlight, copied]
    exact if_neg (mt List.contains_iff_mem.mp (standing.next_notMem fewBefore))
  have numbers : started ++ [attempt.id] =
      (List.range (started ++ [attempt.id]).length).map AttemptId.afterStarts := by
    rw [List.length_append, List.length_singleton, List.range_succ, List.map_append, ← standing.numbers, number]
    rfl
  have sublist : desk.begin.2.inFlight.Sublist (started ++ [attempt.id]) := out ▸ standing.out.append_right _
  refine ⟨numbers, ?_, sublist, ?_, by decide⟩
  · rw [nextId, standing.next, AttemptId.next_afterStarts, List.length_append, List.length_singleton]
  · have rising : (started ++ [attempt.id]).Pairwise fun earlier later => earlier.value < later.value := by
      rw [numbers]
      exact AttemptId.pairwise_afterStarts (Nat.le_of_lt few)
    rw [begin_phase_passed desk passed, Phase.among_of_rising _ (rising.sublist sublist), out]
    simp

theorem begin (standing : desk.Standing started resting)
    (few : (started ++ startedIds desk.begin.1).length < AttemptId.startLimit) :
    desk.begin.2.Standing (started ++ startedIds desk.begin.1) .idle := by
  cases gate : desk.begin.1 with
  | none =>
    rw [startedIds, Option.toList_none, List.map_nil, List.append_nil]
    exact standing.blocked gate
  | some attempt =>
    rw [gate] at few
    exact standing.passed gate few

theorem complete [NoticeSink σ] (standing : desk.Standing started resting) (id : AttemptId) (answer : Answer) :
    (desk.complete id answer).2.Standing started answer.resting where
  numbers := standing.numbers
  next := (complete_nextId desk id answer).trans standing.next
  out := by
    rw [complete_inFlight]
    exact List.filter_sublist.trans standing.out
  phase := by rw [complete_phase, complete_inFlight]
  settled := by cases answer <;> exact nofun

theorem operate [NoticeSink σ] (standing : desk.Standing started resting) (operation : Operation σ)
    (few : (started ++ startedIds (desk.attempt? operation)).length < AttemptId.startLimit) :
    (desk.operate operation).Standing (started ++ startedIds (desk.attempt? operation))
      ((decided Turn.resting? (desk.turns operation)).getD resting) := by
  have unstarted : started = started ++ startedIds none := (List.append_nil started).symm
  cases operation with
  | edit edit => exact unstarted ▸ standing.quiet rfl rfl rfl
  | setServerError message => exact unstarted ▸ standing.quiet rfl rfl rfl
  | installValidators => exact unstarted ▸ standing.quiet rfl rfl rfl
  | begin => exact standing.begin few
  | complete id answer => exact unstarted ▸ standing.complete id answer
  | signIn service =>
    rw [attempt?, signIn_call] at few ⊢
    have begun := standing.begin few
    rw [Desk.operate, signIn_desk, turns]
    cases gate : desk.begin.1 with
    | none =>
      rw [gate] at begun
      exact begun
    | some attempt =>
      rw [gate] at begun
      exact begun.complete attempt.id (service attempt)
  | replaceSink sink => exact unstarted ▸ standing.quiet rfl rfl rfl

end Standing

theorem standing_withForm (form : Form) (title : Option Text) (sink : σ) :
    (withForm form title sink).Standing [] .idle where
  numbers := rfl
  next := AttemptId.afterStarts_zero.symm
  out := List.Sublist.refl []
  phase := rfl
  settled := by decide

theorem standing_run [NoticeSink σ] (form : Form) (title : Option Text) (sink : σ) (operations : List (Operation σ))
    (few : ((withForm form title sink).attempts operations).length < AttemptId.startLimit) :
    ((withForm form title sink).run operations).Standing
      (((withForm form title sink).attempts operations).map Attempt.id)
      ((decided Turn.resting? ((withForm form title sink).trace operations)).getD .idle) := by
  induction operations using List.reverseRecOn with
  | nil => exact standing_withForm form title sink
  | append_singleton operations operation ih =>
    -- The last operation acts on the desk that the others lead to, which has started no more attempts.
    rw [attempts_append] at few ⊢
    rw [run_append, trace_append, decided_append, List.map_append, Option.getD_or]
    have fewBefore : ((withForm form title sink).attempts operations).length < AttemptId.startLimit := by
      rw [List.length_append] at few
      omega
    exact (ih fewBefore).operate operation (by simpa [startedIds] using few)

theorem filter_mem_of_sublist {α : Type} [DecidableEq α] {kept all : List α} (sublist : kept.Sublist all)
    (nodup : all.Nodup) : all.filter (· ∈ kept) = kept := by
  induction sublist with
  | slnil => rfl
  | cons item sublist ih =>
    rw [List.nodup_cons] at nodup
    rw [List.filter_cons_of_neg (by simpa using mt (sublist.subset ·) nodup.1)]
    exact ih nodup.2
  | @cons_cons kept all item sublist ih =>
    rw [List.nodup_cons] at nodup
    have others : all.filter (· ∈ item :: kept) = all.filter (· ∈ kept) := by
      apply List.filter_congr
      intro other member
      have different : other ≠ item := fun same => nodup.1 (same ▸ member)
      simp [different]
    rw [List.filter_cons_of_pos (by simp), others, ih nodup.2]

/-- In every run of a desk, as long as the numbers of attempts do not wrap around: the numbers that are out are
smaller than the next one, and stand in the order in which their attempts were started; with attempts out the phase
names the one that was started last, which has the greatest number; with none out the phase tells whether the last
submission or completion was a rejection; and it is never the phase of a validation. -/
theorem phase_of_run [NoticeSink σ] (form : Form) (title : Option Text) (sink : σ) (operations : List (Operation σ))
    (few : ((withForm form title sink).attempts operations).length < AttemptId.startLimit) :
    let start := withForm form title sink
    let desk := start.run operations
    let started := (start.attempts operations).map Attempt.id
    (∀ id ∈ desk.inFlight, id.value < desk.nextId.value) ∧
    started.filter (· ∈ desk.inFlight) = desk.inFlight ∧
    (desk.inFlight ≠ [] → ∃ id, desk.inFlight.getLast? = some id ∧ desk.phase = .authenticating id ∧
      ∀ other ∈ desk.inFlight, other.value ≤ id.value) ∧
    (desk.inFlight = [] → desk.phase = (decided Turn.resting? (start.trace operations)).getD .idle) ∧
    desk.phase ≠ .validating := by
  intro start desk started
  have stands : desk.Standing started _ := standing_run form title sink operations few
  have fewStarted : started.length < AttemptId.startLimit := by simpa [started] using few
  have rising := stands.rising (Nat.le_of_lt fewStarted)
  have nodup := AttemptId.nodup_of_rising rising
  have phase := stands.phase
  have risingOut := rising.sublist stands.out
  rw [Phase.among_of_rising _ risingOut] at phase
  refine ⟨stands.lt_next fewStarted, filter_mem_of_sublist stands.out nodup, ?_, ?_, ?_⟩
  · intro filled
    have last := List.getLast?_eq_some_getLast filled
    rw [last] at phase
    exact ⟨_, last, phase, AttemptId.le_last_of_rising risingOut last⟩
  · intro idle
    simpa [idle] using phase
  · rw [phase]
    cases desk.inFlight.getLast? with
    | none => exact stands.settled
    | some id => exact nofun

/-- Three attempts overlap. When the last of them is accepted and an emptied form blocks a submission, the phase names
the second; when the others are answered too, the rejection of an attempt that nobody knows has the last word. -/
theorem phase_of_run_overlapping :
    let form := Form.ofCredentials ⟨some "a@b.c".toList, some ['x']⟩
    let start := withForm form none NoticeBoard.empty
    let operations : List (Operation NoticeBoard) :=
      [.begin, .begin, .begin, .complete ⟨3⟩ .accepted, .edit .reset, .begin]
    let desk := start.run operations
    let more : List (Operation NoticeBoard) := operations ++
      [.complete ⟨2⟩ .accepted, .complete ⟨1⟩ .accepted, .complete ⟨9⟩ (.rejected ⟨⟨['n', 'o'], by decide⟩⟩)]
    (start.attempts operations).length < AttemptId.startLimit ∧ ⟨2⟩ ∈ desk.inFlight ∧ desk.inFlight ≠ [] ∧
    (⟨2⟩ : AttemptId).value < desk.nextId.value ∧ desk.phase = .authenticating ⟨2⟩ ∧
    (start.attempts more).length < AttemptId.startLimit ∧ (start.run more).inFlight = [] ∧
    (start.run more).phase = .rejected := by
  intro form start operations desk more
  have few : (start.attempts operations).length < AttemptId.startLimit := by decide
  have fewMore : (start.attempts more).length < AttemptId.startLimit := by decide
  have isOut : ⟨2⟩ ∈ desk.inFlight := by decide
  have filled : desk.inFlight ≠ [] := List.ne_nil_of_mem isOut
  have noneOut : (start.run more).inFlight = [] := by decide
  obtain ⟨below, _, named, _, _⟩ := phase_of_run form none NoticeBoard.empty operations few
  obtain ⟨_, _, _, rests, _⟩ := phase_of_run form none NoticeBoard.empty more fewMore
  obtain ⟨id, last, phase, _⟩ := named filled
  have second : desk.inFlight.getLast? = some ⟨2⟩ := by decide
  have same : id = ⟨2⟩ := Option.some.inj (last.symm.trans second)
  have smaller : (⟨2⟩ : AttemptId).value < desk.nextId.value := by
    unfold desk start
    exact below ⟨2⟩ isOut
  have rejected : (decided Turn.resting? (start.trace more)).getD .idle = .rejected := by decide
  exact ⟨few, isOut, filled, smaller, same ▸ phase, fewMore, noneOut, (rests noneOut).trans rejected⟩

end Desk

end TerminalSignIn
