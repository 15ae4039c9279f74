import Mathlib.Algebra.Group.Nat.Defs
import TerminalSignIn.Desk
import TerminalSignIn.Proofs.Form.Fresh

/-!
# Runs of a desk

What can be done with a desk, in any order, and what each operation does to the parts of it. The form of a desk changes
by edits alone, so the checks on it are never stale. The attempts of a desk are numbered in the order of their start. As
long as the numbers do not wrap around they rise, and the greatest of those that are out is then the one that was
started last.
-/

namespace TerminalSignIn

def Answer.resting : Answer → Phase
  | .accepted => .idle
  | .rejected _ => .rejected

def Phase.among (inFlight : List AttemptId) (resting : Phase) : Phase :=
  match AttemptId.greatest? inFlight with
  | some id => .authenticating id
  | none => resting

namespace Desk

variable {σ : Type}

inductive Operation (σ : Type) where
  | edit (edit : Form.Edit)
  | setServerError (message : Option Text)
  | installValidators
  | begin
  | complete (id : AttemptId) (answer : Answer)
  | signIn (service : Attempt → Answer)
  /-- The owner of the desk does something with the sink. -/
  | replaceSink (sink : σ)

def operate [NoticeSink σ] (desk : Desk σ) : Operation σ → Desk σ
  | .edit edit => desk.edit edit
  | .setServerError message => desk.setServerError message
  | .installValidators => desk.installValidators
  | .begin => desk.begin.2
  | .complete id answer => (desk.complete id answer).2
  | .signIn service => (desk.signIn service).desk
  | .replaceSink sink => { desk with sink := sink }

def run [NoticeSink σ] (desk : Desk σ) (operations : List (Operation σ)) : Desk σ :=
  operations.foldl operate desk

def attempt? [NoticeSink σ] (desk : Desk σ) : Operation σ → Option Attempt
  | .begin => desk.begin.1
  | .signIn service => (desk.signIn service).call
  | _ => none

def attempts [NoticeSink σ] (desk : Desk σ) : List (Operation σ) → List Attempt
  | [] => []
  | operation :: operations => (desk.attempt? operation).toList ++ (desk.operate operation).attempts operations

def examination : List Form.Edit := [.checkAll, .serverError none]

def nextAttempt (desk : Desk σ) : Attempt :=
  ⟨desk.nextId, desk.form.credentials.email.getD [], desk.form.credentials.password.getD []⟩

@[simp] theorem credentials_updates_examination (form : Form) :
    (form.updates examination).credentials = form.credentials := by
  simp [Form.updates, examination, Form.update, Field.all]

@[simp] theorem serverError_updates_examination (form : Form) :
    (form.updates examination).serverError = none := by
  simp [Form.updates, examination, Form.update]

theorem touched_updates_examination (form : Form) (field : Field) :
    ((form.updates examination).field field).touched = true := by
  cases field <;> rfl

theorem fresh_updates_examination (form : Form) : (form.updates examination).Fresh :=
  Form.fresh_validateAll _

/-- A submission leaves the examined form behind. If that can be submitted, an attempt with a copy of what was
typed is out from then on; otherwise nothing but the form and the phase has changed. -/
theorem begin_eq (desk : Desk σ) :
    desk.begin =
      if (desk.form.updates examination).canSubmit then
        (some desk.nextAttempt, { desk with
          form := desk.form.updates examination
          phase := .authenticating desk.nextId
          nextId := desk.nextId.next
          inFlight := if desk.inFlight.contains desk.nextId then desk.inFlight
            else desk.inFlight ++ [desk.nextId] })
      else (none, { desk with form := desk.form.updates examination }.settle .idle) := rfl

theorem begin_attempt (desk : Desk σ) :
    desk.begin.1 = if (desk.form.updates examination).canSubmit then some desk.nextAttempt else none := by
  rw [begin_eq]
  split <;> rfl

theorem begin_form (desk : Desk σ) : desk.begin.2.form = desk.form.updates examination := by
  rw [begin_eq]
  split <;> rfl

theorem begin_message (desk : Desk σ) : desk.begin.2.form.serverError = none := by
  rw [begin_form, serverError_updates_examination]

theorem begin_sink (desk : Desk σ) : desk.begin.2.sink = desk.sink := by
  rw [begin_eq]
  split <;> rfl

theorem begin_blocked_eq (desk : Desk σ) (blocked : desk.begin.1 = none) :
    desk.begin.2 = { desk with form := desk.form.updates examination }.settle .idle := by
  rw [begin_eq] at blocked ⊢
  split at blocked
  · contradiction
  next stays => rw [if_neg stays]

theorem begin_passed_eq (desk : Desk σ) {attempt : Attempt} (passed : desk.begin.1 = some attempt) :
    attempt = desk.nextAttempt ∧ desk.begin.2 = { desk with
      form := desk.form.updates examination
      phase := .authenticating desk.nextId
      nextId := desk.nextId.next
      inFlight := if desk.inFlight.contains desk.nextId then desk.inFlight
        else desk.inFlight ++ [desk.nextId] } := by
  rw [begin_eq] at passed ⊢
  split at passed
  next passes =>
    rw [if_pos passes]
    exact ⟨(Option.some.inj passed).symm, rfl⟩
  · contradiction

theorem begin_blocked (desk : Desk σ) (blocked : desk.begin.1 = none) :
    desk.begin.2.inFlight = desk.inFlight ∧ desk.begin.2.nextId = desk.nextId := by
  rw [begin_blocked_eq desk blocked]
  exact ⟨rfl, rfl⟩

theorem begin_passed (desk : Desk σ) {attempt : Attempt} (passed : desk.begin.1 = some attempt) :
    attempt = desk.nextAttempt ∧ desk.begin.2.nextId = desk.nextId.next ∧
      desk.begin.2.inFlight =
        if desk.inFlight.contains desk.nextId then desk.inFlight else desk.inFlight ++ [desk.nextId] := by
  obtain ⟨copied, begun⟩ := begin_passed_eq desk passed
  rw [begun]
  exact ⟨copied, rfl, rfl⟩

theorem begin_phase_blocked (desk : Desk σ) (blocked : desk.begin.1 = none) :
    desk.begin.2.phase = Phase.among desk.inFlight .idle := by
  rw [begin_blocked_eq desk blocked]
  rfl

theorem begin_phase_passed (desk : Desk σ) {attempt : Attempt} (passed : desk.begin.1 = some attempt) :
    desk.begin.2.phase = .authenticating attempt.id := by
  obtain ⟨copied, begun⟩ := begin_passed_eq desk passed
  rw [begun, copied]
  rfl

section

variable [NoticeSink σ]

theorem complete_inFlight (desk : Desk σ) (id : AttemptId) (answer : Answer) :
    (desk.complete id answer).2.inFlight = desk.inFlight.filter (· ≠ id) := by
  cases answer <;> rfl

theorem complete_nextId (desk : Desk σ) (id : AttemptId) (answer : Answer) :
    (desk.complete id answer).2.nextId = desk.nextId := by
  cases answer <;> rfl

theorem complete_phase (desk : Desk σ) (id : AttemptId) (answer : Answer) :
    (desk.complete id answer).2.phase = Phase.among (desk.inFlight.filter (· ≠ id)) answer.resting := by
  cases answer <;> rfl

theorem signIn_call (desk : Desk σ) (service : Attempt → Answer) : (desk.signIn service).call = desk.begin.1 := by
  unfold signIn
  split <;> simp_all

theorem signIn_desk (desk : Desk σ) (service : Attempt → Answer) :
    (desk.signIn service).desk = match desk.begin.1 with
      | none => desk.begin.2
      | some attempt => (desk.begin.2.complete attempt.id (service attempt)).2 := by
  unfold signIn
  split <;> simp_all

theorem signIn_blocked (desk : Desk σ) (blocked : desk.begin.1 = none) (service : Attempt → Answer) :
    desk.signIn service = ⟨.aborted, none, desk.begin.2⟩ := by
  rw [signIn, show desk.begin = (none, desk.begin.2) from Prod.ext blocked rfl]

theorem signIn_passed (desk : Desk σ) {attempt : Attempt} (passed : desk.begin.1 = some attempt)
    (service : Attempt → Answer) :
    desk.signIn service = ⟨(desk.begin.2.complete attempt.id (service attempt)).1, some attempt,
      (desk.begin.2.complete attempt.id (service attempt)).2⟩ := by
  rw [signIn, show desk.begin = (some attempt, desk.begin.2) from Prod.ext passed rfl]

theorem form_operate (desk : Desk σ) (operation : Operation σ) :
    ∃ edits, (desk.operate operation).form = desk.form.updates edits := by
  have completed : ∀ (desk : Desk σ) (id : AttemptId) (answer : Answer),
      ∃ edits, (desk.complete id answer).2.form = desk.form.updates edits := by
    intro desk id answer
    cases answer with
    | accepted => exact ⟨[], rfl⟩
    | rejected rejection => exact ⟨[.serverError (NonBlank.ofOption? rejection.displayed.text)], rfl⟩
  cases operation with
  | edit edit => exact ⟨[edit], rfl⟩
  | setServerError message => exact ⟨[.serverError (NonBlank.ofOption? message)], rfl⟩
  | installValidators => exact ⟨[.serverError desk.form.serverError], rfl⟩
  | begin => exact ⟨examination, begin_form desk⟩
  | complete id answer => exact completed desk id answer
  | signIn service =>
    simp only [operate, signIn_desk]
    cases desk.begin.1 with
    | none => exact ⟨examination, begin_form desk⟩
    | some attempt =>
      obtain ⟨edits, after⟩ := completed desk.begin.2 attempt.id (service attempt)
      refine ⟨examination ++ edits, ?_⟩
      rw [after, begin_form]
      simp [Form.updates]
  | replaceSink sink => exact ⟨[], rfl⟩

omit [NoticeSink σ] in
theorem fresh_withForm (form : Form) (title : Option Text) (sink : σ) : (withForm form title sink).form.Fresh :=
  Form.fresh_validateAll _

theorem fresh_run {desk : Desk σ} (fresh : desk.form.Fresh) (operations : List (Operation σ)) :
    (desk.run operations).form.Fresh := by
  induction operations generalizing desk with
  | nil => exact fresh
  | cons operation operations ih =>
    obtain ⟨edits, after⟩ := form_operate desk operation
    exact ih (after ▸ Form.fresh_updates fresh edits)

end

end Desk

/-! ### The numbers of attempts -/

namespace AttemptId

def afterStarts (count : Nat) : AttemptId := ⟨UInt64.ofNat (count + 1)⟩

def startLimit : Nat := 2 ^ 64 - 1

theorem afterStarts_zero : afterStarts 0 = first := rfl

theorem next_afterStarts (count : Nat) : (afterStarts count).next = afterStarts (count + 1) := by
  simp only [next, afterStarts]
  rw [UInt64.ofNat_add (count + 1) 1]
  rfl

theorem toNat_afterStarts {count : Nat} (few : count < startLimit) :
    (afterStarts count).value.toNat = count + 1 := by
  rw [startLimit] at few
  rw [afterStarts, UInt64.toNat_ofNat', Nat.mod_eq_of_lt (by omega)]

theorem afterStarts_lt {earlier later : Nat} (rises : earlier < later) (few : later < startLimit) :
    (afterStarts earlier).value < (afterStarts later).value := by
  rw [UInt64.lt_iff_toNat_lt, toNat_afterStarts (Nat.lt_trans rises few), toNat_afterStarts few]
  exact Nat.succ_lt_succ rises

theorem pairwise_afterStarts {count : Nat} (few : count ≤ startLimit) :
    ((List.range count).map afterStarts).Pairwise fun earlier later => earlier.value < later.value := by
  rw [List.pairwise_map]
  apply List.pairwise_lt_range.imp_of_mem
  intro earlier later _ laterMem rises
  rw [List.mem_range] at laterMem
  exact afterStarts_lt rises (Nat.lt_of_lt_of_le laterMem few)

theorem nodup_of_rising {ids : List AttemptId}
    (rising : ids.Pairwise fun earlier later => earlier.value < later.value) : ids.Nodup := by
  apply rising.imp
  intro earlier later rises same
  exact UInt64.lt_irrefl _ (same ▸ rises)

theorem greatest?_of_rising {ids : List AttemptId}
    (rising : ids.Pairwise fun earlier later => earlier.value < later.value) : greatest? ids = ids.getLast? := by
  induction ids with
  | nil => rfl
  | cons id others ih =>
    rw [List.pairwise_cons] at rising
    rw [greatest?, ih rising.2]
    cases found : others.getLast? with
    | none => simp_all
    | some last =>
      have greater : last.exceeds id = true := decide_eq_true (rising.1 last (List.mem_of_getLast? found))
      simp [greater, List.getLast?_cons, found]

theorem le_last_of_rising {ids : List AttemptId} {last : AttemptId}
    (rising : ids.Pairwise fun earlier later => earlier.value < later.value) (isLast : ids.getLast? = some last) :
    ∀ id ∈ ids, id.value ≤ last.value := by
  obtain ⟨earlier, rfl⟩ := List.getLast?_eq_some_iff.mp isLast
  rw [List.pairwise_append] at rising
  intro id member
  rcases List.mem_append.mp member with before | same
  · exact UInt64.le_of_lt (rising.2.2 id before last (List.mem_singleton_self last))
  · rw [List.mem_singleton.mp same]
    exact UInt64.le_refl _

end AttemptId

end TerminalSignIn
