import TerminalSignIn.Proofs.Desk.Run

/-!
# The turns of a desk

A whole submission is not one change of a desk but up to two: it begins, and if an attempt is let through, that
attempt is completed later. The trace of a run is the list of its turns, each of which is one change. What a desk
owes to its past is told by the last turn that decides it, whatever stands between.
-/

namespace TerminalSignIn

namespace Desk

variable {σ : Type}

inductive Turn (σ : Type) where
  | edit (edit : Form.Edit)
  | setServerError (message : Option Text)
  | installValidators
  | begin
  | complete (id : AttemptId) (answer : Answer)
  | replaceSink (sink : σ)

def turns (desk : Desk σ) : Operation σ → List (Turn σ)
  | .edit edit => [.edit edit]
  | .setServerError message => [.setServerError message]
  | .installValidators => [.installValidators]
  | .begin => [.begin]
  | .complete id answer => [.complete id answer]
  | .signIn service => .begin :: desk.begin.1.toList.map fun attempt => .complete attempt.id (service attempt)
  | .replaceSink sink => [.replaceSink sink]

def decided {α : Type} (decides? : Turn σ → Option α) (turns : List (Turn σ)) : Option α :=
  turns.reverse.findSome? decides?

theorem decided_append {α : Type} (decides? : Turn σ → Option α) (earlier later : List (Turn σ)) :
    decided decides? (earlier ++ later) = (decided decides? later).or (decided decides? earlier) := by
  simp [decided]

theorem decided_singleton {α : Type} (decides? : Turn σ → Option α) (turn : Turn σ) :
    decided decides? [turn] = decides? turn := by
  simp [decided]

section

variable [NoticeSink σ]

def takeTurn (desk : Desk σ) : Turn σ → Desk σ
  | .edit edit => desk.edit edit
  | .setServerError message => desk.setServerError message
  | .installValidators => desk.installValidators
  | .begin => desk.begin.2
  | .complete id answer => (desk.complete id answer).2
  | .replaceSink sink => { desk with sink := sink }

def takeTurns (desk : Desk σ) (turns : List (Turn σ)) : Desk σ :=
  turns.foldl takeTurn desk

def trace (desk : Desk σ) : List (Operation σ) → List (Turn σ)
  | [] => []
  | operation :: operations => desk.turns operation ++ (desk.operate operation).trace operations

theorem takeTurns_append (desk : Desk σ) (earlier later : List (Turn σ)) :
    desk.takeTurns (earlier ++ later) = (desk.takeTurns earlier).takeTurns later :=
  List.foldl_append

theorem takeTurns_turns (desk : Desk σ) (operation : Operation σ) :
    desk.takeTurns (desk.turns operation) = desk.operate operation := by
  cases operation with
  | signIn service =>
    rw [operate, signIn_desk]
    cases passed : desk.begin.1 <;> simp [turns, takeTurns, takeTurn, passed]
  | _ => rfl

theorem takeTurns_trace (desk : Desk σ) (operations : List (Operation σ)) :
    desk.takeTurns (desk.trace operations) = desk.run operations := by
  induction operations generalizing desk with
  | nil => rfl
  | cons operation operations ih =>
    rw [trace, takeTurns_append, takeTurns_turns]
    exact ih _

theorem run_append (desk : Desk σ) (operations : List (Operation σ)) (operation : Operation σ) :
    desk.run (operations ++ [operation]) = (desk.run operations).operate operation := by
  simp [run]

theorem trace_append (desk : Desk σ) (operations : List (Operation σ)) (operation : Operation σ) :
    desk.trace (operations ++ [operation]) = desk.trace operations ++ (desk.run operations).turns operation := by
  induction operations generalizing desk with
  | nil => exact List.append_nil _
  | cons earlier operations ih =>
    rw [List.cons_append, trace, trace, ih, List.append_assoc]
    rfl

theorem attempts_append (desk : Desk σ) (operations : List (Operation σ)) (operation : Operation σ) :
    desk.attempts (operations ++ [operation]) =
      desk.attempts operations ++ ((desk.run operations).attempt? operation).toList := by
  induction operations generalizing desk with
  | nil => exact List.append_nil _
  | cons earlier operations ih =>
    rw [List.cons_append, attempts, attempts, ih, List.append_assoc]
    rfl

/-- Whatever each turn either decides or leaves as it is, the last turn that decides it has decided in the end. -/
theorem read_takeTurns {α : Type} (read : Desk σ → α) (decides? : Turn σ → Option α)
    (turned : ∀ (desk : Desk σ) (turn : Turn σ), read (desk.takeTurn turn) = (decides? turn).getD (read desk))
    (desk : Desk σ) (turns : List (Turn σ)) :
    read (desk.takeTurns turns) = (decided decides? turns).getD (read desk) := by
  induction turns generalizing desk with
  | nil => rfl
  | cons turn turns ih =>
    rw [← List.singleton_append, takeTurns_append, ih, decided_append, decided_singleton]
    rw [show desk.takeTurns [turn] = desk.takeTurn turn from rfl, turned]
    cases decided decides? turns <;> rfl

end

end Desk

end TerminalSignIn
