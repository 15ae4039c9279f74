import TerminalSignIn.Proofs.Desk.Run

/-!
# The gate before the service

A form counts as one that can be submitted as soon as the service has left a message on it, whatever else is wrong
with it. The gate is exact all the same, since a submission takes the message away before it looks at the form.
-/

namespace TerminalSignIn

def Submittable (email password : Text) : Prop :=
  email ≠ [] ∧ Email.isAddress email = true ∧ password ≠ []

instance (email password : Text) : Decidable (Submittable email password) := by
  unfold Submittable
  infer_instance

def Credentials.Submittable (credentials : Credentials) : Prop :=
  TerminalSignIn.Submittable (credentials.email.getD []) (credentials.password.getD [])

instance (credentials : Credentials) : Decidable credentials.Submittable := by
  unfold Credentials.Submittable
  infer_instance

namespace Validator

theorem required_passes (input : FieldInput) : required.passes input = true ↔ input.value.getD [] ≠ [] := by
  rcases input with ⟨_ | value, message⟩ <;> simp [required]

theorem email_passes (input : FieldInput) :
    email.passes input = true ↔ input.value.getD [] = [] ∨ Email.isAddress (input.value.getD []) = true := by
  rcases input with ⟨_ | value, message⟩ <;> simp [email]

theorem server_passes (input : FieldInput) : server.passes input = true ↔ input.serverError = none := by
  simp [server]

end Validator

namespace Form

theorem failing_eq_nil_iff (field : Field) (input : FieldInput) :
    field.failing input = [] ↔ ∀ validator ∈ field.validators, validator.passes input = true := by
  simp [Field.failing, List.filter_eq_nil_iff]

theorem server_mem_failing_iff (field : Field) (input : FieldInput) :
    Check.server ∈ field.failing input ↔ input.serverError ≠ none := by
  rw [Field.mem_failing, ne_eq, ← Validator.server_passes, Bool.not_eq_true]
  cases field <;> simp [Field.validators, Validator.required, Validator.email, Validator.server]

theorem fails_server_iff {form : Form} (fresh : form.Fresh) : form.fails .server = true ↔ form.serverError ≠ none := by
  simp only [fails, Field.all, List.any_cons, List.any_nil, Bool.or_false, Bool.or_eq_true, FieldState.fails,
    List.contains_iff_mem]
  rw [fresh .email, fresh .password, server_mem_failing_iff, server_mem_failing_iff]
  exact or_self_iff

theorem isInvalid_eq_false_iff {form : Form} (fresh : form.Fresh) (clear : form.serverError = none) :
    form.isInvalid = false ↔ form.credentials.Submittable := by
  have emailPasses : (form.field .email).failing = [] ↔
      form.credentials.email.getD [] ≠ [] ∧ Email.isAddress (form.credentials.email.getD []) = true := by
    rw [fresh .email, failing_eq_nil_iff]
    simp only [Field.validators, List.forall_mem_cons, Validator.required_passes, Validator.email_passes,
      Validator.server_passes, input, Credentials.value, clear]
    simp only [ne_eq, List.not_mem_nil, false_imp_iff, implies_true, and_true]
    exact and_congr_right fun filled => or_iff_right filled
  have passwordPasses : (form.field .password).failing = [] ↔ form.credentials.password.getD [] ≠ [] := by
    rw [fresh .password, failing_eq_nil_iff]
    simp [Field.validators, Validator.required_passes, Validator.server_passes, input, Credentials.value, clear]
  simp only [isInvalid, Field.all, List.any_cons, List.any_nil, Bool.or_false, Bool.or_eq_false_iff,
    FieldState.isInvalid, Bool.not_eq_false', List.isEmpty_iff, emailPasses, passwordPasses]
  simp only [Credentials.Submittable, Submittable, and_assoc]

theorem canSubmit_iff {form : Form} (fresh : form.Fresh) :
    form.canSubmit = true ↔ form.serverError ≠ none ∨ form.credentials.Submittable := by
  by_cases clear : form.serverError = none
  · simp [canSubmit, isInvalid_eq_false_iff fresh clear, fails_server_iff fresh, clear]
  · simp [canSubmit, fails_server_iff fresh, clear]

end Form

namespace Desk

variable {σ : Type}

theorem canSubmit_examined_iff (form : Form) :
    (form.updates examination).canSubmit = true ↔ form.credentials.Submittable := by
  rw [Form.canSubmit_iff (fresh_updates_examination form)]
  simp

theorem begin_attempt_eq (desk : Desk σ) :
    desk.begin.1 = if desk.form.credentials.Submittable then some desk.nextAttempt else none := by
  rw [begin_attempt]
  simp only [canSubmit_examined_iff]

theorem begin_isSome_iff (desk : Desk σ) : desk.begin.1.isSome = true ↔ desk.form.credentials.Submittable := by
  rw [begin_attempt_eq]
  split <;> simp_all

theorem submittable_of_begin {desk : Desk σ} {attempt : Attempt} (passed : desk.begin.1 = some attempt) :
    Submittable attempt.email attempt.password := by
  rw [begin_attempt_eq] at passed
  split at passed
  next fit =>
    cases passed
    exact fit
  · contradiction

theorem submittable_of_attempts [NoticeSink σ] (desk : Desk σ) (operations : List (Operation σ)) :
    ∀ attempt ∈ desk.attempts operations, Submittable attempt.email attempt.password := by
  induction operations generalizing desk with
  | nil => simp [attempts]
  | cons operation operations ih =>
    intro attempt member
    rcases List.mem_append.mp member with now | later
    · rw [Option.mem_toList] at now
      cases operation with
      | begin => exact submittable_of_begin now
      | signIn service => exact submittable_of_begin ((signIn_call desk service).symm.trans now)
      | _ => contradiction
    · exact ih _ attempt later

end Desk

end TerminalSignIn
