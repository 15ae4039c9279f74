import TerminalSignIn.Proofs.Desk.Values

/-!
# The veil

A veil hides the characters of the password and leaves only their number. Every edit of a form commutes with it: the
checks ask of a password only whether it is empty. So does what a desk does with the form, and with the attempts that
carry a password: it lets the same submissions through and absorbs the same answers, whatever the characters are.
-/

namespace TerminalSignIn

/-! ### The form -/

namespace Field

/-- What may be seen of a text in a field: of a password only the number of its characters. -/
def veil : Field → Text → Text
  | .email, text => text
  | .password, text => List.replicate text.length '*'

theorem veil_append (field : Field) (text more : Text) :
    field.veil (text ++ more) = field.veil text ++ field.veil more := by
  cases field with
  | email => rfl
  | password => simp [veil, List.replicate_append_replicate]

theorem veil_dropLast (field : Field) (text : Text) : field.veil text.dropLast = (field.veil text).dropLast := by
  cases field with
  | email => rfl
  | password => simp [veil]

theorem isEmpty_veil (field : Field) (text : Text) : (field.veil text).isEmpty = text.isEmpty := by
  cases field with
  | email => rfl
  | password => cases text <;> rfl

theorem veil_getD (field : Field) (value : Option Text) :
    field.veil (value.getD []) = (value.map field.veil).getD [] := by
  cases value with
  | none => cases field <;> rfl
  | some text => rfl

theorem veil_password_eq_iff (text other : Text) :
    password.veil text = password.veil other ↔ text.length = other.length := by
  simp [veil]

theorem unnoticed_veil : Unnoticed fun field => Option.map field.veil := by
  intro field value message
  have passes : ∀ validator ∈ field.validators,
      validator.passes ⟨value.map field.veil, message⟩ = validator.passes ⟨value, message⟩ := by
    cases field with
    | email =>
      rw [show Field.email.veil = id from rfl, Option.map_id_fun, id]
      exact fun _ _ => rfl
    | password => cases value <;> simp [validators, Validator.required, Validator.server, isEmpty_veil]
  rw [failing, failing, List.filter_congr]
  intro validator listed
  rw [passes validator listed]

end Field

namespace Credentials

def veil (credentials : Credentials) : Credentials :=
  { credentials with password := credentials.password.map Field.password.veil }

theorem veil_eq_mapValues (credentials : Credentials) :
    credentials.veil = credentials.mapValues fun field => Option.map field.veil :=
  congrArg (Credentials.mk · _) (congrFun Option.map_id credentials.email).symm

theorem value_veil (credentials : Credentials) (field : Field) :
    credentials.veil.value field = (credentials.value field).map field.veil := by
  rw [veil_eq_mapValues, value_mapValues]

theorem describe_veil (credentials : Credentials) : credentials.veil.describe = credentials.describe := by
  obtain ⟨email, password⟩ := credentials
  cases email <;> cases password <;> rfl

end Credentials

namespace Form

def veil (form : Form) : Form :=
  { form with credentials := form.credentials.veil }

theorem veil_eq_mapValues (form : Form) : form.veil = form.mapValues fun field => Option.map field.veil :=
  congrArg (fun credentials => { form with credentials := credentials }) form.credentials.veil_eq_mapValues

def Edit.veil : Edit → Edit
  | .typed field value => .typed field (field.veil value)
  | edit => edit

theorem Edit.mapped_veil (edit : Edit) : Edit.Mapped (fun field => Option.map field.veil) edit edit.veil := by
  cases edit with
  | typed field value => exact .typed rfl
  | left field => exact .left field
  | checkAll => exact .checkAll
  | serverError message => exact .serverError message
  | reset => exact .reset fun _ => rfl

end Form

/-! ### The desk -/

namespace Attempt

def veil (attempt : Attempt) : Attempt :=
  { attempt with password := Field.password.veil attempt.password }

end Attempt

namespace Desk

variable {σ : Type}

def veil (desk : Desk σ) : Desk σ :=
  { desk with form := desk.form.veil }

theorem veil_eq_mapValues (desk : Desk σ) : desk.veil = desk.mapValues fun field => Option.map field.veil :=
  congrArg (fun form => { desk with form := form }) desk.form.veil_eq_mapValues

theorem veil_edit (desk : Desk σ) (edit : Form.Edit) : (desk.edit edit).veil = desk.veil.edit edit.veil := by
  rw [veil_eq_mapValues, veil_eq_mapValues, mapValues_edit Field.unnoticed_veil desk edit.mapped_veil]

theorem nextAttempt_veil (desk : Desk σ) : desk.veil.nextAttempt = desk.nextAttempt.veil :=
  congrArg (Attempt.mk desk.nextId _) (Field.password.veil_getD _).symm

theorem veil_begin (desk : Desk σ) : desk.veil.begin = (desk.begin.1.map Attempt.veil, desk.begin.2.veil) := by
  rw [desk.veil_eq_mapValues, mapValues_begin Field.unnoticed_veil, ← veil_eq_mapValues, ← veil_eq_mapValues,
    nextAttempt_veil, begin_attempt]
  split <;> rfl

theorem veil_complete [NoticeSink σ] (desk : Desk σ) (id : AttemptId) (answer : Answer) :
    desk.veil.complete id answer = ((desk.complete id answer).1, (desk.complete id answer).2.veil) := by
  rw [veil_eq_mapValues, veil_eq_mapValues, mapValues_complete Field.unnoticed_veil]

end Desk

end TerminalSignIn
