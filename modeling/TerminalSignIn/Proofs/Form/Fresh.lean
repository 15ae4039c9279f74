import TerminalSignIn.Form

/-!
# Fresh checks

What the operations on a form do to each of its parts, and the invariant that the checks recorded for a field are
those that fail on its current input. No edit leaves a stale check behind, although most edits look at one field
only and leaving a field looks at none.
-/

namespace TerminalSignIn

namespace Credentials

@[simp] theorem value_withValue (credentials : Credentials) (field other : Field) (value : Text) :
    (credentials.withValue field value).value other =
      if other = field then some value else credentials.value other := by
  cases field <;> cases other <;> rfl

theorem withValue_value {credentials : Credentials} {field : Field} {value : Text}
    (held : credentials.value field = some value) : credentials.withValue field value = credentials := by
  obtain ⟨email, password⟩ := credentials
  cases field with
  | email => exact congrArg (Credentials.mk · password) held.symm
  | password => exact congrArg (Credentials.mk email) held.symm

@[simp] theorem value_empty (field : Field) : empty.value field = none := by
  cases field <;> rfl

theorem ext_value {first second : Credentials} (same : ∀ field, first.value field = second.value field) :
    first = second := by
  obtain ⟨email, password⟩ := first
  obtain ⟨otherEmail, otherPassword⟩ := second
  have emails : email = otherEmail := same .email
  have passwords : password = otherPassword := same .password
  rw [emails, passwords]

end Credentials

theorem Field.mem_failing (field : Field) (input : FieldInput) (check : Check) :
    check ∈ field.failing input ↔
      ∃ validator ∈ field.validators, validator.check = check ∧ validator.passes input = false := by
  simp only [Field.failing, List.mem_map, List.mem_filter, Bool.not_eq_true']
  constructor
  · rintro ⟨validator, ⟨listed, fails⟩, named⟩
    exact ⟨validator, listed, named, fails⟩
  · rintro ⟨validator, listed, named, fails⟩
    exact ⟨validator, ⟨listed, fails⟩, named⟩

namespace Form

@[simp] theorem field_withCredentials (form : Form) (credentials : Credentials) (field : Field) :
    ({ form with credentials := credentials } : Form).field field = form.field field := by
  cases field <;> rfl

@[simp] theorem field_withServerError (form : Form) (message : Option NonBlank) (field : Field) :
    ({ form with serverError := message } : Form).field field = form.field field := by
  cases field <;> rfl

@[simp] theorem field_modifyField (form : Form) (field other : Field) (change : FieldState → FieldState) :
    (form.modifyField field change).field other =
      if other = field then change (form.field other) else form.field other := by
  cases field <;> cases other <;> rfl

@[simp] theorem credentials_modifyField (form : Form) (field : Field) (change : FieldState → FieldState) :
    (form.modifyField field change).credentials = form.credentials := by
  cases field <;> rfl

@[simp] theorem serverError_modifyField (form : Form) (field : Field) (change : FieldState → FieldState) :
    (form.modifyField field change).serverError = form.serverError := by
  cases field <;> rfl

@[simp] theorem credentials_validate (form : Form) (field : Field) :
    (form.validate field).credentials = form.credentials :=
  credentials_modifyField form field _

@[simp] theorem serverError_validate (form : Form) (field : Field) :
    (form.validate field).serverError = form.serverError :=
  serverError_modifyField form field _

@[simp] theorem credentials_touch (form : Form) (field : Field) :
    (form.touch field).credentials = form.credentials :=
  credentials_modifyField form field _

@[simp] theorem serverError_touch (form : Form) (field : Field) :
    (form.touch field).serverError = form.serverError :=
  serverError_modifyField form field _

@[simp] theorem credentials_validateAll (form : Form) :
    form.validateAll.credentials = form.credentials := by
  simp [validateAll, Field.all]

@[simp] theorem serverError_validateAll (form : Form) :
    form.validateAll.serverError = form.serverError := by
  simp [validateAll, Field.all]

@[simp] theorem input_validateAll (form : Form) (field : Field) :
    form.validateAll.input field = form.input field := by
  simp [input]

@[simp] theorem field_validateAll (form : Form) (field : Field) :
    form.validateAll.field field = { form.field field with failing := field.failing (form.input field) } := by
  cases field <;> rfl

theorem ext_field {first second : Form} (credentials : first.credentials = second.credentials)
    (serverError : first.serverError = second.serverError)
    (fields : ∀ field, first.field field = second.field field) : first = second := by
  obtain ⟨values, email, password, message⟩ := first
  obtain ⟨otherValues, otherEmail, otherPassword, otherMessage⟩ := second
  have emails : email = otherEmail := fields .email
  have passwords : password = otherPassword := fields .password
  subst credentials serverError emails passwords
  rfl

/-- The recorded checks of each field are those that fail on its current input. -/
def Fresh (form : Form) : Prop :=
  ∀ field, (form.field field).failing = field.failing (form.input field)

theorem fresh_validateAll (form : Form) : form.validateAll.Fresh := by
  intro field
  rw [field_validateAll, input_validateAll]

theorem fresh_ofCredentials (credentials : Credentials) : (ofCredentials credentials).Fresh :=
  fresh_validateAll _

theorem fresh_typed {form : Form} (fresh : form.Fresh) (field : Field) (value : Text) :
    (form.update (.typed field value)).Fresh := by
  intro other
  simp only [update, validate, field_modifyField, input, credentials_modifyField, serverError_modifyField,
    Credentials.value_withValue]
  by_cases same : other = field
  · subst same
    simp
  · simp only [if_neg same]
    exact fresh other

theorem fresh_left {form : Form} (fresh : form.Fresh) (field : Field) :
    (form.update (.left field)).Fresh := by
  intro other
  have inputs : (form.update (.left field)).input other = form.input other := by simp [update, input]
  rw [inputs, ← fresh other]
  by_cases same : other = field <;> simp [update, touch, same]

theorem fresh_update {form : Form} (fresh : form.Fresh) (edit : Edit) : (form.update edit).Fresh := by
  cases edit with
  | typed field value => exact fresh_typed fresh field value
  | left field => exact fresh_left fresh field
  | checkAll => exact fresh_validateAll _
  | serverError message => exact fresh_validateAll _
  | reset => exact fresh_ofCredentials _

theorem fresh_updates {form : Form} (fresh : form.Fresh) (edits : List Edit) : (form.updates edits).Fresh := by
  induction edits generalizing form with
  | nil => exact fresh
  | cons edit edits ih => exact ih (fresh_update fresh edit)

end Form

end TerminalSignIn
