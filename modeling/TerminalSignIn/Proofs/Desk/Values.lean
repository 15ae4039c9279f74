import Mathlib.Data.List.Forall2
import TerminalSignIn.Proofs.Desk.Run

/-!
# Forms with other values

The values of a form can be replaced by others that no check tells from them: a password by as many mask signs, nothing
by the empty text. Every edit then does the same to both forms, so the replacement commutes with a whole run of edits. A
desk with such a form lets the same submissions through and absorbs the same answers.
-/

namespace TerminalSignIn

/-! ### Forms -/

variable {change : Field → Option Text → Option Text}

def Unnoticed (change : Field → Option Text → Option Text) : Prop :=
  ∀ (field : Field) (value : Option Text) (message : Option NonBlank),
    field.failing ⟨change field value, message⟩ = field.failing ⟨value, message⟩

namespace Field

def fill (_ : Field) (value : Option Text) : Option Text :=
  some (value.getD [])

theorem unnoticed_fill : Unnoticed fill := by
  intro field value message
  cases value with
  | none => cases field <;> rfl
  | some text => rfl

end Field

namespace Credentials

def mapValues (credentials : Credentials) (change : Field → Option Text → Option Text) : Credentials :=
  ⟨change .email credentials.email, change .password credentials.password⟩

theorem value_mapValues (credentials : Credentials) (field : Field) :
    (credentials.mapValues change).value field = change field (credentials.value field) := by
  cases field <;> rfl

theorem mapValues_withValue (credentials : Credentials) {field : Field} {value text : Text}
    (typed : change field (some value) = some text) :
    (credentials.withValue field value).mapValues change = (credentials.mapValues change).withValue field text := by
  cases field <;> simp only [mapValues, withValue, typed]

end Credentials

namespace Form

def mapValues (form : Form) (change : Field → Option Text → Option Text) : Form :=
  { form with credentials := form.credentials.mapValues change }

/-- The second edit does to a form with changed values what the first does to the form. -/
inductive Edit.Mapped (change : Field → Option Text → Option Text) : Edit → Edit → Prop where
  | typed {field : Field} {value text : Text} : change field (some value) = some text →
      Mapped change (.typed field value) (.typed field text)
  | left (field : Field) : Mapped change (.left field) (.left field)
  | checkAll : Mapped change .checkAll .checkAll
  | serverError (message : Option NonBlank) : Mapped change (.serverError message) (.serverError message)
  | reset : (∀ field, change field none = none) → Mapped change .reset .reset

theorem field_mapValues (form : Form) (field : Field) : (form.mapValues change).field field = form.field field :=
  field_withCredentials form _ field

theorem mapValues_modifyField (form : Form) (field : Field) (modify : FieldState → FieldState) :
    (form.modifyField field modify).mapValues change = (form.mapValues change).modifyField field modify := by
  cases field <;> rfl

theorem mapValues_validate (unnoticed : Unnoticed change) (form : Form) (field : Field) :
    (form.validate field).mapValues change = (form.mapValues change).validate field := by
  have inputs : field.failing ((form.mapValues change).input field) = field.failing (form.input field) := by
    rw [input, mapValues, Credentials.value_mapValues]
    exact unnoticed field _ _
  rw [validate, validate, inputs]
  exact mapValues_modifyField form field _

theorem mapValues_validateAll (unnoticed : Unnoticed change) (form : Form) :
    form.validateAll.mapValues change = (form.mapValues change).validateAll := by
  simp only [validateAll, Field.all, List.foldl_cons, List.foldl_nil, mapValues_validate unnoticed]

theorem mapValues_update (unnoticed : Unnoticed change) (form : Form) {edit other : Edit}
    (mapped : Edit.Mapped change edit other) :
    (form.update edit).mapValues change = (form.mapValues change).update other := by
  cases mapped with
  | @typed field value text typed =>
    rw [update, mapValues_validate unnoticed, update]
    exact congrArg (fun credentials => ({ form with credentials := credentials } : Form).validate field)
      (form.credentials.mapValues_withValue typed)
  | left field => exact mapValues_modifyField form field _
  | checkAll => exact mapValues_validateAll unnoticed _
  | serverError message => exact mapValues_validateAll unnoticed _
  | reset unfilled =>
    have emptied : Credentials.empty.mapValues change = .empty := congrArg₂ Credentials.mk (unfilled _) (unfilled _)
    rw [update, update, empty, ofCredentials, mapValues_validateAll unnoticed, mapValues, emptied]

theorem mapValues_updates (unnoticed : Unnoticed change) (form : Form) {edits others : List Edit}
    (mapped : List.Forall₂ (Edit.Mapped change) edits others) :
    (form.updates edits).mapValues change = (form.mapValues change).updates others := by
  induction mapped generalizing form with
  | nil => rfl
  | @cons edit other edits others first _ ih =>
    show ((form.update edit).updates edits).mapValues change = ((form.mapValues change).update other).updates others
    rw [ih, mapValues_update unnoticed form first]

theorem validate_of_fresh {form : Form} (fresh : form.Fresh) (field : Field) : form.validate field = form := by
  apply ext_field (credentials_validate form field) (serverError_validate form field)
  intro other
  rw [validate, field_modifyField]
  by_cases same : other = field
  · rw [if_pos same, same, ← fresh field]
  · rw [if_neg same]

/-- Typing what a field holds fills the field in, and leaves everything else as it is. -/
theorem update_typed_held {form : Form} (fresh : form.Fresh) (field : Field) :
    let held := (form.credentials.value field).getD []
    form.update (.typed field held) = { form with credentials := form.credentials.withValue field held } := by
  intro held
  apply validate_of_fresh
  intro other
  rw [field_withCredentials, fresh other, input, input, Credentials.value_withValue]
  by_cases same : other = field
  · rw [if_pos same, same]
    exact (Field.unnoticed_fill field _ _).symm
  · rw [if_neg same]

end Form

/-! ### Desks -/

namespace Desk

variable {σ : Type} {change : Field → Option Text → Option Text}

def mapValues (desk : Desk σ) (change : Field → Option Text → Option Text) : Desk σ :=
  { desk with form := desk.form.mapValues change }

theorem mapValues_edit (unnoticed : Unnoticed change) (desk : Desk σ) {edit other : Form.Edit}
    (mapped : Form.Edit.Mapped change edit other) :
    (desk.edit edit).mapValues change = (desk.mapValues change).edit other :=
  congrArg (fun form => { desk with form := form }) (desk.form.mapValues_update unnoticed mapped)

theorem mapValues_begin (unnoticed : Unnoticed change) (desk : Desk σ) :
    (desk.mapValues change).begin =
      (desk.begin.1.map fun _ => (desk.mapValues change).nextAttempt, desk.begin.2.mapValues change) := by
  have examined : (desk.mapValues change).form.updates examination = (desk.form.updates examination).mapValues change :=
    (desk.form.mapValues_updates unnoticed (.cons .checkAll (.cons (.serverError none) .nil))).symm
  have offered : ((desk.form.updates examination).mapValues change).canSubmit =
      (desk.form.updates examination).canSubmit := rfl
  rw [begin_eq, begin_eq, examined, offered]
  split <;> rfl

theorem mapValues_complete [NoticeSink σ] (unnoticed : Unnoticed change) (desk : Desk σ) (id : AttemptId)
    (answer : Answer) : (desk.mapValues change).complete id answer =
      ((desk.complete id answer).1, (desk.complete id answer).2.mapValues change) := by
  cases answer with
  | accepted => rfl
  | rejected rejection =>
    have absorbed : ((desk.release id).absorb rejection.displayed).mapValues change =
        ((desk.mapValues change).release id).absorb rejection.displayed :=
      mapValues_edit unnoticed _ (.serverError _)
    exact congrArg (fun desk => (Outcome.rejected rejection.displayed, desk.settle .rejected)) absorbed.symm

end Desk

end TerminalSignIn
