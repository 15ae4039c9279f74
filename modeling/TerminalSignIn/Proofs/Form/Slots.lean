import Mathlib.Data.List.Induction
import Mathlib.Tactic.Tauto
import TerminalSignIn.Proofs.Form.Fresh

/-!
# The form after a list of edits

A form has a slot for each value, one for the message of the service, and one for each touch. What a slot holds
after a list of edits is told by the last edit that writes to it behind the last reset, whatever stands between.
The checks are no slot of their own: they follow from the values and the message.
-/

namespace TerminalSignIn

namespace Form

/-- The edits behind the last reset; all of them when there is none. -/
def sinceReset (edits : List Edit) : List Edit :=
  (edits.reverse.takeWhile (· ≠ .reset)).reverse

def baseline (credentials : Credentials) (edits : List Edit) : Credentials :=
  if .reset ∈ edits then .empty else credentials

def lastWrite {α : Type} (write? : Edit → Option α) (edits : List Edit) : Option α :=
  edits.reverse.findSome? write?

def Edit.typed? (field : Field) : Edit → Option Text
  | .typed other value => if other = field then some value else none
  | _ => none

def Edit.message? : Edit → Option (Option NonBlank)
  | .serverError message => some message
  | _ => none

def valueAfter (credentials : Credentials) (edits : List Edit) (field : Field) : Option Text :=
  (lastWrite (Edit.typed? field) (sinceReset edits)).or ((baseline credentials edits).value field)

def messageAfter (edits : List Edit) : Option NonBlank :=
  (lastWrite Edit.message? (sinceReset edits)).join

/-- A field was left, or everything was checked. -/
def TouchedBy (edits : List Edit) (field : Field) : Prop :=
  .left field ∈ sinceReset edits ∨ .checkAll ∈ sinceReset edits

theorem sinceReset_append (edits : List Edit) (edit : Edit) :
    sinceReset (edits ++ [edit]) = if edit = .reset then [] else sinceReset edits ++ [edit] := by
  by_cases isReset : edit = .reset <;> simp [sinceReset, isReset]

theorem baseline_append (credentials : Credentials) (edits : List Edit) (edit : Edit) :
    baseline credentials (edits ++ [edit]) = if edit = .reset then .empty else baseline credentials edits := by
  by_cases isReset : edit = .reset
  · simp [baseline, isReset]
  · simp [baseline, isReset, Ne.symm isReset]

theorem lastWrite_append {α : Type} (write? : Edit → Option α) (edits : List Edit) (edit : Edit) :
    lastWrite write? (edits ++ [edit]) = (write? edit).or (lastWrite write? edits) := by
  cases found : write? edit <;> simp [lastWrite, found]

theorem updates_append (form : Form) (edits : List Edit) (edit : Edit) :
    form.updates (edits ++ [edit]) = (form.updates edits).update edit := by
  simp [updates]

theorem value_update (form : Form) (edit : Edit) (notReset : edit ≠ .reset) (field : Field) :
    (form.update edit).credentials.value field =
      (edit.typed? field).or (form.credentials.value field) := by
  cases edit with
  | typed other value =>
    by_cases same : other = field
    · simp [update, Edit.typed?, same]
    · simp [update, Edit.typed?, same, Ne.symm same]
  | left other => simp [update, Edit.typed?]
  | checkAll => simp [update, Edit.typed?, Field.all]
  | serverError message => simp [update, Edit.typed?]
  | reset => exact absurd rfl notReset

theorem serverError_update (form : Form) (edit : Edit) (notReset : edit ≠ .reset) :
    (form.update edit).serverError = (edit.message?.or (some form.serverError)).join := by
  cases edit with
  | typed other value => simp [update, Edit.message?]
  | left other => simp [update, Edit.message?]
  | checkAll => simp [update, Edit.message?, Field.all]
  | serverError message => simp [update, Edit.message?]
  | reset => exact absurd rfl notReset

theorem touched_update (form : Form) (edit : Edit) (notReset : edit ≠ .reset) (field : Field) :
    ((form.update edit).field field).touched = true ↔
      (form.field field).touched = true ∨ .left field = edit ∨ .checkAll = edit := by
  cases edit with
  | typed other value => by_cases same : field = other <;> simp [update, validate, same]
  | left other =>
    by_cases same : field = other
    · simp [update, touch, same]
    · simp [update, touch, same]
  | checkAll => cases field <;> simp [update, touch, Field.all]
  | serverError message => simp [update]
  | reset => exact absurd rfl notReset

theorem touched_ofCredentials (credentials : Credentials) (field : Field) :
    ((ofCredentials credentials).field field).touched = false := by
  cases field <;> rfl

theorem value_updates (credentials : Credentials) (edits : List Edit) (field : Field) :
    ((ofCredentials credentials).updates edits).credentials.value field = valueAfter credentials edits field := by
  induction edits using List.reverseRecOn with
  | nil => simp [updates, ofCredentials, valueAfter, baseline, sinceReset, lastWrite]
  | append_singleton edits edit ih =>
    rw [updates_append]
    by_cases isReset : edit = .reset
    · simp [isReset, update, empty, ofCredentials, valueAfter, baseline, sinceReset, lastWrite]
    · rw [value_update _ _ isReset, ih]
      simp only [valueAfter, sinceReset_append, baseline_append, if_neg isReset, lastWrite_append,
        Option.or_assoc]

theorem serverError_updates (credentials : Credentials) (edits : List Edit) :
    ((ofCredentials credentials).updates edits).serverError = messageAfter edits := by
  induction edits using List.reverseRecOn with
  | nil => simp [updates, ofCredentials, messageAfter, sinceReset, lastWrite]
  | append_singleton edits edit ih =>
    rw [updates_append]
    by_cases isReset : edit = .reset
    · simp [isReset, update, empty, ofCredentials, messageAfter, sinceReset, lastWrite]
    · rw [serverError_update _ _ isReset, ih]
      simp only [messageAfter, sinceReset_append, if_neg isReset, lastWrite_append]
      cases edit.message? <;> simp

theorem touched_updates (credentials : Credentials) (edits : List Edit) (field : Field) :
    (((ofCredentials credentials).updates edits).field field).touched = true ↔ TouchedBy edits field := by
  induction edits using List.reverseRecOn with
  | nil => simp [updates, touched_ofCredentials, TouchedBy, sinceReset]
  | append_singleton edits edit ih =>
    rw [updates_append]
    by_cases isReset : edit = .reset
    · simp [isReset, update, empty, touched_ofCredentials, TouchedBy, sinceReset]
    · rw [touched_update _ _ isReset, ih]
      simp only [TouchedBy, sinceReset_append, if_neg isReset, List.mem_append, List.mem_singleton]
      tauto

theorem eq_of_slots {first second : Form} (firstFresh : first.Fresh) (secondFresh : second.Fresh)
    (values : ∀ field, first.credentials.value field = second.credentials.value field)
    (messages : first.serverError = second.serverError)
    (touches : ∀ field, (first.field field).touched = true ↔ (second.field field).touched = true) :
    first = second := by
  apply ext_field (Credentials.ext_value values) messages
  intro field
  have checks : (first.field field).failing = (second.field field).failing := by
    rw [firstFresh field, secondFresh field]
    simp only [input, values field, messages]
  have touched : (first.field field).touched = (second.field field).touched :=
    Bool.eq_iff_iff.mpr (touches field)
  show (⟨(first.field field).failing, (first.field field).touched⟩ : FieldState) =
    ⟨(second.field field).failing, (second.field field).touched⟩
  rw [checks, touched]

/-- The form after any list of edits, slot by slot, its checks computed from the slots. Two lists of edits lead to
the same form exactly when they leave the same in each slot. -/
theorem updates_slot_by_slot (credentials : Credentials) (edits : List Edit) :
    (∀ field,
      ((ofCredentials credentials).updates edits).credentials.value field = valueAfter credentials edits field ∧
      ((((ofCredentials credentials).updates edits).field field).touched = true ↔ TouchedBy edits field) ∧
      ∀ check, check ∈ (((ofCredentials credentials).updates edits).field field).failing ↔
        ∃ validator ∈ field.validators, validator.check = check ∧
          validator.passes ⟨valueAfter credentials edits field, messageAfter edits⟩ = false) ∧
    ((ofCredentials credentials).updates edits).serverError = messageAfter edits ∧
    ∀ others : List Edit,
      (ofCredentials credentials).updates edits = (ofCredentials credentials).updates others ↔
        (∀ field, valueAfter credentials edits field = valueAfter credentials others field) ∧
        messageAfter edits = messageAfter others ∧
        ∀ field, TouchedBy edits field ↔ TouchedBy others field := by
  have fresh := fun edits => fresh_updates (fresh_ofCredentials credentials) edits
  refine ⟨fun field => ⟨value_updates .., touched_updates .., fun check => ?_⟩, serverError_updates .., ?_⟩
  · rw [fresh edits field, Field.mem_failing]
    simp only [input, value_updates, serverError_updates]
  · intro others
    simp only [← value_updates, ← serverError_updates credentials, ← touched_updates credentials]
    constructor
    · intro same
      simp [same]
    · rintro ⟨values, messages, touches⟩
      exact eq_of_slots (fresh edits) (fresh others) values messages touches

/-- Edits of different slots commute: a value typed before a field is left is the same as one typed after. -/
example : (ofCredentials ⟨none, none⟩).updates [.typed .email ['a'], .left .email, .serverError none] =
    (ofCredentials ⟨none, none⟩).updates [.serverError none, .left .email, .typed .email ['a']] := by
  decide

end Form

end TerminalSignIn
