import TerminalSignIn.Text.Display

/-!
# The form

The form has two fields and holds what was typed, which checks fail on it, which fields were left, and the message of
the service. It changes by `Form.update` alone, one edit at a time. Each field owns an ordered list of named checks; the
`server` check reads the message of the service, so the list of a field never changes.

The form accepts an email address with a local part of dotted atoms and a domain of dotted labels, all ASCII, within the
customary limits on length. `Email.isAddress` decides this.
-/

namespace TerminalSignIn

/-! ### Email addresses -/

namespace Email

def addressLimit : Nat := 254

def localLimit : Nat := 64

def labelLimit : Nat := 63

def isLetterOrDigit (char : Char) : Bool :=
  ('a' ≤ char && char ≤ 'z') || ('A' ≤ char && char ≤ 'Z') || ('0' ≤ char && char ≤ '9')

def atomMarks : Text :=
  "-!#$%&\x27*+/=?^_\x60\x7b|\x7d~".toList

def isAtomChar (char : Char) : Bool :=
  isLetterOrDigit char || atomMarks.contains char

def isAtom (text : Text) : Bool :=
  !text.isEmpty && text.all isAtomChar

/-- A label is made of letters, digits and hyphens, and a hyphen stands at neither end. -/
def isLabel (text : Text) : Bool :=
  text.all (fun char => isLetterOrDigit char || char = '-') && text.head?.any isLetterOrDigit
    && text.getLast?.any isLetterOrDigit && text.length ≤ labelLimit

def isLocalPart (text : Text) : Bool :=
  (text.splitOn '.').all isAtom && text.byteLength ≤ localLimit

def isDomain (text : Text) : Bool :=
  (text.splitOn '.').all isLabel

/-- Whether a text is an email address; the first at sign ends the local part. -/
def isAddress (text : Text) : Bool :=
  match text.splitOnce? '@' with
  | none => false
  | some (before, after) => text.byteLength ≤ addressLimit && isLocalPart before && isDomain after

end Email

/-! ### Fields and their checks -/

inductive Field where
  | email
  | password
deriving DecidableEq

namespace Field

def all : List Field := [.email, .password]

def name : Field → Text
  | .email => "email".toList
  | .password => "password".toList

def label : Field → Text
  | .email => "Email".toList
  | .password => "Password".toList

def next : Field → Field
  | .email => .password
  | .password => .email

def previous (field : Field) : Field :=
  field.next

end Field

inductive Check where
  | required
  | email
  | server
deriving DecidableEq

namespace Check

def all : List Check := [.required, .email, .server]

def name : Check → Text
  | .required => "required".toList
  | .email => "email".toList
  | .server => "server".toList

def title : Check → Text
  | .required => "Required".toList
  | .email => "Email".toList
  | .server => "Server".toList

end Check

/-- What a validator may look at. A field that was never filled in has no value. -/
structure FieldInput where
  value : Option Text
  serverError : Option NonBlank

structure Validator where
  check : Check
  passes : FieldInput → Bool

namespace Validator

def required : Validator :=
  ⟨.required, fun input => input.value.any fun value => !value.isEmpty⟩

def email : Validator :=
  ⟨.email, fun input => input.value.all fun value => value.isEmpty || Email.isAddress value⟩

def server : Validator :=
  ⟨.server, fun input => input.serverError.isNone⟩

end Validator

def Field.validators : Field → List Validator
  | .email => [.required, .email, .server]
  | .password => [.required, .server]

def Field.failing (field : Field) (input : FieldInput) : List Check :=
  (field.validators.filter fun validator => !validator.passes input).map Validator.check

/-! ### Forms -/

structure Credentials where
  email : Option Text
  password : Option Text
deriving DecidableEq

namespace Credentials

def empty : Credentials := ⟨none, none⟩

def value (credentials : Credentials) : Field → Option Text
  | .email => credentials.email
  | .password => credentials.password

def withValue (credentials : Credentials) (field : Field) (value : Text) : Credentials :=
  match field with
  | .email => { credentials with email := some value }
  | .password => { credentials with password := some value }

def redacted : Text := "[REDACTED]".toList

def describe (credentials : Credentials) : Text :=
  let email := match credentials.email with
    | none => "None".toList
    | some email => "Some(".toList ++ email.quoted ++ ")".toList
  let password := if credentials.password.isSome then redacted else "None".toList
  "Credentials \x7b email: ".toList ++ email ++ ", password: ".toList ++ password.quoted ++ " \x7d".toList

end Credentials

/-- The state of one field. `touched` says that the field was left, or that a submission looked at it. -/
structure FieldState where
  failing : List Check
  touched : Bool
deriving DecidableEq

namespace FieldState

def isInvalid (state : FieldState) : Bool :=
  !state.failing.isEmpty

def fails (state : FieldState) (check : Check) : Bool :=
  state.failing.contains check

end FieldState

structure Form where
  credentials : Credentials
  email : FieldState
  password : FieldState
  serverError : Option NonBlank
deriving DecidableEq

inductive Form.Edit where
  | typed (field : Field) (value : Text)
  | left (field : Field)
  | checkAll
  | serverError (message : Option NonBlank)
  | reset
deriving DecidableEq

namespace Form

def field (form : Form) : Field → FieldState
  | .email => form.email
  | .password => form.password

def modifyField (form : Form) (field : Field) (change : FieldState → FieldState) : Form :=
  match field with
  | .email => { form with email := change form.email }
  | .password => { form with password := change form.password }

def input (form : Form) (field : Field) : FieldInput :=
  ⟨form.credentials.value field, form.serverError⟩

def validate (form : Form) (field : Field) : Form :=
  form.modifyField field fun state => { state with failing := field.failing (form.input field) }

def validateAll (form : Form) : Form :=
  Field.all.foldl validate form

def touch (form : Form) (field : Field) : Form :=
  form.modifyField field fun state => { state with touched := true }

def ofCredentials (credentials : Credentials) : Form :=
  validateAll ⟨credentials, ⟨[], false⟩, ⟨[], false⟩, none⟩

def empty : Form :=
  ofCredentials .empty

/-- The form after one edit. Typing checks the field typed in, leaving a field checks none. -/
def update (form : Form) : Edit → Form
  | .typed field value => { form with credentials := form.credentials.withValue field value }.validate field
  | .left field => form.touch field
  | .checkAll => (Field.all.foldl touch form).validateAll
  | .serverError message => { form with serverError := message }.validateAll
  | .reset => empty

def updates (form : Form) (edits : List Edit) : Form :=
  edits.foldl update form

def isInvalid (form : Form) : Bool :=
  Field.all.any fun field => (form.field field).isInvalid

def fails (form : Form) (check : Check) : Bool :=
  Field.all.any fun field => (form.field field).fails check

def fieldsFailing (form : Form) (check : Check) : List Field :=
  Field.all.filter fun field => (form.field field).fails check

def failures (form : Form) : List (Field × Check) :=
  Field.all.flatMap fun field => (form.field field).failing.map (field, ·)

/-- A form can be submitted when it is valid, or when the service has rejected an earlier submission: a
stale rejection never stands in the way of a new attempt. -/
def canSubmit (form : Form) : Bool :=
  form.fails .server || !form.isInvalid

end Form

end TerminalSignIn
