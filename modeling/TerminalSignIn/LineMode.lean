import TerminalSignIn.Desk

/-!
# Line mode

For scripts the form can be filled in from lines of input: the email, unless it is known, and the password. One
submission follows, and its outcome is told in lines.
-/

namespace TerminalSignIn

namespace LineMode

/-- The first line of the input with its line end, and what follows it; no line at the end of the input. -/
def splitLine? : Bytes → Option (Bytes × Bytes)
  | [] => none
  | byte :: rest =>
    if byte = 0x0A then some ([byte], rest)
    else match splitLine? rest with
      | none => some ([byte], [])
      | some (line, after) => some (byte :: line, after)

def isLineEnd (char : Char) : Bool :=
  char = '\n' || char = '\r'

def lineText? (line : Bytes) : Option Text :=
  (Utf8.decode? line).map (Text.dropEndWhile isLineEnd)

inductive Failure where
  /-- The line for a field is no text. -/
  | unreadable (field : Field)
  /-- The outcome cannot be written. -/
  | brokenOutput
deriving DecidableEq

namespace Failure

def messages : Failure → List Text
  | .unreadable field =>
    ["failed to read ".toList ++ field.name, "stream did not contain valid UTF-8".toList]
  | .brokenOutput => ["broken pipe".toList]

end Failure

/-- Read the line for a field. A field has no value when the input has ended. -/
def readField (field : Field) (input : Bytes) : Except Failure (Option Text × Bytes) :=
  match splitLine? input with
  | none => .ok (none, [])
  | some (line, rest) => match lineText? line with
    | none => .error (.unreadable field)
    | some text => .ok (some text, rest)

def readCredentials (email : Option Text) (input : Bytes) : Except Failure Credentials :=
  match email with
  | some email => do
    let (password, _) ← readField .password input
    return ⟨some email, password⟩
  | none => do
    let (email, rest) ← readField .email input
    let (password, _) ← readField .password rest
    return ⟨email, password⟩

def describeFailure (field : Field) : Check → Text
  | .required => field.label ++ " is required".toList
  | .email => field.label ++ " is not a valid email address".toList
  | .server => field.label ++ " was rejected".toList

/-- The lines for the failing checks of a form; the message of the service has been told already. -/
def failureLines (form : Form) : List Text :=
  (form.failures.filter fun (_, check) => check ≠ .server).map fun (field, check) => describeFailure field check

def successLine (email : Text) : Text :=
  "Signed in as ".toList ++ email ++ ['\n']

structure Report where
  outcome : Except Failure Outcome
  output : Text
  errors : LineSink
  failures : List (Field × Check)
  call : Option Attempt

def submit (credentials : Credentials) (title : Option Text) (outputBroken : Bool) (errors : LineSink)
    (service : Attempt → Answer) : Report :=
  let submission := (Desk.withForm (.ofCredentials credentials) title errors).signIn service
  let desk := submission.desk
  match submission.outcome with
  | .authenticated =>
    if outputBroken then ⟨.error .brokenOutput, [], desk.sink, [], submission.call⟩
    else ⟨.ok .authenticated, successLine (desk.form.credentials.email.getD []), desk.sink, [], submission.call⟩
  | .aborted =>
    ⟨.ok .aborted, [], (failureLines desk.form).foldl LineSink.write desk.sink, desk.form.failures, submission.call⟩
  | .rejected message => ⟨.ok (.rejected message), [], desk.sink, [], submission.call⟩

def run (email title : Option Text) (input : Bytes) (outputBroken errorsBroken : Bool)
    (service : Attempt → Answer) : Report :=
  let errors : LineSink := ⟨errorsBroken, []⟩
  match readCredentials email input with
  | .error failure => ⟨.error failure, [], errors, [], none⟩
  | .ok credentials => submit credentials title outputBroken errors service

end LineMode

end TerminalSignIn
