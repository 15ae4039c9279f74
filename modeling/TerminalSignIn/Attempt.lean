import TerminalSignIn.Form

/-!
# Attempts

A submission that passes the checks of the form becomes an attempt: a number and a copy of what was typed.
The phase says where the flow of submissions stands.
-/

namespace TerminalSignIn

/-- The number of an attempt. Numbers rise by one, and wrap around after 2^64 attempts. -/
structure AttemptId where
  value : UInt64
deriving DecidableEq

namespace AttemptId

def first : AttemptId := ⟨1⟩

def next (id : AttemptId) : AttemptId := ⟨id.value + 1⟩

def exceeds (id other : AttemptId) : Bool :=
  other.value < id.value

def toText (id : AttemptId) : Text :=
  Text.ofNat id.value.toNat

def greatest? : List AttemptId → Option AttemptId
  | [] => none
  | id :: others => match greatest? others with
    | none => some id
    | some other => some (if other.exceeds id then other else id)

end AttemptId

structure Attempt where
  id : AttemptId
  email : Text
  password : Text
deriving DecidableEq

namespace Attempt

def describe (attempt : Attempt) : Text :=
  "SigninAttempt \x7b id: AttemptId(".toList ++ attempt.id.toText ++ "), email: ".toList
    ++ attempt.email.quoted ++ ", password: ".toList ++ Credentials.redacted.quoted ++ " \x7d".toList

end Attempt

inductive Phase where
  | idle
  | validating
  /-- The service has not yet answered an attempt. -/
  | authenticating (attempt : AttemptId)
  | rejected
deriving DecidableEq

namespace Phase

def isAuthenticating : Phase → Bool
  | .authenticating _ => true
  | _ => false

def name : Phase → Text
  | .idle => "idle".toList
  | .validating => "validating".toList
  | .authenticating _ => "authenticating".toList
  | .rejected => "error".toList

end Phase

structure Rejection where
  message : NonBlank
deriving DecidableEq

namespace Rejection

def defaultMessage : NonBlank := ⟨"Sign in failed".toList, by decide⟩

/-- A rejection with a message; a blank one gives way to the default message. -/
def ofMessage (message : Text) : Rejection :=
  ⟨(NonBlank.ofText? message).getD defaultMessage⟩

def displayed (rejection : Rejection) : NonBlank :=
  (NonBlank.ofText? rejection.message.text.display).getD defaultMessage

end Rejection

inductive Answer where
  | accepted
  | rejected (rejection : Rejection)
deriving DecidableEq

inductive Outcome where
  /-- A check of the form failed; the service was not asked. -/
  | aborted
  | authenticated
  | rejected (message : NonBlank)
deriving DecidableEq

namespace Outcome

def describe : Outcome → Text
  | .aborted => "Aborted".toList
  | .authenticated => "Authenticated".toList
  | .rejected message =>
    "Rejected \x7b message: NonEmptyString(".toList ++ message.text.quoted ++ ") \x7d".toList

end Outcome

end TerminalSignIn
