import TerminalSignIn.Environment
import TerminalSignIn.Session
import TerminalSignIn.Toml.Parser

/-!
# Settings

What a user can set: in a file, in the environment, and on the command line. Every part of the file is optional; the
accessors give what is in force after overrides and defaults.

The file is a TOML document under the home directory. It may be missing; a file that cannot be read, or that says
nothing sensible, is an error. Keys that are not known are passed over; a value of the wrong kind is an error. A section
may also be an array with the values of its keys in order, those at its end missing if they are flags.
-/

namespace TerminalSignIn

structure AuthSettings where
  baseUrl : Option Text
  signInPath : Option Text
  connectTimeout : Option Nat
  allowHttp : Bool
deriving DecidableEq

structure AppSettings where
  email : Option Text
  asciiOnly : Bool
  highContrast : Bool
  notificationTitle : Option Text
deriving DecidableEq

structure Settings where
  auth : Option AuthSettings
  app : Option AppSettings
deriving DecidableEq

namespace Settings

def none : Settings := ⟨.none, .none⟩

def defaultSignInPath : Text := "/api/v1/signin".toList

def defaultConnectTimeout : Nat := 30

def baseUrlVariable : Text := "SIGNIN_BASE_URL".toList

def emailVariable : Text := "SIGNIN_EMAIL".toList

def isBlankText (text : Text) : Bool :=
  text.trim.isEmpty

def withoutSlashes? (text : Text) : Option Text :=
  let trimmed := Text.dropEndWhile (· = '/') text
  if trimmed.isEmpty then .none else some trimmed

def resolveBaseUrl (environment : Environment) (source : Text) : Option Text :=
  withoutSlashes? (environment.expand source.trim)

/-- The address of the service: the variable for it unless that is blank, else the file. -/
def baseUrl (settings : Settings) (environment : Environment) : Option Text :=
  let override := (environment.get? baseUrlVariable).filter fun value => !isBlankText value
  (override.or (settings.auth.bind AuthSettings.baseUrl)).bind (resolveBaseUrl environment)

def signInPath (settings : Settings) : Text :=
  let named := ((settings.auth.bind AuthSettings.signInPath).map Text.trim).filter fun path => !path.isEmpty
  let path := named.getD defaultSignInPath
  if path.head? = some '/' then path else '/' :: path

/-- The seconds that a connection may take; zero counts as not set. -/
def connectTimeout (settings : Settings) : Nat :=
  ((settings.auth.bind AuthSettings.connectTimeout).filter (0 < ·)).getD defaultConnectTimeout

def allowHttp (settings : Settings) : Bool :=
  settings.auth.any AuthSettings.allowHttp

/-- The email that the form starts with: the variable for it if that is set, else the file. A blank one counts
as none. -/
def prefillEmail (settings : Settings) (environment : Environment) : Option Text :=
  let source := (environment.get? emailVariable).or (settings.app.bind AppSettings.email)
  (source.map Text.trim).filter fun email => !email.isEmpty

def notificationTitle (settings : Settings) : Option Text :=
  (settings.app.bind AppSettings.notificationTitle).filter fun title => !isBlankText title

def displayOptions (settings : Settings) : DisplayOptions :=
  match settings.app with
  | .none => ⟨false, false⟩
  | some app => ⟨app.asciiOnly, app.highContrast⟩

/-- The address of the service in force: that of the command line unless nothing is left of it, else that of
the settings. -/
def effectiveBaseUrl (settings : Settings) (environment : Environment) (option : Option Text) : Option Text :=
  (option.bind fun value => withoutSlashes? value.trim).or (settings.baseUrl environment)

/-- The email in force: that of the command line, as it stands, else that of the settings. -/
def effectiveEmail (settings : Settings) (environment : Environment) (option : Option Text) : Option Text :=
  option.or (settings.prefillEmail environment)

end Settings

/-! ### The document -/

namespace Settings

abbrev Reader (α : Type) := Toml → Option α

def readText : Reader Text
  | .string value => some value
  | _ => Option.none

def readFlag : Reader Bool
  | .boolean value => some value
  | _ => Option.none

def greatestSeconds : Int := Int.ofNat (1 <<< 64) - 1

def readSeconds : Reader Nat
  | .integer value => if 0 ≤ value && value ≤ greatestSeconds then some value.toNat else Option.none
  | _ => Option.none

inductive Section where
  | table (entries : Toml.Entries)
  | array (items : List Toml)

/-- The section that a value stands for. A date has no keys that are known. -/
def Section.ofToml? : Toml → Option Section
  | .table _ entries => some (.table entries)
  | .array items | .tables items => some (.array items)
  | .date => some (.table [])
  | _ => Option.none

def Section.value? (part : Section) (name : String) (place : Nat) : Option Toml :=
  match part with
  | .table entries => entries.get? name.toList
  | .array items => items[place]?

/-- An optional value. In an array it may not be missing. -/
def Section.optional {α : Type} (part : Section) (name : String) (place : Nat) (read : Reader α) :
    Option (Option α) :=
  match part.value? name place, part with
  | some value, _ => (read value).map some
  | Option.none, .table _ => some Option.none
  | Option.none, .array _ => Option.none

def Section.flag (part : Section) (name : String) (place : Nat) : Option Bool :=
  match part.value? name place with
  | some value => readFlag value
  | Option.none => some false

def readAuth : Reader AuthSettings := fun value => do
  let part ← Section.ofToml? value
  let baseUrl ← part.optional "base_url" 0 readText
  let signInPath ← part.optional "signin_path" 1 readText
  let connectTimeout ← part.optional "connect_timeout_secs" 2 readSeconds
  let allowHttp ← part.flag "allow_http" 3
  return ⟨baseUrl, signInPath, connectTimeout, allowHttp⟩

def readApp : Reader AppSettings := fun value => do
  let part ← Section.ofToml? value
  let email ← part.optional "email" 0 readText
  let asciiOnly ← part.flag "ascii_only" 1
  let highContrast ← part.flag "high_contrast" 2
  let notificationTitle ← part.optional "notification_title" 3 readText
  return ⟨email, asciiOnly, highContrast, notificationTitle⟩

def ofText? (text : Text) : Option Settings := do
  let root ← (← Toml.parse? text) |> Section.ofToml?
  let auth ← match root.value? "auth" 0 with
    | Option.none => some Option.none
    | some value => (readAuth value).map some
  let app ← match root.value? "app" 1 with
    | Option.none => some Option.none
    | some value => (readApp value).map some
  return ⟨auth, app⟩

end Settings

/-! ### The file -/

inductive FileContent where
  | missing
  | directory
  | bytes (bytes : Bytes)

inductive ReadFailure where
  | missing
  | directory
  /-- A part of the path that should be a directory is a file. -/
  | notDirectory
  | notText
deriving DecidableEq

namespace ReadFailure

def message : ReadFailure → Text
  | .missing => "No such file or directory (os error 2)".toList
  | .directory => "Is a directory (os error 21)".toList
  | .notDirectory => "Not a directory (os error 20)".toList
  | .notText => "stream did not contain valid UTF-8".toList

end ReadFailure

inductive SettingsError where
  | unreadable (path : Text) (failure : ReadFailure)
  | malformed (path : Text)
deriving DecidableEq

namespace SettingsError

def path : SettingsError → Text
  | .unreadable path _ => path
  | .malformed path => path

/-- The message of an error; that of a malformed file ends before the place of the fault. -/
def message : SettingsError → Text
  | .unreadable path failure => "failed to read config at ".toList ++ path ++ ": ".toList ++ failure.message
  | .malformed path => "failed to parse config at ".toList ++ path ++ ": ".toList

end SettingsError

namespace FileContent

def text : FileContent → Except ReadFailure Text
  | .missing => .error .missing
  | .directory => .error .directory
  | .bytes contents => match Utf8.decode? contents with
    | none => .error .notText
    | some text => .ok text

end FileContent

def joinPath (directory name : Text) : Text :=
  if directory.getLast? = some '/' then directory ++ name else directory ++ '/' :: name

namespace Settings

def directory (home : Text) : Text :=
  joinPath home ".signin".toList

def filePath (home : Text) : Text :=
  joinPath (directory home) "config.toml".toList

def ofFile (path : Text) (content : FileContent) : Except SettingsError Settings :=
  match content.text with
  | .error failure => .error (.unreadable path failure)
  | .ok text => match ofText? text with
    | Option.none => .error (.malformed path)
    | some settings => .ok settings

def load (path : Text) (content : FileContent) : Except SettingsError (Option Settings) :=
  match content with
  | .missing => .ok Option.none
  | content => (ofFile path content).map some

end Settings

end TerminalSignIn
