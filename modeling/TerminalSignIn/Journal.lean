import TerminalSignIn.Service
import TerminalSignIn.Settings

/-!
# The journal

What a run of the program has to tell about itself: one entry for every step that may matter when something goes wrong.
An entry has a level and a target, the part of the program that it comes from, and is written as one line. No entry
holds a password.

Which entries are kept is said by a list of directives, separated by commas. A directive limits the level of the entries
from targets with a given beginning, or of all entries; the longest beginning that fits decides. The journal is kept in
a file under the home directory, or under the working directory if something is in the way there. If something is in the
way at both places no journal is kept, and the program runs all the same.
-/

namespace TerminalSignIn

namespace Journal

inductive Level where
  | error
  | warn
  | info
  | debug
  | trace
deriving DecidableEq

namespace Level

def all : List Level := [.error, .warn, .info, .debug, .trace]

def number : Level → Nat
  | .error => 1
  | .warn => 2
  | .info => 3
  | .debug => 4
  | .trace => 5

def name : Level → Text
  | .error => "ERROR".toList
  | .warn => "WARN".toList
  | .info => "INFO".toList
  | .debug => "DEBUG".toList
  | .trace => "TRACE".toList

end Level

inductive Obstacle where
  | directory (path cause : Text)
  | file (path cause : Text)
deriving DecidableEq

namespace Obstacle

def message : Obstacle → Text
  | .directory path cause => "Failed to create log dir ".toList ++ path ++ ": ".toList ++ cause
  | .file path cause => "Failed to open log file ".toList ++ path ++ ": ".toList ++ cause

end Obstacle

inductive Entry where
  | opened (path : Text)
  | hindered (obstacle : Obstacle)
  | ignored (error : SettingsError)
  | ready (endpoint : Endpoint)
  | submitting (attempt : Attempt)
  | blocked (failures : List (Field × Check))
  | started (attempt : AttemptId)
  | fromKeyboard (attempt : AttemptId)
  | posting (endpoint : Endpoint) (email : Text)
  | replied (status : Status)
  | unreachable (endpoint : Endpoint)
  | succeeded (attempt : AttemptId)
  | rejected (attempt : AttemptId) (message : NonBlank)
  | noticed (notice : Notice)
  | finished (outcome : Outcome)

namespace Entry

def level : Entry → Level
  | .opened _ | .ready _ | .submitting _ | .succeeded _ | .finished _ => .info
  | .hindered _ | .ignored _ | .unreachable _ | .rejected .. | .noticed _ => .warn
  | .blocked _ | .started _ | .fromKeyboard _ | .posting .. | .replied _ => .debug

def target : Entry → Text
  | .opened _ | .hindered _ | .ready _ | .finished _ => "signin".toList
  | .ignored _ => "signin_config".toList
  | .submitting _ | .blocked _ | .succeeded _ | .rejected .. => "signin_engine::coordinator".toList
  | .started _ => "signin_engine::app".toList
  | .noticed _ => "signin_engine::notifications".toList
  | .fromKeyboard _ => "signin_tui::input".toList
  | .posting .. | .replied _ | .unreachable _ => "signin_providers::http".toList

def settingsMessage : SettingsError → Text
  | .unreadable path failure =>
    "Failed to read config at ".toList ++ path.quoted ++ ": ".toList ++ failure.message
  | .malformed path => "Failed to parse config at ".toList ++ path.quoted ++ ": ".toList

def message : Entry → Text
  | .opened _ => "Logging initialized".toList
  | .hindered obstacle => obstacle.message
  | .ignored error => settingsMessage error
  | .ready _ => "Sign-in client ready".toList
  | .submitting _ => "Submitting sign-in".toList
  | .blocked _ => "Sign-in blocked by local validation".toList
  | .started _ => "Spawned sign-in call".toList
  | .fromKeyboard _ => "Submitted from keyboard".toList
  | .posting .. => "Posting sign-in request".toList
  | .replied status => if status.isSuccess then "Sign-in accepted".toList else "Sign-in rejected".toList
  | .unreachable endpoint => "Sign-in request failed: ".toList ++ endpoint.failure
  | .succeeded _ => "Sign-in succeeded".toList
  | .rejected _ message => "Sign-in rejected: ".toList ++ message.text
  | .noticed notice => notice.message
  | .finished _ => "Plain sign-in finished".toList

def failurePair : Field × Check → Text
  | (field, check) => '(' :: field.label ++ ", ".toList ++ check.title ++ [')']

def details : Entry → List (Text × Text)
  | .opened path => [("path".toList, path)]
  | .hindered _ | .ignored _ => []
  | .ready endpoint => [("endpoint".toList, endpoint.toText)]
  | .submitting attempt => [("attempt".toList, attempt.id.toText), ("email".toList, attempt.email.quoted)]
  | .blocked failures =>
    [("failures".toList, '[' :: Text.join ", ".toList (failures.map failurePair) ++ [']'])]
  | .started id | .fromKeyboard id | .succeeded id | .rejected id _ => [("attempt".toList, id.toText)]
  | .posting endpoint email => [("endpoint".toList, endpoint.toText), ("email".toList, email.quoted)]
  | .replied status => [("status".toList, status.toText)]
  | .unreachable endpoint => [("endpoint".toList, endpoint.toText)]
  | .noticed notice => (notice.title.map fun title => ("title".toList, title.quoted)).toList
  | .finished outcome => [("outcome".toList, outcome.describe)]

def line (entry : Entry) : Text :=
  entry.level.name ++ ' ' :: entry.target ++ ": ".toList ++ entry.message
    ++ entry.details.flatMap fun (name, value) => ' ' :: name ++ '=' :: value

end Entry

def ofAnswer (attempt : AttemptId) : Answer → List Entry
  | .accepted => [.succeeded attempt]
  | .rejected rejection => [.rejected attempt rejection.displayed]

def ofDelivery (endpoint : Endpoint) : Delivery → List Entry
  | .reply reply => [.replied reply.status]
  | .lost => [.unreachable endpoint]

end Journal

/-! ### The filter -/

namespace Journal

/-- A limit to the level of entries from targets with a given beginning. Without a beginning it is meant for
all of them, without a level it lets none through. -/
structure Directive where
  target : Option Text
  limit : Option Level
deriving DecidableEq

namespace Directive

def limits : List (Option Level) := none :: Level.all.map some

def limitName : Option Level → Text
  | none => "off".toList
  | some level => level.name.lowerAscii

def limit? (text : Text) : Option (Option Level) :=
  let digits := match text with
    | '+' :: digits => digits
    | _ => text
  match Text.number? 10 digits with
  | some number => limits[number]?
  | none => limits.find? fun limit => limitName limit = text.lowerAscii

def canBegin (char : Char) : Bool :=
  char.isAlphanum || "-:_".toList.contains char || 0x80 ≤ char.toNat

/-- The limit behind an equals sign. None at all stands for the most generous one. -/
def limitAfter? (text : Text) : Option (Option Level) :=
  if text.isEmpty then some (some .trace) else limit? text

def isScope (text : Text) : Bool :=
  match text.dropWhile fun char => char ≠ ']' && char ≠ '\x7b' with
  | '\x7b' :: fields => match Text.splitOnce? '\x7d' fields with
    | some (_ :: _, ']' :: rest) => closes rest
    | _ => false
  | ']' :: rest => closes rest
  | _ => false
where
  closes : Text → Bool
    | [] => true
    | '=' :: limit => (limitAfter? limit).isSome
    | _ => false

/-- Read a directive. One about the entries of a scope in brackets holds for none of ours. Blanks at the
beginning count as part of the target. -/
def read? (text : Text) : Option (Option Directive) :=
  let body := text.trim
  match body with
  | [] => none
  | first :: _ =>
    if first = '[' then (if isScope body.tail then some none else none)
    else if !canBegin first then none
    else
      let name := body.takeWhile fun char => char ≠ '=' && char ≠ '['
      match body.drop name.length with
      | '=' :: _ =>
        (limitAfter? (text.drop (name.length + 1))).map fun limit => some ⟨some (text.take name.length), limit⟩
      | '[' :: scope => if isScope scope then some none else none
      | _ => match limit? text with
        | some limit => some (some ⟨none, limit⟩)
        | none => some (some ⟨some text, some .trace⟩)

def concerns (directive : Directive) (entry : Entry) : Bool :=
  directive.target.all fun target => entry.target.startsWith target

def weight (directive : Directive) : Nat :=
  match directive.target with
  | none => 0
  | some target => target.byteLength + 1

def lets (directive : Directive) (level : Level) : Bool :=
  directive.limit.any fun limit => level.number ≤ limit.number

end Directive

structure Filter where
  directives : List Directive
deriving DecidableEq

namespace Filter

def variableName : Text := "RUST_LOG".toList

def limitedTo (level : Level) : Filter :=
  ⟨[⟨none, some level⟩]⟩

/-- Read a list of directives. An empty list lets errors through. -/
def read? (text : Text) : Option Filter := do
  let pieces := (Text.splitOn ',' text).filter fun piece => !piece.isEmpty
  if pieces.isEmpty then return limitedTo .error
  let directives ← pieces.mapM Directive.read?
  return ⟨directives.filterMap id⟩

def ofEnvironment (environment : Environment) : Filter :=
  ((environment.get? variableName).bind read?).getD (limitedTo .info)

/-- The most specific directive for an entry, the last of several. -/
def directive? (filter : Filter) (entry : Entry) : Option Directive :=
  (filter.directives.filter fun directive => directive.concerns entry).foldl (fun best directive =>
    match best with
    | none => some directive
    | some best => if best.weight ≤ directive.weight then some directive else some best) none

def admits (filter : Filter) (entry : Entry) : Bool :=
  (filter.directive? entry).any fun directive => directive.lets entry.level

end Filter

end Journal

/-! ### The place -/

inductive PathKind where
  | absent
  | file
  | directory
deriving DecidableEq

namespace Journal

inductive Place where
  | home
  | workingDirectory
deriving DecidableEq

namespace Place

def all : List Place := [.home, .workingDirectory]

def root (home : Text) : Place → Text
  | .home => Settings.directory home
  | .workingDirectory => ".signin".toList

def directory (home : Text) (place : Place) : Text :=
  joinPath (place.root home) "logs".toList

def path (home : Text) (place : Place) : Text :=
  joinPath (place.directory home) "signin.log".toList

def occupied : Text := "File exists (os error 17)".toList

def obstacle? (home : Text) (kind : Text → PathKind) (place : Place) : Option Obstacle :=
  if kind (place.root home) = .file then
    some (.directory (place.directory home) ReadFailure.notDirectory.message)
  else if kind (place.directory home) = .file then some (.directory (place.directory home) occupied)
  else if kind (place.path home) = .directory then some (.file (place.path home) ReadFailure.directory.message)
  else none

def firstFree? (home : Text) (kind : Text → PathKind) : List Place → Option (Place × List Obstacle)
  | [] => none
  | place :: places => match place.obstacle? home kind with
    | none => some (place, [])
    | some obstacle => (firstFree? home kind places).map fun (place, obstacles) => (place, obstacle :: obstacles)

end Place

structure Record where
  place : Place
  lines : List Text
deriving DecidableEq

def keep (home : Text) (kind : Text → PathKind) (filter : Filter) (entries : List Entry) : Option Record :=
  (Place.firstFree? home kind Place.all).map fun (place, obstacles) =>
    let entries := .opened (place.path home) :: obstacles.map .hindered ++ entries
    ⟨place, (entries.filter filter.admits).map Entry.line⟩

end Journal

end TerminalSignIn
