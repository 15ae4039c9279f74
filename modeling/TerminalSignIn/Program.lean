import TerminalSignIn.Journal
import TerminalSignIn.LineMode
import TerminalSignIn.Program.Arguments
import TerminalSignIn.Session.Intake

/-!
# The program

A run of the program: the command line and the settings say which service to sign in to and in which mode. In form mode,
for a person at a terminal, bytes arrive from the terminal and replies from the service until somebody is signed in or
quits. What goes wrong before that is told on the error stream; the journal tells about all of it.
-/

namespace TerminalSignIn

/-! ### Form mode -/

namespace FormMode

inductive Happening where
  | input (bytes : Bytes)
  /-- Every call that waits gets its reply. -/
  | replies

structure State where
  run : FormRun
  gathered : Bytes
  entries : List Journal.Entry

def State.start (settings : SessionSettings) : State :=
  ⟨.start settings, [], []⟩

def State.session (state : State) : Session :=
  state.run.session

def entriesOfEvent (endpoint : Endpoint) (session : Session) : TerminalEvent → List Journal.Entry
  | .key event =>
    if Session.action? event = some .submit then
      match session.submit with
      | (some attempt, _) => [.submitting attempt, .started attempt.id, .fromKeyboard attempt.id,
          .posting endpoint attempt.email]
      | (none, session) => [.blocked session.form.failures]
    else []
  | _ => []

def entriesOfEvents (endpoint : Endpoint) (session : Session) : List TerminalEvent → List Journal.Entry
  | [] => []
  | event :: events =>
    let next := session.takeEvent event
    entriesOfEvent endpoint session event
      ++ if next.quitting then [] else entriesOfEvents endpoint next events

def entriesOfAnswer (title : Option Text) (attempt : AttemptId) (answer : Answer) : List Journal.Entry :=
  Journal.ofAnswer attempt answer ++ match answer with
    | .accepted => []
    | .rejected rejection => ((Notice.ofError? title rejection.displayed.text).map .noticed).toList

def State.frame (state : State) (endpoint : Endpoint) (bytes : Bytes) (deliveries : List (Nat × Delivery)) : State :=
  let (events, gathered) := decodeInput true state.gathered bytes
  let answers := deliveries.map fun (number, delivery) => (number, endpoint.answer delivery)
  let pending := state.run.pending ++ events
  let drained := (state.session.drainFrame pending).1
  let applied := if drained.quitting then [] else
    deliveries.flatMap (fun (_, delivery) => Journal.ofDelivery endpoint delivery)
      ++ (FormRun.deliver drained answers).queue.flatMap fun (attempt, answer) =>
        entriesOfAnswer drained.desk.title attempt.id answer
  ⟨state.run.frame ⟨events, answers⟩, gathered,
    state.entries ++ entriesOfEvents endpoint state.session (pending.take Session.frameLimit) ++ applied⟩

def State.catchUp (state : State) (endpoint : Endpoint) : State :=
  (List.replicate state.run.pending.length ()).foldl (fun state _ =>
    if state.session.quitting || state.run.pending.isEmpty then state else state.frame endpoint [] []) state

def waitingNumbers (session : Session) : List Nat :=
  (List.range session.calls.length).filter fun number =>
    (session.calls[number]?).any session.waiting.contains

def State.step (state : State) (endpoint : Endpoint) (service : Nat → Delivery) (happening : Happening) : State :=
  if state.session.quitting then state
  else match happening with
    | .input bytes => (state.frame endpoint bytes []).catchUp endpoint
    | .replies => state.frame endpoint [] ((waitingNumbers state.session).map fun number => (number, service number))

def run (settings : SessionSettings) (endpoint : Endpoint) (service : Nat → Delivery)
    (happenings : List Happening) : State :=
  happenings.foldl (fun state happening => state.step endpoint service happening) (.start settings)

end FormMode

/-! ### Runs -/

namespace Program

/-- What a run finds: the home directory and the variables, the settings file, what else stands at a path, and the
library that reads URLs. -/
structure Surroundings where
  home : Text
  environment : Environment
  settingsFile : FileContent
  kind : Text → PathKind
  readUrl : Text → Except UrlError Url := Url.parse

structure Setup where
  endpoint : Endpoint
  email : Option Text
  title : Option Text
  options : DisplayOptions
  /-- The seconds that a connection may take. -/
  connectTimeout : Nat

def Setup.session (setup : Setup) : SessionSettings :=
  ⟨setup.email, setup.title, setup.options⟩

inductive SetupError where
  | noService
  | endpoint (error : EndpointError)
deriving DecidableEq

namespace SetupError

def messages : SetupError → List Text
  | .noService =>
    ["no sign-in service configured: set [auth] base_url, SIGNIN_BASE_URL or --base-url".toList]
  | .endpoint error => error.message :: error.causes

end SetupError

def assemble (settings : Settings) (surroundings : Surroundings) (arguments : Arguments) : Except SetupError Setup :=
  let environment := surroundings.environment
  match settings.effectiveBaseUrl environment arguments.baseUrl with
  | none => .error .noService
  | some base => match Endpoint.ofService base settings.signInPath settings.allowHttp surroundings.readUrl with
    | .error error => .error (.endpoint error)
    | .ok endpoint => .ok {
        endpoint
        email := settings.effectiveEmail environment arguments.email
        title := settings.notificationTitle
        options := settings.displayOptions
        connectTimeout := settings.connectTimeout }

def causeLines : List Text → List Text
  | [cause] => ["    ".toList ++ cause]
  | causes => causes.zipIdx.map fun (cause, number) =>
    "    ".toList ++ Text.ofNat number ++ ": ".toList ++ cause

def errorText : List Text → Text
  | [] => []
  | [message] => "Error: ".toList ++ message ++ ['\n']
  | message :: causes =>
    "Error: ".toList ++ message ++ "\n\nCaused by:\n".toList ++ Text.join ['\n'] (causeLines causes) ++ ['\n']

structure Report where
  exitStatus : Nat
  output : Text
  errors : Text
  requests : List SignInRequest
  /-- The form was shown. -/
  shown : Bool
  entries : List Journal.Entry

namespace Report

def ofInterruption (interruption : Interruption) : Report :=
  ⟨interruption.exitStatus, interruption.output, interruption.errors, [], false, []⟩

def ofError (messages : List Text) : Report :=
  ⟨1, [], errorText messages, [], false, []⟩

def after (report : Report) (errors : Text) (entries : List Journal.Entry) : Report :=
  { report with errors := errors ++ report.errors, entries := entries ++ report.entries }

end Report

def lineEntries (endpoint : Endpoint) (delivery : Delivery) (report : LineMode.Report) : List Journal.Entry :=
  match report.call with
  | some attempt =>
    [.submitting attempt, .posting endpoint attempt.email] ++ Journal.ofDelivery endpoint delivery
      ++ Journal.ofAnswer attempt.id (endpoint.answer delivery)
  | none => if report.failures.isEmpty then [] else [.blocked report.failures]

def lineFailure : Text := "plain sign-in failed".toList

def ofLines (endpoint : Endpoint) (delivery : Delivery) (report : LineMode.Report) : Report :=
  let entries := lineEntries endpoint delivery report
  let requests := report.call.toList.map fun attempt => endpoint.request attempt.email attempt.password
  match report.outcome with
  | .error failure =>
    ⟨1, report.output, report.errors.contents ++ errorText (lineFailure :: failure.messages), requests, false,
      entries⟩
  | .ok outcome =>
    ⟨if outcome = .authenticated then 0 else 1, report.output, report.errors.contents, requests, false,
      entries ++ [.finished outcome]⟩

def ofForm (endpoint : Endpoint) (state : FormMode.State) : Report where
  exitStatus := state.run.exitStatus
  output := (state.session.signedIn.map LineMode.successLine).getD []
  errors := []
  requests := state.session.calls.map fun attempt => endpoint.request attempt.email attempt.password
  shown := true
  entries := state.entries

def settingsWarning (error : SettingsError) : Text :=
  "Ignoring config: ".toList ++ error.message ++ ['\n']

structure Preparation where
  warning : Text
  entries : List Journal.Entry
  setup : Except SetupError Setup

def prepare (surroundings : Surroundings) (arguments : Arguments) : Preparation :=
  let loaded := Settings.load (Settings.filePath surroundings.home) surroundings.settingsFile
  let (settings, warning, entries) : Settings × Text × List Journal.Entry := match loaded with
    | .ok settings => (settings.getD .none, [], [])
    | .error error => (.none, settingsWarning error, [.ignored error])
  let setup := assemble settings surroundings arguments
  ⟨warning, entries ++ (setup.toOption.map fun setup => .ready setup.endpoint).toList, setup⟩

def sign (setup : Setup) (arguments : Arguments) (input : Bytes) (happenings : List FormMode.Happening)
    (service : Nat → Delivery) : Report :=
  let endpoint := setup.endpoint
  if arguments.plain then
    ofLines endpoint (service 0) (LineMode.run setup.email setup.title input false false fun _ =>
      endpoint.answer (service 0))
  else ofForm endpoint (FormMode.run setup.session endpoint service happenings)

/-- Run the program. It reads `input` in line mode, and `happenings` is what happens to the form in form mode;
the service is asked for its delivery to each request, the first of which has the number zero. A run that is
interrupted keeps no journal. -/
def run (surroundings : Surroundings) (arguments : List Text) (input : Bytes)
    (happenings : List FormMode.Happening) (service : Nat → Delivery) : Report × Option Journal.Record :=
  match Arguments.read arguments with
  | .error interruption => (.ofInterruption interruption, none)
  | .ok arguments =>
    let preparation := prepare surroundings arguments
    let report := match preparation.setup with
      | .error error => Report.ofError error.messages
      | .ok setup => sign setup arguments input happenings service
    let report := report.after preparation.warning preparation.entries
    (report, Journal.keep surroundings.home surroundings.kind (.ofEnvironment surroundings.environment)
      report.entries)

end Program

end TerminalSignIn
