import TerminalSignIn.Program
import TerminalSignIn.Proofs.Desk.Message
import TerminalSignIn.Proofs.Form.Address
import TerminalSignIn.Proofs.LineMode.Reading
import TerminalSignIn.Proofs.Notice.Line

/-!
# What line mode tells

The lines of the input become one submission, and its outcome becomes lines on the two streams and an exit status. The
checks that are complained about are exactly those that stopped the submission, since it leaves no message of the
service on the form.
-/

namespace TerminalSignIn

namespace LineMode

/-- The lines about what was entered: one for each check that fails, field after field in the order of the checks. The
check for a message of the service is none of them. -/
def complaints (credentials : Credentials) : List Text :=
  Field.all.flatMap fun field =>
    (field.validators.filter fun validator =>
      validator.check ≠ .server && !validator.passes ⟨credentials.value field, none⟩).map fun validator =>
        describeFailure field validator.check

def emailComplaints (email : Text) : List Text :=
  if email = [] then ["Email is required".toList]
  else if Email.isAddress email then [] else ["Email is not a valid email address".toList]

def passwordComplaints (password : Text) : List Text :=
  if password = [] then ["Password is required".toList] else []

/-- An empty email is no address either, and yet it is complained about once. -/
theorem complaints_eq (credentials : Credentials) :
    complaints credentials =
      emailComplaints (credentials.email.getD []) ++ passwordComplaints (credentials.password.getD []) := by
  obtain ⟨email, password⟩ := credentials
  have emails : (Field.validators .email).filter (fun validator =>
      validator.check ≠ .server && !validator.passes ⟨email, none⟩) =
      if email.getD [] = [] then [Validator.required]
      else if Email.isAddress (email.getD []) then [] else [Validator.email] := by
    cases email with
    | none => rfl
    | some email =>
      simp [Field.validators, Validator.required, Validator.email, Validator.server]
      grind
  have passwords : (Field.validators .password).filter (fun validator =>
      validator.check ≠ .server && !validator.passes ⟨password, none⟩) =
      if password.getD [] = [] then [Validator.required] else [] := by
    cases password with
    | none => rfl
    | some password =>
      simp [Field.validators, Validator.required, Validator.server]
      grind
  have texts : describeFailure .email .required = "Email is required".toList ∧
      describeFailure .email .email = "Email is not a valid email address".toList ∧
      describeFailure .password .required = "Password is required".toList := by decide
  obtain ⟨missing, malformed, secretless⟩ := texts
  rw [complaints, Field.all, List.flatMap_cons, List.flatMap_singleton, Credentials.value, Credentials.value, emails,
    passwords, emailComplaints, passwordComplaints, ← missing, ← malformed, ← secretless]
  split_ifs <;> rfl

theorem length_complaints {credentials : Credentials} (unfit : ¬ credentials.Submittable) :
    1 ≤ (complaints credentials).length ∧ (complaints credentials).length ≤ 2 := by
  rw [Credentials.Submittable, Submittable] at unfit
  rw [complaints_eq, emailComplaints, passwordComplaints]
  split_ifs <;> simp_all

theorem feed_notMem_describeFailure (field : Field) (check : Check) : '\n' ∉ describeFailure field check := by
  cases field <;> cases check <;> decide

theorem describeFailure_ne_server {check : Check} (own : check ≠ .server) (field other : Field) :
    describeFailure field check ≠ describeFailure other .server := by
  cases check with
  | required => cases field <;> cases other <;> decide
  | email => cases field <;> cases other <;> decide
  | server => contradiction

theorem mem_complaints {credentials : Credentials} {line : Text} (member : line ∈ complaints credentials) :
    '\n' ∉ line ∧ ∀ field, line ≠ describeFailure field .server := by
  obtain ⟨field, _, member⟩ := List.mem_flatMap.mp member
  obtain ⟨validator, kept, rfl⟩ := List.mem_map.mp member
  have own : validator.check ≠ .server := by
    have fails := (List.mem_filter.mp kept).2
    rw [Bool.and_eq_true, decide_eq_true_eq] at fails
    exact fails.1
  exact ⟨feed_notMem_describeFailure field validator.check, describeFailure_ne_server own field⟩

theorem failureLines_eq {form : Form} (fresh : form.Fresh) (clear : form.serverError = none) :
    failureLines form = complaints form.credentials := by
  have failing : ∀ field, (form.field field).failing = field.failing ⟨form.credentials.value field, none⟩ := by
    intro field
    rw [fresh field, Form.input, clear]
  simp [failureLines, Form.failures, complaints, failing, Field.failing, List.filter_flatMap, List.map_flatMap,
    List.filter_map, Function.comp_def, List.filter_filter]

/-! ### One submission -/

def asked (credentials : Credentials) : Attempt :=
  ⟨.first, credentials.email.getD [], credentials.password.getD []⟩

def desk (credentials : Credentials) (title : Option Text) (errors : LineSink) : Desk LineSink :=
  .withForm (.ofCredentials credentials) title errors

theorem credentials_desk (credentials : Credentials) (title : Option Text) (errors : LineSink) :
    (desk credentials title errors).form.credentials = credentials := by
  simp [desk, Desk.withForm, Desk.installValidators, Desk.edit, Form.update, Form.ofCredentials]

theorem begin_desk (credentials : Credentials) (title : Option Text) (errors : LineSink) :
    (desk credentials title errors).begin.1 = if credentials.Submittable then some (asked credentials) else none := by
  rw [Desk.begin_attempt_eq, Desk.nextAttempt, credentials_desk]
  rfl

theorem submit_blocked {credentials : Credentials} (unfit : ¬ credentials.Submittable) (title : Option Text)
    (outputBroken : Bool) (errors : LineSink) (service : Attempt → Answer) :
    ∃ failures, submit credentials title outputBroken errors service =
      ⟨.ok .aborted, [], (complaints credentials).foldl LineSink.write errors, failures, none⟩ := by
  have blocked : (desk credentials title errors).begin.1 = none := by
    rw [begin_desk, if_neg unfit]
  have lines : failureLines (desk credentials title errors).begin.2.form = complaints credentials := by
    have clear := Desk.begin_message (desk credentials title errors)
    rw [Desk.begin_form] at clear ⊢
    rw [failureLines_eq (Desk.fresh_updates_examination _) clear, Desk.credentials_updates_examination,
      credentials_desk]
  rw [submit, ← desk, Desk.signIn_blocked _ blocked]
  dsimp only
  rw [lines, Desk.begin_sink]
  exact ⟨_, rfl⟩

theorem submit_passed {credentials : Credentials} (fit : credentials.Submittable) (title : Option Text)
    (outputBroken : Bool) (errors : LineSink) (service : Attempt → Answer) :
    submit credentials title outputBroken errors service = match service (asked credentials) with
      | .accepted =>
        if outputBroken then ⟨.error .brokenOutput, [], errors, [], some (asked credentials)⟩
        else ⟨.ok .authenticated, successLine (credentials.email.getD []), errors, [], some (asked credentials)⟩
      | .rejected rejection =>
        ⟨.ok (.rejected rejection.displayed), [], errors.showError title rejection.displayed.text, [],
          some (asked credentials)⟩ := by
  have passed : (desk credentials title errors).begin.1 = some (asked credentials) := by
    rw [begin_desk, if_pos fit]
  obtain ⟨_, begun⟩ := Desk.begin_passed_eq _ passed
  -- Of the desk that is left, only what goes into the report matters, and the submission changes none of it.
  have email : (desk credentials title errors).begin.2.form.credentials.email = credentials.email := by
    rw [begun]
    simp [credentials_desk]
  have titled : (desk credentials title errors).begin.2.title = title := by
    rw [begun]
    rfl
  have sink : (desk credentials title errors).begin.2.sink = errors := by
    rw [begun]
    rfl
  rw [submit, ← desk, Desk.signIn_passed _ passed]
  generalize (desk credentials title errors).begin.2 = left at email titled sink
  subst titled sink
  cases service (asked credentials) with
  | accepted =>
    rw [← email]
    rfl
  | rejected rejection =>
    have told := Desk.complete_rejected_sink left (asked credentials).id rejection
    rw [← Rejection.text_displayed] at told
    show (⟨_, _, (left.complete (asked credentials).id (.rejected rejection)).2.sink, _, _⟩ : Report) = _
    rw [told]
    rfl

theorem submittable_iff {credentials : Credentials} : credentials.Submittable ↔
    ∃ email password, credentials = ⟨some email, some password⟩ ∧ Email.isAddress email = true ∧ password ≠ [] := by
  obtain ⟨email, password⟩ := credentials
  constructor
  · rintro ⟨typed, address, secret⟩
    cases email with
    | none => contradiction
    | some email =>
      cases password with
      | none => contradiction
      | some password => exact ⟨email, password, rfl, address, secret⟩
  · rintro ⟨typed, _, same, address, secret⟩
    cases same
    have filled : typed ≠ [] := by
      rintro rfl
      exact absurd address (by decide)
    exact ⟨filled, address, secret⟩

theorem feed_notMem_of_isAddress {email : Text} (address : Email.isAddress email = true) : '\n' ∉ email := by
  obtain ⟨name, domain, parts, _, _⟩ := (Email.isAddress_iff email).mp address
  intro member
  exact absurd (parts.visible member).2.2 (by decide)

theorem lines_foldl_write (lines : List Text) (sink : LineSink) (working : sink.broken = false) :
    (lines.foldl LineSink.write sink).lines = sink.lines ++ lines := by
  induction lines generalizing sink with
  | nil => exact (List.append_nil _).symm
  | cons line lines ih =>
    have step : sink.write line = { sink with lines := sink.lines ++ [line] } := by
      rw [LineSink.write, working]
      rfl
    have rest := ih { sink with lines := sink.lines ++ [line] } working
    rw [List.foldl_cons, step, rest, List.append_assoc, List.singleton_append]

theorem showError_displayed (title : Option Text) (rejection : Rejection) :
    (LineSink.showError ⟨false, []⟩ title rejection.displayed.text).lines =
      [title.getD LineSink.defaultTitle ++ ": ".toList ++ rejection.displayed.text] := by
  have filled : rejection.displayed.text.isEmpty = false := by
    rw [List.isEmpty_eq_false_iff]
    exact rejection.displayed.text_ne_nil
  rw [LineSink.showError, LineSink.errorLine?, rejection.display_displayed, filled]
  rfl

/-! ### The whole run -/

/-- What a report owes to what was entered and to the answer of the service: the service is called if there is an
address and a password, with these; the outcome is its answer, or that it was not called; and each outcome is told in
lines of its own. -/
structure Faithful (credentials : Credentials) (title : Option Text) (service : Attempt → Answer) (report : Report) :
    Prop where
  called : ∀ attempt, report.call = some attempt ↔ ∃ email password, credentials = ⟨some email, some password⟩ ∧
    Email.isAddress email = true ∧ password ≠ [] ∧ attempt = ⟨.first, email, password⟩
  aborted : report.outcome = .ok .aborted ↔ report.call = none
  authenticated : report.outcome = .ok .authenticated ↔
    ∃ attempt, report.call = some attempt ∧ service attempt = .accepted
  rejected : ∀ message, report.outcome = .ok (.rejected message) ↔
    ∃ attempt rejection, report.call = some attempt ∧ service attempt = .rejected rejection ∧
      message = rejection.displayed
  successTold : report.outcome = .ok .authenticated → ∃ email, credentials.email = some email ∧ '\n' ∉ email ∧
    report.output = "Signed in as ".toList ++ email ++ ['\n'] ∧ report.errors.contents = []
  complaintsTold : report.outcome = .ok .aborted →
    report.output = [] ∧ report.errors.lines = complaints credentials ∧
    1 ≤ report.errors.lines.length ∧ report.errors.lines.length ≤ 2 ∧
    ∀ line ∈ report.errors.lines, '\n' ∉ line ∧ ∀ field, line ≠ describeFailure field .server
  rejectionTold : ∀ message, report.outcome = .ok (.rejected message) →
    report.output = [] ∧ message.text ≠ [] ∧
    report.errors = NoticeSink.report (⟨false, []⟩ : LineSink) title message.text ∧
    report.errors.lines = [title.getD LineSink.defaultTitle ++ ": ".toList ++ message.text]

theorem faithful_blocked {credentials : Credentials} (unfit : ¬ credentials.Submittable) (title : Option Text)
    (service : Attempt → Answer) :
    Faithful credentials title service (submit credentials title false ⟨false, []⟩ service) := by
  obtain ⟨failures, same⟩ := submit_blocked unfit title false ⟨false, []⟩ service
  have lines : ((complaints credentials).foldl LineSink.write ⟨false, []⟩).lines = complaints credentials := by
    rw [lines_foldl_write _ _ rfl, List.nil_append]
  rw [same]
  constructor
  case called =>
    intro attempt
    refine ⟨nofun, ?_⟩
    rintro ⟨email, password, typed, address, secret, _⟩
    exact absurd (submittable_iff.mpr ⟨email, password, typed, address, secret⟩) unfit
  case aborted => exact ⟨fun _ => rfl, fun _ => rfl⟩
  case authenticated => exact ⟨nofun, nofun⟩
  case rejected => exact fun _ => ⟨nofun, nofun⟩
  case successTold => exact nofun
  case complaintsTold =>
    intro _
    dsimp only
    rw [lines]
    obtain ⟨some, few⟩ := length_complaints unfit
    exact ⟨rfl, rfl, some, few, fun _ => mem_complaints⟩
  case rejectionTold => exact fun _ => nofun

theorem faithful_passed {credentials : Credentials} (fit : credentials.Submittable) (title : Option Text)
    (service : Attempt → Answer) :
    Faithful credentials title service (submit credentials title false ⟨false, []⟩ service) := by
  rw [submit_passed fit]
  obtain ⟨email, password, rfl, address, secret⟩ := submittable_iff.mp fit
  have called : ∀ attempt, some (asked ⟨some email, some password⟩) = some attempt ↔
      ∃ given secretly, (⟨some email, some password⟩ : Credentials) = ⟨some given, some secretly⟩ ∧
        Email.isAddress given = true ∧ secretly ≠ [] ∧ attempt = ⟨.first, given, secretly⟩ := by
    intro attempt
    constructor
    · rintro ⟨⟩
      exact ⟨email, password, rfl, address, secret, rfl⟩
    · rintro ⟨_, _, same, _, _, rfl⟩
      cases same
      rfl
  cases answer : service (asked ⟨some email, some password⟩) with
  | accepted =>
    constructor
    case called => exact called
    case aborted => exact ⟨nofun, nofun⟩
    case authenticated => exact ⟨fun _ => ⟨_, rfl, answer⟩, fun _ => rfl⟩
    case rejected =>
      refine fun _ => ⟨nofun, ?_⟩
      rintro ⟨_, rejection, same, refused, _⟩
      cases same
      rw [answer] at refused
      contradiction
    case successTold => exact fun _ => ⟨email, rfl, feed_notMem_of_isAddress address, rfl, rfl⟩
    case complaintsTold => exact nofun
    case rejectionTold => exact fun _ => nofun
  | rejected rejection =>
    constructor
    case called => exact called
    case aborted => exact ⟨nofun, nofun⟩
    case authenticated =>
      refine ⟨nofun, ?_⟩
      rintro ⟨_, same, taken⟩
      cases same
      rw [answer] at taken
      contradiction
    case rejected =>
      intro message
      constructor
      · intro told
        have same : rejection.displayed = message := Outcome.rejected.inj (Except.ok.inj told)
        exact ⟨_, rejection, rfl, answer, same.symm⟩
      · rintro ⟨_, other, same, refused, rfl⟩
        cases same
        rw [answer] at refused
        cases refused
        rfl
    case successTold => exact nofun
    case complaintsTold => exact nofun
    case rejectionTold =>
      intro message told
      have same : rejection.displayed = message := Outcome.rejected.inj (Except.ok.inj told)
      subst same
      exact ⟨rfl, rejection.displayed.text_ne_nil, rfl, showError_displayed title rejection⟩

theorem faithful_run {email : Option Text} {text : Text} {credentials : Credentials}
    (entered : Entered email text credentials) (title : Option Text) (service : Attempt → Answer) :
    Faithful credentials title service (run email title (Utf8.encode text) false false service) := by
  rw [run, readCredentials_entered entered]
  by_cases fit : credentials.Submittable
  · exact faithful_passed fit title service
  · exact faithful_blocked fit title service

theorem run_broken {email : Option Text} {input line : Bytes} (needed : line ∈ neededLines email input)
    (broken : ∀ text, line ≠ Utf8.encode text) (title : Option Text) (outputBroken errorsBroken : Bool)
    (service : Attempt → Answer) :
    let report := run email title input outputBroken errorsBroken service
    (∃ field, report.outcome = .error (.unreadable field)) ∧ report.call = none := by
  obtain ⟨field, failed⟩ := readCredentials_broken needed broken
  rw [run, failed]
  exact ⟨⟨field, rfl⟩, rfl⟩

end LineMode

namespace Program

theorem exitStatus_ofLines (endpoint : Endpoint) (delivery : Delivery) (report : LineMode.Report) :
    (ofLines endpoint delivery report).exitStatus = 0 ↔ report.outcome = .ok .authenticated := by
  cases told : report.outcome with
  | error failure =>
    rw [ofLines, told]
    exact ⟨nofun, nofun⟩
  | ok outcome =>
    rw [ofLines, told]
    by_cases same : outcome = .authenticated <;> simp [same]

theorem output_ofLines (endpoint : Endpoint) (delivery : Delivery) (report : LineMode.Report) :
    (ofLines endpoint delivery report).output = report.output := by
  rw [ofLines]
  split <;> rfl

theorem run_plain {surroundings : Surroundings} {arguments : List Text} {given : Arguments} {setup : Setup}
    (read : Arguments.read arguments = .ok given) (plain : given.plain = true)
    (ready : (prepare surroundings given).setup = .ok setup) (input : Bytes)
    (happenings : List FormMode.Happening) (deliveries : Nat → Delivery) :
    let report := LineMode.run setup.email setup.title input false false fun _ => setup.endpoint.answer (deliveries 0)
    let left := (run surroundings arguments input happenings deliveries).1
    left.output = report.output ∧ (left.exitStatus = 0 ↔ report.outcome = .ok .authenticated) := by
  intro report left
  have same : left = (ofLines setup.endpoint (deliveries 0) report).after (prepare surroundings given).warning
      (prepare surroundings given).entries := by
    dsimp only [left]
    rw [run, read]
    dsimp only
    rw [ready]
    dsimp only
    rw [sign, if_pos plain]
  rw [same]
  exact ⟨output_ofLines _ _ _, exitStatus_ofLines _ _ _⟩

end Program

/-- What comes of the lines that are entered is told exactly: which service is called with what, which outcome is in
which lines on which stream. A run that cannot read a line that it needs fails and calls nobody, and the program exits
with 0 exactly on success. -/
theorem LineMode.run_faithful :
    (∀ (email : Option Text) (text : Text), ∃! credentials, Entered email text credentials) ∧
    (∀ (email title : Option Text) (text : Text) (credentials : Credentials) (service : Attempt → Answer),
      Entered email text credentials →
      Faithful credentials title service (run email title (Utf8.encode text) false false service)) ∧
    (∀ (email title : Option Text) (input line : Bytes) (outputBroken errorsBroken : Bool)
        (service : Attempt → Answer),
      line ∈ neededLines email input → (∀ text, line ≠ Utf8.encode text) →
      let report := run email title input outputBroken errorsBroken service
      (∃ field, report.outcome = .error (.unreadable field)) ∧ report.call = none) ∧
    ∀ (surroundings : Program.Surroundings) (arguments : List Text) (given : Arguments) (setup : Program.Setup)
      (input : Bytes) (happenings : List FormMode.Happening) (deliveries : Nat → Delivery),
      Arguments.read arguments = .ok given → given.plain = true →
      (Program.prepare surroundings given).setup = .ok setup →
      let report := run setup.email setup.title input false false fun _ => setup.endpoint.answer (deliveries 0)
      let left := (Program.run surroundings arguments input happenings deliveries).1
      left.output = report.output ∧ (left.exitStatus = 0 ↔ report.outcome = .ok .authenticated) := by
  refine ⟨existsUnique_entered, fun _ title _ _ service entered => faithful_run entered title service,
    fun _ title _ _ outputBroken errorsBroken service needed broken =>
      run_broken needed broken title outputBroken errorsBroken service, ?_⟩
  intro surroundings arguments given setup input happenings deliveries read plain ready
  exact Program.run_plain read plain ready input happenings deliveries

/-- A line that ends in a carriage return and one with spaces around it, a line that is no text behind one that is, and
a run of the program that succeeds. -/
theorem LineMode.run_faithful_by_lines :
    let email := "a@b.c".toList
    let credentials : Credentials := ⟨some email, some " x y ".toList⟩
    let text := "a@b.c\r\n x y \nand more".toList
    let report := run none none (Utf8.encode text) false false fun _ => .accepted
    let broken : Bytes := [0x61, 0x0A, 0xFF]
    let surroundings : Program.Surroundings := ⟨[], ⟨fun _ => none⟩, .missing, fun _ => .absent, Url.parse⟩
    let arguments := ["--plain".toList, "--email".toList, email, "--base-url".toList, "https://b.c".toList]
    (Entered none text credentials ∧ report.call = some ⟨.first, email, " x y ".toList⟩ ∧
      report.output = "Signed in as a@b.c\n".toList) ∧
    ([0xFF] ∈ neededLines none broken ∧ (run none none broken false false fun _ => .accepted).call = none) ∧
    (Program.run surroundings arguments (Utf8.encode ['x']) [] fun _ => .reply ⟨⟨204⟩, []⟩).1.exitStatus = 0 := by
  intro email credentials text report broken surroundings arguments
  obtain ⟨_, faithful, unreadable, exits⟩ := run_faithful
  have entered : Entered none text credentials := by
    have address : IsContent email := ⟨by decide, by decide⟩
    have secret : IsContent " x y ".toList := ⟨by decide, by decide⟩
    have first : NextLine text (some email) " x y \nand more".toList := .ended address 1 _
    have second : NextLine " x y \nand more".toList (some " x y ".toList) "and more".toList := .ended secret 0 _
    exact .both first second
  have told := faithful none none text credentials (fun _ => .accepted) entered
  have called : report.call = some ⟨.first, email, " x y ".toList⟩ :=
    (told.called _).mpr ⟨email, _, rfl, by decide, by decide, rfl⟩
  have success : report.outcome = .ok .authenticated := told.authenticated.mpr ⟨_, called, rfl⟩
  obtain ⟨_, same, _, output, _⟩ := told.successTold success
  cases same
  have needed : [0xFF] ∈ neededLines none broken := by decide
  have noText : ∀ text, [0xFF] ≠ Utf8.encode text := by
    intro text encoded
    have decoded : Utf8.decode? [0xFF] = some text := Utf8.decode?_eq_some_iff.mpr encoded
    exact absurd (decoded.symm.trans (show Utf8.decode? [0xFF] = none from rfl)) (Option.some_ne_none text)
  have given : Arguments.read arguments = .ok ⟨true, some email, some "https://b.c".toList⟩ := by decide
  have ready : (Program.prepare surroundings ⟨true, some email, some "https://b.c".toList⟩).setup = .ok
    ⟨⟨"https".toList, some ⟨.none, .domain "b.c".toList, none⟩,
      .segments ["api".toList, ['v', '1'], "signin".toList], none, none⟩, some email, none, ⟨false, false⟩, 30⟩ := rfl
  obtain ⟨_, exit⟩ :=
    exits surroundings arguments _ _ (Utf8.encode ['x']) [] (fun _ => .reply ⟨⟨204⟩, []⟩) given rfl ready
  exact ⟨⟨entered, called, output⟩, ⟨needed, (unreadable none none _ _ false false _ needed noText).2⟩, exit.mpr rfl⟩

end TerminalSignIn
