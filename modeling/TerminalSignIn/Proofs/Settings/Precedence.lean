import TerminalSignIn.Program.Arguments
import TerminalSignIn.Proofs.Settings.Address

/-!
# Blank sources

The address of the service and the email have three sources each, asked in order: an option of the command line, a
variable, and the file. A blank source of the address counts as one that is absent, unless the file refers to the very
variable that is blank. A blank source of the email counts as absent only where nothing comes after it: a blank option
is taken as it stands, and a blank variable hides the email in the file.
-/

namespace TerminalSignIn

namespace Environment

def without (environment : Environment) (name : Text) : Environment :=
  ⟨fun other => if other = name then none else environment.get? other⟩

/-- A variable that a text does not refer to makes no difference to it, and neither does one that is empty. -/
theorem expand_without (environment : Environment) {name : Text} {template : Template}
    (wellFormed : template.WellFormed) (idle : name ∉ template.names ∨ environment.get? name = some []) :
    (environment.without name).expand template.toText = environment.expand template.toText := by
  rw [expand_toText _ wellFormed, expand_toText _ wellFormed]
  apply Template.fill_congr
  intro other listed
  unfold value without
  dsimp only
  split
  next same =>
    subst same
    rcases idle with unlisted | empty
    · exact absurd listed unlisted
    · rw [empty]
      rfl
  next => rfl

end Environment

inductive Preference where
  | baseUrl
  | email

def Preference.variableName : Preference → Text
  | .baseUrl => Settings.baseUrlVariable
  | .email => Settings.emailVariable

/-- Where a setting may stand, in the order in which the sources are asked. -/
inductive Source where
  | option
  | environment
  | file
deriving DecidableEq

structure Sources where
  arguments : Arguments
  environment : Environment
  settings : Settings

namespace Sources

def value? (sources : Sources) : Preference → Source → Option Text
  | .baseUrl, .option => sources.arguments.baseUrl
  | .email, .option => sources.arguments.email
  | preference, .environment => sources.environment.get? preference.variableName
  | .baseUrl, .file => sources.settings.auth.bind AuthSettings.baseUrl
  | .email, .file => sources.settings.app.bind AppSettings.email

def without (sources : Sources) : Preference → Source → Sources
  | .baseUrl, .option => { sources with arguments := { sources.arguments with baseUrl := none } }
  | .email, .option => { sources with arguments := { sources.arguments with email := none } }
  | preference, .environment => { sources with environment := sources.environment.without preference.variableName }
  | .baseUrl, .file => { sources with settings := { sources.settings with
      auth := sources.settings.auth.map fun auth => { auth with baseUrl := none } } }
  | .email, .file => { sources with settings := { sources.settings with
      app := sources.settings.app.map fun app => { app with email := none } } }

def effective (sources : Sources) : Preference → Option Text
  | .baseUrl => sources.settings.effectiveBaseUrl sources.environment sources.arguments.baseUrl
  | .email => sources.settings.effectiveEmail sources.environment sources.arguments.email

/-- The address that the option names, if something is left of it. -/
def namedBaseUrl? (sources : Sources) : Option Text :=
  sources.arguments.baseUrl.bind fun value => Settings.withoutSlashes? value.trim

/-- A source that is blank stands in the way of those after it: an option for the email always, a variable for the email
if the file has one and the option is not given, and a variable for the address if the file has an address that comes
out differently without it. -/
def Obstructs (sources : Sources) : Preference → Source → Prop
  | .email, .option => True
  | .email, .environment => sources.arguments.email = none ∧
      ∃ email, sources.value? .email .file = some email ∧ email.trim ≠ []
  | .baseUrl, .environment => sources.namedBaseUrl? = none ∧
      ∃ text, sources.value? .baseUrl .file = some text ∧
        Settings.resolveBaseUrl (sources.environment.without Settings.baseUrlVariable) text ≠
          Settings.resolveBaseUrl sources.environment text
  | _, _ => False

theorem value?_without (sources : Sources) (preference : Preference) (source other : Source) :
    (sources.without preference source).value? preference other =
      if other = source then none else sources.value? preference other := by
  cases source with
  | option => cases preference <;> cases other <;> rfl
  | environment => cases preference <;> cases other <;> simp [value?, without, Environment.without]
  | file =>
    cases preference with
    | baseUrl =>
      cases other with
      | file => cases auth : sources.settings.auth <;> simp [value?, without, auth]
      | _ => rfl
    | email =>
      cases other with
      | file => cases app : sources.settings.app <;> simp [value?, without, app]
      | _ => rfl

section

variable {sources : Sources} {blank : Text}

/-! ### The address -/

theorem effective_baseUrl (sources : Sources) : sources.effective .baseUrl =
    sources.namedBaseUrl?.or (sources.settings.baseUrl sources.environment) := rfl

theorem resolveBaseUrl_of_blank (environment : Environment) (nothing : blank.trim = []) :
    Settings.resolveBaseUrl environment blank = none := by
  unfold Settings.resolveBaseUrl
  rw [nothing, Environment.expand]
  rfl

theorem baseUrl_of_silent (sources : Sources)
    (silent : ∀ value ∈ sources.value? .baseUrl .environment, value.trim = []) :
    sources.settings.baseUrl sources.environment =
      (sources.value? .baseUrl .file).bind (Settings.resolveBaseUrl sources.environment) := by
  have unheeded : (sources.environment.get? Settings.baseUrlVariable).filter
      (fun value => !Settings.isBlankText value) = none := by
    rw [Option.filter_eq_none_iff]
    intro value held
    simp [Settings.isBlankText, silent value held]
  unfold Settings.baseUrl
  simp only [unheeded, Option.none_or]
  rfl

theorem effective_baseUrl_blank_option (given : sources.value? .baseUrl .option = some blank)
    (nothing : blank.trim = []) :
    (sources.without .baseUrl .option).effective .baseUrl = sources.effective .baseUrl := by
  have unnamed : sources.namedBaseUrl? = none := by
    unfold namedBaseUrl?
    rw [show sources.arguments.baseUrl = some blank from given, Option.bind_some, nothing]
    rfl
  rw [effective_baseUrl, effective_baseUrl, unnamed]
  rfl

theorem effective_baseUrl_blank_variable (given : sources.value? .baseUrl .environment = some blank)
    (nothing : blank.trim = []) :
    (sources.without .baseUrl .environment).effective .baseUrl = sources.effective .baseUrl ↔
      ¬ sources.Obstructs .baseUrl .environment := by
  have silent : ∀ value ∈ sources.value? .baseUrl .environment, value.trim = [] := by
    rw [given]
    rintro _ ⟨rfl⟩
    exact nothing
  have absent : ∀ value ∈ (sources.without .baseUrl .environment).value? .baseUrl .environment, value.trim = [] := by
    rw [value?_without, if_pos rfl]
    exact nofun
  have unset : (sources.without .baseUrl .environment).effective .baseUrl =
      sources.namedBaseUrl?.or ((sources.value? .baseUrl .file).bind
        (Settings.resolveBaseUrl (sources.environment.without Settings.baseUrlVariable))) :=
    congrArg sources.namedBaseUrl?.or (baseUrl_of_silent _ absent)
  rw [unset, effective_baseUrl, baseUrl_of_silent sources silent]
  unfold Obstructs
  cases sources.namedBaseUrl? with
  | some address => simp
  | none => cases sources.value? .baseUrl .file <;> simp

theorem effective_baseUrl_blank_file (given : sources.value? .baseUrl .file = some blank)
    (nothing : blank.trim = []) :
    (sources.without .baseUrl .file).effective .baseUrl = sources.effective .baseUrl := by
  have removed : (sources.without .baseUrl .file).value? .baseUrl .file = none := by
    rw [value?_without, if_pos rfl]
  have same : (sources.without .baseUrl .file).settings.baseUrl sources.environment =
      sources.settings.baseUrl sources.environment := by
    unfold Settings.baseUrl
    rw [show sources.settings.auth.bind AuthSettings.baseUrl = some blank from given,
      show (sources.without .baseUrl .file).settings.auth.bind AuthSettings.baseUrl = none from removed]
    cases (sources.environment.get? Settings.baseUrlVariable).filter fun value => !Settings.isBlankText value with
    | none => exact (resolveBaseUrl_of_blank _ nothing).symm
    | some value => rfl
  exact congrArg sources.namedBaseUrl?.or same

/-- A blank variable makes a difference to the address in a file that refers to this variable only, and only if it is
not empty. -/
theorem refers_of_obstructs (given : sources.value? .baseUrl .environment = some blank)
    (obstructs : sources.Obstructs .baseUrl .environment) :
    blank ≠ [] ∧ ∃ (text : Text) (template : Template), sources.value? .baseUrl .file = some text ∧
      template.WellFormed ∧ template.toText = text.trim ∧ Settings.baseUrlVariable ∈ template.names := by
  obtain ⟨_, text, held, differs⟩ := obstructs
  obtain ⟨template, wellFormed, same⟩ := Template.exists_template text.trim
  have refers : ¬ (Settings.baseUrlVariable ∉ template.names ∨
      sources.environment.get? Settings.baseUrlVariable = some []) := by
    intro idle
    refine differs ?_
    unfold Settings.resolveBaseUrl
    rw [← same, sources.environment.expand_without wellFormed idle]
  rw [not_or, not_not] at refers
  refine ⟨?_, text, template, held, wellFormed, same, refers.1⟩
  rintro rfl
  exact refers.2 given

/-! ### The email -/

theorem effective_email (sources : Sources) : sources.effective .email =
    sources.arguments.email.or (((sources.value? .email .environment).or (sources.value? .email .file)).map Text.trim
      |>.filter fun email => !email.isEmpty) := rfl

/-- A blank option is taken as it stands, which no other source gives. -/
theorem effective_email_blank_option (given : sources.value? .email .option = some blank) (nothing : blank.trim = []) :
    sources.effective .email = some blank ∧ (sources.without .email .option).effective .email ≠ some blank := by
  constructor
  · rw [effective_email, show sources.arguments.email = some blank from given, Option.some_or]
  · rw [effective_email]
    show (Option.none.or _) ≠ _
    rw [Option.none_or]
    intro same
    obtain ⟨found, filled⟩ := Option.filter_eq_some_iff.mp same
    obtain ⟨email, _, rfl⟩ := Option.map_eq_some_iff.mp found
    rw [Text.trim_trim] at nothing
    simp [nothing] at filled

theorem effective_email_blank_variable (given : sources.value? .email .environment = some blank)
    (nothing : blank.trim = []) :
    ((sources.without .email .environment).effective .email = sources.effective .email ↔
      ¬ sources.Obstructs .email .environment) ∧
    sources.effective .email = sources.arguments.email := by
  have silent : sources.effective .email = sources.arguments.email := by
    rw [effective_email, given, Option.some_or, Option.map_some, nothing, Option.filter_some]
    exact Option.or_none
  refine ⟨?_, silent⟩
  rw [silent, effective_email, value?_without, if_pos rfl, Option.none_or]
  unfold Obstructs
  show sources.arguments.email.or _ = _ ↔ _
  cases sources.arguments.email with
  | some email => simp
  | none =>
    rw [value?_without, if_neg nofun]
    cases sources.value? .email .file <;> simp

theorem effective_email_blank_file (given : sources.value? .email .file = some blank) (nothing : blank.trim = []) :
    (sources.without .email .file).effective .email = sources.effective .email := by
  rw [effective_email, effective_email, given, value?_without, value?_without, if_neg nofun, if_pos rfl]
  cases sources.value? .email .environment with
  | some email => rfl
  | none => simp [nothing, without, Option.filter_some]

end

/-- A source that is blank gives the same setting as if it were absent, unless it obstructs those after it. For the
email a blank option is in force as it stands, and behind a blank variable there is no email in force although the file
has one. For the address a blank variable obstructs only where it is not empty and the file refers to it by its name. -/
theorem blank_as_absent_iff (sources : Sources) (preference : Preference) (source : Source) (blank : Text)
    (given : sources.value? preference source = some blank) (nothing : blank.trim = []) :
    (∀ other, (sources.without preference source).value? preference other =
      if other = source then none else sources.value? preference other) ∧
    ((sources.without preference source).effective preference = sources.effective preference ↔
      ¬ sources.Obstructs preference source) ∧
    (preference = .email → sources.Obstructs preference source →
      sources.effective .email = if source = .option then some blank else none) ∧
    (preference = .baseUrl → sources.Obstructs preference source →
      blank ≠ [] ∧ ∃ (text : Text) (template : Template), sources.value? .baseUrl .file = some text ∧
        template.WellFormed ∧ template.toText = text.trim ∧ Settings.baseUrlVariable ∈ template.names) := by
  refine ⟨fun other => sources.value?_without preference source other, ?_⟩
  cases preference with
  | baseUrl =>
    refine ⟨?_, nofun, fun _ obstructs => ?_⟩
    · cases source with
      | option => exact iff_of_true (effective_baseUrl_blank_option given nothing) id
      | environment => exact effective_baseUrl_blank_variable given nothing
      | file => exact iff_of_true (effective_baseUrl_blank_file given nothing) id
    · cases source with
      | environment => exact refers_of_obstructs given obstructs
      | _ => exact obstructs.elim
  | email =>
    cases source with
    | option =>
      obtain ⟨taken, differs⟩ := effective_email_blank_option given nothing
      exact ⟨iff_of_false (fun same => differs (same.trans taken)) (not_not_intro trivial), fun _ _ => taken, nofun⟩
    | environment =>
      obtain ⟨exact, silent⟩ := effective_email_blank_variable given nothing
      exact ⟨exact, fun _ obstructs => silent.trans obstructs.1, nofun⟩
    | file => exact ⟨iff_of_true (effective_email_blank_file given nothing) id, fun _ => False.elim, nofun⟩

/-- A blank variable for the address does not hide the file, but one for the email does, and an empty option for the
email is taken. -/
theorem blank_as_absent_iff_behind_blanks :
    let held (name : Text) : Option Text := if name = Settings.emailVariable then some [] else
      if name = Settings.baseUrlVariable then some [' '] else none
    let settings : Settings := ⟨some ⟨some "https://desk.test".toList, none, none, false⟩,
      some ⟨some "a@b.c".toList, false, false, none⟩⟩
    let sources : Sources := ⟨⟨false, none, none⟩, ⟨held⟩, settings⟩
    let given : Sources := { sources with arguments := ⟨false, some [], none⟩ }
    (sources.value? .baseUrl .environment = some [' '] ∧
      (sources.without .baseUrl .environment).effective .baseUrl = sources.effective .baseUrl ∧
      sources.effective .baseUrl = some "https://desk.test".toList) ∧
    (sources.value? .email .environment = some [] ∧
      (sources.without .email .environment).effective .email ≠ sources.effective .email ∧
      sources.effective .email = none) ∧
    (given.value? .email .option = some [] ∧
      (given.without .email .option).effective .email ≠ given.effective .email ∧
      given.effective .email = some []) := by
  intro held settings sources given
  obtain ⟨_, address, _, refers⟩ := blank_as_absent_iff sources .baseUrl .environment [' '] rfl rfl
  obtain ⟨_, hidden, none, _⟩ := blank_as_absent_iff sources .email .environment [] rfl rfl
  obtain ⟨_, taken, blank, _⟩ := blank_as_absent_iff given .email .option [] rfl rfl
  have obstructs : sources.Obstructs .email .environment := ⟨rfl, "a@b.c".toList, rfl, by decide⟩
  have literal : Template.WellFormed (.literal "https://desk.test".toList) :=
    fun inside => absurd (inside.subset (by decide : '$' ∈ Environment.opening)) (by decide)
  have resolved : sources.effective .baseUrl = some "https://desk.test".toList := by
    have source : settings.baseUrlSource? sources.environment = some "https://desk.test".toList := rfl
    have trimmed : Text.trim "https://desk.test".toList = Template.toText (.literal "https://desk.test".toList) := rfl
    rw [effective_baseUrl, Settings.baseUrl_of_source source, trimmed, sources.environment.expand_toText literal]
    rfl
  have unreferred : ¬ sources.Obstructs .baseUrl .environment := by
    intro obstructs
    obtain ⟨_, text, template, onFile, wellFormed, same, listed⟩ := refers rfl obstructs
    cases onFile
    have unlisted : Settings.baseUrlVariable ∉ (Template.literal "https://desk.test".toList).names := List.not_mem_nil
    exact unlisted (Template.eq_of_toText_eq wellFormed literal same ▸ listed)
  exact ⟨⟨rfl, address.mpr unreferred, resolved⟩, ⟨rfl, fun same => hidden.mp same obstructs, none rfl obstructs⟩,
    ⟨rfl, fun same => taken.mp same trivial, blank rfl trivial⟩⟩

end Sources

end TerminalSignIn
