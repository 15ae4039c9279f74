import TerminalSignIn.Proofs.Session.Intake
import TerminalSignIn.Proofs.Session.Notice
import TerminalSignIn.Proofs.Session.Typing

/-!
# What terminal events do

An event submits the form, ends the session, types into the field that has the focus, moves the focus, or does nothing.
Each of these leaves most of the session as it is: the flow of submissions is the business of the enter key alone, and
the field without the focus is nobody's.
-/

namespace TerminalSignIn

namespace TerminalEvent

/-- Enter, going down or held. -/
def isSubmitKey : TerminalEvent → Bool
  | .key event => event.kind ≠ .release && event.code = .enter
  | .paste _ => false
  | .report => false

inductive Unbound : TerminalEvent → Prop where
  | released (code : KeyCode) (modifiers : Modifiers) : Unbound (.key ⟨code, modifiers, .release⟩)
  | ctrl {char : Char} {modifiers : Modifiers} (kind : KeyKind) : modifiers.ctrl = true → char ≠ 'c' → char ≠ 'u' →
      Unbound (.key ⟨.char char, modifiers, kind⟩)
  | alt (char : Char) {modifiers : Modifiers} (kind : KeyKind) : modifiers.ctrl = false → modifiers.alt = true →
      Unbound (.key ⟨.char char, modifiers, kind⟩)
  | named (modifiers : Modifiers) (kind : KeyKind) : Unbound (.key ⟨.named, modifiers, kind⟩)
  | report : Unbound .report

end TerminalEvent

namespace Session

theorem action?_eq_submit_iff (event : KeyEvent) :
    action? event = some .submit ↔ (TerminalEvent.key event).isSubmitKey = true := by
  obtain ⟨code, modifiers, kind⟩ := event
  by_cases up : kind = .release
  · simp [action?, TerminalEvent.isSubmitKey, up]
  · cases code with
    | char char => simp only [action?, TerminalEvent.isSubmitKey]; grind
    | _ => simp [action?, TerminalEvent.isSubmitKey, up]

theorem unbound_key_iff (event : KeyEvent) : (TerminalEvent.key event).Unbound ↔ action? event = none := by
  obtain ⟨code, modifiers, kind⟩ := event
  constructor
  · intro unbound
    cases unbound with
    | released code modifiers => exact if_pos rfl
    | ctrl kind ctrl quits clears => simp [action?, ctrl, quits, clears]
    | alt char kind ctrl alt => simp [action?, ctrl, alt]
    | named modifiers kind => simp [action?]
  · intro unheeded
    by_cases up : kind = .release
    · subst up
      exact .released code modifiers
    · cases code with
      | char char =>
        by_cases ctrl : modifiers.ctrl = true
        · refine .ctrl kind ctrl ?_ ?_
          · rintro rfl
            simp [action?, up, ctrl] at unheeded
          · rintro rfl
            simp [action?, up, ctrl] at unheeded
        · rw [Bool.not_eq_true] at ctrl
          have alt : modifiers.alt = true := by simpa [action?, up, ctrl] using unheeded
          exact .alt char kind ctrl alt
      | named => exact .named modifiers kind
      | _ => simp [action?, up] at unheeded

theorem takeEvent_unbound (session : Session) {event : TerminalEvent} (unbound : event.Unbound) :
    session.takeEvent event = session := by
  cases event with
  | key event => rw [takeEvent, (unbound_key_iff event).mp unbound]
  | paste text => cases unbound
  | report => rfl

theorem takeEvent_submitKey (session : Session) {event : TerminalEvent} (submits : event.isSubmitKey = true) :
    session.takeEvent event = session.submit.2 := by
  cases event with
  | key event =>
    rw [takeEvent, (action?_eq_submit_iff event).mpr submits]
    rfl
  | paste text => contradiction
  | report => contradiction

/-- What can come of an event that is not the enter key. -/
inductive Effect (session : Session) : Session → Prop where
  | quits : Effect session session.requestQuit
  | types (text : Text) : Effect session (session.setFocusedText text)
  | moves (field : Field) : field ≠ session.focus →
      Effect session { session.edit (.left session.focus) with focus := field }
  | rests : Effect session session

namespace Effect

variable (session : Session)

theorem setFocus (field : Field) : session.Effect (session.setFocus field) := by
  rw [Session.setFocus]
  split
  · exact .rests
  next other => exact .moves field other

theorem perform {action : Action} (other : action ≠ .submit) : session.Effect (session.perform action) := by
  cases action with
  | quit => exact .quits
  | clear => exact .types []
  | focusNext => exact setFocus session _
  | focusPrevious => exact setFocus session _
  | submit => exact absurd rfl other
  | backspace =>
    rw [Session.perform, Session.backspace]
    split
    · exact .rests
    · exact .types _
  | insert char => exact .types _

theorem takeEvent {event : TerminalEvent} (other : event.isSubmitKey = false) :
    session.Effect (session.takeEvent event) := by
  cases event with
  | key event =>
    rw [Session.takeEvent]
    cases bound : action? event with
    | none => exact .rests
    | some action =>
      apply perform
      rintro rfl
      exact absurd ((action?_eq_submit_iff event).mp bound) (Bool.eq_false_iff.mp other)
  | paste text =>
    rw [Session.takeEvent]
    by_cases filled : (text.filter fun char => !isLineBreak char) = []
    · rw [filled]
      exact .rests
    · rw [insertText_eq session filled]
      exact .types _
  | report => exact .rests

end Effect

/-- Everything is as it was but the fields, the focus, and whether the session is over: the flow of submissions, what is
told about them, and the calls. -/
structure SameFlow (session later : Session) : Prop where
  phase : later.phase = session.phase
  inFlight : later.desk.inFlight = session.desk.inFlight
  nextId : later.desk.nextId = session.desk.nextId
  title : later.desk.title = session.desk.title
  board : later.desk.sink = session.desk.sink
  notice : later.notice? = session.notice?
  message : later.form.serverError = session.form.serverError
  lastOutcome : later.lastOutcome = session.lastOutcome
  calls : later.calls = session.calls
  waiting : later.waiting = session.waiting
  queue : later.queue = session.queue
  aborted : later.aborted = session.aborted
  signedIn : later.signedIn = session.signedIn
  options : later.options = session.options

namespace SameFlow

theorem refl (session : Session) : session.SameFlow session :=
  ⟨rfl, rfl, rfl, rfl, rfl, rfl, rfl, rfl, rfl, rfl, rfl, rfl, rfl, rfl⟩

theorem trans {session later last : Session} (one : session.SameFlow later) (other : later.SameFlow last) :
    session.SameFlow last where
  phase := other.phase.trans one.phase
  inFlight := other.inFlight.trans one.inFlight
  nextId := other.nextId.trans one.nextId
  title := other.title.trans one.title
  board := other.board.trans one.board
  notice := other.notice.trans one.notice
  message := other.message.trans one.message
  lastOutcome := other.lastOutcome.trans one.lastOutcome
  calls := other.calls.trans one.calls
  waiting := other.waiting.trans one.waiting
  queue := other.queue.trans one.queue
  aborted := other.aborted.trans one.aborted
  signedIn := other.signedIn.trans one.signedIn
  options := other.options.trans one.options

/-- A form with the same message, the focus, and the wish to quit are no part of the flow. -/
theorem edited (session : Session) {form : Form} (kept : form.serverError = session.form.serverError) (focus : Field)
    (quitting : Bool) :
    session.SameFlow
      { session with desk := { session.desk with form := form }, focus := focus, quitting := quitting } :=
  { refl session with message := kept }

end SameFlow

namespace Effect

variable {session later : Session}

theorem sameFlow (effect : session.Effect later) : session.SameFlow later := by
  cases effect with
  | quits => exact .edited session rfl _ _
  | types text => exact .edited session (serverError_setFocusedText session text) _ _
  | moves field _ => exact .edited session (Form.serverError_touch session.form session.focus) _ _
  | rests => exact .refl session

theorem value (effect : session.Effect later) {field : Field} (unfocused : field ≠ session.focus) :
    later.form.credentials.value field = session.form.credentials.value field := by
  cases effect with
  | quits => rfl
  | types text => rw [value_setFocusedText, if_neg unfocused]
  | moves next _ =>
    show (session.form.touch session.focus).credentials.value field = _
    rw [Form.credentials_touch]
  | rests => rfl

theorem failing (effect : session.Effect later) {field : Field} (unfocused : field ≠ session.focus) :
    (later.form.field field).failing = (session.form.field field).failing := by
  cases effect with
  | quits => rfl
  | types text => rw [field_setFocusedText, if_neg unfocused]
  | moves next _ =>
    show ((session.form.touch session.focus).field field).failing = _
    rw [Form.touch, Form.field_modifyField, if_neg unfocused]
  | rests => rfl

theorem touched (effect : session.Effect later) {field : Field}
    (changed : (later.form.field field).touched ≠ (session.form.field field).touched) :
    field = session.focus ∧ later.focus ≠ session.focus ∧ (later.form.field field).touched = true := by
  cases effect with
  | quits => exact absurd rfl changed
  | types text =>
    rw [field_setFocusedText] at changed
    split at changed <;> exact absurd rfl changed
  | moves next elsewhere =>
    change ((session.form.touch session.focus).field field).touched ≠ _ at changed
    by_cases left : field = session.focus
    · refine ⟨left, elsewhere, ?_⟩
      show ((session.form.touch session.focus).field field).touched = true
      rw [Form.touch, Form.field_modifyField, if_pos left]
    · rw [Form.touch, Form.field_modifyField, if_neg left] at changed
      exact absurd rfl changed
  | rests => exact absurd rfl changed

end Effect

theorem credentials_submit (session : Session) : session.submit.2.form.credentials = session.form.credentials := by
  obtain ⟨calls, waiting, lastOutcome, submitted⟩ := submit_eq session
  rw [submitted]
  show session.dismissNotice.desk.begin.2.form.credentials = session.dismissNotice.desk.form.credentials
  rw [Desk.begin_form, Desk.credentials_updates_examination]

theorem sameFlow_takeEvents (session : Session) {events : List TerminalEvent}
    (others : ∀ event ∈ events, event.isSubmitKey = false) : session.SameFlow (session.takeEvents events) := by
  induction events generalizing session with
  | nil => exact .refl session
  | cons event events ih =>
    have first := (Effect.takeEvent session (others event List.mem_cons_self)).sameFlow
    rw [takeEvents]
    split
    · exact first
    · exact first.trans (ih _ fun event later => others event (List.mem_cons_of_mem _ later))

/-- Events do nothing beside their purpose, in any session. Without the enter key the flow of submissions stays as it
is, and the enter key changes no value. A field without the focus keeps its value, and its checks unless the form is
submitted; a field comes to count as touched, otherwise than by a submission, only when the focus leaves it. An event to
which nothing is bound changes nothing at all, and only the quit keys end the session. The flow also stays as it is
under any number of events among which no enter key is. -/
theorem takeEvent_frame (session : Session) (event : TerminalEvent) :
    let later := session.takeEvent event
    (event.isSubmitKey = false → session.SameFlow later) ∧
    (event.isSubmitKey = true → later.form.credentials = session.form.credentials) ∧
    (∀ field, field ≠ session.focus →
      later.form.credentials.value field = session.form.credentials.value field ∧
      (event.isSubmitKey = false → (later.form.field field).failing = (session.form.field field).failing)) ∧
    (event.isSubmitKey = false → ∀ field,
      (later.form.field field).touched ≠ (session.form.field field).touched →
        field = session.focus ∧ later.focus ≠ session.focus ∧ (later.form.field field).touched = true) ∧
    (event.Unbound → later = session) ∧
    later.quitting = (session.quitting || event.isQuitKey) ∧
    ∀ more, (∀ other ∈ event :: more, other.isSubmitKey = false) → session.SameFlow (later.takeEvents more) := by
  intro later
  have effect (other : event.isSubmitKey = false) : session.Effect later := .takeEvent session other
  have kept (submits : event.isSubmitKey = true) : later.form.credentials = session.form.credentials := by
    unfold later
    rw [takeEvent_submitKey session submits, credentials_submit]
  refine ⟨fun other => (effect other).sameFlow, kept, ?_, ?_, takeEvent_unbound session, ?_, ?_⟩
  · intro field unfocused
    refine ⟨?_, fun other => (effect other).failing unfocused⟩
    cases submits : event.isSubmitKey with
    | true => rw [kept submits]
    | false => exact (effect submits).value unfocused
  · intro other field changed
    exact (effect other).touched changed
  · exact (Proceeds.takeEvent session event).quitting
  · intro more others
    have first := (effect (others event List.mem_cons_self)).sameFlow
    exact first.trans (sameFlow_takeEvents later fun other behind => others other (List.mem_cons_of_mem event behind))

/-- Four events in one session: the tab key leaves the password, a held enter key submits, ctrl with `v` is not bound,
and ctrl with alt and `c` ends the session. None of them but the enter key is a matter of the flow. -/
theorem takeEvent_frame_by_key :
    let session := (start ⟨some "a@b.c".toList, none, ⟨false, false⟩⟩).takeEvent (.paste ['x'])
    let tab : TerminalEvent := .key (.pressed .tab)
    let enter : TerminalEvent := .key ⟨.enter, .none, .repeated⟩
    let paste : TerminalEvent := .key ⟨.char 'v', ⟨false, false, true⟩, .press⟩
    let stop : TerminalEvent := .key ⟨.char 'c', ⟨false, true, true⟩, .press⟩
    (tab.isSubmitKey = false ∧ Field.email ≠ session.focus ∧
      ((session.takeEvent tab).form.field .password).touched ≠ (session.form.field .password).touched ∧
      session.SameFlow (session.takeEvent tab) ∧ (session.takeEvent tab).focus ≠ session.focus ∧
      ((session.takeEvent tab).form.field .email).failing = (session.form.field .email).failing) ∧
    (enter.isSubmitKey = true ∧ (session.takeEvent enter).calls ≠ session.calls ∧
      (session.takeEvent enter).form.credentials = session.form.credentials) ∧
    (paste.Unbound ∧ session.takeEvent paste = session) ∧
    ((session.takeEvent stop).quitting = true ∧
      session.SameFlow ((session.takeEvent stop).takeEvents [tab, paste])) := by
  intro session tab enter paste stop
  have unfocused : Field.email ≠ session.focus := by decide
  have changed : ((session.takeEvent tab).form.field .password).touched ≠ (session.form.field .password).touched := by
    decide
  have called : (session.takeEvent enter).calls ≠ session.calls := by decide
  have unbound : paste.Unbound := .ctrl _ rfl (by decide) (by decide)
  obtain ⟨flow, _, unfocusedField, left, _⟩ := takeEvent_frame session tab
  obtain ⟨_, kept, _⟩ := takeEvent_frame session enter
  obtain ⟨_, _, _, _, rests, _⟩ := takeEvent_frame session paste
  obtain ⟨_, _, _, _, _, stops, still⟩ := takeEvent_frame session stop
  exact ⟨⟨rfl, unfocused, changed, flow rfl, (left rfl .password changed).2.1, (unfocusedField .email unfocused).2 rfl⟩,
    ⟨rfl, called, kept rfl⟩, ⟨unbound, rests unbound⟩, stops, still [tab, paste] (by decide)⟩

end Session

end TerminalSignIn
