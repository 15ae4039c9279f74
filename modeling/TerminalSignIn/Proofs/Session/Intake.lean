import TerminalSignIn.Proofs.Session.Delivery

/-!
# Events are taken

Terminal events apply no answer and sign nobody in, and of all of them only the quit keys end the session. A frame takes
as many events as its limit allows, and leaves the others for the next one unless a quit key is among those it takes.
-/

namespace TerminalSignIn

/-- Escape, or ctrl with `c`, going down or held. -/
def TerminalEvent.isQuitKey : TerminalEvent → Bool
  | .key event => event.kind ≠ .release && (event.code = .escape || event.code = .char 'c' && event.modifiers.ctrl)
  | .paste _ => false
  | .report => false

namespace Session

theorem action?_eq_quit_iff (event : KeyEvent) :
    action? event = some .quit ↔ (TerminalEvent.key event).isQuitKey = true := by
  obtain ⟨code, modifiers, kind⟩ := event
  by_cases up : kind = .release
  · simp [action?, TerminalEvent.isQuitKey, up]
  · cases code with
    | char char =>
      by_cases ctrl : modifiers.ctrl = true
      · by_cases quits : char = 'c'
        · simp [action?, TerminalEvent.isQuitKey, up, ctrl, quits]
        · by_cases clears : char = 'u' <;> simp [action?, TerminalEvent.isQuitKey, up, ctrl, quits, clears]
      · by_cases alt : modifiers.alt = true <;> simp [action?, TerminalEvent.isQuitKey, up, ctrl, alt]
    | _ => simp [action?, TerminalEvent.isQuitKey, up]

/-- A later session has the same answers queued and the same person signed in, and is quitting if the earlier one was or
if there was a reason to quit. -/
structure Proceeds (session later : Session) (quits : Bool) : Prop where
  queue : later.queue = session.queue
  signedIn : later.signedIn = session.signedIn
  quitting : later.quitting = (session.quitting || quits)

namespace Proceeds

theorem refl (session : Session) : session.Proceeds session false :=
  ⟨rfl, rfl, (Bool.or_false _).symm⟩

theorem trans {session later last : Session} {first second : Bool} (one : session.Proceeds later first)
    (other : later.Proceeds last second) : session.Proceeds last (first || second) where
  queue := other.queue.trans one.queue
  signedIn := other.signedIn.trans one.signedIn
  quitting := by rw [other.quitting, one.quitting, Bool.or_assoc]

theorem performEditing (session : Session) (editing : Editing) :
    session.Proceeds (session.performEditing editing) false := by
  obtain ⟨edits, focus, edited⟩ := performEditing_eq session editing
  rw [edited]
  exact ⟨rfl, rfl, (Bool.or_false _).symm⟩

theorem submit (session : Session) : session.Proceeds session.submit.2 false := by
  obtain ⟨calls, waiting, lastOutcome, submitted⟩ := submit_eq session
  rw [submitted]
  exact ⟨rfl, rfl, (Bool.or_false _).symm⟩

theorem perform (session : Session) (action : Action) : session.Proceeds (session.perform action) (action = .quit) := by
  cases action with
  | quit => exact ⟨rfl, rfl, (Bool.or_true _).symm⟩
  | clear => exact performEditing session .clearField
  | focusNext => exact performEditing session .focusNext
  | focusPrevious => exact performEditing session .focusPrevious
  | submit => exact submit session
  | backspace => exact performEditing session .backspace
  | insert char => exact performEditing session (.insertChar char)

theorem insertText (session : Session) (text : Text) : session.Proceeds (session.insertText text) false := by
  induction text generalizing session with
  | nil => exact refl session
  | cons char text ih => exact (performEditing session (.insertChar char)).trans (ih (session.insertChar char))

theorem takeEvent (session : Session) (event : TerminalEvent) :
    session.Proceeds (session.takeEvent event) event.isQuitKey := by
  cases event with
  | key event =>
    have quits : (TerminalEvent.key event).isQuitKey = decide (action? event = some .quit) := by
      rw [Bool.eq_iff_iff, decide_eq_true_iff, action?_eq_quit_iff]
    rw [quits, Session.takeEvent]
    cases action? event with
    | none => exact refl session
    | some action =>
      rw [show decide (some action = some Action.quit) = decide (action = .quit) by simp]
      exact perform session action
  | paste text => exact insertText session _
  | report => exact refl session

theorem takeEvents (session : Session) (events : List TerminalEvent) :
    session.Proceeds (session.takeEvents events) (events.any TerminalEvent.isQuitKey) := by
  induction events generalizing session with
  | nil => exact refl session
  | cons event events ih =>
    have first := takeEvent session event
    rw [Session.takeEvents, List.any_cons]
    split
    next ended =>
      have quits := first.quitting.symm.trans ended
      exact ⟨first.queue, first.signedIn, by rw [ended, ← Bool.or_assoc, quits, Bool.true_or]⟩
    · exact first.trans (ih _)

end Proceeds

theorem drain_fst (limit : Nat) (session : Session) (events : List TerminalEvent) :
    (drain limit session events).1 = session.takeEvents (events.take limit) := by
  induction events generalizing limit session with
  | nil => rw [drain, List.take_nil, takeEvents]
  | cons event events ih =>
    cases limit with
    | zero => rfl
    | succ limit =>
      rw [drain, List.take_succ_cons, takeEvents]
      split
      · rfl
      · exact ih ..

theorem drain_snd (limit : Nat) {session : Session} (running : session.quitting = false) (events : List TerminalEvent)
    (goesOn : (events.take limit).any TerminalEvent.isQuitKey = false) :
    (drain limit session events).2 = events.drop limit := by
  induction events generalizing limit session with
  | nil => rw [drain, List.drop_nil]
  | cons event events ih =>
    cases limit with
    | zero => rfl
    | succ limit =>
      rw [List.take_succ_cons, List.any_cons, Bool.or_eq_false_iff] at goesOn
      have still : (session.takeEvent event).quitting = false := by
        rw [(Proceeds.takeEvent session event).quitting, running, goesOn.1, Bool.or_false]
      rw [drain, List.drop_succ_cons]
      simp only [still]
      exact ih limit still goesOn.2

end Session

end TerminalSignIn
