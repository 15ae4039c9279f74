import Mathlib.Data.List.Basic
import TerminalSignIn.Proofs.Desk.Veil
import TerminalSignIn.Proofs.Session.Run

/-!
# Twin sessions

Two sessions are alike when they differ in nothing but the characters of passwords. Operations keep sessions alike,
also when they type different characters into the password, as long as every answer is one to a call that waits for
it.
-/

namespace TerminalSignIn

namespace Session

open scoped List

/-- The sessions agree on everything behind the veil. The calls that wait, and those that were aborted, are kept by
what they carry, so they agree up to their order. -/
structure Alike (session other : Session) : Prop where
  desk : session.desk.veil = other.desk.veil
  focus : session.focus = other.focus
  calls : session.calls.map Attempt.veil = other.calls.map Attempt.veil
  waiting : session.waiting.map Attempt.veil ~ other.waiting.map Attempt.veil
  queue : session.queue.map (Prod.map Attempt.veil id) = other.queue.map (Prod.map Attempt.veil id)
  aborted : session.aborted.map Attempt.veil ~ other.aborted.map Attempt.veil
  lastOutcome : session.lastOutcome = other.lastOutcome
  signedIn : session.signedIn = other.signedIn
  quitting : session.quitting = other.quitting
  options : session.options = other.options

namespace Alike

theorem refl (session : Session) : session.Alike session :=
  ⟨rfl, rfl, rfl, .refl _, rfl, .refl _, rfl, rfl, rfl, rfl⟩

variable {session other : Session}

theorem withDesk {desk otherDesk : Desk NoticeBoard} (alike : session.Alike other)
    (same : desk.veil = otherDesk.veil) : Alike { session with desk := desk } { other with desk := otherDesk } :=
  { alike with desk := same }

theorem edit (alike : session.Alike other) {edit otherEdit : Form.Edit} (same : edit.veil = otherEdit.veil) :
    (session.edit edit).Alike (other.edit otherEdit) := by
  apply alike.withDesk
  rw [Desk.veil_edit, Desk.veil_edit, alike.desk, same]

theorem setFocus (alike : session.Alike other) (field : Field) :
    (session.setFocus field).Alike (other.setFocus field) := by
  rw [Session.setFocus, Session.setFocus, ← alike.focus]
  split
  · exact alike
  · have left : (session.edit (.left session.focus)).Alike (other.edit (.left session.focus)) := alike.edit rfl
    exact { left with focus := rfl }

theorem value (alike : session.Alike other) (field : Field) :
    (session.form.credentials.value field).map field.veil = (other.form.credentials.value field).map field.veil := by
  rw [← Credentials.value_veil, ← Credentials.value_veil]
  exact congrArg (fun desk => desk.form.credentials.value field) alike.desk

theorem focusedText (alike : session.Alike other) :
    session.focus.veil session.focusedText = session.focus.veil other.focusedText := by
  rw [Session.focusedText, Session.focusedText, ← alike.focus, Field.veil_getD, alike.value, ← Field.veil_getD]

theorem setFocusedText (alike : session.Alike other) {text otherText : Text}
    (same : session.focus.veil text = session.focus.veil otherText) :
    (session.setFocusedText text).Alike (other.setFocusedText otherText) := by
  apply alike.edit
  rw [← alike.focus]
  exact congrArg (Form.Edit.typed session.focus) same

theorem insertChar (alike : session.Alike other) {char otherChar : Char}
    (same : session.focus.veil [char] = session.focus.veil [otherChar]) :
    (session.insertChar char).Alike (other.insertChar otherChar) := by
  apply alike.setFocusedText
  rw [Field.veil_append, Field.veil_append, alike.focusedText, same]

theorem backspace (alike : session.Alike other) : session.backspace.Alike other.backspace := by
  have empty : session.focusedText.isEmpty = other.focusedText.isEmpty := by
    rw [← session.focus.isEmpty_veil, alike.focusedText, session.focus.isEmpty_veil]
  rw [Session.backspace, Session.backspace, empty]
  split
  · exact alike
  · apply alike.setFocusedText
    rw [Field.veil_dropLast, Field.veil_dropLast, alike.focusedText]

theorem editing (alike : session.Alike other) (editing : Editing) :
    (session.performEditing editing).Alike (other.performEditing editing) := by
  cases editing with
  | insertChar char => exact alike.insertChar rfl
  | backspace => exact alike.backspace
  | clearField => exact alike.setFocusedText rfl
  | focusNext =>
    rw [performEditing, performEditing, Session.focusNext, Session.focusNext, ← alike.focus]
    exact alike.setFocus _
  | focusPrevious =>
    rw [performEditing, performEditing, Session.focusPrevious, Session.focusPrevious, ← alike.focus]
    exact alike.setFocus _
  | setFocus field => exact alike.setFocus field

theorem dismissNotice (alike : session.Alike other) : session.dismissNotice.Alike other.dismissNotice :=
  alike.withDesk (congrArg (fun desk => { desk with sink := desk.sink.dismiss }) alike.desk)

theorem submit (alike : session.Alike other) :
    session.submit.1.map Attempt.veil = other.submit.1.map Attempt.veil ∧ session.submit.2.Alike other.submit.2 := by
  have begun : session.dismissNotice.desk.veil.begin = other.dismissNotice.desk.veil.begin :=
    congrArg Desk.begin alike.dismissNotice.desk
  rw [Desk.veil_begin, Desk.veil_begin, Prod.mk.injEq] at begun
  obtain ⟨attempts, desks⟩ := begun
  cases gate : session.dismissNotice.desk.begin.1 with
  | none =>
    rw [gate, Option.map_none, eq_comm, Option.map_eq_none_iff] at attempts
    rw [submit_blocked session gate, submit_blocked other attempts]
    exact ⟨rfl, { alike with desk := desks, lastOutcome := rfl }⟩
  | some attempt =>
    rw [gate, Option.map_some, eq_comm, Option.map_eq_some_iff] at attempts
    obtain ⟨otherAttempt, otherGate, same⟩ := attempts
    rw [submit_passed session gate, submit_passed other otherGate]
    refine ⟨congrArg some same.symm, { alike with desk := desks, calls := ?_, waiting := ?_ }⟩
    · simp only [List.map_append, alike.calls, List.map_singleton, same]
    · simp only [List.map_append, List.map_singleton, same]
      exact alike.waiting.append_right _

theorem apply (alike : session.Alike other) {attempt otherAttempt : Attempt}
    (same : attempt.veil = otherAttempt.veil) (answer : Answer) :
    (session.apply attempt answer).Alike (other.apply otherAttempt answer) := by
  have number : attempt.id = otherAttempt.id := (Attempt.mk.inj same).1
  have email : attempt.email = otherAttempt.email := (Attempt.mk.inj same).2.1
  have completed := congrArg (·.complete attempt.id answer) alike.desk
  simp only [Desk.veil_complete, Prod.mk.injEq] at completed
  rw [number] at completed
  cases answer with
  | accepted =>
    rw [apply_accepted, apply_accepted, number]
    exact { alike with
      desk := completed.2
      lastOutcome := rfl
      signedIn := congrArg some email
      quitting := rfl }
  | rejected rejection =>
    rw [apply_rejected, apply_rejected, number]
    exact { alike with desk := completed.2, lastOutcome := rfl }

theorem applyAll (alike : session.Alike other) {answers otherAnswers : List (Attempt × Answer)}
    (same : answers.map (Prod.map Attempt.veil id) = otherAnswers.map (Prod.map Attempt.veil id)) :
    (session.applyAll answers).Alike (other.applyAll otherAnswers) := by
  induction answers generalizing session other otherAnswers with
  | nil =>
    cases List.map_eq_nil_iff.mp same.symm
    exact alike
  | cons answered answers ih =>
    cases otherAnswers with
    | nil => contradiction
    | cons otherAnswered otherAnswers =>
      obtain ⟨attempt, answer⟩ := answered
      obtain ⟨otherAttempt, otherAnswer⟩ := otherAnswered
      simp only [List.map_cons, List.cons.injEq, Prod.map_apply, Prod.mk.injEq, id] at same
      obtain ⟨⟨attempts, rfl⟩, rest⟩ := same
      exact ih (alike.apply attempts answer) rest

theorem processQueue (alike : session.Alike other) : session.processQueue.Alike other.processQueue := by
  have emptied : Alike { session with queue := [] } { other with queue := [] } := { alike with queue := rfl }
  exact emptied.applyAll alike.queue

theorem shutdown (alike : session.Alike other) : session.shutdown.Alike other.shutdown where
  desk := alike.desk
  focus := alike.focus
  calls := alike.calls
  waiting := .refl _
  queue := alike.queue
  aborted := by
    simp only [Session.shutdown, List.map_append]
    exact alike.aborted.append alike.waiting
  lastOutcome := alike.lastOutcome
  signedIn := alike.signedIn
  quitting := alike.quitting
  options := alike.options

end Alike

structure Tracks (session : Session) (out : List Nat) : Prop where
  started : ∀ number ∈ out, number < session.calls.length
  waiting : session.waiting ~ out.filterMap (session.calls[·]?)

/-- An answer goes to a call that waits for one. -/
def Answerable (out : List Nat) : Operation → Prop
  | .answer number _ => number ∈ out
  | _ => True

def outAfter (session : Session) (out : List Nat) : Operation → List Nat
  | .submit => if session.submit.1.isSome then out ++ [session.calls.length] else out
  | .answer number _ => out.erase number
  | .shutdown => []
  | _ => out

namespace Tracks

variable {session : Session} {out : List Nat}

theorem called (tracks : session.Tracks out) (desk : Desk NoticeBoard) (attempt : Attempt) :
    Tracks { session with
      desk := desk
      calls := session.calls ++ [attempt]
      waiting := session.waiting ++ [attempt] } (out ++ [session.calls.length]) where
  started := by
    intro number member
    rw [List.length_append, List.length_singleton]
    rcases List.mem_append.mp member with before | last
    · exact Nat.lt_succ_of_lt (tracks.started number before)
    · rw [List.mem_singleton.mp last]
      exact Nat.lt_succ_self _
  waiting := by
    have before : out.filterMap ((session.calls ++ [attempt])[·]?) = out.filterMap (session.calls[·]?) := by
      apply List.filterMap_congr
      intro number member
      exact List.getElem?_append_left (tracks.started number member)
    rw [List.filterMap_append, before, List.filterMap_cons_some List.getElem?_concat_length]
    exact tracks.waiting.append_right [attempt]

theorem found (tracks : session.Tracks out) {number : Nat} (isOut : number ∈ out) :
    ∃ attempt, session.calls[number]? = some attempt ∧ attempt ∈ session.waiting := by
  have found := List.getElem?_eq_getElem (tracks.started number isOut)
  exact ⟨_, found, tracks.waiting.mem_iff.mpr (List.mem_filterMap.mpr ⟨number, isOut, found⟩)⟩

theorem answered (tracks : session.Tracks out) {number : Nat} (isOut : number ∈ out) {attempt : Attempt}
    (found : session.calls[number]? = some attempt) (waits : attempt ∈ session.waiting) (answer : Answer) :
    Tracks { session with
      waiting := session.waiting.erase attempt
      queue := session.queue ++ [(attempt, answer)] } (out.erase number) where
  started _ member := tracks.started _ (List.mem_of_mem_erase member)
  waiting := by
    have numbers : out.filterMap (session.calls[·]?) ~ attempt :: (out.erase number).filterMap (session.calls[·]?) := by
      rw [← List.filterMap_cons_some found]
      exact (List.perm_cons_erase isOut).filterMap _
    -- The answered call heads both lists, so what is left of them is the same.
    have split := (List.perm_cons_erase waits).symm.trans (tracks.waiting.trans numbers)
    exact split.cons_inv

theorem operate (tracks : session.Tracks out) {operation : Operation} (answerable : Answerable out operation) :
    (session.operate operation).Tracks (session.outAfter out operation) := by
  cases operation with
  | editing editing =>
    obtain ⟨edits, focus, edited⟩ := performEditing_eq session editing
    rw [Session.operate, edited]
    exact ⟨tracks.started, tracks.waiting⟩
  | requestQuit => exact ⟨tracks.started, tracks.waiting⟩
  | submit =>
    rw [Session.operate, outAfter]
    cases gate : session.dismissNotice.desk.begin.1 with
    | none =>
      rw [submit_blocked session gate]
      exact ⟨tracks.started, tracks.waiting⟩
    | some attempt =>
      rw [submit_passed session gate]
      exact tracks.called _ attempt
  | answer number answer =>
    obtain ⟨attempt, found, waits⟩ := tracks.found answerable
    rw [Session.operate, answerCall_waiting session found waits]
    exact tracks.answered answerable found waits answer
  | processQueue =>
    obtain ⟨calls, waiting, _⟩ := applyAll_parts { session with queue := [] } session.queue
    rw [Session.operate, processQueue_eq]
    refine ⟨?_, ?_⟩
    · rw [calls]
      exact tracks.started
    · rw [calls, waiting]
      exact tracks.waiting
  | shutdown => exact ⟨fun _ member => absurd member List.not_mem_nil, .refl _⟩

end Tracks

structure Twinned (session other : Session) (out : List Nat) : Prop where
  alike : session.Alike other
  tracks : session.Tracks out
  otherTracks : other.Tracks out

namespace Twinned

variable {session other : Session} {out : List Nat}

theorem start (settings : SessionSettings) : Twinned (start settings) (start settings) [] where
  alike := .refl _
  tracks := ⟨nofun, .refl _⟩
  otherTracks := ⟨nofun, .refl _⟩

theorem answer (twinned : Twinned session other out) {number : Nat} (isOut : number ∈ out) (answer : Answer) :
    (session.answerCall number answer).2.Alike (other.answerCall number answer).2 := by
  obtain ⟨attempt, found, waits⟩ := twinned.tracks.found isOut
  obtain ⟨otherAttempt, otherFound, otherWaits⟩ := twinned.otherTracks.found isOut
  have same : attempt.veil = otherAttempt.veil := by
    have veiled := congrArg (·[number]?) twinned.alike.calls
    simp only [List.getElem?_map, found, otherFound, Option.map_some, Option.some.injEq] at veiled
    exact veiled
  rw [answerCall_waiting session found waits, answerCall_waiting other otherFound otherWaits]
  refine { twinned.alike with waiting := ?_, queue := ?_ }
  · have left := (List.perm_cons_erase waits).map Attempt.veil
    have right := (List.perm_cons_erase otherWaits).map Attempt.veil
    rw [List.map_cons] at left right
    rw [same] at left
    exact (left.symm.trans (twinned.alike.waiting.trans right)).cons_inv
  · simp only [List.map_append, twinned.alike.queue, List.map_singleton, Prod.map_apply, same]

theorem operate (twinned : Twinned session other out) {operation : Operation}
    (answerable : Answerable out operation) :
    Twinned (session.operate operation) (other.operate operation) (session.outAfter out operation) := by
  have sameOut : other.outAfter out operation = session.outAfter out operation := by
    cases operation with
    | submit =>
      -- Both sessions have started equally many calls, and the gate treats them alike.
      have attempts := congrArg Option.isSome twinned.alike.submit.1
      have counts := congrArg List.length twinned.alike.calls
      simp only [Option.isSome_map, List.length_map] at attempts counts
      rw [outAfter, outAfter, attempts, counts]
    | _ => rfl
  refine ⟨?_, twinned.tracks.operate answerable, sameOut ▸ twinned.otherTracks.operate answerable⟩
  cases operation with
  | editing editing => exact twinned.alike.editing editing
  | requestQuit => exact { twinned.alike with quitting := rfl }
  | submit => exact twinned.alike.submit.2
  | answer number answer => exact twinned.answer answerable answer
  | processQueue => exact twinned.alike.processQueue
  | shutdown => exact twinned.alike.shutdown

end Twinned

end Session

end TerminalSignIn
