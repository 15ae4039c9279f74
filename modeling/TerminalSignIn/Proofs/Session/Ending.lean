import Mathlib.Data.List.Induction
import TerminalSignIn.Program
import TerminalSignIn.Proofs.Session.Intake

/-!
# How the form ends

A quit key and a success race to end the form. The first frame that sees either decides, and within one frame a quit key
among the events goes before every answer. Which events a frame sees follows from the schedule of arrivals alone: each
frame takes its share and leaves the others to the next.
-/

namespace TerminalSignIn

theorem LineMode.successLine_injective {email other : Text} (same : successLine email = successLine other) :
    email = other :=
  List.append_cancel_left (List.append_cancel_right same)

theorem Program.ofForm_of_signedIn (endpoint : Endpoint) (state : FormMode.State) {email : Text}
    (signedIn : state.session.signedIn = some email) :
    (ofForm endpoint state).exitStatus = 0 ∧ (ofForm endpoint state).output = LineMode.successLine email := by
  constructor
  · show (if state.session.signedIn.isSome then 0 else 1) = 0
    rw [signedIn]
    rfl
  · rw [ofForm, signedIn]
    rfl

theorem Program.ofForm_of_notSignedIn (endpoint : Endpoint) (state : FormMode.State)
    (notSignedIn : state.session.signedIn = none) :
    (ofForm endpoint state).exitStatus = 1 ∧ (ofForm endpoint state).output = [] := by
  constructor
  · show (if state.session.signedIn.isSome then 0 else 1) = 1
    rw [notSignedIn]
    rfl
  · rw [ofForm, notSignedIn]
    rfl

namespace FormRun

inductive Ending where
  | quitKey
  | success (email : Text)
deriving DecidableEq

def Ending.email? : Ending → Option Text
  | .quitKey => none
  | .success email => some email

/-- The events that a schedule leaves when every frame takes as many as it may. -/
def backlog (schedule : List Arrivals) : List TerminalEvent :=
  schedule.foldl (fun left arrivals => (left ++ arrivals.events).drop Session.frameLimit) []

def share (earlier : List Arrivals) (now : Arrivals) : List TerminalEvent :=
  (backlog earlier ++ now.events).take Session.frameLimit

def fed (settings : SessionSettings) (earlier : List Arrivals) (now : Arrivals) : Session :=
  ((start settings).frames earlier).session.takeEvents (share earlier now)

def results (settings : SessionSettings) (earlier : List Arrivals) (now : Arrivals) : List (Attempt × Answer) :=
  Session.received (fed settings earlier now).calls (fed settings earlier now).waiting now.answers

def unanswered (settings : SessionSettings) (earlier : List Arrivals) (now : Arrivals) : List Attempt :=
  (fed settings earlier now).waiting.diff ((results settings earlier now).map Prod.fst)

/-- What ends the form in the frame behind a schedule, if that frame comes and something in it ends the form. -/
def ending? (settings : SessionSettings) (earlier : List Arrivals) (now : Arrivals) : Option Ending :=
  if (share earlier now).any TerminalEvent.isQuitKey then some .quitKey
  else (lastAccepted? (results settings earlier now)).map fun attempt => .success attempt.email

def GoesOn (settings : SessionSettings) (schedule : List Arrivals) : Prop :=
  ∀ earlier now, earlier ++ [now] <+: schedule → ending? settings earlier now = none

/-- The first frame of a schedule that ends the form ends it so. -/
def Ends (settings : SessionSettings) (schedule : List Arrivals) (ending : Ending) : Prop :=
  ∃ earlier now, earlier ++ [now] <+: schedule ∧ GoesOn settings earlier ∧ ending? settings earlier now = some ending

structure Running (run : FormRun) (left : List TerminalEvent) : Prop where
  pending : run.pending = left
  quitting : run.session.quitting = false
  queue : run.session.queue = []
  signedIn : run.session.signedIn = none

theorem frames_of_quitting {run : FormRun} (ended : run.session.quitting = true) (schedule : List Arrivals) :
    run.frames schedule = run := by
  cases schedule with
  | nil => rfl
  | cons => rw [frames, if_pos ended]

theorem frames_append (run : FormRun) (earlier later : List Arrivals) :
    run.frames (earlier ++ later) = (run.frames earlier).frames later := by
  induction earlier generalizing run with
  | nil => rfl
  | cons arrivals earlier ih =>
    by_cases ended : run.session.quitting = true
    · rw [frames_of_quitting ended, frames_of_quitting ended, frames_of_quitting ended]
    · rw [List.cons_append, frames, frames, if_neg ended, if_neg ended, ih]

theorem frames_append_cons {run : FormRun} {earlier : List Arrivals}
    (goesOn : (run.frames earlier).session.quitting = false) (now : Arrivals) (later : List Arrivals) :
    run.frames (earlier ++ now :: later) = ((run.frames earlier).frame now).frames later := by
  rw [frames_append, frames, if_neg ((Bool.not_eq_true _).mpr goesOn)]

theorem deliver_eq_run (session : Session) (answers : List (Nat × Answer)) :
    deliver session answers = session.run (Session.answering answers) := by
  simp only [deliver, Session.answering, Session.run, List.foldl_map]
  rfl

theorem backlog_append (earlier : List Arrivals) (now : Arrivals) :
    backlog (earlier ++ [now]) = (backlog earlier ++ now.events).drop Session.frameLimit := by
  simp [backlog]

theorem goesOn_nil (settings : SessionSettings) : GoesOn settings [] := by
  intro earlier now comes
  simp at comes

theorem goesOn_append {settings : SessionSettings} {earlier : List Arrivals} {now : Arrivals}
    (goesOn : GoesOn settings earlier) (unended : ending? settings earlier now = none) :
    GoesOn settings (earlier ++ [now]) := by
  intro before next comes
  rcases List.prefix_concat_iff.mp comes with last | before
  · obtain ⟨rfl, rfl⟩ := List.append_singleton_inj.mp last
    exact unended
  · exact goesOn _ _ before

theorem goesOn_or_ends (settings : SessionSettings) (schedule : List Arrivals) :
    GoesOn settings schedule ∨ ∃ ending, Ends settings schedule ending := by
  -- From the back, so that the first ending of all but the last frame is still the first.
  induction schedule using List.reverseRecOn with
  | nil => exact .inl (goesOn_nil settings)
  | append_singleton earlier now ih =>
    rcases ih with goesOn | ⟨ending, before, next, comes, goesOn, ends⟩
    · cases ends : ending? settings earlier now with
      | none => exact .inl (goesOn_append goesOn ends)
      | some ending => exact .inr ⟨ending, earlier, now, List.prefix_rfl, goesOn, ends⟩
    · exact .inr ⟨ending, before, next, comes.trans (List.prefix_append ..), goesOn, ends⟩

section

variable {settings : SessionSettings} {earlier : List Arrivals}

theorem fed_proceeds (running : ((start settings).frames earlier).Running (backlog earlier)) (now : Arrivals) :
    (fed settings earlier now).queue = [] ∧ (fed settings earlier now).signedIn = none ∧
    (fed settings earlier now).quitting = (share earlier now).any TerminalEvent.isQuitKey := by
  have taken := Session.Proceeds.takeEvents ((start settings).frames earlier).session (share earlier now)
  exact ⟨taken.queue.trans running.queue, taken.signedIn.trans running.signedIn,
    taken.quitting.trans (by rw [running.quitting, Bool.false_or])⟩

/-- A frame that takes a quit key leaves the answers in the queue, and any other applies them. -/
theorem session_frame (running : ((start settings).frames earlier).Running (backlog earlier)) (now : Arrivals) :
    (((start settings).frames earlier).frame now).session =
      if (share earlier now).any TerminalEvent.isQuitKey then
        (fed settings earlier now).withAnswers (unanswered settings earlier now) (results settings earlier now)
      else ((fed settings earlier now).applyAll (results settings earlier now)).withAnswers
        (unanswered settings earlier now) [] := by
  obtain ⟨queue, _, quitting⟩ := fed_proceeds running now
  have drained : (((start settings).frames earlier).session.drainFrame
      (((start settings).frames earlier).pending ++ now.events)).1 = fed settings earlier now := by
    rw [Session.drainFrame, Session.drain_fst, running.pending]
    rfl
  have delivered : deliver (fed settings earlier now) now.answers =
      (fed settings earlier now).withAnswers (unanswered settings earlier now) (results settings earlier now) := by
    -- Nothing was left in the queue by earlier frames, so it holds what has arrived in this one.
    rw [deliver_eq_run, Session.run_answering, queue, List.nil_append]
    rfl
  simp only [frame, drained, delivered, Session.processQueue_withAnswers]
  rw [← quitting]
  rfl

theorem pending_frame (running : ((start settings).frames earlier).Running (backlog earlier)) (now : Arrivals)
    (goesOn : (share earlier now).any TerminalEvent.isQuitKey = false) :
    (((start settings).frames earlier).frame now).pending = backlog (earlier ++ [now]) := by
  show (Session.drainFrame _ (((start settings).frames earlier).pending ++ now.events)).2 = _
  rw [running.pending, backlog_append]
  exact Session.drain_snd _ running.quitting _ goesOn

theorem ending_frame (running : ((start settings).frames earlier).Running (backlog earlier)) (now : Arrivals) :
    (((start settings).frames earlier).frame now).session.quitting = (ending? settings earlier now).isSome ∧
    (((start settings).frames earlier).frame now).session.signedIn =
      (ending? settings earlier now).bind Ending.email? := by
  obtain ⟨_, signedIn, quitting⟩ := fed_proceeds running now
  rw [session_frame running, ending?]
  split
  next quits => exact ⟨quitting.trans quits, signedIn⟩
  next goesOn =>
    have still : (fed settings earlier now).quitting = false := quitting.trans (by simpa using goesOn)
    refine ⟨(Session.quitting_applyAll ..).trans ?_, (Session.signedIn_applyAll ..).trans ?_⟩
    · rw [still, Bool.or_false, Option.isSome_map]
    · rw [signedIn, Option.or_none]
      cases lastAccepted? (results settings earlier now) <;> rfl

theorem running_frame (running : ((start settings).frames earlier).Running (backlog earlier)) {now : Arrivals}
    (goesOn : ending? settings earlier now = none) :
    (((start settings).frames earlier).frame now).Running (backlog (earlier ++ [now])) := by
  obtain ⟨quitting, signedIn⟩ := ending_frame running now
  rw [goesOn] at quitting signedIn
  have noQuitKey : (share earlier now).any TerminalEvent.isQuitKey = false := by
    by_contra quits
    rw [ending?, if_pos (by simpa using quits)] at goesOn
    contradiction
  refine ⟨pending_frame running now noQuitKey, quitting, ?_, signedIn⟩
  rw [session_frame running, noQuitKey]
  rfl

theorem running_of_goesOn (goesOn : GoesOn settings earlier) :
    ((start settings).frames earlier).Running (backlog earlier) := by
  induction earlier using List.reverseRecOn with
  | nil => exact ⟨rfl, rfl, rfl, rfl⟩
  | append_singleton earlier now ih =>
    have running := ih fun before next comes => goesOn before next (comes.trans (List.prefix_append ..))
    rw [frames_append_cons running.quitting]
    exact running_frame running (goesOn earlier now List.prefix_rfl)

theorem frames_of_ends {schedule : List Arrivals} {now : Arrivals} {ending : Ending}
    (comes : earlier ++ [now] <+: schedule) (goesOn : GoesOn settings earlier)
    (ends : ending? settings earlier now = some ending) :
    (start settings).frames schedule = ((start settings).frames earlier).frame now := by
  have running := running_of_goesOn goesOn
  obtain ⟨later, rfl⟩ := comes
  rw [List.append_assoc, List.singleton_append, frames_append_cons running.quitting]
  apply frames_of_quitting
  rw [(ending_frame running now).1, ends]
  rfl

theorem session_of_ends {schedule : List Arrivals} {ending : Ending} (ends : Ends settings schedule ending) :
    ((start settings).frames schedule).session.quitting = true ∧
    ((start settings).frames schedule).session.signedIn = ending.email? := by
  obtain ⟨earlier, now, comes, goesOn, ends⟩ := ends
  obtain ⟨quitting, signedIn⟩ := ending_frame (running_of_goesOn goesOn) now
  rw [frames_of_ends comes goesOn ends, quitting, signedIn, ends]
  exact ⟨rfl, rfl⟩

end

theorem quitting_iff_ends (settings : SessionSettings) (schedule : List Arrivals) :
    ((start settings).frames schedule).session.quitting = true ↔ ∃ ending, Ends settings schedule ending := by
  constructor
  · intro quitting
    rcases goesOn_or_ends settings schedule with goesOn | ends
    · rw [(running_of_goesOn goesOn).quitting] at quitting
      contradiction
    · exact ends
  · rintro ⟨ending, ends⟩
    exact (session_of_ends ends).1

theorem signedIn_iff_ends (settings : SessionSettings) (schedule : List Arrivals) (email : Text) :
    ((start settings).frames schedule).session.signedIn = some email ↔ Ends settings schedule (.success email) := by
  constructor
  · intro signedIn
    rcases goesOn_or_ends settings schedule with goesOn | ⟨ending, ends⟩
    · rw [(running_of_goesOn goesOn).signedIn] at signedIn
      contradiction
    · rw [(session_of_ends ends).2] at signedIn
      cases ending with
      | quitKey => contradiction
      | success other => exact Option.some.inj signedIn ▸ ends
  · intro ends
    exact (session_of_ends ends).2

end FormRun

namespace FormMode

def Framed (settings : SessionSettings) (state : State) : Prop :=
  ∃ schedule, state.run = (FormRun.start settings).frames schedule

namespace Framed

variable {settings : SessionSettings} {state : State}

theorem frame (framed : Framed settings state) (running : state.session.quitting = false) (endpoint : Endpoint)
    (bytes : Bytes) (deliveries : List (Nat × Delivery)) : Framed settings (state.frame endpoint bytes deliveries) := by
  obtain ⟨schedule, ran⟩ := framed
  have goesOn : ((FormRun.start settings).frames schedule).session.quitting = false := ran ▸ running
  obtain ⟨arrivals, framed⟩ : ∃ arrivals, (state.frame endpoint bytes deliveries).run = state.run.frame arrivals :=
    ⟨_, rfl⟩
  refine ⟨schedule ++ [arrivals], ?_⟩
  rw [FormRun.frames_append_cons goesOn, ← ran, framed, FormRun.frames]

theorem catchUp (framed : Framed settings state) (endpoint : Endpoint) :
    Framed settings (state.catchUp endpoint) := by
  rw [State.catchUp]
  -- The number of rounds is fixed before the first of them, whatever the events left by then.
  generalize List.replicate state.run.pending.length () = rounds
  induction rounds generalizing state with
  | nil => exact framed
  | cons _ rounds ih =>
    rw [List.foldl_cons]
    apply ih
    split
    · exact framed
    next goesOn =>
      rw [Bool.or_eq_true, not_or, Bool.not_eq_true] at goesOn
      exact framed.frame goesOn.1 endpoint [] []

theorem step (framed : Framed settings state) (endpoint : Endpoint) (service : Nat → Delivery)
    (happening : Happening) : Framed settings (state.step endpoint service happening) := by
  unfold State.step
  split
  · exact framed
  next goesOn =>
    rw [Bool.not_eq_true] at goesOn
    cases happening with
    | input bytes => exact (framed.frame goesOn endpoint bytes []).catchUp endpoint
    | replies => exact framed.frame goesOn endpoint [] _

end Framed

theorem framed_run (settings : SessionSettings) (endpoint : Endpoint) (service : Nat → Delivery)
    (happenings : List Happening) : Framed settings (run settings endpoint service happenings) := by
  have framed : ∀ state, Framed settings state →
      Framed settings (happenings.foldl (fun state happening => state.step endpoint service happening) state) := by
    induction happenings with
    | nil => exact fun _ framed => framed
    | cons happening happenings ih => exact fun state framed => ih _ (framed.step endpoint service happening)
  exact framed (.start settings) ⟨[], rfl⟩

end FormMode

namespace FormRun

/-- For every schedule of arrivals: the program exits with 0 and prints an email exactly if the form ends with a
success, which is the last one of the first frame that has a success before any quit key was taken, and the email is
that of the call; otherwise it exits with 1 and prints nothing. The form is over exactly if something ended it, and in
a frame that takes a quit key no answer is applied: those that have arrived stay in the queue. Whatever happens to the
form that runs, its frames are those of a schedule. -/
theorem exit_status_exact (settings : SessionSettings) (schedule : List Arrivals) (endpoint : Endpoint)
    (gathered : Bytes) (entries : List Journal.Entry) :
    let run := (start settings).frames schedule
    let report := Program.ofForm endpoint ⟨run, gathered, entries⟩
    (∀ email, report.exitStatus = 0 ∧ report.output = LineMode.successLine email ↔
      Ends settings schedule (.success email)) ∧
    ((∀ email, ¬ Ends settings schedule (.success email)) → report.exitStatus = 1 ∧ report.output = []) ∧
    (run.session.quitting = true ↔ ∃ ending, Ends settings schedule ending) ∧
    (∀ earlier now, earlier ++ [now] <+: schedule → GoesOn settings earlier →
      (share earlier now).any TerminalEvent.isQuitKey = true →
      run.session = (fed settings earlier now).withAnswers (unanswered settings earlier now)
        (results settings earlier now)) ∧
    ∀ service happenings, FormMode.Framed settings (FormMode.run settings endpoint service happenings) := by
  intro run report
  refine ⟨fun email => ?_, fun unsuccessful => ?_, quitting_iff_ends settings schedule, ?_,
    FormMode.framed_run settings endpoint⟩
  · constructor
    · rintro ⟨exits, prints⟩
      cases signedIn : run.session.signedIn with
      | none =>
        rw [(Program.ofForm_of_notSignedIn endpoint ⟨run, gathered, entries⟩ signedIn).1] at exits
        contradiction
      | some other =>
        have printed := (Program.ofForm_of_signedIn endpoint ⟨run, gathered, entries⟩ signedIn).2.symm.trans prints
        rw [← LineMode.successLine_injective printed]
        exact (signedIn_iff_ends settings schedule other).mp signedIn
    · intro ends
      exact Program.ofForm_of_signedIn endpoint _ ((signedIn_iff_ends settings schedule email).mpr ends)
  · apply Program.ofForm_of_notSignedIn
    show run.session.signedIn = none
    cases signedIn : run.session.signedIn with
    | none => rfl
    | some email => exact absurd ((signedIn_iff_ends settings schedule email).mp signedIn) (unsuccessful email)
  · intro earlier now comes goesOn quits
    have ends : ending? settings earlier now = some .quitKey := if_pos quits
    show ((start settings).frames schedule).session = _
    rw [frames_of_ends comes goesOn ends, session_frame (running_of_goesOn goesOn), if_pos quits]

/-- A success arrives together with the escape key. Behind as many other events as a frame takes, the key comes too
late; otherwise it comes first, also when it was left from an earlier frame. -/
theorem exit_status_exact_race :
    let settings : SessionSettings := ⟨some "a@b.c".toList, none, ⟨false, false⟩⟩
    let endpoint : Endpoint :=
      ⟨"https".toList, some ⟨.none, .domain "b.c".toList, none⟩, .segments ["signin".toList], none, none⟩
    let report := fun schedule => Program.ofForm endpoint ⟨(start settings).frames schedule, [], []⟩
    let submits : Arrivals := ⟨[.key (.pressed (.char 'x')), .key (.pressed .enter)], []⟩
    let escape : TerminalEvent := .key (.pressed .escape)
    let late : List TerminalEvent := List.replicate Session.frameLimit .report ++ [escape]
    let success : List (Nat × Answer) := [(0, .accepted)]
    ((report [submits, ⟨late, success⟩]).exitStatus = 0 ∧
      (report [submits, ⟨late, success⟩]).output = "Signed in as a@b.c\n".toList) ∧
    (∀ email, ¬ Ends settings [submits, ⟨late, []⟩, ⟨[], success⟩] (.success email)) ∧
    (report [submits, ⟨late, []⟩, ⟨[], success⟩]).exitStatus = 1 ∧
    ((start settings).frames [submits, ⟨late, []⟩, ⟨[], success⟩]).session.queue.map Prod.snd = [.accepted] := by
  intro settings endpoint report submits escape late success
  have submitted : GoesOn settings [submits] := goesOn_append (goesOn_nil settings) (by decide)
  have filled : GoesOn settings ([submits] ++ [⟨late, []⟩]) := goesOn_append submitted (by decide)
  have wins : Ends settings [submits, ⟨late, success⟩] (.success "a@b.c".toList) :=
    ⟨[submits], ⟨late, success⟩, List.prefix_rfl, submitted, by decide⟩
  obtain ⟨prints, _, _, _, _⟩ := exit_status_exact settings [submits, ⟨late, success⟩] endpoint [] []
  obtain ⟨loses, _, _, keeps, _⟩ := exit_status_exact settings [submits, ⟨late, []⟩, ⟨[], success⟩] endpoint [] []
  have kept := keeps [submits, ⟨late, []⟩] ⟨[], success⟩ List.prefix_rfl filled (by decide)
  have exits : (report [submits, ⟨late, []⟩, ⟨[], success⟩]).exitStatus = 1 := by decide
  refine ⟨(prints _).mpr wins, ?_, exits, ?_⟩
  · intro email ends
    have exitsOtherwise : (report [submits, ⟨late, []⟩, ⟨[], success⟩]).exitStatus = 0 := ((loses email).mpr ends).1
    exact absurd (exits.symm.trans exitsOtherwise) (by decide)
  · rw [kept]
    decide

end FormRun

end TerminalSignIn
