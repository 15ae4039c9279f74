import Mathlib.Data.List.Induction
import TerminalSignIn.Proofs.Session.Intake
import TerminalSignIn.Session.Intake

/-!
# Frames do not show

A session takes its events in shares, and what comes of them is what would come of the same events one by one. A share
begins where the one before it ended, and no event but the last of it ends the session; `Standing` says where in all
that has been read a run of frames stands.
-/

namespace TerminalSignIn

namespace Session

def afterEvents (session : Session) (events : List TerminalEvent) : Session :=
  events.foldl takeEvent session

theorem afterEvents_append (session : Session) (events more : List TerminalEvent) :
    session.afterEvents (events ++ more) = (session.afterEvents events).afterEvents more :=
  List.foldl_append

/-- The session goes on in front of each of these events. -/
def Uninterrupted (session : Session) : List TerminalEvent → Prop
  | [] => True
  | event :: events => session.quitting = false ∧ (session.takeEvent event).Uninterrupted events

theorem Uninterrupted.append {session : Session} {events more : List TerminalEvent}
    (first : session.Uninterrupted events) (later : (session.afterEvents events).Uninterrupted more) :
    session.Uninterrupted (events ++ more) := by
  induction events generalizing session with
  | nil => exact later
  | cons event events ih => exact ⟨first.1, ih first.2 later⟩

/-- Events in front of each of which the session goes on are taken one by one, as long as there is a reason to stop
behind them. -/
theorem Uninterrupted.takeEvents {session : Session} {taken left : List TerminalEvent}
    (uninterrupted : session.Uninterrupted taken) (running : session.quitting = false)
    (stops : (session.afterEvents taken).quitting = true ∨ left = []) :
    session.takeEvents (taken ++ left) = session.afterEvents taken := by
  induction taken generalizing session with
  | nil =>
    rcases stops with ended | rfl
    · exact absurd (running.symm.trans ended) (by decide)
    · rfl
  | cons event taken ih =>
    rw [List.cons_append, Session.takeEvents]
    by_cases ended : (session.takeEvent event).quitting = true
    · -- An event that ends the session is the last that is taken.
      have last : taken = [] := by
        cases taken with
        | nil => rfl
        | cons next taken => exact absurd (uninterrupted.2.1.symm.trans ended) (by decide)
      rw [if_pos ended, last]
      rfl
    · rw [if_neg ended]
      exact ih uninterrupted.2 (Bool.eq_false_iff.mpr ended) stops

/-! ### One share -/

/-- What is taken of some events, and what is left of them: the session goes on in front of each that is taken, and
something is left only if the session has ended or the limit is reached. -/
structure Shared (session : Session) (limit : Nat) (events taken left : List TerminalEvent) : Prop where
  whole : events = taken ++ left
  few : taken.length ≤ limit
  uninterrupted : session.Uninterrupted taken
  stops : (session.afterEvents taken).quitting = true ∨ left = [] ∨ taken.length = limit

theorem exists_shared (limit : Nat) {session : Session} (running : session.quitting = false)
    (events : List TerminalEvent) :
    ∃ taken left, session.Shared limit events taken left ∧
      drain limit session events = (session.afterEvents taken, left) := by
  induction limit generalizing session events with
  | zero =>
    refine ⟨[], events, ⟨rfl, Nat.le_refl 0, trivial, .inr (.inr rfl)⟩, ?_⟩
    cases events <;> rfl
  | succ limit ih =>
    cases events with
    | nil => exact ⟨[], [], ⟨rfl, Nat.zero_le _, trivial, .inr (.inl rfl)⟩, rfl⟩
    | cons event events =>
      by_cases ended : (session.takeEvent event).quitting = true
      · refine ⟨[event], events, ⟨rfl, Nat.succ_le_succ (Nat.zero_le limit), ⟨running, trivial⟩, .inl ended⟩, ?_⟩
        rw [drain, if_pos ended]
        rfl
      · obtain ⟨taken, left, share, drained⟩ := ih (Bool.eq_false_iff.mpr ended) events
        refine ⟨event :: taken, left, ⟨?_, Nat.succ_le_succ share.few, ⟨running, share.uninterrupted⟩, ?_⟩, ?_⟩
        · rw [share.whole, List.cons_append]
        · rcases share.stops with finished | nothing | full
          · exact .inl finished
          · exact .inr (.inl nothing)
          · exact .inr (.inr (congrArg Nat.succ full))
        · rw [drain, if_neg ended, drained]
          rfl

theorem takeInput_ofEvents (limit : Nat) (session : Session) (events : List TerminalEvent) :
    session.takeInput (.ofEvents events) limit =
      ⟨.ok (drain limit session events).1.quitting, (drain limit session events).1,
        .ofEvents (drain limit session events).2⟩ := by
  induction limit generalizing session events with
  | zero => cases events <;> rfl
  | succ limit ih =>
    cases events with
    | nil => rfl
    | cons event events =>
      have next := ih (session.takeEvent event) events
      rw [InputQueue.ofEvents] at next
      rw [InputQueue.ofEvents, List.map_cons, takeInput, drain]
      dsimp only
      by_cases ended : (session.takeEvent event).quitting = true
      · rw [if_pos ended, if_pos ended, ended]
        rfl
      · rw [if_neg ended, if_neg ended, next]

theorem takeInput_append {session : Session} {taken : List TerminalEvent} (uninterrupted : session.Uninterrupted taken)
    (running : (session.afterEvents taken).quitting = false) (rest : List InputMessage) (connected : Bool)
    (limit : Nat) :
    session.takeInput ⟨taken.map .event ++ rest, connected⟩ (taken.length + limit) =
      (session.afterEvents taken).takeInput ⟨rest, connected⟩ limit := by
  induction taken generalizing session with
  | nil => rw [List.map_nil, List.nil_append, List.length_nil, Nat.zero_add, afterEvents, List.foldl_nil]
  | cons event taken ih =>
    have still : (session.takeEvent event).quitting = false := by
      cases taken with
      | nil => exact running
      | cons next taken => exact uninterrupted.2.1
    rw [List.length_cons, Nat.succ_add, List.map_cons, List.cons_append, takeInput]
    dsimp only
    rw [still, if_neg Bool.false_ne_true]
    exact ih uninterrupted.2 running

theorem takeInput_failure {session : Session} {taken : List TerminalEvent} (uninterrupted : session.Uninterrupted taken)
    (running : (session.afterEvents taken).quitting = false) (reason : Text) (rest : List InputMessage)
    (connected : Bool) {limit : Nat} (few : taken.length < limit) :
    session.takeInput ⟨taken.map .event ++ .failure reason :: rest, connected⟩ limit =
      ⟨.error (.unreadable reason), session.afterEvents taken, ⟨rest, connected⟩⟩ := by
  obtain ⟨more, rfl⟩ := Nat.exists_eq_add_of_lt few
  rw [Nat.add_assoc, takeInput_append uninterrupted running]
  rfl

end Session

/-! ### Frame after frame -/

theorem InputQueue.receive_ofEvents (events more : List TerminalEvent) :
    (ofEvents events).receive more = ofEvents (events ++ more) := by
  rw [ofEvents, receive, ofEvents, List.map_append]

namespace InputRun

/-- Where a run of frames stands: of all events that have been read some are taken, and the others wait. -/
structure Standing (session : Session) (read taken left : List TerminalEvent) (run : InputRun) : Prop where
  whole : read = taken ++ left
  uninterrupted : session.Uninterrupted taken
  state : run = ⟨session.afterEvents taken, .ofEvents left, .ok (session.afterEvents taken).quitting⟩

variable {session : Session} {read taken left : List TerminalEvent} {run : InputRun}

theorem standing_start (running : session.quitting = false) : Standing session [] [] [] (start session) where
  whole := rfl
  uninterrupted := trivial
  state := by
    rw [Session.afterEvents, List.foldl_nil, running]
    rfl

theorem frame_of_finished (finished : run.answer = .ok true) (batch : List TerminalEvent) :
    run.frame batch = { run with queue := run.queue.receive batch } := by
  rw [frame, finished]

theorem answer_frames_of_finished (finished : run.answer = .ok true) (batches : List (List TerminalEvent)) :
    (run.frames batches).answer = .ok true := by
  induction batches generalizing run with
  | nil => exact finished
  | cons batch batches ih =>
    have still : (run.frame batch).answer = .ok true := by
      rw [frame_of_finished finished]
      exact finished
    exact ih still

theorem Standing.frame (standing : Standing session read taken left run) (batch : List TerminalEvent) :
    ∃ share rest, Standing session (read ++ batch) (taken ++ share) rest (run.frame batch) ∧
      ((run.frame batch).answer = .ok true ∨ rest = [] ∨ share.length = Session.frameLimit) := by
  obtain ⟨rfl, uninterrupted, state⟩ := standing
  cases ended : (session.afterEvents taken).quitting with
  | true =>
    have finished : run.answer = .ok true := by rw [state, ended]
    have kept : run.frame batch = ⟨session.afterEvents taken, .ofEvents (left ++ batch), .ok true⟩ := by
      rw [frame_of_finished finished, state, InputQueue.receive_ofEvents, ended]
    refine ⟨[], left ++ batch, ⟨?_, ?_, ?_⟩, .inl (by rw [kept])⟩
    · rw [List.append_nil, List.append_assoc]
    · rw [List.append_nil]
      exact uninterrupted
    · rw [kept, List.append_nil, ended]
  | false =>
    obtain ⟨share, rest, shared, drained⟩ := Session.exists_shared Session.frameLimit ended (left ++ batch)
    have framed : run.frame batch = ⟨(session.afterEvents taken).afterEvents share, .ofEvents rest,
        .ok ((session.afterEvents taken).afterEvents share).quitting⟩ := by
      rw [InputRun.frame, state, ended]
      dsimp only
      rw [InputQueue.receive_ofEvents, Session.takeInput_ofEvents, drained]
    refine ⟨share, rest, ⟨?_, uninterrupted.append shared.uninterrupted, ?_⟩, ?_⟩
    · rw [List.append_assoc, shared.whole, List.append_assoc]
    · rw [framed, Session.afterEvents_append]
    · rw [framed]
      rcases shared.stops with finished | others
      · exact .inl (congrArg Except.ok finished)
      · exact .inr others

theorem Standing.frames (standing : Standing session read taken left run) (batches : List (List TerminalEvent)) :
    ∃ more rest, Standing session (read ++ batches.flatten) (taken ++ more) rest (run.frames batches) := by
  induction batches generalizing read taken left run with
  | nil =>
    refine ⟨[], left, ?_⟩
    rw [List.flatten_nil, List.append_nil, List.append_nil]
    exact standing
  | cons batch batches ih =>
    obtain ⟨share, rest, next, _⟩ := standing.frame batch
    obtain ⟨more, last, after⟩ := ih next
    refine ⟨share ++ more, last, ?_⟩
    rw [List.flatten_cons, ← List.append_assoc, ← List.append_assoc]
    exact after

/-- Without new events, enough frames take all that waits, or one of them ends the session. -/
theorem Standing.finishes (standing : Standing session read taken left run) (count : Nat)
    (enough : left.length ≤ Session.frameLimit * count) :
    (run.frames (List.replicate count [])).answer = .ok true ∨
      (run.frames (List.replicate count [])).queue = .ofEvents [] := by
  induction count generalizing read taken left run with
  | zero =>
    have nothing : left = [] := List.length_eq_zero_iff.mp (Nat.le_zero.mp enough)
    right
    rw [List.replicate_zero, InputRun.frames, List.foldl_nil, standing.state, nothing]
  | succ count ih =>
    obtain ⟨share, rest, next, stops⟩ := standing.frame []
    have split : left = share ++ rest := by
      have whole := next.whole
      rw [List.append_nil, standing.whole, List.append_assoc] at whole
      exact List.append_cancel_left whole
    rw [List.replicate_succ]
    rcases stops with finished | rfl | full
    · exact .inl (answer_frames_of_finished finished _)
    · exact ih next (Nat.zero_le _)
    · refine ih next ?_
      rw [split, List.length_append, full, Nat.mul_succ] at enough
      omega

theorem Standing.session_eq (standing : Standing session read taken left run) (running : session.quitting = false)
    (stops : run.answer = .ok true ∨ run.queue = .ofEvents []) : run.session = session.takeEvents read := by
  have reason : (session.afterEvents taken).quitting = true ∨ left = [] := by
    rw [standing.state] at stops
    rcases stops with finished | empty
    · exact .inl (Except.ok.inj finished)
    · exact .inr (List.map_eq_nil_iff.mp (congrArg InputQueue.messages empty))
  rw [standing.state, standing.whole]
  exact (standing.uninterrupted.takeEvents running reason).symm

theorem frames_append (run : InputRun) (batches more : List (List TerminalEvent)) :
    run.frames (batches ++ more) = (run.frames batches).frames more :=
  List.foldl_append

theorem frames_finish (running : session.quitting = false) {batches : List (List TerminalEvent)} {count : Nat}
    (enough : batches.flatten.length ≤ Session.frameLimit * count) :
    let run := (start session).frames (batches ++ List.replicate count [])
    run.answer = .ok true ∨ run.queue = .ofEvents [] := by
  obtain ⟨taken, left, standing⟩ := (standing_start running).frames batches
  have few : left.length ≤ Session.frameLimit * count := by
    have whole := congrArg List.length standing.whole
    rw [List.nil_append, List.length_append] at whole
    omega
  rw [frames_append]
  exact standing.finishes count few

theorem session_frames (running : session.quitting = false) {batches : List (List TerminalEvent)}
    (stops : ((start session).frames batches).answer = .ok true ∨
      ((start session).frames batches).queue = .ofEvents []) :
    ((start session).frames batches).session = session.takeEvents batches.flatten := by
  obtain ⟨taken, left, standing⟩ := (standing_start running).frames batches
  exact standing.session_eq running stops

end InputRun

/-- Each frame takes its share of the events that wait, 64 at most, in order and with nothing left out, and it answers
whether the session is over then. Whatever the frames between which events arrive, a run of them takes the events that
it takes in their order, the others wait, and it comes to the same session as the events one by one, as far as the first
that ends it; and it does come to that, given frames enough. A failure of the terminal is told in its turn: the events
in front of it are taken, and what is behind it waits. -/
theorem Session.batching_invisible (session : Session) (running : session.quitting = false) :
    (∀ events, ∃ taken left, session.Shared 64 events taken left ∧
      session.takeInput (.ofEvents events) frameLimit =
        ⟨.ok (session.afterEvents taken).quitting, session.afterEvents taken, .ofEvents left⟩) ∧
    (∀ batches, ∃ taken left,
      let run := (InputRun.start session).frames batches
      InputRun.Standing session batches.flatten taken left run ∧
      (run.answer = .ok true ∨ run.queue = .ofEvents [] → run.session = session.takeEvents batches.flatten)) ∧
    (∀ batches count, batches.flatten.length ≤ 64 * count →
      let run := (InputRun.start session).frames (batches ++ List.replicate count [])
      (run.answer = .ok true ∨ run.queue = .ofEvents []) ∧ run.session = session.takeEvents batches.flatten) ∧
    ∀ taken, session.Uninterrupted taken → (session.afterEvents taken).quitting = false → taken.length < 64 →
      ∀ reason rest connected,
        session.takeInput ⟨taken.map .event ++ .failure reason :: rest, connected⟩ frameLimit =
          ⟨.error (.unreadable reason), session.afterEvents taken, ⟨rest, connected⟩⟩ := by
  refine ⟨fun events => ?_, fun batches => ?_, fun batches count enough => ?_, ?_⟩
  · obtain ⟨taken, left, shared, drained⟩ := exists_shared frameLimit running events
    refine ⟨taken, left, shared, ?_⟩
    rw [takeInput_ofEvents, drained]
  · obtain ⟨taken, left, standing⟩ := (InputRun.standing_start running).frames batches
    exact ⟨taken, left, standing, InputRun.session_frames running⟩
  · have nothing : (batches ++ List.replicate count []).flatten = batches.flatten := by
      rw [List.flatten_append, List.flatten_replicate_nil, List.append_nil]
    have finished := InputRun.frames_finish running enough
    exact ⟨finished, nothing ▸ InputRun.session_frames running finished⟩
  · intro taken uninterrupted goesOn few reason rest connected
    exact takeInput_failure uninterrupted goesOn reason rest connected few

/-- A quit key as the last event of a share, with others behind it, and as the first of the next share; and a terminal
that fails behind one event. -/
theorem Session.batching_invisible_at_limit :
    let session := Session.start ⟨some "a@b.c".toList, none, ⟨false, false⟩⟩
    let typed (char : Char) : TerminalEvent := .key (.pressed (.char char))
    let escape : TerminalEvent := .key (.pressed .escape)
    let filled := typed 'x' :: List.replicate 62 .report
    let early := (InputRun.start session).frames [filled ++ [escape, typed 'y'], [typed 'z']]
    let late := fun count =>
      (InputRun.start session).frames ([filled ++ [typed 'y', escape]] ++ List.replicate count [])
    session.quitting = false ∧
    (early.answer = .ok true ∧ early.queue = .ofEvents [typed 'y', typed 'z'] ∧
      early.session = session.takeEvents (filled ++ [escape, typed 'y', typed 'z'])) ∧
    ((late 0).answer = .ok false ∧ (late 0).queue = .ofEvents [escape]) ∧
    (late 2).session = session.takeEvents (filled ++ [typed 'y', escape]) ∧
    session.takeInput ⟨[.event (typed 'x'), .failure "lost".toList, .event escape], true⟩ frameLimit =
      ⟨.error (.unreadable "lost".toList), session.takeEvent (typed 'x'), .ofEvents [escape]⟩ := by
  intro session typed escape filled early late
  have running : session.quitting = false := rfl
  obtain ⟨_, arriving, finishing, failing⟩ := batching_invisible session running
  have ended : early.answer = .ok true := rfl
  have behind : early.queue = .ofEvents [typed 'y', typed 'z'] := by decide
  obtain ⟨_, _, _, same⟩ := arriving [filled ++ [escape, typed 'y'], [typed 'z']]
  have continues : (late 0).answer = .ok false := rfl
  have waits : (late 0).queue = .ofEvents [escape] := by decide
  obtain ⟨_, sameLater⟩ := finishing [filled ++ [typed 'y', escape]] 2 (by decide)
  have failed := failing [typed 'x'] ⟨running, trivial⟩ rfl (by decide) "lost".toList [.event escape] true
  exact ⟨running, ⟨ended, behind, same (.inl ended)⟩, ⟨continues, waits⟩, sameLater, failed⟩

end TerminalSignIn
