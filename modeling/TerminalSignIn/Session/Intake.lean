import TerminalSignIn.Session
import TerminalSignIn.Terminal.Event

/-!
# Input of a session

The form runs in frames. A frame first takes its share of the events that have arrived; if none of them ends the
session, it then applies the answers that have arrived. The session ends with the first frame after which it is
quitting, whether a key or a success made it so.

The terminal is read beside the frames, and what is read waits in a queue. A frame takes events from the queue without
waiting for more, up to its limit or as far as one that ends the session. It fails when it comes to what ended the
reading.
-/

namespace TerminalSignIn

/-! ### Events -/

namespace Session

inductive Action where
  | quit
  | clear
  | focusNext
  | focusPrevious
  | submit
  | backspace
  | insert (char : Char)
deriving DecidableEq

/-- What is bound to a key. A release asks for nothing; a character with alt, or with ctrl other than `c`
and `u`, is not bound. -/
def action? (event : KeyEvent) : Option Action :=
  if event.kind = .release then none
  else match event.code with
    | .escape => some .quit
    | .char char =>
      if event.modifiers.ctrl then
        if char = 'c' then some .quit else if char = 'u' then some .clear else none
      else if event.modifiers.alt then none
      else some (.insert char)
    | .tab | .down => some .focusNext
    | .backTab | .up => some .focusPrevious
    | .enter => some .submit
    | .backspace => some .backspace
    | .named => none

def perform (session : Session) : Action → Session
  | .quit => session.requestQuit
  | .clear => session.clearField
  | .focusNext => session.focusNext
  | .focusPrevious => session.focusPrevious
  | .submit => session.submit.2
  | .backspace => session.backspace
  | .insert char => session.insertChar char

def isLineBreak (char : Char) : Bool :=
  char = '\n' || char = '\r'

/-- The session after one terminal event. The fields have one line, so a paste loses its line breaks. -/
def takeEvent (session : Session) : TerminalEvent → Session
  | .key event => match action? event with
    | some action => session.perform action
    | none => session
  | .paste text => session.insertText (text.filter fun char => !isLineBreak char)
  | .report => session

def takeEvents (session : Session) : List TerminalEvent → Session
  | [] => session
  | event :: events =>
    let session := session.takeEvent event
    if session.quitting then session else session.takeEvents events

/-- The most events that one frame takes from the queue, so that drawing never starves. -/
def frameLimit : Nat := 64

/-- Take at most `limit` events from a queue; what is left of the queue comes with the session. An event
that ends the session is the last one taken. -/
def drain (limit : Nat) (session : Session) : List TerminalEvent → Session × List TerminalEvent
  | [] => (session, [])
  | event :: events => match limit with
    | 0 => (session, event :: events)
    | limit + 1 =>
      let session := session.takeEvent event
      if session.quitting then (session, events) else drain limit session events

def drainFrame (session : Session) (events : List TerminalEvent) : Session × List TerminalEvent :=
  drain frameLimit session events

end Session

/-! ### Frames -/

structure Arrivals where
  events : List TerminalEvent
  answers : List (Nat × Answer)

structure FormRun where
  session : Session
  pending : List TerminalEvent

namespace FormRun

def start (settings : SessionSettings) : FormRun :=
  ⟨.start settings, []⟩

def deliver (session : Session) (answers : List (Nat × Answer)) : Session :=
  answers.foldl (fun session (number, answer) => (session.answerCall number answer).2) session

/-- One frame. No answer is applied in the frame of a key that quits. -/
def frame (run : FormRun) (arrivals : Arrivals) : FormRun :=
  let (session, pending) := run.session.drainFrame (run.pending ++ arrivals.events)
  let session := deliver session arrivals.answers
  ⟨if session.quitting then session else session.processQueue, pending⟩

def frames (run : FormRun) : List Arrivals → FormRun
  | [] => run
  | arrivals :: later => if run.session.quitting then run else (run.frame arrivals).frames later

def exitStatus (run : FormRun) : Nat :=
  if run.session.signedIn.isSome then 0 else 1

end FormRun

/-! ### The queue of events -/

inductive InputMessage where
  | event (event : TerminalEvent)
  /-- The terminal cannot be read any more. -/
  | failure (reason : Text)
deriving DecidableEq

structure InputQueue where
  messages : List InputMessage
  connected : Bool
deriving DecidableEq

namespace InputQueue

def ofEvents (events : List TerminalEvent) : InputQueue :=
  ⟨events.map .event, true⟩

def receive (queue : InputQueue) (events : List TerminalEvent) : InputQueue :=
  { queue with messages := queue.messages ++ events.map .event }

end InputQueue

inductive InputFailure where
  | unreadable (reason : Text)
  | disconnected
deriving DecidableEq

def InputFailure.message : InputFailure → Text
  | .unreadable reason => "input error: ".toList ++ reason
  | .disconnected => "input pump disconnected".toList

structure Intake where
  answer : Except InputFailure Bool
  session : Session
  queue : InputQueue

namespace Session

def takeInput (session : Session) (queue : InputQueue) : Nat → Intake
  | 0 => ⟨.ok session.quitting, session, queue⟩
  | limit + 1 => match queue.messages with
    | [] => ⟨if queue.connected then .ok session.quitting else .error .disconnected, session, queue⟩
    | .failure reason :: rest => ⟨.error (.unreadable reason), session, { queue with messages := rest }⟩
    | .event event :: rest =>
      let session := session.takeEvent event
      let queue := { queue with messages := rest }
      if session.quitting then ⟨.ok true, session, queue⟩ else session.takeInput queue limit

end Session

structure InputRun where
  session : Session
  queue : InputQueue
  answer : Except InputFailure Bool

namespace InputRun

def start (session : Session) : InputRun :=
  ⟨session, .ofEvents [], .ok false⟩

/-- One frame, before which some events have been read. No frame follows one that fails or ends the session. -/
def frame (run : InputRun) (events : List TerminalEvent) : InputRun :=
  match run.answer with
  | .ok false =>
    let intake := run.session.takeInput (run.queue.receive events) Session.frameLimit
    ⟨intake.session, intake.queue, intake.answer⟩
  | _ => { run with queue := run.queue.receive events }

def frames (run : InputRun) (batches : List (List TerminalEvent)) : InputRun :=
  batches.foldl frame run

end InputRun

end TerminalSignIn
