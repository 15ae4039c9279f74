import TerminalSignIn.Text.Display

/-!
# Notices

A rejection is reported to a sink. Two kinds of sink exist: a notice board, which keeps the latest notices for
the screen, and a line sink, which writes each notice as one line.
-/

namespace TerminalSignIn

class NoticeSink (σ : Type) where
  /-- Report an error with an optional title. -/
  report : σ → (title : Option Text) → (message : Text) → σ

structure Notice where
  title : Option Text
  message : Text
deriving DecidableEq

namespace Notice

/-- The notice for an error, unless nothing of its message can be displayed. A title of which nothing can be
displayed counts as none. -/
def ofError? (title : Option Text) (message : Text) : Option Notice :=
  let message := message.display
  if message.isEmpty then none
  else some ⟨(title.map Text.display).filter fun title => !title.isEmpty, message⟩

def format (notice : Notice) : Text :=
  match notice.title with
  | none => notice.message
  | some title => title ++ ": ".toList ++ notice.message

end Notice

structure NoticeBoard where
  history : List Notice
  onDisplay : Bool
deriving DecidableEq

namespace NoticeBoard

def capacity : Nat := 32

def empty : NoticeBoard := ⟨[], false⟩

def latest? (board : NoticeBoard) : Option Notice :=
  board.history.getLast?

def visible? (board : NoticeBoard) : Option Notice :=
  if board.onDisplay then board.latest? else none

def dismiss (board : NoticeBoard) : NoticeBoard :=
  { board with onDisplay := false }

def post (board : NoticeBoard) (notice : Notice) : NoticeBoard :=
  ⟨board.history.drop (board.history.length + 1 - capacity) ++ [notice], true⟩

def showError (board : NoticeBoard) (title : Option Text) (message : Text) : NoticeBoard :=
  match Notice.ofError? title message with
  | none => board
  | some notice => board.post notice

def take (board : NoticeBoard) : List Notice × NoticeBoard :=
  (board.history, empty)

end NoticeBoard

instance : NoticeSink NoticeBoard := ⟨NoticeBoard.showError⟩

/-- The lines written so far to an error stream. A broken stream loses what is written to it. -/
structure LineSink where
  broken : Bool
  lines : List Text
deriving DecidableEq

namespace LineSink

def write (sink : LineSink) (line : Text) : LineSink :=
  if sink.broken then sink else { sink with lines := sink.lines ++ [line] }

def defaultTitle : Text := "error".toList

def errorLine? (title : Option Text) (message : Text) : Option Text :=
  let message := message.display
  if message.isEmpty then none
  else some (title.getD defaultTitle ++ ": ".toList ++ message)

def showError (sink : LineSink) (title : Option Text) (message : Text) : LineSink :=
  match errorLine? title message with
  | none => sink
  | some line => sink.write line

def contents (sink : LineSink) : Text :=
  sink.lines.flatMap fun line => line ++ ['\n']

end LineSink

instance : NoticeSink LineSink := ⟨LineSink.showError⟩

end TerminalSignIn
