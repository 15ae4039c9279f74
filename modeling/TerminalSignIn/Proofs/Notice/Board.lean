import Mathlib.Data.List.DropRight
import TerminalSignIn.Notice

/-!
# The notice board as a log

A board is reported to, dismissed and taken from in any order. The errors of which something can be displayed make up
a log that every taking starts anew, and the board always holds the end of that log, as far as there is room for it.
-/

namespace TerminalSignIn

inductive BoardEvent where
  | report (title : Option Text) (message : Text)
  | dismiss
  | take
deriving DecidableEq

namespace BoardEvent

def isReport : BoardEvent → Bool
  | .report _ _ => true
  | _ => false

def isTake : BoardEvent → Bool
  | .take => true
  | _ => false

def shownTitle? (title : Option Text) : Option Text := do
  let given ← title
  if given.display = [] then none else some given.display

/-- The notice that an event calls for. Nothing is called for by an error of which nothing can be displayed. -/
def notice? : BoardEvent → Option Notice
  | .report title message =>
    if message.display = [] then none else some { title := shownTitle? title, message := message.display }
  | _ => none

/-- The notices called for since the last taking. -/
def log (events : List BoardEvent) : List Notice :=
  (events.rtakeWhile fun event => !event.isTake).filterMap notice?

/-- The notices called for since the last dismissal or taking. -/
def undismissed (events : List BoardEvent) : List Notice :=
  (events.rtakeWhile isReport).filterMap notice?

theorem ofError?_eq_notice? (title : Option Text) (message : Text) :
    Notice.ofError? title message = (report title message).notice? := by
  have same : (title.map Text.display).filter (fun title => !title.isEmpty) = shownTitle? title := by
    cases title with
    | none => rfl
    | some given => by_cases nothing : given.display = [] <;> simp [shownTitle?, nothing]
  unfold Notice.ofError? notice?
  simp only [List.isEmpty_iff, same]

@[simp]
theorem log_take (events : List BoardEvent) : log (events ++ [take]) = [] := by
  unfold log
  rw [List.rtakeWhile_concat_neg _ _ _ (by decide), List.filterMap_nil]

@[simp]
theorem log_dismiss (events : List BoardEvent) : log (events ++ [dismiss]) = log events := by
  unfold log
  rw [List.rtakeWhile_concat_pos _ _ _ (by decide), List.filterMap_append]
  exact List.append_nil _

@[simp]
theorem log_report (events : List BoardEvent) (title : Option Text) (message : Text) :
    log (events ++ [report title message]) = log events ++ (report title message).notice?.toList := by
  unfold log
  rw [List.rtakeWhile_concat_pos _ _ _ rfl, List.filterMap_append]
  cases called : (report title message).notice? <;> simp [called]

theorem undismissed_of_not_report (events : List BoardEvent) {event : BoardEvent} (other : event.isReport = false) :
    undismissed (events ++ [event]) = [] := by
  unfold undismissed
  rw [List.rtakeWhile_concat_neg _ _ _ (by simp [other]), List.filterMap_nil]

@[simp]
theorem undismissed_report (events : List BoardEvent) (title : Option Text) (message : Text) :
    undismissed (events ++ [report title message]) = undismissed events ++ (report title message).notice?.toList := by
  unfold undismissed
  rw [List.rtakeWhile_concat_pos _ _ _ rfl, List.filterMap_append]
  cases called : (report title message).notice? <;> simp [called]

end BoardEvent

namespace NoticeBoard

open BoardEvent (log undismissed)

def apply (board : NoticeBoard) : BoardEvent → NoticeBoard
  | .report title message => board.showError title message
  | .dismiss => board.dismiss
  | .take => board.take.2

def run (events : List BoardEvent) : NoticeBoard :=
  events.foldl apply empty

theorem run_append (events : List BoardEvent) (event : BoardEvent) :
    run (events ++ [event]) = (run events).apply event := by
  unfold run
  rw [List.foldl_append, List.foldl_cons, List.foldl_nil]

def lately (notices : List Notice) : List Notice :=
  notices.drop (notices.length - capacity)

theorem lately_append (notices : List Notice) (notice : Notice) :
    lately (notices ++ [notice]) = (lately notices).drop ((lately notices).length + 1 - capacity) ++ [notice] := by
  unfold lately
  have room : 0 < capacity := by decide
  have skipped : notices.length - capacity + (notices.length - (notices.length - capacity) + 1 - capacity) =
      notices.length + 1 - capacity := by omega
  have within : notices.length + 1 - capacity ≤ notices.length := by omega
  simp only [List.length_append, List.length_singleton, List.length_drop, List.drop_drop, skipped]
  exact List.drop_append_of_le_length within

theorem lately_suffix (notices : List Notice) : lately notices <:+ notices :=
  List.drop_suffix _ _

theorem length_lately (notices : List Notice) : (lately notices).length = min notices.length capacity := by
  unfold lately
  rw [List.length_drop]
  omega

theorem getLast?_lately (notices : List Notice) : (lately notices).getLast? = notices.getLast? := by
  unfold lately
  rw [List.getLast?_drop]
  have room : 0 < capacity := by decide
  cases notices with
  | nil => rfl
  | cons notice notices =>
    apply if_neg
    rw [List.length_cons]
    omega

structure Follows (board : NoticeBoard) (events : List BoardEvent) : Prop where
  history : board.history = lately (log events)
  onDisplay : board.onDisplay = !(undismissed events).isEmpty

variable {board : NoticeBoard} {events : List BoardEvent}

theorem follows_empty : empty.Follows [] := ⟨rfl, rfl⟩

theorem Follows.report (follows : board.Follows events) (title : Option Text) (message : Text) :
    (board.showError title message).Follows (events ++ [.report title message]) := by
  unfold showError
  rw [BoardEvent.ofError?_eq_notice?]
  cases called : (BoardEvent.report title message).notice? with
  | none =>
    constructor
    · simpa [called] using follows.history
    · simpa [called] using follows.onDisplay
  | some notice =>
    constructor
    · simp only [BoardEvent.log_report, called, Option.toList_some, lately_append, post, follows.history]
    · simp [called, post]

theorem Follows.apply (follows : board.Follows events) (event : BoardEvent) :
    (board.apply event).Follows (events ++ [event]) := by
  cases event with
  | report title message => exact follows.report title message
  | dismiss =>
    constructor
    · rw [BoardEvent.log_dismiss]
      exact follows.history
    · rw [BoardEvent.undismissed_of_not_report _ rfl]
      rfl
  | take =>
    constructor
    · rw [BoardEvent.log_take]
      rfl
    · rw [BoardEvent.undismissed_of_not_report _ rfl]
      rfl

theorem follows_run (events : List BoardEvent) : (run events).Follows events := by
  induction events using List.reverseRecOn with
  | nil => exact follows_empty
  | append_singleton events event ih =>
    rw [run_append]
    exact ih.apply event

/-- After every run of reports, dismissals and takings the board holds the last notices of the log, 32 of them if there
are as many. Taking hands out just these and leaves a new board. The latest notice is the last of the history, and of
the log. It is visible if and only if some notice was called for since the last dismissal or taking. A report of which
nothing can be displayed leaves every board as it is. -/
theorem board_of_events (events : List BoardEvent) :
    let board := run events
    (board.history <:+ log events ∧ board.history.length = min (log events).length 32) ∧
    board.take = (board.history, empty) ∧
    (board.latest? = board.history.getLast? ∧ board.latest? = (log events).getLast?) ∧
    board.visible? = (if undismissed events = [] then none else (log events).getLast?) ∧
    ∀ (title : Option Text) (message : Text), message.display = [] →
      board.apply (.report title message) = board := by
  intro board
  obtain ⟨history, onDisplay⟩ := follows_run events
  have latest : board.latest? = (log events).getLast? := by
    unfold latest?
    rw [history, getLast?_lately]
  refine ⟨⟨?_, ?_⟩, rfl, ⟨rfl, latest⟩, ?_, ?_⟩
  · rw [history]
    exact lately_suffix _
  · rw [history]
    exact length_lately _
  · unfold visible?
    rw [onDisplay, latest]
    by_cases dismissed : undismissed events = [] <;> simp [dismissed]
  · intro title message nothing
    unfold apply showError
    simp only [BoardEvent.ofError?_eq_notice?, BoardEvent.notice?, nothing, if_true]

/-- Of 33 notices behind a taking the first is dropped, and a report of nothing but escape sequences does not bring back
the dismissed one. -/
theorem board_of_events_overfull :
    let events : List BoardEvent := [.report none "Old".toList, .take]
      ++ (List.range 33).map (fun number => .report (some "Try\x07".toList) (Text.ofNat number)) ++ [.dismiss]
    let notice (number : Nat) : Notice := ⟨some "Try".toList, Text.ofNat number⟩
    let board := run events
    board.history = (List.range' 1 32).map notice ∧ board.take = (board.history, empty) ∧
    board.latest? = some (notice 32) ∧ board.visible? = none ∧
    Text.display "\x1b[1m \x1b[0m".toList = [] ∧
    board.apply (.report none "\x1b[1m \x1b[0m".toList) = board := by
  intro events notice board
  have called : log events = (List.range 33).map notice := by decide +kernel
  have dismissed : undismissed events = [] := by decide +kernel
  have nothing : Text.display "\x1b[1m \x1b[0m".toList = [] := by decide
  obtain ⟨⟨⟨before, split⟩, full⟩, taken, ⟨_, latest⟩, visible, blank⟩ := board_of_events events
  have length : (log events).length = 33 := by rw [called]; rfl
  have dropped : before.length = 1 := by
    have total := congrArg List.length split
    rw [List.length_append, full, length] at total
    omega
  refine ⟨?_, taken, ?_, ?_, nothing, blank none _ nothing⟩
  · have behind := congrArg (List.drop 1) split
    rw [List.drop_left' dropped, called] at behind
    exact behind
  · rw [latest, called]
    rfl
  · rw [visible, if_pos dismissed]

end NoticeBoard

end TerminalSignIn
