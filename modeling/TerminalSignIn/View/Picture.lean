import TerminalSignIn.Screen

/-!
# The view and its picture

The view is all that a picture of a session depends on: what each field shows, the error under it, the line that tells
the status, and the notice. The characters of the password are not part of it, only their number.

The card stands in the middle of the frame, one cell away from its edges and at most 56 columns wide. Its rows go to the
title, the two fields, the button, the status line and the notices, in this order. A picture is a screen and the place
of the cursor; `View.picture` draws a view into a frame of any size.
-/

namespace TerminalSignIn

/-- What is seen of one field. The password is shown by as many mask signs as it has characters. -/
structure FieldView where
  label : Text
  focused : Bool
  /-- The border shows a failing check. -/
  invalid : Bool
  shown : Text
  error : Option Text
deriving DecidableEq

inductive StatusView where
  | signedIn (email : Text)
  | idle
  | validating
  | authenticating (pending : Nat)
  | rejected
deriving DecidableEq

structure View where
  options : DisplayOptions
  email : FieldView
  password : FieldView
  canSubmit : Bool
  status : StatusView
  notice : Option Notice
deriving DecidableEq

/-- What is said under a field when a check fails. The message of the service concerns both fields and is
said under the password. -/
def Form.complaint? (form : Form) (field : Field) : Check → Option Text
  | .required => some (field.label ++ " is required".toList)
  | .email => some "Enter a valid email address".toList
  | .server => match field with
    | .email => none
    | .password => form.serverError.map NonBlank.text

/-- The error under a field: the complaint of its first failing check, once the field was touched. -/
def Form.fieldError? (form : Form) (field : Field) : Option Text :=
  if (form.field field).touched then (form.field field).failing.head?.bind (form.complaint? field) else none

namespace Session

def shownText (session : Session) (field : Field) : Text :=
  let value := (session.form.credentials.value field).getD []
  match field with
  | .email => value
  | .password => List.replicate value.length (Glyphs.ofOptions session.options).mask

def fieldView (session : Session) (field : Field) : FieldView where
  label := field.label
  focused := session.focus = field
  invalid := (session.form.field field).touched && (session.form.field field).isInvalid
  shown := session.shownText field
  error := session.form.fieldError? field

/-- A sign-in that succeeded is told first, whatever the phase. -/
def statusView (session : Session) : StatusView :=
  match session.signedIn with
  | some email => .signedIn email
  | none => match session.phase with
    | .idle => .idle
    | .validating => .validating
    | .authenticating _ => .authenticating session.inFlight
    | .rejected => .rejected

def view (session : Session) : View where
  options := session.options
  email := session.fieldView .email
  password := session.fieldView .password
  canSubmit := session.desk.canSubmit
  status := session.statusView
  notice := session.notice?

end Session

/-! ### The layout of the card -/

structure FieldLayout where
  label : Rect
  input : Rect
  error : Rect
deriving DecidableEq

structure CardLayout where
  title : Rect
  email : FieldLayout
  password : FieldLayout
  submit : Rect
  status : Rect
  notices : Rect
deriving DecidableEq

def cardWidth : Nat := 56

def toastHeight : Nat := 4

def cardArea (frame : Rect) : Rect :=
  let inner := frame.inset 1 1
  let width := min cardWidth inner.width
  { inner with x := inner.x + (inner.width - width) / 2, width := width }

namespace Rect

def splitRows (rect : Rect) (rows : Nat) : Rect × Rect :=
  let height := min rows rect.height
  ({ rect with height := height }, { rect with y := rect.y + height, height := rect.height - height })

end Rect

def FieldLayout.ofCard (rest : Rect) : FieldLayout × Rect :=
  let (label, rest) := rest.splitRows 1
  let (input, rest) := rest.splitRows 3
  let (error, rest) := rest.splitRows 1
  (⟨label, input, error⟩, rest)

def CardLayout.ofCard (card : Rect) : CardLayout :=
  let (title, rest) := card.splitRows 2
  let (email, rest) := FieldLayout.ofCard rest
  let (password, rest) := FieldLayout.ofCard rest
  let (submit, rest) := rest.splitRows 1
  let (status, notices) := rest.splitRows 1
  ⟨title, email, password, submit, status, notices⟩

def inputInterior (input : Rect) : Rect :=
  input.inset 2 1

/-- Where a notice is shown: at the bottom of its area, if that has three rows at least. -/
def toastArea? (notices : Rect) : Option Rect :=
  if notices.height < 3 then none
  else
    let height := min toastHeight notices.height
    some { notices with y := notices.y + notices.height - height, height := height }

/-! ### Pictures -/

structure Picture where
  screen : Screen
  cursor : Option (Nat × Nat)

/-- The part of a field's text that is visible: its end, as far as it leaves a column for the cursor. -/
def FieldView.visible (field : FieldView) (widths : Widths) (interior : Rect) : Text :=
  field.shown.tailFitting widths (interior.width - 1)

/-- Widths on the screen are kept in sixteen bits. -/
def screenUnits : Nat := 65536

def FieldView.cursor? (field : FieldView) (widths : Widths) (interior : Rect) : Option (Nat × Nat) :=
  if field.focused && !interior.isEmpty then
    some (interior.x + min (widths.text (field.visible widths interior) % screenUnits) (interior.width - 1), interior.y)
  else none

namespace View

def palette (view : View) : Palette := .ofOptions view.options

def glyphs (view : View) : Glyphs := .ofOptions view.options

def drawField (view : View) (widths : Widths) (field : FieldView) (layout : FieldLayout) (screen : Screen) : Screen :=
  let palette := view.palette
  let marker := if field.focused then view.glyphs.focus else [' ']
  let screen := screen.paintLine widths layout.label .left (palette.label field.focused)
    (marker ++ [' '] ++ field.label)
  let screen := screen.border layout.input (palette.fieldBorder field.focused field.invalid)
  let interior := inputInterior layout.input
  let screen := screen.paintLine widths interior .left (.colored palette.textPrimary) (field.visible widths interior)
  match field.error with
  | none => screen
  | some message => screen.paintLine widths layout.error .left palette.fieldError
      ("  ".toList ++ view.glyphs.error ++ [' '] ++ message)

def statusLine (view : View) (tick : Nat) : Style × Text :=
  let palette := view.palette
  match view.status with
  | .signedIn email => (.colored palette.success, view.glyphs.ok ++ " Signed in as ".toList ++ email)
  | .idle => (.colored palette.textMuted, "Enter sign in | Tab switch field | Esc quit".toList)
  | .validating => (.colored palette.textMuted, "Validating...".toList)
  | .authenticating pending =>
    let count := if 1 < pending then " (".toList ++ Text.ofNat pending ++ " pending)".toList else []
    (.colored palette.accent, view.glyphs.spinnerFrame tick ++ " Signing in...".toList ++ count)
  | .rejected =>
    (.colored palette.warning,
      view.glyphs.error ++ " Sign in failed. Edit and press Enter to retry".toList)

def drawNotice (view : View) (widths : Widths) (area : Rect) (notice : Notice) (screen : Screen) : Screen :=
  match toastArea? area with
  | none => screen
  | some toast =>
    let palette := view.palette
    let title := [' '] ++ view.glyphs.error ++ [' '] ++ notice.title.getD "Error".toList ++ [' ']
    let interior := toast.inset 1 1
    let screen := (screen.clear toast).restyle toast ⟨some palette.textPrimary, some palette.bgPanel, false⟩
    let screen := screen.border toast (.colored palette.error)
    let screen :=
      screen.overlay widths { interior with y := toast.y, height := 1 } ⟨some palette.error, none, true⟩ title
    screen.paintParagraph widths interior .plain notice.message

def picture (view : View) (widths : Widths) (width height tick : Nat) : Picture :=
  let palette := view.palette
  let frame : Rect := ⟨0, 0, width, height⟩
  let layout := CardLayout.ofCard (cardArea frame)
  let screen := (Screen.blank width height).restyle frame (.onColor palette.bgDark)
  let screen := screen.paintLine widths layout.title .center ⟨some palette.textPrimary, none, true⟩ "Sign in".toList
  let screen := view.drawField widths view.email layout.email screen
  let screen := view.drawField widths view.password layout.password screen
  let screen := screen.paintLine widths layout.submit .center (palette.submit view.canSubmit) "[ Sign in ]".toList
  let (statusStyle, status) := view.statusLine tick
  let screen := screen.paintLine widths layout.status .center statusStyle status
  let screen := match view.notice with
    | none => screen
    | some notice => view.drawNotice widths layout.notices notice screen
  ⟨screen, match view.email.cursor? widths (inputInterior layout.email.input) with
    | some place => some place
    | none => view.password.cursor? widths (inputInterior layout.password.input)⟩

end View

/-- `widths` is how the library of widths measures. -/
def Session.draw (session : Session) (width height tick : Nat) (widths : Widths := .standard) : Picture :=
  session.view.picture widths width height tick

end TerminalSignIn
