import TerminalSignIn.Proofs.Session.Run
import TerminalSignIn.Proofs.View.Layout
import TerminalSignIn.Proofs.View.Words

/-!
# Where things are drawn

A frame of sixteen rows leaves nothing to chance, however wide or narrow it is and whatever the session holds: the card
stands in the middle, the cursor inside the input of its field, and a notice below the status line. No place on the way
to them is computed beyond the words that hold it.
-/

namespace TerminalSignIn

namespace View

open Screen

def withoutNotice (view : View) : View :=
  { view with notice := none }

def drawParts (view : View) (widths : Widths) (width height tick : Nat) : Screen :=
  let palette := view.palette
  let frame : Rect := ⟨0, 0, width, height⟩
  let layout := CardLayout.ofCard (cardArea frame)
  let screen := (Screen.blank width height).restyle frame (.onColor palette.bgDark)
  let screen := screen.paintLine widths layout.title .center ⟨some palette.textPrimary, none, true⟩ "Sign in".toList
  let screen := view.drawField widths view.email layout.email screen
  let screen := view.drawField widths view.password layout.password screen
  let screen := screen.paintLine widths layout.submit .center (palette.submit view.canSubmit) "[ Sign in ]".toList
  screen.paintLine widths layout.status .center (view.statusLine tick).1 (view.statusLine tick).2

theorem screen_picture (view : View) (widths : Widths) (width height tick : Nat) :
    (view.picture widths width height tick).screen =
      match view.notice with
      | none => view.drawParts widths width height tick
      | some notice => view.drawNotice widths (CardLayout.ofCard (cardArea ⟨0, 0, width, height⟩)).notices notice
          (view.drawParts widths width height tick) := rfl

theorem screen_picture_withoutNotice (view : View) (widths : Widths) (width height tick : Nat) :
    (view.withoutNotice.picture widths width height tick).screen = view.drawParts widths width height tick := by
  have palette : view.withoutNotice.palette = view.palette := rfl
  have drawField : view.withoutNotice.drawField widths = view.drawField widths := rfl
  have statusLine : view.withoutNotice.statusLine tick = view.statusLine tick := rfl
  have email : view.withoutNotice.email = view.email := rfl
  have password : view.withoutNotice.password = view.password := rfl
  have canSubmit : view.withoutNotice.canSubmit = view.canSubmit := rfl
  rw [screen_picture]
  change view.withoutNotice.drawParts widths width height tick = _
  simp only [drawParts, palette, drawField, statusLine, email, password, canSubmit]

theorem sameOutside_drawField (view : View) (widths : Widths) (field : FieldView) (card : Rect) (row : Nat)
    (screen : Screen) :
    SameOutside (card.y + row) (card.y + row + 5) screen (view.drawField widths field (.atRow card row) screen) := by
  have label : (card.band row 1).InRows (card.y + row) (card.y + row + 5) := Rect.inRows_band (by omega) (by omega)
  have input : (card.band (row + 1) 3).InRows (card.y + row) (card.y + row + 5) :=
    Rect.inRows_band (by omega) (by omega)
  have interior : (inputInterior (card.band (row + 1) 3)).InRows (card.y + row) (card.y + row + 5) := by
    simp only [Rect.InRows, inputInterior, Rect.inset, Rect.band, Rect.bottom]
    omega
  have error : (card.band (row + 4) 1).InRows (card.y + row) (card.y + row + 5) :=
    Rect.inRows_band (by omega) (by omega)
  rw [drawField]
  split
  next =>
    exact (((SameOutside.refl ..).within (sameOutside_paintLine ..) label).within (sameOutside_border ..) input).within
      (sameOutside_paintLine ..) interior
  next =>
    exact ((((SameOutside.refl ..).within (sameOutside_paintLine ..) label).within (sameOutside_border ..) input).within
      (sameOutside_paintLine ..) interior).within (sameOutside_paintLine ..) error

theorem sameOutside_drawParts (view : View) (widths : Widths) (width : Nat) {height : Nat} (tall : 16 ≤ height)
    (tick : Nat) :
    SameOutside 0 15 ((Screen.blank width height).restyle ⟨0, 0, width, height⟩ (.onColor view.palette.bgDark))
      (view.drawParts widths width height tick) := by
  have rows (row rows : Nat) (above : row + rows ≤ 14) : ((cardArea ⟨0, 0, width, height⟩).band row rows).InRows 0 15 :=
    Rect.inRows_band (Nat.zero_le _) (show 1 + row + rows ≤ 15 by omega)
  have fields (field : FieldView) (row : Nat) (above : row + 5 ≤ 14) (screen : Screen) : SameOutside 0 15 screen
      (view.drawField widths field (.atRow (cardArea ⟨0, 0, width, height⟩) row) screen) :=
    (sameOutside_drawField ..).mono (Nat.zero_le _) (show 1 + row + 5 ≤ 15 by omega)
  rw [drawParts, CardLayout.ofCard_eq (show 14 ≤ height - 2 by omega)]
  refine .within ?_ (sameOutside_paintLine ..) (rows 13 1 (by decide))
  refine .within ?_ (sameOutside_paintLine ..) (rows 12 1 (by decide))
  refine .trans ?_ (fields view.password 7 (by decide) _)
  refine .trans ?_ (fields view.email 2 (by decide) _)
  exact .within (.refl ..) (sameOutside_paintLine ..) (rows 0 2 (by decide))

theorem symbol_drawParts_below (view : View) (widths : Widths) {width height : Nat} (tall : 16 ≤ height) (tick : Nat)
    {x y : Nat}
    (column : x < width) (below : 15 ≤ y) (row : y < height) :
    ((view.drawParts widths width height tick).cell? x y).map Cell.symbol = some [' '] := by
  rw [(view.sameOutside_drawParts widths width tall tick).cell? x y (.inr below), restyle, cell?_fill,
    cell?_blank column row,
    Option.map_some, Option.map_some]
  split <;> rfl

theorem sameOutside_drawNotice (view : View) (widths : Widths) {notices toast : Rect}
    (shown : toastArea? notices = some toast)
    (notice : Notice) (screen : Screen) :
    SameOutside toast.y toast.bottom screen (view.drawNotice widths notices notice screen) := by
  have rows : 3 ≤ toast.height := (toastArea?_bounds shown).2.2.1
  have whole : toast.InRows toast.y toast.bottom := ⟨Nat.le_refl _, Nat.le_refl _⟩
  have title : ({ toast.inset 1 1 with y := toast.y, height := 1 } : Rect).InRows toast.y toast.bottom := by
    simp only [Rect.InRows, Rect.bottom]
    omega
  have interior : (toast.inset 1 1).InRows toast.y toast.bottom := by
    simp only [Rect.InRows, Rect.inset, Rect.bottom]
    omega
  simp only [drawNotice, shown]
  refine .within ?_ (sameOutside_paintParagraph ..) interior
  refine .within ?_ (sameOutside_overlay ..) title
  refine .within ?_ (sameOutside_border ..) whole
  exact ((SameOutside.refl ..).within (sameOutside_fill ..) whole).within (sameOutside_fill ..) whole

/-- Neither the title of a notice nor its message reaches its last row, so that its corner tells that it is there. -/
theorem symbol_drawNotice_corner (view : View) (widths : Widths) {notices toast : Rect}
    (shown : toastArea? notices = some toast)
    (wide : 0 < toast.width) (notice : Notice) (screen : Screen) :
    ((view.drawNotice widths notices notice screen).cell? toast.x (toast.bottom - 1)).map Cell.symbol =
      (screen.cell? toast.x (toast.bottom - 1)).map fun _ => ['╰'] := by
  have rows : 3 ≤ toast.height := (toastArea?_bounds shown).2.2.1
  have behindTitle : toast.y + 1 ≤ toast.bottom - 1 := by
    simp only [Rect.bottom]
    omega
  have behindMessage : (toast.inset 1 1).bottom ≤ toast.bottom - 1 := by
    simp only [Rect.inset, Rect.bottom]
    omega
  simp only [drawNotice, shown]
  rw [(sameOutside_paintParagraph ..).cell? _ _ (.inr behindMessage),
    (sameOutside_overlay ..).cell? _ _ (.inr behindTitle),
    symbol_border_corner _ wide (by omega)]
  simp only [restyle, clear, cell?_fill, Option.map_map, Function.comp_def]

def toast? (view : View) (width height : Nat) : Option Rect :=
  view.notice.bind fun _ => toastArea? (CardLayout.ofCard (cardArea ⟨0, 0, width, height⟩)).notices

theorem toast?_isSome_iff (view : View) (width height : Nat) : (view.toast? width height).isSome ↔
    view.notice.isSome ∧ 3 ≤ (CardLayout.ofCard (cardArea ⟨0, 0, width, height⟩)).notices.height := by
  rw [toast?, ← toastArea?_isSome_iff]
  cases view.notice with
  | none => exact iff_of_false nofun fun posted => nomatch posted.1
  | some notice => simp only [Option.bind_some, Option.isSome_some, true_and]

theorem screen_picture_of_hidden {view : View} {width height : Nat} (hidden : view.toast? width height = none)
    (widths : Widths) (tick : Nat) :
    (view.picture widths width height tick).screen = (view.withoutNotice.picture widths width height tick).screen := by
  rw [screen_picture, screen_picture_withoutNotice]
  split
  next => rfl
  next notice posted =>
    rw [toast?, posted, Option.bind_some] at hidden
    simp only [drawNotice, hidden]

theorem toast?_eq_some_iff {view : View} {width height : Nat} {toast : Rect} :
    view.toast? width height = some toast ↔ ∃ notice, view.notice = some notice ∧
      toastArea? (CardLayout.ofCard (cardArea ⟨0, 0, width, height⟩)).notices = some toast :=
  Option.bind_eq_some_iff

/-- A notice changes the picture in its rows only, and there it takes the place of blanks. -/
theorem screen_picture_of_shown {view : View} {width height : Nat} {toast : Rect}
    (shown : view.toast? width height = some toast) (tall : 16 ≤ height) (widths : Widths) (tick : Nat) :
    let picture := view.picture widths width height tick
    let bare := (view.withoutNotice.picture widths width height tick).screen
    SameOutside toast.y toast.bottom bare picture.screen ∧
      (0 < toast.width → (picture.screen.cell? toast.x (toast.bottom - 1)).map Cell.symbol = some ['╰'] ∧
        (bare.cell? toast.x (toast.bottom - 1)).map Cell.symbol = some [' ']) := by
  intro picture bare
  obtain ⟨notice, posted, room⟩ := toast?_eq_some_iff.mp shown
  have parts : bare = view.drawParts widths width height tick := screen_picture_withoutNotice ..
  have drawn : picture.screen =
      view.drawNotice widths (CardLayout.ofCard (cardArea ⟨0, 0, width, height⟩)).notices notice bare := by
    rw [parts, screen_picture, posted]
  refine ⟨?_, fun wide => ?_⟩
  · rw [drawn]
    exact sameOutside_drawNotice view widths room notice bare
  · obtain ⟨⟨left, right, top, bottom⟩, _, three, _⟩ := toastArea?_bounds room
    rw [CardLayout.notices_ofCard (show 14 ≤ height - 2 by omega), cardArea_frame] at left right top bottom
    simp only [Rect.right, Rect.bottom, cardWidth] at left right top bottom
    have column : toast.x < width := by omega
    have below : 15 ≤ toast.y + toast.height - 1 := by omega
    have row : toast.y + toast.height - 1 < height := by omega
    have blank : (bare.cell? toast.x (toast.bottom - 1)).map Cell.symbol = some [' '] := by
      rw [parts]
      exact view.symbol_drawParts_below widths tall tick column below row
    obtain ⟨cell, found, _⟩ := Option.map_eq_some_iff.mp blank
    refine ⟨?_, blank⟩
    rw [drawn, symbol_drawNotice_corner view widths room wide, found, Option.map_some]

theorem cursor_picture (view : View) (widths : Widths) (width height tick : Nat) :
    let layout := CardLayout.ofCard (cardArea ⟨0, 0, width, height⟩)
    (view.picture widths width height tick).cursor = (view.email.cursor? widths (inputInterior layout.email.input)).or
      (view.password.cursor? widths (inputInterior layout.password.input)) := by
  intro layout
  simp only [picture]
  split
  next place shown => rw [shown, Option.some_or]
  next hidden => rw [hidden, Option.none_or]

theorem cardArea_fits (width height : UInt16) :
    let card := cardArea ⟨0, 0, width.toNat, height.toNat⟩
    card.x + card.width + 5 < screenUnits ∧ card.y + card.height < screenUnits := by
  have widest : width.toNat < 65536 := width.toNat_lt
  have highest : height.toNat < 65536 := height.toNat_lt
  change 1 + (width.toNat - 2 - min 56 (width.toNat - 2)) / 2 + min 56 (width.toNat - 2) + 5 < 65536 ∧
    1 + (height.toNat - 2) < 65536
  omega

theorem inputInterior_fits {card : Rect} (tall : 14 ≤ card.height) (columns : card.x + card.width + 5 < screenUnits)
    (rows : card.y + card.height < screenUnits) (field : Field) :
    let interior := inputInterior ((CardLayout.ofCard card).field field).input
    interior.right < screenUnits ∧ interior.bottom < screenUnits := by
  have last : CardLayout.firstRow field ≤ 7 := by cases field <;> decide
  rw [CardLayout.inputInterior_ofCard tall]
  simp only [Rect.right, Rect.bottom]
  omega

theorem notices_fit {card : Rect} (tall : 14 ≤ card.height) (columns : card.x + card.width + 5 < screenUnits)
    (rows : card.y + card.height < screenUnits) :
    let notices := (CardLayout.ofCard card).notices
    notices.right < screenUnits ∧ notices.bottom < screenUnits := by
  rw [CardLayout.notices_ofCard tall]
  simp only [Rect.right, Rect.bottom]
  omega

/-- In a frame of sixteen rows nothing wraps around, and the places in words are those of the picture. -/
theorem places?_eq_some (view : View) (widths : Widths) (width height : UInt16) (tick : Nat)
    (rows : 16 ≤ height.toNat) :
    ∃ places, view.places? widths width height = some places ∧
      places.card.toRect = cardArea ⟨0, 0, width.toNat, height.toNat⟩ ∧
      places.cursor.map (Prod.map UInt16.toNat UInt16.toNat) =
        (view.picture widths width.toNat height.toNat tick).cursor ∧
      places.toast.map WordRect.toRect = view.toast? width.toNat height.toNat := by
  obtain ⟨card, placed, same⟩ := WordRect.cardArea?_frame width height
  have tall : 14 ≤ card.toRect.height := by
    rw [same, cardArea_frame]
    exact Nat.le_sub_of_add_le rows
  obtain ⟨right, bottom⟩ := cardArea_fits width height
  rw [← same] at right bottom
  have cursor (field : Field) (part : FieldView) := part.wordCursor?_words widths
    (inputInterior_fits tall right bottom field).1 (inputInterior_fits tall right bottom field).2
  obtain ⟨email, emailPlaced, emailPlace⟩ := cursor .email view.email
  obtain ⟨password, passwordPlaced, passwordPlace⟩ := cursor .password view.password
  obtain ⟨toast, toastPlaced, toastPlace⟩ :=
    WordRect.toastArea?_words (notices_fit tall right bottom).1 (notices_fit tall right bottom).2
  refine ⟨⟨card, email.or password, view.notice.bind fun _ => toast⟩, ?_, same, ?_, ?_⟩
  · simp only [CardLayout.field] at emailPlaced passwordPlaced
    simp only [places?, placed, emailPlaced, passwordPlaced, Option.bind_eq_bind, Option.bind_some]
    cases view.notice with
    | none => rfl
    | some notice => simp only [toastPlaced, Option.bind_some]
  · rw [cursor_picture, Option.map_or, emailPlace, passwordPlace, same]
    rfl
  · rw [toast?, ← same]
    cases view.notice with
    | none => rfl
    | some notice => simp only [Option.bind_some, toastPlace]

end View

namespace Session

theorem cursor_draw (session : Session) (widths : Widths) (width height tick : Nat) :
    (session.draw width height tick widths).cursor = (session.fieldView session.focus).cursor? widths
      (inputInterior ((CardLayout.ofCard (cardArea ⟨0, 0, width, height⟩)).field session.focus).input) := by
  have unfocused (field : Field) (other : session.focus ≠ field) (interior : Rect) :
      (session.fieldView field).cursor? widths interior = none :=
    FieldView.cursor?_of_unfocused (decide_eq_false other) interior
  rw [draw, View.cursor_picture]
  change (((session.fieldView .email).cursor? widths _).or ((session.fieldView .password).cursor? widths _)) = _
  cases focus : session.focus with
  | email =>
    rw [unfocused .password (by rw [focus]; decide), Option.or_none]
    rfl
  | password =>
    rw [unfocused .email (by rw [focus]; decide), Option.none_or]
    rfl

/-- Whatever a session holds, in a frame of sixteen rows: no sum and no difference on the way to the places wraps
around, and these places are the ones of the picture. The card lies in the frame and in its middle. The cursor is shown
from seven columns on, in the input that has the focus. A notice is shown at the bottom of the rows behind the status
line, if there are three of them, and nothing else of the picture depends on it. -/
theorem draw_inBounds (session : Session) (widths : Widths) (width height : UInt16) (tick : Nat)
    (rows : 16 ≤ height.toNat) :
    let frame : Rect := ⟨0, 0, width.toNat, height.toNat⟩
    let card := cardArea frame
    let layout := CardLayout.ofCard card
    let input := (layout.field session.focus).input
    let interior := inputInterior input
    let picture := session.draw width.toNat height.toNat tick widths
    let bare := (session.view.withoutNotice.picture widths width.toNat height.toNat tick).screen
    ∃ places, session.view.places? widths width height = some places ∧
      (places.card.toRect = card ∧
        places.cursor.map (Prod.map UInt16.toNat UInt16.toNat) = picture.cursor ∧
        places.toast.map WordRect.toRect = session.view.toast? width.toNat height.toNat) ∧
      (2 ≤ width.toNat → card.Within frame ∧ card.width ≤ 56 ∧
        card.x ≤ width.toNat - card.right ∧ width.toNat - card.right ≤ card.x + 1) ∧
      (picture.cursor.isSome ↔ 7 ≤ width.toNat) ∧
      (∀ x y, picture.cursor = some (x, y) →
        interior.contains x y = true ∧ y = interior.y ∧ interior.Within input ∧ input.Within card) ∧
      (places.toast.isSome ↔ session.notice?.isSome ∧ 3 ≤ layout.notices.height) ∧
      layout.notices.height = height.toNat - 16 ∧
      (places.toast = none → picture.screen = bare) ∧
      ∀ toast, places.toast.map WordRect.toRect = some toast →
        toast.Within layout.notices ∧ toast.bottom = layout.notices.bottom ∧ toast.height ≤ 4 ∧
        layout.status.bottom ≤ toast.y ∧
        (∀ x y, y < toast.y ∨ toast.bottom ≤ y → picture.screen.cell? x y = bare.cell? x y) ∧
        (0 < toast.width →
          (picture.screen.cell? toast.x (toast.bottom - 1)).map Cell.symbol = some ['╰'] ∧
          (bare.cell? toast.x (toast.bottom - 1)).map Cell.symbol = some [' ']) := by
  intro frame card layout input interior picture bare
  have tall : 14 ≤ card.height := Nat.le_sub_of_add_le rows
  have cardColumns : card.width = min 56 (width.toNat - 2) := congrArg Rect.width (cardArea_frame ..)
  have knownInterior : interior = _ := CardLayout.inputInterior_ofCard tall session.focus
  have shown : picture.cursor = (session.fieldView session.focus).cursor? widths interior :=
    session.cursor_draw widths width.toNat height.toNat tick
  have visible : picture.cursor.isSome ↔ 7 ≤ width.toNat := by
    have oneRow : 0 < interior.height := by
      rw [knownInterior]
      exact Nat.one_pos
    have columns : interior.width = card.width - 4 := congrArg Rect.width knownInterior
    rw [shown, FieldView.cursor?_isSome_iff (decide_eq_true rfl) oneRow]
    omega
  obtain ⟨places, placed, samePlaces⟩ := session.view.places?_eq_some widths width height tick rows
  have sameToast : places.toast.map WordRect.toRect = session.view.toast? width.toNat height.toNat := samePlaces.2.2
  refine ⟨places, placed, samePlaces, fun columns => within_cardArea columns (by omega), visible, ?_, ?_, ?_, ?_, ?_⟩
  · intro x y standing
    have wide : 7 ≤ width.toNat := visible.mp (by rw [standing]; rfl)
    rw [shown] at standing
    obtain ⟨inside, row⟩ := FieldView.contains_of_cursor? standing
    exact ⟨inside, row, CardLayout.inputInterior_within tall (by omega) session.focus⟩
  · rw [← Option.isSome_map, sameToast]
    exact session.view.toast?_isSome_iff width.toNat height.toNat
  · rw [CardLayout.notices_ofCard tall]
    exact Nat.sub_sub ..
  · intro hidden
    rw [hidden] at sameToast
    exact View.screen_picture_of_hidden sameToast.symm widths tick
  · intro toast placedAt
    have shownAt : session.view.toast? width.toNat height.toNat = some toast := sameToast.symm.trans placedAt
    obtain ⟨_, _, room⟩ := View.toast?_eq_some_iff.mp shownAt
    obtain ⟨within, atBottom, _, four⟩ := toastArea?_bounds room
    have belowStatus : layout.status.bottom ≤ toast.y := by
      have top := within.2.2.1
      rw [CardLayout.notices_ofCard tall] at top
      rw [CardLayout.status_ofCard tall]
      exact top
    obtain ⟨outside, corner⟩ := View.screen_picture_of_shown shownAt rows widths tick
    exact ⟨within, atBottom, four, belowStatus, outside.cell?, corner⟩

/-- The smallest frame with a cursor and a notice, behind a rejected sign-in. -/
theorem draw_inBounds_smallest :
    let settings : SessionSettings := ⟨some "a@b.c".toList, none, ⟨false, false⟩⟩
    let session := (start settings).proceed [.event (.paste ['x']), .event (.key (.pressed .enter)),
      .operation (.answer 0 (.rejected ⟨⟨['n', 'o'], by decide⟩⟩)), .operation .processQueue]
    let picture := session.draw 7 19 0
    16 ≤ (19 : UInt16).toNat ∧ picture.cursor = some (3, 10) ∧
      (picture.screen.cell? 1 17).map Cell.symbol = some ['╰'] ∧
      ∀ x, picture.screen.cell? x 14 = (session.view.withoutNotice.picture .standard 7 19 0).screen.cell? x 14 := by
  intro settings session picture
  obtain ⟨places, _, ⟨_, _, sameToast⟩, _, cursor, inside, _, _, _, shown⟩ :=
    draw_inBounds session .standard 7 19 0 (by decide)
  obtain ⟨⟨x, y⟩, standing⟩ := Option.isSome_iff_exists.mp (cursor.mpr (by decide))
  have interior :
      inputInterior ((CardLayout.ofCard (cardArea ⟨0, 0, 7, 19⟩)).field session.focus).input = ⟨3, 10, 1, 1⟩ := by
    decide
  obtain ⟨contained, _⟩ := inside x y standing
  change (inputInterior ((CardLayout.ofCard (cardArea ⟨0, 0, 7, 19⟩)).field session.focus).input).contains x y = true
    at contained
  rw [interior] at contained
  have toast : session.view.toast? 7 19 = some ⟨1, 15, 5, 3⟩ := by decide
  obtain ⟨_, _, _, _, outside, corner⟩ := shown ⟨1, 15, 5, 3⟩ (sameToast.trans toast)
  refine ⟨by decide, ?_, (corner (by decide)).1, fun x => outside x 14 (.inl (by decide))⟩
  simp only [Rect.contains, Bool.and_eq_true, decide_eq_true_eq] at contained
  simp only [Rect.right, Rect.bottom] at contained
  have place : x = 3 ∧ y = 10 := by omega
  rw [place.1, place.2] at standing
  exact standing

end Session

end TerminalSignIn
