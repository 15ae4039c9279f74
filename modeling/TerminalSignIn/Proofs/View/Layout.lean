import TerminalSignIn.Proofs.Screen.Rows
import TerminalSignIn.View.Picture

/-!
# The rows of the card

A card of fourteen rows has room for every fixed row, however narrow it is. From there on all its parts are known: the
inputs of the fields, whose interiors are one row high, and the rows that are left to a notice.
-/

namespace TerminalSignIn

namespace Rect

def Within (rect outer : Rect) : Prop :=
  outer.x ≤ rect.x ∧ rect.right ≤ outer.right ∧ outer.y ≤ rect.y ∧ rect.bottom ≤ outer.bottom

def band (rect : Rect) (row rows : Nat) : Rect :=
  { rect with y := rect.y + row, height := rows }

theorem inRows_band {rect : Rect} {row rows low high : Nat} (above : low ≤ rect.y + row)
    (below : rect.y + row + rows ≤ high) : (rect.band row rows).InRows low high :=
  ⟨above, below⟩

theorem splitRows_band (rect : Rect) {row rows rest : Nat} (room : rows ≤ rest) :
    (rect.band row rest).splitRows rows = (rect.band row rows, rect.band (row + rows) (rest - rows)) := by
  simp only [splitRows, band, Nat.min_eq_left room, Nat.add_assoc]

end Rect

def FieldLayout.atRow (card : Rect) (row : Nat) : FieldLayout :=
  ⟨card.band row 1, card.band (row + 1) 3, card.band (row + 4) 1⟩

theorem FieldLayout.ofCard_band (card : Rect) {row rest : Nat} (room : 5 ≤ rest) :
    ofCard (card.band row rest) = (atRow card row, card.band (row + 5) (rest - 5)) := by
  simp (disch := omega) only [ofCard, atRow, Rect.splitRows_band, Nat.add_assoc, Nat.sub_sub]

namespace CardLayout

theorem ofCard_eq {card : Rect} (tall : 14 ≤ card.height) :
    ofCard card = ⟨card.band 0 2, .atRow card 2, .atRow card 7, card.band 12 1, card.band 13 1,
      card.band 14 (card.height - 14)⟩ := by
  change ofCard (card.band 0 card.height) = _
  simp (disch := omega) only [ofCard, Rect.splitRows_band, FieldLayout.ofCard_band, Nat.zero_add, Nat.reduceAdd,
    Nat.sub_sub]

def field (layout : CardLayout) : Field → FieldLayout
  | .email => layout.email
  | .password => layout.password

def firstRow : Field → Nat
  | .email => 2
  | .password => 7

theorem field_ofCard {card : Rect} (tall : 14 ≤ card.height) (field : Field) :
    (ofCard card).field field = .atRow card (firstRow field) := by
  rw [ofCard_eq tall]
  cases field <;> rfl

theorem inputInterior_ofCard {card : Rect} (tall : 14 ≤ card.height) (field : Field) :
    inputInterior ((ofCard card).field field).input =
      ⟨card.x + 2, card.y + firstRow field + 2, card.width - 4, 1⟩ := by
  rw [field_ofCard tall]
  rfl

theorem inputInterior_within {card : Rect} (tall : 14 ≤ card.height) (wide : 5 ≤ card.width) (field : Field) :
    (inputInterior ((ofCard card).field field).input).Within ((ofCard card).field field).input ∧
      ((ofCard card).field field).input.Within card := by
  have last : firstRow field ≤ 7 := by cases field <;> decide
  rw [field_ofCard tall]
  simp only [FieldLayout.atRow, inputInterior, Rect.inset, Rect.band, Rect.Within, Rect.right, Rect.bottom]
  omega

theorem notices_ofCard {card : Rect} (tall : 14 ≤ card.height) :
    (ofCard card).notices = ⟨card.x, card.y + 14, card.width, card.height - 14⟩ := by
  rw [ofCard_eq tall]
  rfl

theorem status_ofCard {card : Rect} (tall : 14 ≤ card.height) :
    (ofCard card).status = ⟨card.x, card.y + 13, card.width, 1⟩ := by
  rw [ofCard_eq tall]
  rfl

end CardLayout

theorem cardArea_frame (width height : Nat) : cardArea ⟨0, 0, width, height⟩ =
    ⟨1 + (width - 2 - min cardWidth (width - 2)) / 2, 1, min cardWidth (width - 2), height - 2⟩ := rfl

theorem within_cardArea {width height : Nat} (columns : 2 ≤ width) (rows : 2 ≤ height) :
    let frame : Rect := ⟨0, 0, width, height⟩
    let card := cardArea frame
    card.Within frame ∧ card.width ≤ cardWidth ∧ card.x ≤ width - card.right ∧ width - card.right ≤ card.x + 1 := by
  intro frame card
  have known : card = _ := cardArea_frame width height
  rw [known]
  simp only [Rect.Within, Rect.right, Rect.bottom, cardWidth, frame]
  omega

theorem toastArea?_eq_some_iff {notices toast : Rect} : toastArea? notices = some toast ↔
    3 ≤ notices.height ∧ toast = { notices with
      y := notices.bottom - min toastHeight notices.height, height := min toastHeight notices.height } := by
  rw [toastArea?]
  split
  next low => exact iff_of_false nofun fun shown => Nat.not_le_of_lt low shown.1
  next high => exact ⟨fun same => ⟨Nat.le_of_not_lt high, (Option.some.inj same).symm⟩, fun same => by rw [same.2]; rfl⟩

theorem toastArea?_isSome_iff (notices : Rect) : (toastArea? notices).isSome ↔ 3 ≤ notices.height := by
  rw [Option.isSome_iff_exists]
  exact ⟨fun ⟨_, shown⟩ => (toastArea?_eq_some_iff.mp shown).1, fun room => ⟨_, toastArea?_eq_some_iff.mpr ⟨room, rfl⟩⟩⟩

theorem toastArea?_bounds {notices toast : Rect} (shown : toastArea? notices = some toast) :
    toast.Within notices ∧ toast.bottom = notices.bottom ∧ 3 ≤ toast.height ∧ toast.height ≤ toastHeight := by
  obtain ⟨room, rfl⟩ := toastArea?_eq_some_iff.mp shown
  simp only [Rect.Within, Rect.right, Rect.bottom, toastHeight]
  omega

namespace FieldView

variable {field : FieldView} {widths : Widths}

theorem cursor?_of_unfocused (unfocused : field.focused = false) (interior : Rect) :
    field.cursor? widths interior = none := by
  rw [cursor?, unfocused]
  rfl

theorem cursor?_isSome_iff (focused : field.focused = true) {interior : Rect} (tall : 0 < interior.height) :
    (field.cursor? widths interior).isSome ↔ 0 < interior.width := by
  have filled : (!interior.isEmpty) = true ↔ 0 < interior.width := by
    simp only [Rect.isEmpty, Bool.not_eq_true', Bool.or_eq_false_iff, decide_eq_false_iff_not]
    omega
  rw [cursor?, focused, Bool.true_and, ← filled]
  split
  next shown => exact iff_of_true rfl shown
  next hidden => exact iff_of_false Bool.false_ne_true hidden

theorem contains_of_cursor? {interior : Rect} {x y : Nat} (shown : field.cursor? widths interior = some (x, y)) :
    interior.contains x y = true ∧ y = interior.y := by
  rw [cursor?] at shown
  split at shown
  next filled =>
    simp only [Rect.isEmpty, Bool.and_eq_true, Bool.not_eq_true', Bool.or_eq_false_iff, decide_eq_false_iff_not]
      at filled
    obtain ⟨rfl, rfl⟩ := Prod.mk.inj (Option.some.inj shown)
    have last := Nat.min_le_right (widths.text (field.visible widths interior) % screenUnits) (interior.width - 1)
    simp only [Rect.contains, Bool.and_eq_true, decide_eq_true_eq, and_true]
    simp only [Rect.right, Rect.bottom]
    omega
  next => contradiction

end FieldView

end TerminalSignIn
