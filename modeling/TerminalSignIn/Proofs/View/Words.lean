import TerminalSignIn.View.Picture

/-!
# Geometry in words

A terminal counts its columns and rows in words of sixteen bits, and what is drawn is placed by sums and differences of
such words. Here every one of them is made in words, without a result where it would wrap around; where none does, the
place is the one of the drawing.
-/

namespace TerminalSignIn

namespace Word

/-- The sum of two words, unless it wraps around. -/
def plus? (first second : UInt16) : Option UInt16 :=
  if first.toNat + second.toNat < screenUnits then some (first + second) else none

def minus? (first second : UInt16) : Option UInt16 :=
  if second ≤ first then some (first - second) else none

def saturatingPlus (first second : UInt16) : UInt16 :=
  if first.toNat + second.toNat < screenUnits then first + second else 65535

def saturatingMinus (first second : UInt16) : UInt16 :=
  if second ≤ first then first - second else 0

def least (first second : UInt16) : UInt16 :=
  if first ≤ second then first else second

theorem toNat_ofNat {number : Nat} (fits : number < screenUnits) : (UInt16.ofNat number).toNat = number := by
  rw [UInt16.toNat_ofNat']
  exact Nat.mod_eq_of_lt fits

theorem toNat_add {first second : UInt16} (fits : first.toNat + second.toNat < screenUnits) :
    (first + second).toNat = first.toNat + second.toNat := by
  rw [UInt16.toNat_add]
  exact Nat.mod_eq_of_lt fits

theorem plus?_eq_some (first second : UInt16) (fits : first.toNat + second.toNat < screenUnits) :
    ∃ sum, plus? first second = some sum ∧ sum.toNat = first.toNat + second.toNat :=
  ⟨first + second, if_pos fits, toNat_add fits⟩

theorem minus?_eq_some (first second : UInt16) (less : second.toNat ≤ first.toNat) :
    ∃ difference, minus? first second = some difference ∧ difference.toNat = first.toNat - second.toNat :=
  ⟨first - second, if_pos (UInt16.le_iff_toNat_le.mpr less),
    UInt16.toNat_sub_of_le _ _ (UInt16.le_iff_toNat_le.mpr less)⟩

theorem toNat_saturatingMinus (first second : UInt16) :
    (saturatingMinus first second).toNat = first.toNat - second.toNat := by
  rw [saturatingMinus]
  split
  next less => exact UInt16.toNat_sub_of_le _ _ less
  next greater =>
    rw [UInt16.le_iff_toNat_le] at greater
    exact (Nat.sub_eq_zero_of_le (Nat.le_of_not_le greater)).symm

theorem toNat_least (first second : UInt16) : (least first second).toNat = min first.toNat second.toNat := by
  rw [least]
  split
  next less => exact (Nat.min_eq_left (UInt16.le_iff_toNat_le.mp less)).symm
  next greater =>
    rw [UInt16.le_iff_toNat_le] at greater
    exact (Nat.min_eq_right (Nat.le_of_not_le greater)).symm

end Word

structure WordRect where
  x : UInt16
  y : UInt16
  width : UInt16
  height : UInt16
deriving DecidableEq

namespace WordRect

def toRect (rect : WordRect) : Rect :=
  ⟨rect.x.toNat, rect.y.toNat, rect.width.toNat, rect.height.toNat⟩

/-- The card in a frame: the margins saturate, the place of the card between them does not. -/
def cardArea? (frame : WordRect) : Option WordRect := do
  let inner : WordRect := ⟨Word.saturatingPlus frame.x 1, Word.saturatingPlus frame.y 1,
    Word.saturatingMinus frame.width 2, Word.saturatingMinus frame.height 2⟩
  let width := Word.least (UInt16.ofNat cardWidth) inner.width
  let free ← Word.minus? inner.width width
  let x ← Word.plus? inner.x (free / 2)
  some { inner with x := x, width := width }

def toastArea? (notices : WordRect) : Option (Option WordRect) :=
  if notices.height < 3 then some none
  else do
    let height := Word.least (UInt16.ofNat toastHeight) notices.height
    let bottom ← Word.plus? notices.y notices.height
    let y ← Word.minus? bottom height
    some (some { notices with y := y, height := height })

end WordRect

/-- Where the cursor of a field stands, if the field has it. The width of the visible text is cut off to a word. -/
def FieldView.wordCursor? (field : FieldView) (widths : Widths) (interior : WordRect) :
    Option (Option (UInt16 × UInt16)) :=
  if field.focused && 0 < interior.width && 0 < interior.height then do
    let visible := field.shown.tailFitting widths (Word.saturatingMinus interior.width 1).toNat
    let last ← Word.minus? interior.width 1
    let x ← Word.plus? interior.x (Word.least (UInt16.ofNat (widths.text visible)) last)
    some (some (x, interior.y))
  else some none

/-- What is placed by arithmetic while a view is drawn: the card, the cursor and the notice. -/
structure Places where
  card : WordRect
  cursor : Option (UInt16 × UInt16)
  toast : Option WordRect
deriving DecidableEq

/-- A rectangle in words; it is the same one if it ends before the words do. -/
def Rect.words (rect : Rect) : WordRect :=
  ⟨UInt16.ofNat rect.x, UInt16.ofNat rect.y, UInt16.ofNat rect.width, UInt16.ofNat rect.height⟩

theorem Rect.toRect_words {rect : Rect} (columns : rect.right < screenUnits) (rows : rect.bottom < screenUnits) :
    rect.words.toRect = rect := by
  have x : rect.x < screenUnits := Nat.lt_of_le_of_lt (Nat.le_add_right ..) columns
  have width : rect.width < screenUnits := Nat.lt_of_le_of_lt (Nat.le_add_left ..) columns
  have y : rect.y < screenUnits := Nat.lt_of_le_of_lt (Nat.le_add_right ..) rows
  have height : rect.height < screenUnits := Nat.lt_of_le_of_lt (Nat.le_add_left ..) rows
  rw [words, WordRect.toRect, Word.toNat_ofNat x, Word.toNat_ofNat y, Word.toNat_ofNat width, Word.toNat_ofNat height]

/-- The places of a view in a frame, unless a sum or a difference on the way to them wraps around. -/
def View.places? (view : View) (widths : Widths) (width height : UInt16) : Option Places := do
  let card ← WordRect.cardArea? ⟨0, 0, width, height⟩
  let layout := CardLayout.ofCard card.toRect
  let email ← view.email.wordCursor? widths (inputInterior layout.email.input).words
  let password ← view.password.wordCursor? widths (inputInterior layout.password.input).words
  let toast ← match view.notice with
    | none => some none
    | some _ => layout.notices.words.toastArea?
  some ⟨card, email.or password, toast⟩

namespace WordRect

theorem cardArea?_frame (width height : UInt16) : ∃ card, cardArea? ⟨0, 0, width, height⟩ = some card ∧
    card.toRect = cardArea ⟨0, 0, width.toNat, height.toNat⟩ := by
  let inner : WordRect := ⟨1, 1, Word.saturatingMinus width 2, Word.saturatingMinus height 2⟩
  let columns := Word.least (UInt16.ofNat cardWidth) inner.width
  have innerColumns : inner.width.toNat = width.toNat - 2 := Word.toNat_saturatingMinus width 2
  have innerRows : inner.height.toNat = height.toNat - 2 := Word.toNat_saturatingMinus height 2
  have cardColumns : columns.toNat = min cardWidth (width.toNat - 2) := by
    rw [Word.toNat_least, innerColumns]
    rfl
  have widest : width.toNat < 65536 := width.toNat_lt
  obtain ⟨free, taken, freeColumns⟩ := Word.minus?_eq_some inner.width columns (by omega)
  have half : (free / 2).toNat = free.toNat / 2 := UInt16.toNat_div free 2
  have one : inner.x.toNat = 1 := rfl
  obtain ⟨x, placed, column⟩ := Word.plus?_eq_some inner.x (free / 2) (by unfold screenUnits; omega)
  refine ⟨{ inner with x := x, width := columns }, ?_, ?_⟩
  · have steps : cardArea? ⟨0, 0, width, height⟩ = (Word.minus? inner.width columns).bind fun free =>
        (Word.plus? inner.x (free / 2)).bind fun x => some { inner with x := x, width := columns } := rfl
    rw [steps, taken, Option.bind_some, placed, Option.bind_some]
  · rw [toRect, column, half, freeColumns, one, innerColumns, innerRows, cardColumns]
    rfl

theorem toastArea?_toRect (notices : WordRect) (fits : notices.toRect.bottom < screenUnits) :
    ∃ toast, notices.toastArea? = some toast ∧
      toast.map toRect = TerminalSignIn.toastArea? notices.toRect := by
  have three : notices.height < 3 ↔ notices.toRect.height < 3 := UInt16.lt_iff_toNat_lt
  rw [toastArea?, TerminalSignIn.toastArea?]
  split
  next low => exact ⟨none, rfl, by rw [if_pos (three.mp low)]; rfl⟩
  next high =>
    let height := Word.least (UInt16.ofNat toastHeight) notices.height
    have rows : height.toNat = min toastHeight notices.toRect.height := Word.toNat_least ..
    obtain ⟨bottom, added, last⟩ := Word.plus?_eq_some notices.y notices.height fits
    obtain ⟨y, taken, first⟩ := Word.minus?_eq_some bottom height (by simp only [toRect] at rows; omega)
    refine ⟨some { notices with y := y, height := height }, ?_, ?_⟩
    · simp only [added, Option.bind_eq_bind, Option.bind_some, taken, height]
    · rw [if_neg (mt three.mpr high), Option.map_some, toRect, first, last, rows]
      rfl

theorem toastArea?_words {notices : Rect} (columns : notices.right < screenUnits)
    (rows : notices.bottom < screenUnits) :
    ∃ toast, notices.words.toastArea? = some toast ∧ toast.map toRect = TerminalSignIn.toastArea? notices := by
  have same := Rect.toRect_words columns rows
  have placed := toastArea?_toRect notices.words (by rw [same]; exact rows)
  rwa [same] at placed

end WordRect

theorem FieldView.wordCursor?_toRect (field : FieldView) (widths : Widths) (interior : WordRect)
    (fits : interior.toRect.right < screenUnits) :
    ∃ place, field.wordCursor? widths interior = some place ∧
      place.map (Prod.map UInt16.toNat UInt16.toNat) = field.cursor? widths interior.toRect := by
  have columns : 0 < interior.width ↔ 0 < interior.toRect.width := UInt16.lt_iff_toNat_lt
  have rows : 0 < interior.height ↔ 0 < interior.toRect.height := UInt16.lt_iff_toNat_lt
  have filled : (!interior.toRect.isEmpty) = (decide (0 < interior.width) && decide (0 < interior.height)) := by
    rw [Bool.eq_iff_iff]
    simp only [Rect.isEmpty, Bool.not_eq_true', Bool.or_eq_false_iff, Bool.and_eq_true,
      decide_eq_true_eq, decide_eq_false_iff_not, columns, rows, Nat.pos_iff_ne_zero]
  rw [wordCursor?, cursor?, filled, ← Bool.and_assoc]
  split
  next shown =>
    have wide : 0 < interior.toRect.width := by
      simp only [Bool.and_eq_true, decide_eq_true_eq] at shown
      exact columns.mp shown.1.2
    have room : (Word.saturatingMinus interior.width 1).toNat = interior.toRect.width - 1 :=
      Word.toNat_saturatingMinus interior.width 1
    let used := UInt16.ofNat (widths.text (field.visible widths interior.toRect))
    obtain ⟨last, taken, lastColumn⟩ := Word.minus?_eq_some interior.width 1 wide
    have behind : (Word.least used last).toNat =
        min (widths.text (field.visible widths interior.toRect) % screenUnits) (interior.toRect.width - 1) := by
      rw [Word.toNat_least, lastColumn, UInt16.toNat_ofNat']
      rfl
    have inside : interior.x.toNat + (Word.least used last).toNat < screenUnits := by
      have right : interior.x.toNat + interior.toRect.width < screenUnits := fits
      omega
    obtain ⟨x, placed, column⟩ := Word.plus?_eq_some interior.x (Word.least used last) inside
    refine ⟨some (x, interior.y), ?_, ?_⟩
    · simp only [taken, room, Option.bind_eq_bind, Option.bind_some]
      rw [← visible, placed, Option.bind_some]
    · rw [Option.map_some, Prod.map_apply, column, behind]
      rfl
  next => exact ⟨none, rfl, rfl⟩

theorem FieldView.wordCursor?_words (field : FieldView) (widths : Widths) {interior : Rect}
    (columns : interior.right < screenUnits) (rows : interior.bottom < screenUnits) :
    ∃ place, field.wordCursor? widths interior.words = some place ∧
      place.map (Prod.map UInt16.toNat UInt16.toNat) = field.cursor? widths interior := by
  have same := Rect.toRect_words columns rows
  have placed := field.wordCursor?_toRect widths interior.words (by rw [same]; exact columns)
  rwa [same] at placed

end TerminalSignIn
