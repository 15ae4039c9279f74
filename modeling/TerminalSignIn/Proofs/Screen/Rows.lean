import TerminalSignIn.Screen

/-!
# The rows that a pen reaches

Whatever is painted into a rectangle, however long the text or however wide its glyphs, the cells above and below the
rectangle stay what they were. A drawing made of many such steps is followed by the rows it has reached.
-/

namespace TerminalSignIn

def Rect.InRows (rect : Rect) (low high : Nat) : Prop :=
  low ≤ rect.y ∧ rect.bottom ≤ high

namespace Screen

variable {low high : Nat} {before between after : Screen}

theorem cell?_fill (screen : Screen) (rect : Rect) (change : Cell → Cell) (x y : Nat) :
    (screen.fill rect change).cell? x y =
      (screen.cell? x y).map fun cell => if rect.contains x y then change cell else cell := by
  simp only [fill, cell?, Array.getElem?_mapIdx, Option.bind_map]
  cases found : screen.rows[y]? with
  | none => rfl
  | some row =>
    simp only [Option.bind_some, Function.comp_apply]
    split
    next inside => rw [Array.getElem?_mapIdx]
    next outside =>
      have missed : ¬ rect.contains x y = true := by
        simp only [Rect.contains, Bool.and_eq_true, decide_eq_true_eq] at outside ⊢
        omega
      simp only [if_neg missed, Option.map_id']

theorem cell?_fill_of_not_contains {screen : Screen} {rect : Rect} {change : Cell → Cell} {x y : Nat}
    (missed : rect.contains x y = false) : (screen.fill rect change).cell? x y = screen.cell? x y := by
  simp only [cell?_fill, missed, Bool.false_eq_true, if_false, Option.map_id']

theorem cell?_modify_of_ne {screen : Screen} {x y row : Nat} (other : row ≠ y) (column : Nat) (change : Cell → Cell) :
    (screen.modify x y change).cell? column row = screen.cell? column row := by
  simp only [modify, cell?, Array.getElem?_modify, if_neg other.symm]

theorem cell?_blank {width height x y : Nat} (column : x < width) (row : y < height) :
    (blank width height).cell? x y = some .blank := by
  simp [blank, cell?, column, row]

/-- Two screens differ in the rows from `low` on and before `high` only. -/
structure SameOutside (low high : Nat) (before after : Screen) : Prop where
  cell? : ∀ x y, y < low ∨ high ≤ y → after.cell? x y = before.cell? x y

namespace SameOutside

theorem refl (low high : Nat) (screen : Screen) : SameOutside low high screen screen where
  cell? _ _ _ := rfl

theorem trans (first : SameOutside low high before between) (second : SameOutside low high between after) :
    SameOutside low high before after where
  cell? x y outside := (second.cell? x y outside).trans (first.cell? x y outside)

theorem mono {lower higher : Nat} (same : SameOutside low high before after) (down : lower ≤ low) (up : high ≤ higher) :
    SameOutside lower higher before after where
  cell? x y outside := same.cell? x y (outside.imp (Nat.lt_of_lt_of_le · down) (Nat.le_trans up ·))

theorem within {rect : Rect} (first : SameOutside low high before between)
    (second : SameOutside rect.y rect.bottom between after) (rows : rect.InRows low high) :
    SameOutside low high before after :=
  first.trans (second.mono rows.1 rows.2)

end SameOutside

theorem sameOutside_fill (screen : Screen) (rect : Rect) (change : Cell → Cell) :
    SameOutside rect.y rect.bottom screen (screen.fill rect change) where
  cell? x y outside := by
    apply cell?_fill_of_not_contains
    simp only [Rect.contains, Bool.and_eq_false_iff, decide_eq_false_iff_not]
    omega

theorem sameOutside_modify (screen : Screen) (x y : Nat) (change : Cell → Cell) :
    SameOutside y (y + 1) screen (screen.modify x y change) where
  cell? column _ outside := cell?_modify_of_ne (by omega) column change

theorem sameOutside_border (screen : Screen) (rect : Rect) (style : Style) :
    SameOutside rect.y rect.bottom screen (screen.border rect style) := by
  rw [border]
  split
  next => exact .refl ..
  next filled =>
    have tall : rect.y < rect.bottom := by
      simp only [Rect.isEmpty, Bool.or_eq_true, decide_eq_true_eq] at filled
      simp only [Rect.bottom]
      omega
    have side (screen : Screen) (x : Nat) (symbol : Char) :
        SameOutside rect.y rect.bottom screen (screen.stamp ⟨x, rect.y, 1, rect.height⟩ symbol style) :=
      sameOutside_fill screen ⟨x, rect.y, 1, rect.height⟩ _
    have first (screen : Screen) (x width : Nat) (symbol : Char) :
        SameOutside rect.y rect.bottom screen (screen.stamp ⟨x, rect.y, width, 1⟩ symbol style) :=
      (sameOutside_fill ..).mono (Nat.le_refl _) tall
    have last (screen : Screen) (x width : Nat) (symbol : Char) :
        SameOutside rect.y rect.bottom screen (screen.stamp ⟨x, rect.bottom - 1, width, 1⟩ symbol style) := by
      refine (sameOutside_fill ..).mono (Nat.le_sub_one_of_lt tall) ?_
      simp only [Rect.bottom] at tall ⊢
      omega
    refine .trans (.trans (.trans (.trans ?_ (last ..)) (first ..)) (last ..)) (first ..)
    exact .trans (.trans (.trans (side ..) (first ..)) (side ..)) (last ..)

theorem sameOutside_writeGlyphs (screen : Screen) (x y : Nat) (style : Style) (glyphs : List Glyph) :
    SameOutside y (y + 1) screen (screen.writeGlyphs x y style glyphs) := by
  induction glyphs generalizing screen x with
  | nil => exact .refl ..
  | cons glyph glyphs ih =>
    rw [writeGlyphs]
    split
    next => exact ih screen x
    next => exact (sameOutside_modify screen x y _).trans (ih _ _)

theorem sameOutside_writeLine (screen : Screen) (rect : Rect) {row : Nat} (inside : row < rect.height)
    (alignment : Alignment) (style : Style) (glyphs : List Glyph) :
    SameOutside rect.y rect.bottom screen (screen.writeLine rect row alignment style glyphs) := by
  refine (sameOutside_writeGlyphs screen _ (rect.y + row) style glyphs).mono (Nat.le_add_right ..) ?_
  simp only [Rect.bottom]
  omega

theorem sameOutside_paintLine (screen : Screen) (widths : Widths) (rect : Rect) (alignment : Alignment) (style : Style)
    (text : Text) : SameOutside rect.y rect.bottom screen (screen.paintLine widths rect alignment style text) := by
  rw [paintLine]
  split
  next => exact .refl ..
  next filled =>
    apply sameOutside_writeLine
    simp only [Rect.isEmpty, Bool.or_eq_true, decide_eq_true_eq] at filled
    omega

theorem sameOutside_overlayGlyphs (screen : Screen) (x y right : Nat) (style : Style) (glyphs : List Glyph) :
    SameOutside y (y + 1) screen (screen.overlayGlyphs x y right style glyphs) := by
  induction glyphs generalizing screen x with
  | nil => exact .refl ..
  | cons glyph glyphs ih =>
    rw [overlayGlyphs]
    split
    next => exact .refl ..
    next =>
      refine SameOutside.trans ?_ (ih _ _)
      split
      next => exact sameOutside_modify ..
      next => exact (sameOutside_modify screen x y _).trans (sameOutside_fill _ ⟨x + 1, y, glyph.columns - 1, 1⟩ _)

theorem sameOutside_overlay (screen : Screen) (widths : Widths) (rect : Rect) (style : Style) (text : Text) :
    SameOutside rect.y rect.bottom screen (screen.overlay widths rect style text) := by
  rw [overlay]
  split
  next => exact .refl ..
  next filled =>
    refine (sameOutside_overlayGlyphs screen _ rect.y _ style _).mono (Nat.le_refl _) ?_
    simp only [Rect.isEmpty, Bool.or_eq_true, decide_eq_true_eq] at filled
    simp only [Rect.bottom]
    omega

theorem sameOutside_foldl_writeLine (rect : Rect) (style : Style) (lines : List (List Glyph × Nat)) (screen : Screen)
    (inside : ∀ line ∈ lines, line.2 < rect.height) : SameOutside rect.y rect.bottom screen
      (lines.foldl (fun screen (glyphs, row) => screen.writeLine rect row .left style glyphs) screen) := by
  induction lines generalizing screen with
  | nil => exact .refl ..
  | cons line lines ih =>
    rw [List.foldl_cons]
    have first := sameOutside_writeLine screen rect (inside line (List.mem_cons_self ..)) .left style line.1
    exact first.trans (ih _ fun other member => inside other (List.mem_cons_of_mem _ member))

theorem sameOutside_paintParagraph (screen : Screen) (widths : Widths) (rect : Rect) (style : Style) (text : Text) :
    SameOutside rect.y rect.bottom screen (screen.paintParagraph widths rect style text) := by
  apply sameOutside_foldl_writeLine
  intro line member
  have row : line.2 < ((breakLines widths rect.width text).take rect.height).length := by
    have := List.snd_lt_of_mem_zipIdx member
    omega
  rw [List.length_take] at row
  omega

theorem symbol_border_corner (screen : Screen) {rect : Rect} (wide : 0 < rect.width) (tall : 1 < rect.height)
    (style : Style) :
    ((screen.border rect style).cell? rect.x (rect.bottom - 1)).map Cell.symbol =
      (screen.cell? rect.x (rect.bottom - 1)).map fun _ => ['╰'] := by
  have filled : ¬ rect.isEmpty = true := by
    simp only [Rect.isEmpty, Bool.or_eq_true, decide_eq_true_eq]
    omega
  have lastRow : rect.y < rect.bottom - 1 := by
    simp only [Rect.bottom]
    omega
  have upper : (⟨rect.x, rect.y, 1, 1⟩ : Rect).contains rect.x (rect.bottom - 1) = false := by
    simp only [Rect.contains, Bool.and_eq_false_iff, decide_eq_false_iff_not]
    exact .inr (Nat.not_lt.mpr lastRow)
  have lower : (⟨rect.x, rect.bottom - 1, 1, 1⟩ : Rect).contains rect.x (rect.bottom - 1) = true := by
    simp only [Rect.contains, Bool.and_eq_true, decide_eq_true_eq]
    exact ⟨⟨⟨Nat.le_refl _, Nat.lt_succ_self _⟩, Nat.le_refl _⟩, Nat.lt_succ_self _⟩
  rw [border, if_neg filled]
  -- Of the eight parts the last but one is this corner, and the last is another; the ones before may also reach it.
  simp only [stamp]
  rw [cell?_fill_of_not_contains upper, cell?_fill, Option.map_map]
  simp only [lower, if_true, Function.comp_def, Cell.write, Cell.restyle, cell?_fill, Option.map_map]

end Screen

end TerminalSignIn
