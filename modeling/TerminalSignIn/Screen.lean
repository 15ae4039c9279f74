import TerminalSignIn.Text.Width
import TerminalSignIn.Theme

/-!
# The screen

A screen is a grid of cells. A cell shows one symbol in two colours; a pen changes the symbol or the style of the cells
it passes over, and passes over nothing outside the grid.

A line is painted cluster by cluster. Clusters with a control character are not painted; a cluster of two columns is
written into the first of them and leaves the second as it was. What does not fit is cut off at the end. A border runs
along the inside of a rectangle with rounded corners; with one column the left corners win over the right ones. A
paragraph breaks its text at blanks so that every line fits: a word longer than a line is split where the line is full,
and the blanks at a break are dropped.
-/

namespace TerminalSignIn

structure Rect where
  x : Nat
  y : Nat
  width : Nat
  height : Nat
deriving DecidableEq

namespace Rect

def right (rect : Rect) : Nat := rect.x + rect.width

def bottom (rect : Rect) : Nat := rect.y + rect.height

def isEmpty (rect : Rect) : Bool :=
  rect.width = 0 || rect.height = 0

def contains (rect : Rect) (x y : Nat) : Bool :=
  rect.x ≤ x && x < rect.right && rect.y ≤ y && y < rect.bottom

def inset (rect : Rect) (columns rows : Nat) : Rect :=
  ⟨rect.x + columns, rect.y + rows, rect.width - 2 * columns, rect.height - 2 * rows⟩

end Rect

/-- One cell of the screen. The symbol is a cluster that starts in this cell. -/
structure Cell where
  symbol : Text
  foreground : Color
  background : Color
  bold : Bool
deriving DecidableEq

namespace Cell

def blank : Cell := ⟨[' '], .reset, .reset, false⟩

def restyle (style : Style) (cell : Cell) : Cell where
  symbol := cell.symbol
  foreground := style.foreground.getD cell.foreground
  background := style.background.getD cell.background
  bold := cell.bold || style.bold

def write (symbol : Text) (style : Style) (cell : Cell) : Cell :=
  restyle style { cell with symbol := symbol }

def append (marks : Text) (style : Style) (cell : Cell) : Cell :=
  cell.write (cell.symbol ++ marks) style

end Cell

structure Screen where
  rows : Array (Array Cell)

namespace Screen

def blank (width height : Nat) : Screen :=
  ⟨Array.replicate height (Array.replicate width .blank)⟩

def cell? (screen : Screen) (x y : Nat) : Option Cell :=
  screen.rows[y]?.bind fun row => row[x]?

def modify (screen : Screen) (x y : Nat) (change : Cell → Cell) : Screen :=
  ⟨screen.rows.modify y fun row => row.modify x change⟩

def fill (screen : Screen) (rect : Rect) (change : Cell → Cell) : Screen :=
  ⟨screen.rows.mapIdx fun y row =>
    if rect.y ≤ y && y < rect.bottom then
      row.mapIdx fun x cell => if rect.contains x y then change cell else cell
    else row⟩

def restyle (screen : Screen) (rect : Rect) (style : Style) : Screen :=
  screen.fill rect (Cell.restyle style)

def clear (screen : Screen) (rect : Rect) : Screen :=
  screen.fill rect fun _ => .blank

def rowText (row : Array Cell) : Text :=
  row.toList.flatMap Cell.symbol

end Screen

/-! ### Lines -/

structure Glyph where
  symbol : Text
  columns : Nat
deriving DecidableEq

namespace Glyph

def ofCluster (widths : Widths) (cluster : Text) : Glyph := ⟨cluster, widths.text cluster⟩

/-- A zero width space, or blanks that allow a break; a no-break space does not. -/
def isBreak (glyph : Glyph) : Bool :=
  glyph.symbol = ['\u200B'] || (glyph.symbol.all isBlank && glyph.symbol ≠ ['\u00A0'])

def totalColumns : List Glyph → Nat
  | [] => 0
  | glyph :: glyphs => glyph.columns + totalColumns glyphs

end Glyph

def Text.glyphs (widths : Widths) (text : Text) : List Glyph :=
  (text.clusters.filter fun cluster => !cluster.any isControl).map (Glyph.ofCluster widths)

/-- The beginning of a line that fits into `columns` columns. Glyphs wider than a whole line of `limit` columns
are left out. -/
def takeColumns (limit columns : Nat) : List Glyph → List Glyph
  | [] => []
  | glyph :: glyphs =>
    if limit < glyph.columns then takeColumns limit columns glyphs
    else if columns < glyph.columns then []
    else glyph :: takeColumns limit (columns - glyph.columns) glyphs

inductive Alignment where
  | left
  | center
deriving DecidableEq

/-- The free columns before a line of `used` columns; half of each width is rounded down. -/
def Alignment.offset (used available : Nat) : Alignment → Nat
  | .left => 0
  | .center => available / 2 - used / 2

namespace Screen

/-- Write glyphs into the cells from `x` on. Glyphs without columns are passed over. -/
def writeGlyphs (screen : Screen) (x y : Nat) (style : Style) : List Glyph → Screen
  | [] => screen
  | glyph :: glyphs =>
    if glyph.columns = 0 then screen.writeGlyphs x y style glyphs
    else (screen.modify x y (Cell.write glyph.symbol style)).writeGlyphs (x + glyph.columns) y style glyphs

def writeLine (screen : Screen) (rect : Rect) (row : Nat) (alignment : Alignment) (style : Style)
    (glyphs : List Glyph) : Screen :=
  let offset := alignment.offset (Glyph.totalColumns glyphs) rect.width
  screen.writeGlyphs (rect.x + offset) (rect.y + row) style glyphs

def paintLine (screen : Screen) (widths : Widths) (rect : Rect) (alignment : Alignment) (style : Style)
    (text : Text) : Screen :=
  if rect.isEmpty then screen
  else screen.writeLine rect 0 alignment style (takeColumns rect.width rect.width (text.glyphs widths))

/-- Paint a label over cells from `x` on, as far as `right`. A glyph without columns joins the cell before it,
and the cells that a wide glyph hides become blank. -/
def overlayGlyphs (screen : Screen) (x y right : Nat) (style : Style) : List Glyph → Screen
  | [] => screen
  | glyph :: glyphs =>
    if right < x + glyph.columns then screen
    else
      let written :=
        if glyph.columns = 0 then screen.modify (x - 1) y (Cell.append glyph.symbol style)
        else (screen.modify x y (Cell.write glyph.symbol style)).clear ⟨x + 1, y, glyph.columns - 1, 1⟩
      written.overlayGlyphs (x + glyph.columns) y right style glyphs

def overlay (screen : Screen) (widths : Widths) (rect : Rect) (style : Style) (text : Text) : Screen :=
  if rect.isEmpty then screen
  else screen.overlayGlyphs rect.x rect.y (rect.x + min (widths.text text) rect.width) style (text.glyphs widths)

end Screen

/-! ### Borders -/

namespace Screen

def stamp (screen : Screen) (rect : Rect) (symbol : Char) (style : Style) : Screen :=
  screen.fill rect (Cell.write [symbol] style)

def border (screen : Screen) (rect : Rect) (style : Style) : Screen :=
  if rect.isEmpty then screen
  else
    let right := rect.right - 1
    let bottom := rect.bottom - 1
    ((((((((screen.stamp ⟨rect.x, rect.y, 1, rect.height⟩ '│' style).stamp
      ⟨rect.x, rect.y, rect.width, 1⟩ '─' style).stamp
      ⟨right, rect.y, 1, rect.height⟩ '│' style).stamp
      ⟨rect.x, bottom, rect.width, 1⟩ '─' style).stamp
      ⟨right, bottom, 1, 1⟩ '╯' style).stamp
      ⟨right, rect.y, 1, 1⟩ '╮' style).stamp
      ⟨rect.x, bottom, 1, 1⟩ '╰' style).stamp
      ⟨rect.x, rect.y, 1, 1⟩ '╭' style)

end Screen

/-! ### Paragraphs -/

/-- Where the breaking of a paragraph stands: the finished lines, the line in the making, and the blanks and
the word that follow it and may still go to the next line. -/
structure LineBreaking where
  finished : List (List Glyph)
  line : List Glyph
  blanks : List Glyph
  word : List Glyph
  /-- The last glyph belonged to a word. -/
  inWord : Bool

namespace LineBreaking

def start : LineBreaking := ⟨[], [], [], [], false⟩

def joinWord (state : LineBreaking) : LineBreaking :=
  { state with
    line := if state.line.isEmpty then state.word else state.line ++ state.blanks ++ state.word
    blanks := []
    word := [] }

def dropBlanks (columns : Nat) : List Glyph → List Glyph
  | [] => []
  | blank :: blanks =>
    if columns < blank.columns then blank :: blanks else dropBlanks (columns - blank.columns) blanks

def finishLine (limit : Nat) (state : LineBreaking) : LineBreaking :=
  { state with
    finished := state.finished ++ [state.line]
    line := []
    blanks := dropBlanks (limit - Glyph.totalColumns state.line) state.blanks }

/-- The word, or the blanks, would fill an empty line with one more glyph. -/
def overflowsAlone (limit : Nat) (state : LineBreaking) (glyph : Glyph) : Bool :=
  state.line.isEmpty && (limit < Glyph.totalColumns state.word + glyph.columns
    || limit < Glyph.totalColumns state.blanks + glyph.columns)

def isFull (limit : Nat) (state : LineBreaking) (glyph : Glyph) : Bool :=
  let line := Glyph.totalColumns state.line
  limit ≤ line || (0 < glyph.columns
    && limit ≤ line + Glyph.totalColumns state.blanks + Glyph.totalColumns state.word)

def next (limit : Nat) (state : LineBreaking) (glyph : Glyph) : LineBreaking :=
  if limit < glyph.columns then state
  else
    let state :=
      if (state.inWord && glyph.isBreak) || state.overflowsAlone limit glyph then state.joinWord else state
    let full := state.isFull limit glyph
    let state := if full then state.finishLine limit else state
    if full && glyph.isBreak && state.blanks.isEmpty then state
    else if glyph.isBreak then { state with blanks := state.blanks ++ [glyph], inWord := false }
    else { state with word := state.word ++ [glyph], inWord := true }

def lines (state : LineBreaking) : List (List Glyph) :=
  let finished :=
    if state.line.isEmpty && state.word.isEmpty && !state.blanks.isEmpty then state.finished ++ [[]]
    else state.finished
  let last := state.joinWord.line
  let lines := if last.isEmpty then finished else finished ++ [last]
  if lines.isEmpty then [[]] else lines

end LineBreaking

def breakLines (widths : Widths) (limit : Nat) (text : Text) : List (List Glyph) :=
  if limit = 0 then []
  else ((text.glyphs widths).foldl (LineBreaking.next limit) .start).lines

namespace Screen

def paintParagraph (screen : Screen) (widths : Widths) (rect : Rect) (style : Style) (text : Text) : Screen :=
  let lines := ((breakLines widths rect.width text).take rect.height).zipIdx
  lines.foldl (fun screen (glyphs, row) => screen.writeLine rect row .left style glyphs) screen

end Screen

end TerminalSignIn
