import TerminalSignIn.View.Picture

/-!
# Control sequences

What is written to a terminal to give the form a screen of its own, and to give the terminal back. A picture is written
row by row, with a change of colours only where the cells change theirs.
-/

namespace TerminalSignIn

namespace Terminal

def markPastes : Text := "\x1b[?2004h".toList

def leavePastesUnmarked : Text := "\x1b[?2004l".toList

def enterScreen : Text := "\x1b[?1049h".toList

def leaveScreen : Text := "\x1b[?1049l".toList

def showCursor : Text := "\x1b[?25h".toList

def hideCursor : Text := "\x1b[?25l".toList

/-- The terminal answers with a few bytes of input. -/
def askStatus : Text := "\x1b[5n".toList

def moveTo (x y : Nat) : Text :=
  "\x1b[".toList ++ Text.ofNat (y + 1) ++ ';' :: Text.ofNat (x + 1) ++ ['H']

def opening : Text := markPastes ++ enterScreen

def closing : Text := leavePastesUnmarked ++ showCursor

end Terminal

/-! ### Painting -/

namespace Color

/-- What selects a colour, for text or for what is behind it: the number of the colour in its row, or its three
parts. -/
def code (color : Color) (behind : Bool) : Text :=
  let shift := if behind then 10 else 0
  let row (number : Nat) : Text := Text.ofNat (number + shift)
  match color with
  | .reset => row 39
  | .black => row 30
  | .red => row 31
  | .green => row 32
  | .yellow => row 33
  | .cyan => row 36
  | .gray => row 37
  | .white => row 97
  | .rgb r g b =>
    Text.join [';'] (row 38 :: ['2'] :: [r, g, b].map fun part => Text.ofNat part.toNat)

end Color

namespace Cell

def hasLook (cell other : Cell) : Bool :=
  cell.foreground = other.foreground && cell.background = other.background && cell.bold = other.bold

def look (cell : Cell) : Text :=
  let weight := if cell.bold then ";1;".toList else ";".toList
  "\x1b[0".toList ++ weight ++ cell.foreground.code false ++ ';' :: cell.background.code true ++ ['m']

end Cell

namespace Screen

/-- The cells of a row behind a cell with a given look. A wide symbol covers the cells after its own. -/
def paintCells (widths : Widths) (before : Cell) (covered : Nat) : List Cell → Text
  | [] => []
  | cell :: cells =>
    if 0 < covered then paintCells widths before (covered - 1) cells
    else (if cell.hasLook before then [] else cell.look) ++ cell.symbol
      ++ paintCells widths cell (widths.text cell.symbol - 1) cells

def paintRow (widths : Widths) (row : List Cell) : Text :=
  match row with
  | [] => []
  | cell :: _ => cell.look ++ paintCells widths cell 0 row

end Screen

namespace Picture

def paint (picture : Picture) (widths : Widths) : Text :=
  Terminal.hideCursor
    ++ (picture.screen.rows.toList.zipIdx.flatMap fun (row, y) =>
      Terminal.moveTo 0 y ++ Screen.paintRow widths row.toList)
    ++ match picture.cursor with
      | none => []
      | some (x, y) => Terminal.moveTo x y ++ Terminal.showCursor

end Picture

end TerminalSignIn
