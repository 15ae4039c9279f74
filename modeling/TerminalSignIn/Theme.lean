import TerminalSignIn.Session

/-!
# Theme

The colours and glyphs of the form. A high contrast palette uses the colours that every terminal has; an
ASCII set of glyphs uses ASCII alone.
-/

namespace TerminalSignIn

inductive Color where
  | reset
  | black
  | gray
  | white
  | cyan
  | green
  | yellow
  | red
  | rgb (red green blue : UInt8)
deriving DecidableEq

namespace Color

def hexByte (byte : UInt8) : Text :=
  [Nat.digitChar (byte.toNat / 16), Nat.digitChar (byte.toNat % 16)].map Char.toUpper

def name : Color → Text
  | .reset => "Reset".toList
  | .black => "Black".toList
  | .gray => "Gray".toList
  | .white => "White".toList
  | .cyan => "Cyan".toList
  | .green => "Green".toList
  | .yellow => "Yellow".toList
  | .red => "Red".toList
  | .rgb r g b => '#' :: (hexByte r ++ hexByte g ++ hexByte b)

end Color

/-- A style changes the colours that it names and leaves the others as they are. -/
structure Style where
  foreground : Option Color
  background : Option Color
  bold : Bool
deriving DecidableEq

namespace Style

def plain : Style := ⟨none, none, false⟩

def colored (color : Color) : Style := { plain with foreground := some color }

def onColor (color : Color) : Style := { plain with background := some color }

end Style

structure Palette where
  bgDark : Color
  bgPanel : Color
  bgBorder : Color
  textPrimary : Color
  textMuted : Color
  primary : Color
  accent : Color
  success : Color
  warning : Color
  error : Color

namespace Palette

def standard : Palette where
  bgDark := .rgb 22 22 29
  bgPanel := .rgb 31 31 40
  bgBorder := .rgb 84 84 109
  textPrimary := .rgb 220 215 186
  textMuted := .rgb 114 113 105
  primary := .rgb 149 127 184
  accent := .rgb 127 180 202
  success := .rgb 152 187 108
  warning := .rgb 230 195 132
  error := .rgb 255 93 98

def highContrast : Palette where
  bgDark := .black
  bgPanel := .black
  bgBorder := .gray
  textPrimary := .white
  textMuted := .gray
  primary := .white
  accent := .cyan
  success := .green
  warning := .yellow
  error := .red

def ofOptions (options : DisplayOptions) : Palette :=
  if options.highContrast then highContrast else standard

def label (palette : Palette) (focused : Bool) : Style :=
  if focused then ⟨some palette.accent, none, true⟩ else .colored palette.textMuted

/-- The border of a field; a failing check shows before the focus does. -/
def fieldBorder (palette : Palette) (focused invalid : Bool) : Style :=
  .colored (if invalid then palette.error else if focused then palette.primary else palette.bgBorder)

def fieldError (palette : Palette) : Style :=
  .colored palette.error

def submit (palette : Palette) (enabled : Bool) : Style :=
  if enabled then ⟨some palette.bgDark, some palette.success, true⟩
  else ⟨some palette.textMuted, some palette.bgPanel, false⟩

end Palette

structure Glyphs where
  focus : Text
  error : Text
  ok : Text
  mask : Char
  spinner : List Text

namespace Glyphs

def ascii : Glyphs where
  focus := ">".toList
  error := "x".toList
  ok := "ok".toList
  mask := '*'
  spinner := [['|'], ['/'], ['-'], ['\\']]

def unicode : Glyphs where
  focus := "▸".toList
  error := "✗".toList
  ok := "✓".toList
  mask := '•'
  spinner := "⠋⠙⠹⠸⠼⠴⠦⠧⠇⠏".toList.map ([·])

def ofOptions (options : DisplayOptions) : Glyphs :=
  if options.asciiOnly then ascii else unicode

def spinnerFrame (glyphs : Glyphs) (tick : Nat) : Text :=
  (glyphs.spinner[tick % glyphs.spinner.length]?).getD []

end Glyphs

end TerminalSignIn
