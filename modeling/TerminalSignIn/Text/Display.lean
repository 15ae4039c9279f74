import TerminalSignIn.Text.Basic
import TerminalSignIn.Text.Property

/-!
# Texts that are shown

A message from the network ends up on a terminal, so it is reduced to one line of printable text: escape sequences and
control characters go, every run of blanks becomes one space, and what is too long ends in an ellipsis. `Text.display`
does this in one pass over the characters. Beside it stand the three stages that it fuses: `Text.stripEscapes`,
`Text.dropControls` and `Text.words`.

A quoted text stands between double quotes on one line. Quotes, backslashes and the common line and tab characters are
written with a backslash; what does not print, and what would attach to the character before it, by its number.
-/

namespace TerminalSignIn

namespace Text

def displayLimit : Nat := 200

def ellipsis : Text := "...".toList

/-- A text cut to at most `limit` characters (three at least), the last three an ellipsis if it was cut. -/
def truncate (limit : Nat) (text : Text) : Text :=
  let limit := max limit ellipsis.length
  let text := text.trim
  if text.length ≤ limit then text
  else text.take (limit - ellipsis.length) ++ ellipsis

inductive EscapeState where
  | plain
  /-- After the escape character. -/
  | opened
  /-- Inside a control sequence, which ends with a character from `@` to `~`. -/
  | sequence
  /-- Inside an operating system command, which ends with a bell or with escape and backslash. -/
  | command
  /-- Inside such a command, after an escape character. -/
  | commandEscape
deriving DecidableEq

def bell : Char := '\x07'

def isSequenceEnd (char : Char) : Bool :=
  0x40 ≤ char.toNat && char.toNat ≤ 0x7E

namespace EscapeState

/-- The state after a character. In the plain state every character but the escape is kept; in all others
the character belongs to the sequence. -/
def next : EscapeState → Char → EscapeState
  | .plain, char => if char = escape then .opened else .plain
  | .opened, char => if char = '[' then .sequence else if char = ']' then .command else .plain
  | .sequence, char => if isSequenceEnd char then .plain else .sequence
  | .command, char => if char = bell then .plain else if char = escape then .commandEscape else .command
  | .commandEscape, char =>
    if char = '\\' then .plain
    else if char = bell then .plain
    else if char = escape then .commandEscape
    else .command

def keeps (state : EscapeState) (char : Char) : Bool :=
  state = .plain && char ≠ escape

end EscapeState

/-- One pass over a message. `started` says that something was written, `gap` that a space is due before
the next character is. -/
def collapse (state : EscapeState) (started gap : Bool) : Text → Text
  | [] => []
  | char :: rest =>
    let state' := state.next char
    if !state.keeps char then collapse state' started gap rest
    else if isBlank char then collapse state' started started rest
    else if isControl char then collapse state' started gap rest
    else if gap then ' ' :: char :: collapse state' true false rest
    else char :: collapse state' true false rest

/-- The display form of a message: one line, no escape sequence, no control character, no run of blanks, at
most `displayLimit` characters. -/
def display (message : Text) : Text :=
  truncate displayLimit (collapse .plain false false message)

def stripFrom (state : EscapeState) : Text → Text
  | [] => []
  | char :: rest =>
    if state.keeps char then char :: stripFrom (state.next char) rest
    else stripFrom (state.next char) rest

def stripEscapes (text : Text) : Text :=
  stripFrom .plain text

def dropControls (text : Text) : Text :=
  text.filter fun char => isBlank char || !isControl char

def words : Text → List Text
  | [] => []
  | char :: rest =>
    if isBlank char then words rest
    else match rest with
      | [] => [[char]]
      | following :: _ =>
        if isBlank following then [char] :: words rest
        else match words rest with
          | [] => [[char]]
          | word :: others => (char :: word) :: others

end Text

/-! ### Quoted texts -/

namespace Text

def numbered (char : Char) : Text :=
  "\\u\x7b".toList ++ hexOfNat char.toNat ++ "\x7d".toList

def quotedChar (char : Char) : Text :=
  if char = '\x00' then "\\0".toList
  else if char = '\t' then "\\t".toList
  else if char = '\n' then "\\n".toList
  else if char = '\r' then "\\r".toList
  else if char = '\\' then "\\\\".toList
  else if char = quote then "\\\"".toList
  else if char.toNat < 0x7F && 0x20 ≤ char.toNat then [char]
  else if CodeSet.graphemeExtend.contains char || CodeSet.unprintable.contains char then numbered char
  else [char]

def quoted (text : Text) : Text :=
  quote :: text.flatMap quotedChar ++ [quote]

end Text

end TerminalSignIn
