import TerminalSignIn.Toml.Table

/-!
# TOML tokens

A document is cut into tokens by a walk with one state, before anything is known of tables and values. Comments are left
out. Strings come in four kinds: in one kind of quotes backslashes escape, in the other nothing does, and three quotes
open a string that may have several lines. Truth values, numbers, dates and times are written without quotes;
`Toml.scalar?` tells what such a text stands for.
-/

namespace TerminalSignIn

namespace Toml

inductive Token where
  | blank
  | newline
  | equals
  | dot
  | comma
  | openBracket
  | closeBracket
  | openBrace
  | closeBrace
  /-- A run of other characters. -/
  | word (text : Text)
  /-- A string, and whether its quotes are triple. -/
  | quoted (text : Text) (triple : Bool)
deriving DecidableEq

inductive QuoteKind where
  /-- Backslashes escape. -/
  | basic
  /-- Nothing escapes. -/
  | literal
deriving DecidableEq

def QuoteKind.mark : QuoteKind → Char
  | .basic => Text.quote
  | .literal => '\x27'

/-- Where a reader stands in a document. Characters of an unfinished token are kept in reverse. -/
inductive Reading where
  | between
  /-- After a carriage return outside strings; a line feed is due. -/
  | carriage
  | comment
  | inWord (chars : Text)
  | opened (kind : QuoteKind) (second : Bool)
  | single (kind : QuoteKind) (chars : Text)
  /-- In a string with triple quotes, after `run` quotes in a row. -/
  | multi (kind : QuoteKind) (run : Nat) (chars : Text)
  /-- After a carriage return in such a string; `fresh` if nothing stands before it. -/
  | multiCarriage (kind : QuoteKind) (fresh : Bool) (chars : Text)
  /-- At the beginning of such a string, where a line end does not count. -/
  | leading (kind : QuoteKind)
  | escaped (triple : Bool) (chars : Text)
  /-- In a numbered escape of which `digits` digits are due. -/
  | numbered (triple : Bool) (digits value : Nat) (chars : Text)
  /-- After a backslash at the end of a line: blanks are skipped, `broken` says that the line has ended,
  and `returned` that a line feed is due. -/
  | skipping (broken returned : Bool) (chars : Text)

def isBlankChar (char : Char) : Bool :=
  char = ' ' || char = '\t'

/-- Control characters but the tab have no place in a document, line ends apart. -/
def isBarred (char : Char) : Bool :=
  (char.toNat < 0x20 && char ≠ '\t') || char.toNat = 0x7F

def mark? (char : Char) : Option Token :=
  match char with
  | '=' => some .equals
  | '.' => some .dot
  | ',' => some .comma
  | '[' => some .openBracket
  | ']' => some .closeBracket
  | '\x7b' => some .openBrace
  | '\x7d' => some .closeBrace
  | _ => none

def isWordChar (char : Char) : Bool :=
  !isBlankChar char && !isBarred char && (mark? char).isNone && char ≠ '#' && char ≠ Text.quote && char ≠ '\x27'

def simpleEscape? (char : Char) : Option Char :=
  match char with
  | 'b' => some '\x08'
  | 't' => some '\t'
  | 'n' => some '\n'
  | 'f' => some '\x0c'
  | 'r' => some '\r'
  | 'e' => some '\x1b'
  | '\\' => some '\\'
  | char => if char = Text.quote then some char else none

def escapeDigits? (char : Char) : Option Nat :=
  match char with
  | 'x' => some 2
  | 'u' => some 4
  | 'U' => some 8
  | _ => none

def scalarChar? (code : Nat) : Option Char :=
  if code < 0xD800 || (0xE000 ≤ code && code < 0x110000) then some (Char.ofNat code) else none

namespace Reading

def start (char : Char) : Option (List Token × Reading) :=
  if isBlankChar char then some ([.blank], .between)
  else if char = '\n' then some ([.newline], .between)
  else if char = '\r' then some ([], .carriage)
  else if char = '#' then some ([], .comment)
  else if char = Text.quote then some ([], .opened .basic false)
  else if char = '\x27' then some ([], .opened .literal false)
  else if isBarred char then none
  else match mark? char with
    | some token => some ([token], .between)
    | none => some ([], .inWord [char])

def restart (token : Token) (char : Char) : Option (List Token × Reading) :=
  (start char).map fun (tokens, reading) => (token :: tokens, reading)

def nextSingle (kind : QuoteKind) (chars : Text) (char : Char) : Option (List Token × Reading) :=
  if char = kind.mark then some ([.quoted chars.reverse false], .between)
  else if char = '\\' && kind = .basic then some ([], .escaped false chars)
  else if isBarred char then none
  else some ([], .single kind (char :: chars))

def nextTriple (kind : QuoteKind) (chars : Text) (char : Char) : Option (List Token × Reading) :=
  if char = '\\' && kind = .basic then some ([], .escaped true chars)
  else if char = '\n' then some ([], .multi kind 0 ('\n' :: chars))
  else if char = '\r' then some ([], .multiCarriage kind false chars)
  else if isBarred char then none
  else some ([], .multi kind 0 (char :: chars))

def closeTriple (kind : QuoteKind) (run : Nat) (chars : Text) : Token :=
  .quoted (chars.reverse ++ List.replicate (run - 3) kind.mark) true

/-- One character after a run of quotes. At most two quotes stand before the closing ones. -/
def afterQuotes (kind : QuoteKind) (run : Nat) (chars : Text) (char : Char) : Option (List Token × Reading) :=
  if char = kind.mark then
    if run = 4 then some ([closeTriple kind 5 chars], .between) else some ([], .multi kind (run + 1) chars)
  else if 3 ≤ run then restart (closeTriple kind run chars) char
  else nextTriple kind (List.replicate run kind.mark ++ chars) char

def resume (triple : Bool) (chars : Text) : Reading :=
  if triple then .multi .basic 0 chars else .single .basic chars

def nextEscaped (triple : Bool) (chars : Text) (char : Char) : Option (List Token × Reading) :=
  match simpleEscape? char, escapeDigits? char with
  | some meant, _ => some ([], resume triple (meant :: chars))
  | none, some digits => some ([], .numbered triple digits 0 chars)
  | none, none =>
    if !triple then none
    else if isBlankChar char then some ([], .skipping false false chars)
    else if char = '\n' then some ([], .skipping true false chars)
    else if char = '\r' then some ([], .skipping true true chars)
    else none

def nextSkipping (broken returned : Bool) (chars : Text) (char : Char) : Option (List Token × Reading) :=
  if returned then if char = '\n' then some ([], .skipping true false chars) else none
  else if isBlankChar char then some ([], .skipping broken false chars)
  else if char = '\n' then some ([], .skipping true false chars)
  else if char = '\r' then some ([], .skipping true true chars)
  else if !broken then none
  else afterQuotes .basic 0 chars char

def next (char : Char) : Reading → Option (List Token × Reading)
  | .between => start char
  | .carriage => if char = '\n' then some ([.newline], .between) else none
  | .comment =>
    if char = '\n' || char = '\r' then start char
    else if isBarred char then none
    else some ([], .comment)
  | .inWord chars =>
    if isWordChar char then some ([], .inWord (char :: chars)) else restart (.word chars.reverse) char
  | .opened kind false => if char = kind.mark then some ([], .opened kind true) else nextSingle kind [] char
  | .opened kind true => if char = kind.mark then some ([], .leading kind) else restart (.quoted [] false) char
  | .single kind chars => nextSingle kind chars char
  | .leading kind =>
    if char = '\n' then some ([], .multi kind 0 [])
    else if char = '\r' then some ([], .multiCarriage kind true [])
    else afterQuotes kind 0 [] char
  | .multi kind run chars => afterQuotes kind run chars char
  | .multiCarriage kind fresh chars =>
    if char ≠ '\n' then none
    else if fresh then some ([], .multi kind 0 [])
    else some ([], .multi kind 0 ('\n' :: '\r' :: chars))
  | .escaped triple chars => nextEscaped triple chars char
  | .numbered triple digits value chars => do
    let digit ← Text.digit? 16 char
    let value := value * 16 + digit
    if 1 < digits then some ([], .numbered triple (digits - 1) value chars)
    else (scalarChar? value).map fun meant => ([], resume triple (meant :: chars))
  | .skipping broken returned chars => nextSkipping broken returned chars char

def finish : Reading → Option (List Token)
  | .between | .comment => some []
  | .inWord chars => some [.word chars.reverse]
  | .opened _ true => some [.quoted [] false]
  | .multi kind run chars => if 3 ≤ run then some [closeTriple kind run chars] else none
  | _ => none

end Reading

def byteOrderMark : Char := '\uFEFF'

def tokens? (text : Text) : Option (List Token) := do
  let body := if text.head? = some byteOrderMark then text.tail else text
  let (tokens, reading) ← body.foldlM (fun (tokens, reading) char => do
    let (finished, reading) ← reading.next char
    return (finished.reverse ++ tokens, reading)) (([] : List Token), Reading.between)
  let finished ← reading.finish
  return tokens.reverse ++ finished

end Toml

/-! ### Scalars -/

namespace Toml

def digitGroups? (base : Nat) (text : Text) : Option Nat := do
  let groups := text.splitOn '_'
  guard (groups.all fun group => !group.isEmpty)
  Text.number? base groups.flatten

def wholeNumber? (text : Text) : Option Nat :=
  if text.head? = some '0' && text ≠ ['0'] then none else digitGroups? 10 text

def splitSign (text : Text) : Bool × Text :=
  match text with
  | '-' :: rest => (true, rest)
  | '+' :: rest => (false, rest)
  | _ => (false, text)

def leastInteger : Int := -Int.ofNat (1 <<< 127)

def greatestInteger : Int := Int.ofNat (1 <<< 128) - 1

def integer? (text : Text) : Option Int := do
  let value ← match text with
    | '0' :: 'x' :: digits => (digitGroups? 16 digits).map Int.ofNat
    | '0' :: 'o' :: digits => (digitGroups? 8 digits).map Int.ofNat
    | '0' :: 'b' :: digits => (digitGroups? 2 digits).map Int.ofNat
    | _ =>
      let (negative, digits) := splitSign text
      (wholeNumber? digits).map fun amount => if negative then -(amount : Int) else amount
  guard (leastInteger ≤ value && value ≤ greatestInteger)
  return value

def splitExponent (text : Text) : Text × Option Text :=
  let isMark (char : Char) : Bool := char = 'e' || char = 'E'
  (text.takeWhile fun char => !isMark char, match text.dropWhile fun char => !isMark char with
    | [] => none
    | _ :: exponent => some exponent)

def isFloat (text : Text) : Bool :=
  let unsigned := (splitSign text).2
  if unsigned = "inf".toList || unsigned = "nan".toList then true
  else
    let (mantissa, exponent) := splitExponent unsigned
    let exponentFits := exponent.all fun digits => (digitGroups? 10 (splitSign digits).2).isSome
    match mantissa.splitOnce? '.' with
    | some (whole, fraction) =>
      (wholeNumber? whole).isSome && (digitGroups? 10 fraction).isSome && exponentFits
    | none => (wholeNumber? mantissa).isSome && exponent.isSome && exponentFits

def fixedNumber? (count : Nat) (text : Text) : Option Nat :=
  if text.length = count then Text.number? 10 text else none

def isLeapYear (year : Nat) : Bool :=
  year % 4 = 0 && (year % 100 ≠ 0 || year % 400 = 0)

def daysInMonth (year month : Nat) : Nat :=
  if month = 2 then (if isLeapYear year then 29 else 28)
  else if [4, 6, 9, 11].contains month then 30
  else 31

def isDay (text : Text) : Bool :=
  match (text.splitOn '-') with
  | [year, month, day] =>
    match fixedNumber? 4 year, fixedNumber? 2 month, fixedNumber? 2 day with
    | some year, some month, some day =>
      1 ≤ month && month ≤ 12 && 1 ≤ day && day ≤ daysInMonth year month
    | _, _, _ => false
  | _ => false

def isNumberUpTo (greatest : Nat) (text : Text) : Bool :=
  (fixedNumber? 2 text).any (· ≤ greatest)

/-- Seconds with a fraction or without; a minute may have a leap second. -/
def isSeconds (text : Text) : Bool :=
  match text.splitOnce? '.' with
  | none => isNumberUpTo 60 text
  | some (whole, fraction) => isNumberUpTo 60 whole && (Text.number? 10 fraction).isSome

def isTime (text : Text) : Bool :=
  match text.splitOn ':' with
  | [hour, minute] => isNumberUpTo 23 hour && isNumberUpTo 59 minute
  | [hour, minute, seconds] => isNumberUpTo 23 hour && isNumberUpTo 59 minute && isSeconds seconds
  | _ => false

def isOffset (text : Text) : Bool :=
  match text.splitOn ':' with
  | [hour, minute] => isNumberUpTo 23 hour && isNumberUpTo 59 minute
  | _ => false

def isZonedTime (text : Text) : Bool :=
  match text.getLast? with
  | some 'Z' | some 'z' => isTime text.dropLast
  | _ =>
    let isSign (char : Char) : Bool := char = '+' || char = '-'
    match text.dropWhile fun char => !isSign char with
    | [] => isTime text
    | _ :: offset => isTime (text.takeWhile fun char => !isSign char) && isOffset offset

def dayLength : Nat := 10

def isDate (text : Text) : Bool :=
  isDay text || isTime text ||
    match text.drop dayLength with
    | mark :: time => (mark = 'T' || mark = 't' || mark = ' ') && isDay (text.take dayLength) && isZonedTime time
    | [] => false

def scalar? (text : Text) : Option Toml :=
  if text = "true".toList then some (.boolean true)
  else if text = "false".toList then some (.boolean false)
  else match integer? text with
    | some value => some (.integer value)
    | none =>
      if isFloat text then some .float
      else if isDate text then some .date
      else none

end Toml

end TerminalSignIn
