import TerminalSignIn.Text.Basic

/-!
# JSON values and tokens

A number is kept without its amount, which nothing here asks for. An object keeps its members in the order in which they
are written; of members with one name the last counts.

A text is cut into tokens by a walk with one state. A string may not hold a control character as it stands, and an
escape may not name half of a surrogate pair. A numeral is read in double precision: it is refused when it is badly
formed, and when its amount is beyond the greatest double. The digits are gathered in a word of 64 bits; what does not
fit into it counts for its place and no more.
-/

namespace TerminalSignIn

inductive Json where
  | null
  | bool (value : Bool)
  | number
  | string (value : Text)
  | array (items : List Json)
  | object (members : List (Text × Json))

namespace Json

def member? (name : Text) : Json → Option Json
  | .object members => (members.reverse.find? fun member => member.1 = name).map Prod.snd
  | _ => none

def at? (value : Json) : List Text → Option Json
  | [] => some value
  | name :: path => (value.member? name).bind fun inner => inner.at? path

def string? : Json → Option Text
  | .string value => some value
  | _ => none

end Json

/-! ### Numerals -/

structure Numeral where
  significand : Nat
  exponent : Int
deriving DecidableEq

namespace Numeral

def isDigit (char : Char) : Bool :=
  '0' ≤ char && char ≤ '9'

def digitValue (char : Char) : Nat :=
  char.toNat - '0'.toNat

def wordLimit : Nat := 1 <<< 64 - 1

def gather (significand : Nat) : Text → Nat × Text
  | [] => (significand, [])
  | digit :: digits =>
    let grown := significand * 10 + digitValue digit
    if wordLimit < grown then (significand, digit :: digits) else gather grown digits

/-- Digits of an integer and of a fraction as significand and exponent. Once the word is full, digits before the
point raise the exponent and digits behind it are dropped. -/
def ofDigits (whole fraction : Text) : Numeral :=
  let (significand, beyond) := gather 0 whole
  let (grown, dropped) := gather significand fraction
  ⟨grown, (beyond.length : Int) - (fraction.length - dropped.length : Nat)⟩

def exponent? (text : Text) : Option Int :=
  match text with
  | '-' :: digits => (Text.number? 10 digits).map fun amount => -(amount : Int)
  | '+' :: digits => (Text.number? 10 digits).map fun amount => (amount : Int)
  | digits => (Text.number? 10 digits).map fun amount => (amount : Int)

def spanDigits (text : Text) : Text × Text :=
  (text.takeWhile isDigit, text.dropWhile isDigit)

def isWhole (digits : Text) : Bool :=
  digits = ['0'] || (!digits.isEmpty && digits.head? ≠ some '0')

def ofText? (text : Text) : Option Numeral := do
  let unsigned := match text with
    | '-' :: rest => rest
    | _ => text
  let (whole, rest) := spanDigits unsigned
  guard (isWhole whole)
  let (fraction, rest) ← match rest with
    | '.' :: rest =>
      let (fraction, rest) := spanDigits rest
      if fraction.isEmpty then none else some (fraction, rest)
    | _ => some ([], rest)
  let shift ← match rest with
    | [] => some 0
    | 'e' :: rest | 'E' :: rest => exponent? rest
    | _ => none
  let digits := ofDigits whole fraction
  return { digits with exponent := digits.exponent + shift }

/-- The nearest number of 53 binary digits; of two that are equally near, the one that ends in zero. -/
def roundBinary (amount : Nat) : Nat :=
  let unit := 1 <<< (amount.log2 - 52)
  let quotient := amount / unit
  let rest := 2 * (amount % unit)
  unit * (if unit < rest || (rest = unit && quotient % 2 = 1) then quotient + 1 else quotient)

def overflowBound : Nat := 1 <<< 1024 - 1 <<< 970

def greatestPower : Nat := 308

/-- The amount has no double. It is taken as the product of the rounded digits and the rounded power. -/
def overflows (numeral : Numeral) : Bool :=
  numeral.significand ≠ 0 && (greatestPower < numeral.exponent ||
    (0 ≤ numeral.exponent
      && overflowBound ≤ roundBinary numeral.significand * roundBinary (Nat.pow 10 numeral.exponent.toNat)))

def isReadable (text : Text) : Bool :=
  (ofText? text).any fun numeral => !numeral.overflows

end Numeral

/-! ### Tokens -/

namespace Json

inductive Token where
  | openArray
  | closeArray
  | openObject
  | closeObject
  | comma
  | colon
  /-- A string, as a value or as the name of a member. -/
  | text (value : Text)
  /-- A literal or a number. -/
  | simple (value : Json)

inductive StringState where
  | plain
  /-- After a backslash; `high` is the first half of a surrogate pair whose second half is due. -/
  | escaped (high : Option Nat)
  /-- Inside a numbered escape, after `count` digits. -/
  | numbered (high : Option Nat) (count value : Nat)
  /-- After the first half of a surrogate pair. -/
  | halved (high : Nat)
deriving DecidableEq

def isHighSurrogate (code : Nat) : Bool := 0xD800 ≤ code && code < 0xDC00

def isLowSurrogate (code : Nat) : Bool := 0xDC00 ≤ code && code < 0xE000

def pairedChar (high low : Nat) : Char :=
  Char.ofNat (0x10000 + (high - 0xD800) * 0x400 + (low - 0xDC00))

def simpleEscape? (char : Char) : Option Char :=
  match char with
  | '\\' => some '\\'
  | '/' => some '/'
  | 'b' => some '\x08'
  | 'f' => some '\x0c'
  | 'n' => some '\n'
  | 'r' => some '\r'
  | 't' => some '\t'
  | char => if char = Text.quote then some char else none

def finishNumbered (high : Option Nat) (code : Nat) : Option (Text × StringState) :=
  match high with
  | some high => if isLowSurrogate code then some ([pairedChar high code], .plain) else none
  | none =>
    if isHighSurrogate code then some ([], .halved code)
    else if isLowSurrogate code then none
    else some ([Char.ofNat code], .plain)

/-- What one character inside a string adds to it, and the state after it. A quote in the plain state ends the
string and is no business of this function. -/
def StringState.next (char : Char) : StringState → Option (Text × StringState)
  | .plain =>
    if char = '\\' then some ([], .escaped none)
    else if char.toNat < 0x20 then none
    else some ([char], .plain)
  | .escaped high =>
    if char = 'u' then some ([], .numbered high 0 0)
    else if high.isSome then none
    else (simpleEscape? char).map fun meant => ([meant], .plain)
  | .numbered high count value => do
    let digit ← Text.digit? 16 char
    let value := value * 16 + digit
    if count < 3 then some ([], .numbered high (count + 1) value) else finishNumbered high value
  | .halved high => if char = '\\' then some ([], .escaped (some high)) else none

inductive Reading where
  | between
  | inString (state : StringState) (chars : Text)
  | inNumeral (chars : Text)
  | inWord (chars : Text)

def isSpace (char : Char) : Bool :=
  char = ' ' || char = '\t' || char = '\n' || char = '\r'

def isLower (char : Char) : Bool :=
  'a' ≤ char && char ≤ 'z'

def isNumeralChar (char : Char) : Bool :=
  Numeral.isDigit char || char = '-' || char = '+' || char = '.' || char = 'e' || char = 'E'

def mark? (char : Char) : Option Token :=
  match char with
  | '[' => some .openArray
  | ']' => some .closeArray
  | '\x7b' => some .openObject
  | '\x7d' => some .closeObject
  | ',' => some .comma
  | ':' => some .colon
  | _ => none

def word? (word : Text) : Option Token :=
  if word = "null".toList then some (.simple .null)
  else if word = "true".toList then some (.simple (.bool true))
  else if word = "false".toList then some (.simple (.bool false))
  else none

def Reading.start (char : Char) : Option (List Token × Reading) :=
  if isSpace char then some ([], .between)
  else if char = Text.quote then some ([], .inString .plain [])
  else if char = '-' || Numeral.isDigit char then some ([], .inNumeral [char])
  else if isLower char then some ([], .inWord [char])
  else (mark? char).map fun token => ([token], .between)

def Reading.finish : Reading → Option (List Token)
  | .between => some []
  | .inString _ _ => none
  | .inNumeral chars => if Numeral.isReadable chars.reverse then some [.simple .number] else none
  | .inWord chars => (word? chars.reverse).map fun token => [token]

def Reading.next (char : Char) : Reading → Option (List Token × Reading)
  | .between => start char
  | .inString state chars =>
    if state = .plain && char = Text.quote then some ([.text chars.reverse], .between)
    else (state.next char).map fun (added, state) => ([], .inString state (added.reverse ++ chars))
  | .inNumeral chars =>
    if isNumeralChar char then some ([], .inNumeral (char :: chars))
    else do
      let finished ← finish (.inNumeral chars)
      let (tokens, reading) ← start char
      return (finished ++ tokens, reading)
  | .inWord chars =>
    if isLower char then some ([], .inWord (char :: chars))
    else do
      let finished ← finish (.inWord chars)
      let (tokens, reading) ← start char
      return (finished ++ tokens, reading)

def tokens? (text : Text) : Option (List Token) := do
  let (tokens, reading) ← text.foldlM (fun (tokens, reading) char => do
    let (finished, reading) ← reading.next char
    return (finished.reverse ++ tokens, reading)) (([] : List Token), Reading.between)
  let finished ← reading.finish
  return tokens.reverse ++ finished

end Json

end TerminalSignIn
