/-!
# Text

A text is a list of characters. This module holds the character classes that the whole library shares (blank, control),
the trimming, splitting and measuring that hang on them, and the way between texts and bytes. Bytes are read as a
sequence of characters and of faults. A fault is a longest stretch of bytes that begins a character and does not go on
as one, or a single byte that begins none. Strict reading refuses faults, lenient reading puts a replacement character
in the place of each.
-/

namespace TerminalSignIn

abbrev Text := List Char

/-- Blank characters are those with the Unicode property `White_Space`. -/
def isBlank (char : Char) : Bool :=
  let code := char.toNat
  (9 ≤ code && code ≤ 13) || code == 0x20 || code == 0x85 || code == 0xA0 || code == 0x1680
    || (0x2000 ≤ code && code ≤ 0x200A) || code == 0x2028 || code == 0x2029 || code == 0x202F
    || code == 0x205F || code == 0x3000

/-- Control characters are those of the category `Cc`. -/
def isControl (char : Char) : Bool :=
  char.toNat < 0x20 || (0x7F ≤ char.toNat && char.toNat ≤ 0x9F)

namespace Text

def quote : Char := '\x22'

def escape : Char := '\x1b'

def trimStart (text : Text) : Text :=
  text.dropWhile isBlank

def trimEnd (text : Text) : Text :=
  (text.reverse.dropWhile isBlank).reverse

def trim (text : Text) : Text :=
  text.trimStart.trimEnd

def dropEndWhile (drops : Char → Bool) (text : Text) : Text :=
  (text.reverse.dropWhile drops).reverse

def splitOn (separator : Char) : Text → List Text
  | [] => [[]]
  | char :: rest =>
    if char = separator then [] :: splitOn separator rest
    else match splitOn separator rest with
      | [] => [[char]]
      | piece :: pieces => (char :: piece) :: pieces

def splitOnce? (separator : Char) : Text → Option (Text × Text)
  | [] => none
  | char :: rest =>
    if char = separator then some ([], rest)
    else (splitOnce? separator rest).map fun (before, after) => (char :: before, after)

def join (separator : Text) : List Text → Text
  | [] => []
  | [piece] => piece
  | piece :: pieces => piece ++ separator ++ join separator pieces

def lowerAscii (text : Text) : Text :=
  text.map Char.toLower

def ofNat (number : Nat) : Text :=
  Nat.toDigits 10 number

def hexOfNat (number : Nat) : Text :=
  Nat.toDigits 16 number

def digit? (base : Nat) (char : Char) : Option Nat :=
  let value :=
    if '0' ≤ char ∧ char ≤ '9' then some (char.toNat - '0'.toNat)
    else if 'a' ≤ char ∧ char ≤ 'f' then some (char.toNat - 'a'.toNat + 10)
    else if 'A' ≤ char ∧ char ≤ 'F' then some (char.toNat - 'A'.toNat + 10)
    else none
  value.filter (· < base)

def number? (base : Nat) (text : Text) : Option Nat :=
  if text.isEmpty then none
  else text.foldlM (fun total char => (digit? base char).map (total * base + ·)) 0

def charBytes (char : Char) : Nat :=
  if char.toNat < 0x80 then 1
  else if char.toNat < 0x800 then 2
  else if char.toNat < 0x10000 then 3
  else 4

def byteLength (text : Text) : Nat :=
  text.foldl (fun total char => total + charBytes char) 0

def startsWith (text start : Text) : Bool :=
  start.isPrefixOf text

def endsWith (text ending : Text) : Bool :=
  ending.isSuffixOf text

def after? : (text start : Text) → Option Text
  | rest, [] => some rest
  | [], _ :: _ => none
  | char :: rest, first :: more => if first = char then after? rest more else none

end Text

structure NonBlank where
  text : Text
  visible : text.trim ≠ []
deriving DecidableEq

namespace NonBlank

/-- The text itself, surrounding blanks included, unless it is blank. -/
def ofText? (text : Text) : Option NonBlank :=
  if visible : text.trim ≠ [] then some ⟨text, visible⟩ else none

def ofOption? (text : Option Text) : Option NonBlank :=
  text.bind ofText?

def blankMessage : Text :=
  "value must not be empty".toList

end NonBlank

/-! ### UTF-8 -/

abbrev Bytes := List UInt8

namespace Utf8

/-- What is still due of a character: the bits so far, how many bytes follow, and the bounds of the next. -/
structure Due where
  bits : Nat
  bytes : Nat
  low : Nat
  high : Nat
deriving DecidableEq

inductive Lead where
  | complete (char : Char)
  | due (due : Due)
  | fault
deriving DecidableEq

def lead (byte : Nat) : Lead :=
  if byte < 0x80 then .complete (Char.ofNat byte)
  else if byte < 0xC2 then .fault
  else if byte < 0xE0 then .due ⟨byte - 0xC0, 1, 0x80, 0xBF⟩
  else if byte = 0xE0 then .due ⟨0, 2, 0xA0, 0xBF⟩
  else if byte = 0xED then .due ⟨0xD, 2, 0x80, 0x9F⟩
  else if byte < 0xF0 then .due ⟨byte - 0xE0, 2, 0x80, 0xBF⟩
  else if byte = 0xF0 then .due ⟨0, 3, 0x90, 0xBF⟩
  else if byte < 0xF4 then .due ⟨byte - 0xF0, 3, 0x80, 0xBF⟩
  else if byte = 0xF4 then .due ⟨4, 3, 0x80, 0x8F⟩
  else .fault

/-- The characters, and `none` for each fault, of bytes that may go on with an unfinished character. -/
def readFrom : Option Due → Bytes → List (Option Char)
  | none, [] => []
  | some _, [] => [none]
  | none, byte :: rest => match lead byte.toNat with
    | .complete char => some char :: readFrom none rest
    | .due due => readFrom (some due) rest
    | .fault => none :: readFrom none rest
  | some due, byte :: rest =>
    if due.low ≤ byte.toNat ∧ byte.toNat ≤ due.high then
      let bits := due.bits * 64 + (byte.toNat - 0x80)
      if due.bytes = 1 then some (Char.ofNat bits) :: readFrom none rest
      else readFrom (some ⟨bits, due.bytes - 1, 0x80, 0xBF⟩) rest
    else match lead byte.toNat with
      | .complete char => none :: some char :: readFrom none rest
      | .due due => none :: readFrom (some due) rest
      | .fault => none :: none :: readFrom none rest

def read (bytes : Bytes) : List (Option Char) :=
  readFrom none bytes

def decode? (bytes : Bytes) : Option Text :=
  (read bytes).mapM id

def decodeLenient (bytes : Bytes) : Text :=
  (read bytes).map fun char => char.getD '\uFFFD'

def encodeChar (char : Char) : Bytes :=
  let code := char.toNat
  let continuation (bits : Nat) : Nat := 0x80 + bits % 64
  let bytes : List Nat :=
    if code < 0x80 then [code]
    else if code < 0x800 then [0xC0 + code / 64, continuation code]
    else if code < 0x10000 then [0xE0 + code / 4096, continuation (code / 64), continuation code]
    else [0xF0 + code / 262144, continuation (code / 4096), continuation (code / 64), continuation code]
  bytes.map UInt8.ofNat

def encode (text : Text) : Bytes :=
  text.flatMap encodeChar

end Utf8

end TerminalSignIn
