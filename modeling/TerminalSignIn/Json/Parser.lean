import TerminalSignIn.Json.Token

/-!
# Reading and writing JSON

The parser takes one token at a time and keeps the brackets that are open. Brackets may be open to a depth of 127. A
value is written without blanks. In a string the quote, the backslash and the control characters below the space are
escaped, and nothing else is.
-/

namespace TerminalSignIn

namespace Json

/-- An open bracket with the values read in it so far, last to first. An object also holds the name of the
member whose value is due. -/
inductive OpenBracket where
  | array (items : List Json)
  | object (members : List (Text × Json)) (name : Option Text)

inductive Expectation where
  | value
  /-- A value or the end of the array. -/
  | firstItem
  | name
  /-- The name of a member or the end of the object. -/
  | firstName
  | colon
  /-- A comma or the end of the bracket. -/
  | comma
  /-- Nothing but the end of the text. -/
  | ending (value : Json)

structure Parsing where
  expected : Expectation
  brackets : List OpenBracket

namespace Parsing

def start : Parsing := ⟨.value, []⟩

def depthLimit : Nat := 127

def place (brackets : List OpenBracket) (value : Json) : Option Parsing :=
  match brackets with
  | [] => some ⟨.ending value, []⟩
  | .array items :: outer => some ⟨.comma, .array (value :: items) :: outer⟩
  | .object members (some name) :: outer => some ⟨.comma, .object ((name, value) :: members) none :: outer⟩
  | .object _ none :: _ => none

def close : List OpenBracket → (isArray : Bool) → Option Parsing
  | .array items :: outer, true => place outer (.array items.reverse)
  | .object members none :: outer, false => place outer (.object members.reverse)
  | _, _ => none

def open? (parsing : Parsing) (bracket : OpenBracket) (expected : Expectation) : Option Parsing :=
  if parsing.brackets.length < depthLimit then some ⟨expected, bracket :: parsing.brackets⟩ else none

def takeValue (parsing : Parsing) : Token → Option Parsing
  | .openArray => parsing.open? (.array []) .firstItem
  | .openObject => parsing.open? (.object [] none) .firstName
  | .text value => place parsing.brackets (.string value)
  | .simple value => place parsing.brackets value
  | _ => none

def takeName (parsing : Parsing) : Token → Option Parsing
  | .text name => match parsing.brackets with
    | .object members none :: outer => some ⟨.colon, .object members (some name) :: outer⟩
    | _ => none
  | _ => none

def takeComma (parsing : Parsing) : Token → Option Parsing
  | .comma => match parsing.brackets with
    | .array _ :: _ => some { parsing with expected := .value }
    | .object _ _ :: _ => some { parsing with expected := .name }
    | [] => none
  | .closeArray => close parsing.brackets true
  | .closeObject => close parsing.brackets false
  | _ => none

def next (parsing : Parsing) (token : Token) : Option Parsing :=
  match parsing.expected, token with
  | .firstItem, .closeArray => close parsing.brackets true
  | .firstName, .closeObject => close parsing.brackets false
  | .value, token | .firstItem, token => parsing.takeValue token
  | .name, token | .firstName, token => parsing.takeName token
  | .colon, .colon => some { parsing with expected := .value }
  | .colon, _ => none
  | .comma, token => parsing.takeComma token
  | .ending _, _ => none

def value? (parsing : Parsing) : Option Json :=
  match parsing.expected with
  | .ending value => some value
  | _ => none

end Parsing

def parse? (text : Text) : Option Json := do
  let tokens ← tokens? text
  let parsing ← tokens.foldlM Parsing.next .start
  parsing.value?

end Json

/-! ### Writing -/

namespace Json

def fourDigits (code : Nat) : Text :=
  let digits := Text.hexOfNat code
  List.replicate (4 - digits.length) '0' ++ digits

def escapedChar (char : Char) : Text :=
  if char = Text.quote then ['\\', char]
  else match char with
    | '\\' => "\\\\".toList
    | '\x08' => "\\b".toList
    | '\x0c' => "\\f".toList
    | '\n' => "\\n".toList
    | '\r' => "\\r".toList
    | '\t' => "\\t".toList
    | char => if char.toNat < 0x20 then "\\u".toList ++ fourDigits char.toNat else [char]

def stringLiteral (value : Text) : Text :=
  Text.quote :: value.flatMap escapedChar ++ [Text.quote]

def stringObject (members : List (Text × Text)) : Text :=
  let written := members.map fun (name, value) => stringLiteral name ++ ':' :: stringLiteral value
  '\x7b' :: Text.join [','] written ++ ['\x7d']

end Json

end TerminalSignIn
