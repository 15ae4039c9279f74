import TerminalSignIn.Toml.Token

/-!
# Reading TOML

The parser takes one token at a time. It keeps the document read so far and the brackets that are open; line
ends count between entries, and inside brackets they count as blanks.
-/

namespace TerminalSignIn

namespace Toml

/-- A key as far as it was read, its parts last to first; `due` if a part has to follow. -/
structure KeyReading where
  parts : List Text
  due : Bool

namespace KeyReading

def start : KeyReading := ⟨[], true⟩

def keys (key : KeyReading) : List Text :=
  key.parts.reverse

def isBareChar (char : Char) : Bool :=
  char.isAlphanum || char = '-' || char = '_'

def part? : Token → Option Text
  | .word text => if text.all isBareChar then some text else none
  | .quoted text false => some text
  | _ => none

def next? (key : KeyReading) (token : Token) : Option KeyReading :=
  if token = .blank then some key
  else if key.due then (part? token).map fun part => ⟨part :: key.parts, false⟩
  else if token = .dot then some { key with due := true }
  else none

end KeyReading

inductive Frame where
  /-- An entry of the document. -/
  | entry (keys : List Text)
  /-- An array with its items, last to first. -/
  | array (items : List Toml)
  /-- A table in braces, and the key whose value is due. -/
  | braces (entries : Entries) (keys : List Text)

inductive Place where
  | lineStart
  /-- In the key of an entry of the document. -/
  | key (key : KeyReading)
  | headerStart
  | header (repeated : Bool) (key : KeyReading)
  /-- After the first of the two brackets that close a repeated header. -/
  | headerEnd (keys : List Text)
  /-- Behind a header or an entry. -/
  | lineEnd
  /-- After the sign between key and value. -/
  | value
  /-- In an array, where an item or its end may follow. -/
  | item
  /-- In braces, where a key or their end may follow; `first` if nothing stands in them. -/
  | member
  /-- In the key of an entry in braces. -/
  | memberKey (key : KeyReading)
  /-- In a value without quotes. -/
  | scalar (text : Text)
  /-- After a day and one blank, where a time may follow. -/
  | day (text : Text)
  | separator

structure Parsing where
  document : Document
  frames : List Frame
  place : Place

namespace Parsing

def start : Parsing := ⟨.empty, [], .lineStart⟩

def depthLimit : Nat := 80

def finish? (parsing : Parsing) (value : Toml) : Option Parsing :=
  match parsing.frames with
  | .entry keys :: outer => do
    let document ← parsing.document.bind? keys value
    return ⟨document, outer, .lineEnd⟩
  | .array items :: outer => some { parsing with frames := .array (value :: items) :: outer, place := .separator }
  | .braces entries keys :: outer => do
    let entries ← Toml.bind? .header entries keys value
    return { parsing with frames := .braces entries [] :: outer, place := .separator }
  | [] => none

def close? (parsing : Parsing) (token : Token) : Option Parsing :=
  match parsing.frames, token with
  | .array items :: outer, .closeBracket => { parsing with frames := outer }.finish? (.array items.reverse)
  | .braces entries _ :: outer, .closeBrace => { parsing with frames := outer }.finish? (.table .inline entries)
  | _, _ => none

/-- Open a bracket. The frame of the entry around all brackets is not counted. -/
def open? (parsing : Parsing) (frame : Frame) (place : Place) : Option Parsing :=
  if parsing.frames.length ≤ depthLimit then some { parsing with frames := frame :: parsing.frames, place := place }
  else none

def takeValue? (parsing : Parsing) : Token → Option Parsing
  | .quoted text _ => parsing.finish? (.string text)
  | .word text => some { parsing with place := .scalar text }
  | .openBracket => parsing.open? (.array []) .item
  | .openBrace => parsing.open? (.braces [] []) .member
  | _ => none

def takeAfterValue? (parsing : Parsing) (token : Token) : Option Parsing :=
  match parsing.place, token with
  | .lineEnd, .blank => some parsing
  | .lineEnd, .newline => some { parsing with place := .lineStart }
  | .separator, .blank | .separator, .newline => some parsing
  | .separator, .comma => match parsing.frames with
    | .array _ :: _ => some { parsing with place := .item }
    | .braces _ _ :: _ => some { parsing with place := .member }
    | _ => none
  | .separator, token => parsing.close? token
  | _, _ => none

def endScalar? (parsing : Parsing) (text : Text) (token : Token) : Option Parsing := do
  let value ← scalar? text
  let parsing ← parsing.finish? value
  parsing.takeAfterValue? token

def takeScalar? (parsing : Parsing) (text : Text) : Token → Option Parsing
  | .word more => some { parsing with place := .scalar (text ++ more) }
  | .dot => some { parsing with place := .scalar (text ++ ['.']) }
  | token =>
    if token = .blank && isDay text then some { parsing with place := .day text }
    else parsing.endScalar? text token

def takeAfterDay? (parsing : Parsing) (text : Text) (token : Token) : Option Parsing :=
  match token with
  | .word time =>
    if time.head?.any Char.isDigit then some { parsing with place := .scalar (text ++ ' ' :: time) } else none
  | token => parsing.endScalar? text token

def takeKey? (parsing : Parsing) (key : KeyReading) (token : Token) (again : KeyReading → Place)
    (frames : List Text → Option (List Frame)) : Option Parsing :=
  if token = .equals then
    if key.due then none
    else do
      let frames ← frames key.keys
      return { parsing with frames := frames, place := .value }
  else do
    let key ← key.next? token
    return { parsing with place := again key }

def takeHeader? (parsing : Parsing) (repeated : Bool) (key : KeyReading) (token : Token) : Option Parsing :=
  if token = .closeBracket then
    if key.due then none
    else if repeated then some { parsing with place := .headerEnd key.keys }
    else do
      let document ← parsing.document.open? key.keys false
      return { parsing with document := document, place := .lineEnd }
  else do
    let key ← key.next? token
    return { parsing with place := .header repeated key }

def next? (parsing : Parsing) (token : Token) : Option Parsing :=
  match parsing.place with
  | .lineStart =>
    if token = .blank || token = .newline then some parsing
    else if token = .openBracket then some { parsing with place := .headerStart }
    else do
      let key ← KeyReading.start.next? token
      return { parsing with place := .key key }
  | .key key => parsing.takeKey? key token .key fun keys => some [.entry keys]
  | .headerStart =>
    if token = .openBracket then some { parsing with place := .header true .start }
    else parsing.takeHeader? false .start token
  | .header repeated key => parsing.takeHeader? repeated key token
  | .headerEnd keys =>
    if token = .closeBracket then do
      let document ← parsing.document.open? keys true
      return { parsing with document := document, place := .lineEnd }
    else none
  | .value => if token = .blank then some parsing else parsing.takeValue? token
  | .item =>
    if token = .blank || token = .newline then some parsing
    else if token = .closeBracket then parsing.close? token
    else parsing.takeValue? token
  | .member =>
    if token = .blank || token = .newline then some parsing
    else if token = .closeBrace then parsing.close? token
    else do
      let key ← KeyReading.start.next? token
      return { parsing with place := .memberKey key }
  | .memberKey key => parsing.takeKey? key token .memberKey fun keys =>
    match parsing.frames with
    | .braces entries _ :: outer => some (.braces entries keys :: outer)
    | _ => none
  | .scalar text => parsing.takeScalar? text token
  | .day text => parsing.takeAfterDay? text token
  | .lineEnd | .separator => parsing.takeAfterValue? token

end Parsing

def parse? (text : Text) : Option Toml := do
  let tokens ← tokens? text
  let parsing ← (tokens ++ [Token.newline]).foldlM Parsing.next? .start
  match parsing.place with
  | .lineStart => parsing.document.toToml?
  | _ => none

end Toml

end TerminalSignIn
