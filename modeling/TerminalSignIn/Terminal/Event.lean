import TerminalSignIn.Text.Basic

/-!
# Terminal events

What a terminal reports: keys with modifiers, pasted text, and reports that a form has no use for. A terminal sends
bytes: characters in UTF-8, and sequences that begin with an escape character for all else. Bytes are gathered until
they make up one event, or until it is clear that they never will, and are then let go together.
-/

namespace TerminalSignIn

inductive KeyCode where
  | char (char : Char)
  | escape
  | enter
  | tab
  | backTab
  | up
  | down
  | backspace
  | named
deriving DecidableEq

inductive KeyKind where
  | press
  | repeated
  | release
deriving DecidableEq

structure Modifiers where
  shift : Bool
  alt : Bool
  ctrl : Bool
deriving DecidableEq

namespace Modifiers

def none : Modifiers := ⟨false, false, false⟩

end Modifiers

structure KeyEvent where
  code : KeyCode
  modifiers : Modifiers
  kind : KeyKind
deriving DecidableEq

namespace KeyEvent

def pressed (code : KeyCode) : KeyEvent := ⟨code, .none, .press⟩

end KeyEvent

inductive TerminalEvent where
  | key (event : KeyEvent)
  | paste (text : Text)
  /-- A resize, a focus report or a mouse event. -/
  | report
deriving DecidableEq

/-! ### Decoding -/

inductive Decoding where
  | incomplete
  | event (event : TerminalEvent)
  /-- They are no event. -/
  | nothing
deriving DecidableEq

namespace Decoding

def escapeByte : UInt8 := 0x1B

def plainKey (code : KeyCode) : Decoding :=
  .event (.key (.pressed code))

def ctrlKey (char : Char) : Decoding :=
  .event (.key ⟨.char char, { Modifiers.none with ctrl := true }, .press⟩)

def withAlt : Decoding → Decoding
  | .event (.key key) => .event (.key { key with modifiers := { key.modifiers with alt := true } })
  | other => other

def characterBytes? (byte : UInt8) : Option Nat :=
  let value := byte.toNat
  if value < 0x80 then some 1
  else if value < 0xC0 then none
  else if value < 0xE0 then some 2
  else if value < 0xF0 then some 3
  else if value < 0xF8 then some 4
  else none

def ofCharacter (bytes : Bytes) : Decoding :=
  match Utf8.decode? bytes with
  | some (char :: _) => plainKey (.char char)
  | _ =>
    match bytes.head?.bind characterBytes? with
    | none => .nothing
    | some count =>
      if bytes.tail.all (fun byte => 0x80 ≤ byte && byte < 0xC0) && bytes.length < count then .incomplete
      else .nothing

/-- Bytes that begin with anything but an escape character. In raw mode a line feed is a letter with ctrl, as
the other control characters are; else it is the enter key. -/
def ofPlain (raw : Bool) (bytes : Bytes) : Decoding :=
  match bytes with
  | [] => .incomplete
  | byte :: _ =>
    let value := byte.toNat
    if value = 0x0D || (value = 0x0A && !raw) then plainKey .enter
    else if value = 0x09 then plainKey .tab
    else if value = 0x7F then plainKey .backspace
    else if value = 0 then ctrlKey ' '
    else if value ≤ 0x1A then ctrlKey (Char.ofNat (value - 1 + 'a'.toNat))
    else if 0x1C ≤ value && value ≤ 0x1F then ctrlKey (Char.ofNat (value - 0x1C + '4'.toNat))
    else ofCharacter bytes

def parameter? (greatest : Nat) (text : Text) : Option Nat :=
  let digits := match text with
    | '+' :: digits => digits
    | _ => text
  (Text.number? 10 digits).filter (· ≤ greatest)

/-- The modifiers of a number: one more than a sum of 1 for shift, 2 for alt and 4 for ctrl. -/
def modifiersOf (number : Nat) : Modifiers :=
  let mask := number - 1
  ⟨mask % 2 = 1, mask / 2 % 2 = 1, mask / 4 % 2 = 1⟩

def kindOf (number : Nat) : KeyKind :=
  if number = 2 then .repeated else if number = 3 then .release else .press

def keyState? (text : Text) : Option (Modifiers × KeyKind) := do
  let fields := text.splitOn ':'
  let modifiers ← fields.head?.bind (parameter? 255)
  let kind := (fields[1]?.bind (parameter? 255)).getD 1
  return (modifiersOf modifiers, kindOf kind)

/-- An arrow key with parameters. Without a readable second parameter the last digit tells the modifiers. -/
def modifiedKey (code : KeyCode) (parameters : Text) : Decoding :=
  match ((parameters.splitOn ';')[1]?).bind keyState? with
  | some (modifiers, kind) => .event (.key ⟨code, modifiers, kind⟩)
  | none =>
    match parameters.getLast?.bind (Text.digit? 10) with
    | some digit => .event (.key ⟨code, modifiersOf digit, .press⟩)
    | none => .nothing

/-- The first and the last of the numbers for keys that have no character, and what the keys of the keypad
among them stand for. -/
def keypad : List (Nat × KeyCode) :=
  ("0123456789./*-+".toList.zipIdx.map fun (char, place) => (57399 + place, KeyCode.char char)) ++
    [(57414, .enter), (57415, .char '='), (57416, .char ','), (57417, .named), (57418, .named),
      (57419, .up), (57420, .down)]

def isNamedNumber (number : Nat) : Bool :=
  (57358 ≤ number && number ≤ 57363) || (57376 ≤ number && number ≤ 57398)
    || (57421 ≤ number && number ≤ 57454)

def isShiftKey (number : Nat) : Bool :=
  number = 57441 || number = 57447

def scalar? (number : Nat) : Option Char :=
  if number < 0xD800 || (0xE000 ≤ number && number < 0x110000) then some (Char.ofNat number) else none

def numberedKey? (raw shift : Bool) (number : Nat) : Option KeyCode :=
  match keypad.lookup number with
  | some code => some code
  | none =>
    if isNamedNumber number then some .named
    else (scalar? number).map fun char =>
      if number = 0x1B then .escape
      else if number = 0x0D || (number = 0x0A && !raw) then .enter
      else if number = 0x09 then (if shift then .backTab else .tab)
      else if number = 0x7F then .backspace
      else .char char

def greatestNumber : Nat := 4294967295

def numberedEvent (raw : Bool) (parameters : Text) : Decoding :=
  let fields := parameters.splitOn ';'
  let numbers := (fields.headD []).splitOn ':'
  let (modifiers, kind) := (fields[1]?.bind keyState?).getD (.none, .press)
  match numbers.head?.bind (parameter? greatestNumber) with
  | none => .nothing
  | some number =>
    match numberedKey? raw modifiers.shift number with
    | none => .nothing
    | some code =>
      let shifted := (numbers[1]?.bind (parameter? greatestNumber)).bind scalar?
      match modifiers.shift || isShiftKey number, shifted with
      | true, some char => .event (.key ⟨.char char, { modifiers with shift := false }, kind⟩)
      | _, _ => .event (.key ⟨code, modifiers, kind⟩)

def pasteStart : Bytes := Utf8.encode "200~".toList

def pasteEnd : Bytes := Utf8.encode "\x1b[201~".toList

def ofNumberedSequence (raw : Bool) (bytes : Bytes) : Decoding :=
  let final := bytes.getLastD 0
  if bytes.length < 2 || final < 64 || 126 < final then .incomplete
  else if pasteStart.isPrefixOf bytes then
    if pasteEnd.isSuffixOf bytes then
      let inner := (bytes.drop pasteStart.length).take (bytes.length - pasteStart.length - pasteEnd.length)
      .event (.paste (Utf8.decodeLenient inner))
    else .incomplete
  else
    match Char.ofNat final.toNat, Utf8.decode? bytes.dropLast with
    | 'M', _ => .event .report
    | 'u', some parameters => numberedEvent raw parameters
    | 'A', some parameters => modifiedKey .up parameters
    | 'B', some parameters => modifiedKey .down parameters
    | _, _ => .nothing

def ofSequence (raw : Bool) (bytes : Bytes) : Decoding :=
  match bytes with
  | [] => .incomplete
  | first :: rest =>
    let final := Char.ofNat (bytes.getLastD 0).toNat
    match Char.ofNat first.toNat with
    | '[' => if rest.isEmpty then .incomplete else .nothing
    | 'A' => plainKey .up
    | 'B' => plainKey .down
    | 'C' | 'D' | 'F' | 'H' | 'P' | 'Q' | 'S' => plainKey .named
    | 'Z' => .event (.key ⟨.backTab, { Modifiers.none with shift := true }, .press⟩)
    | 'M' => if bytes.length < 4 then .incomplete else .event .report
    | '<' => if final = 'm' || final = 'M' then .event .report else .incomplete
    | 'I' | 'O' => .event .report
    | '?' => if (final = 'u' && 3 ≤ bytes.length) || final = 'c' then .nothing else .incomplete
    | char => if char.isDigit then ofNumberedSequence raw bytes else .nothing

/-- What bytes amount to. A lone escape character is the escape key, unless more bytes are at hand. -/
def ofBytes (raw more : Bool) (bytes : Bytes) : Decoding :=
  match bytes with
  | [] => .incomplete
  | first :: rest =>
    if first ≠ escapeByte then ofPlain raw bytes
    else match rest with
      | [] => if more then .incomplete else plainKey .escape
      | second :: parameters =>
        if second = escapeByte then plainKey .escape
        else match Char.ofNat second.toNat with
          | '[' => ofSequence raw parameters
          | 'O' => match parameters.head?.map fun byte => Char.ofNat byte.toNat with
            | none => .incomplete
            | some 'A' => plainKey .up
            | some 'B' => plainKey .down
            | some char => if "CDFHPQRS".toList.contains char then plainKey .named else .nothing
          | _ => (ofPlain raw rest).withAlt

end Decoding

/-- Decode bytes that arrive together, behind bytes gathered before. The events come with the bytes that are
still to make up one. -/
def decodeInput (raw : Bool) (gathered : Bytes) : Bytes → List TerminalEvent × Bytes
  | [] => ([], gathered)
  | byte :: rest =>
    let bytes := gathered ++ [byte]
    match Decoding.ofBytes raw (!rest.isEmpty) bytes with
    | .incomplete => decodeInput raw bytes rest
    | .nothing => decodeInput raw [] rest
    | .event event =>
      let (events, left) := decodeInput raw [] rest
      (event :: events, left)

end TerminalSignIn
