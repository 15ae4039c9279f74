import TerminalSignIn.Url.DomainName

/-!
# Hosts

How the host of a URL is read: an address of version 6 in brackets, an address of version 4 in any of its
spellings, or a name. A name that ends in a number has to be an address.
-/

namespace TerminalSignIn

namespace Host

/-- A number in an address of version 4: base ten, or eight after a zero, or sixteen after `0x`. -/
inductive AddressNumber where
  | amount (value : Nat)
  | notNumber
deriving DecidableEq

def addressNumber (text : Text) : AddressNumber :=
  let (base, digits) : Nat × Text := match text with
    | '0' :: 'x' :: digits | '0' :: 'X' :: digits => (16, digits)
    | '0' :: digit :: digits => (8, digit :: digits)
    | _ => (10, text)
  if text.isEmpty then .notNumber
  else if digits.isEmpty then .amount 0
  else match Text.number? base digits with
    | some value => .amount value
    | none => .notNumber

def isNumberLabel (label : Text) : Bool :=
  !label.isEmpty && (label.all Char.isDigit || addressNumber label ≠ .notNumber)

/-- The last label of the name, or the one before an empty last label, is a number. -/
def endsInNumber (name : Text) : Bool :=
  match (name.splitOn '.').reverse with
  | [] :: last :: _ => isNumberLabel last
  | last :: _ => isNumberLabel last
  | [] => false

def addressLabels (name : Text) : List Text :=
  let labels := name.splitOn '.'
  if labels.getLast? = some [] then labels.dropLast else labels

/-- The address that a name ending in a number denotes. The last of its numbers fills the bytes that the
others leave. -/
def ipv4? (name : Text) : Option Nat := do
  let labels := addressLabels name
  guard (labels.length ≤ 4)
  let numbers ← labels.mapM fun label => match addressNumber label with
    | .amount value => some value
    | .notNumber => none
  let last ← numbers.getLast?
  let leading := numbers.dropLast
  guard (last < 1 <<< (8 * (4 - leading.length)) && leading.all (· < 256))
  return leading.zipIdx.foldl (fun address (number, place) => address + number <<< (8 * (3 - place))) last

def decimalByte? (text : Text) : Option Nat := do
  let value ← Text.number? 10 text
  guard (value < 256 && (text.length = 1 || text.head? ≠ some '0'))
  return value

def embedded? (text : Text) : Option (List Nat) := do
  let numbers ← (text.splitOn '.').mapM decimalByte?
  match numbers with
  | [a, b, c, d] => some [a * 256 + b, c * 256 + d]
  | _ => none

def piece? (text : Text) : Option Nat :=
  if text.length ≤ 4 then Text.number? 16 text else none

def pieces? : List Text → Option (List Nat)
  | [] => some []
  | [last] => if last.contains '.' then embedded? last else (piece? last).map ([·])
  | text :: texts => do
    let piece ← piece? text
    let others ← pieces? texts
    return piece :: others

def sidePieces? (text : Text) : Option (List Nat) :=
  if text.isEmpty then some [] else pieces? (text.splitOn ':')

def splitGap? : Text → Option (Text × Text)
  | ':' :: ':' :: rest => some ([], rest)
  | [] => none
  | char :: rest => (splitGap? rest).map fun (left, right) => (char :: left, right)

/-- An address of version 6: eight pieces, or fewer with one double colon for the zeros between them. -/
def ipv6? (text : Text) : Option (List Nat) :=
  match splitGap? text with
  | none => (sidePieces? text).filter fun pieces => pieces.length = 8
  | some (left, right) => do
    guard !(left.contains '.')
    let before ← sidePieces? left
    let after ← sidePieces? right
    guard (before.length + after.length < 8)
    return before ++ List.replicate (8 - before.length - after.length) 0 ++ after

def bracketed (text : Text) : Except UrlError Host :=
  match text.getLast?, ipv6? text.dropLast with
  | some ']', some pieces => .ok (.ipv6 pieces)
  | _, _ => .error .ipv6Address

def ofWebText (text : Text) : Except UrlError Host :=
  match text with
  | '[' :: rest => bracketed rest
  | _ =>
    match (Utf8.decode? (Percent.decode text)).bind DomainName.ofText? with
    | none => .error .internationalName
    | some name =>
      if name.isEmpty then .error .emptyHost
      else if endsInNumber name then
        match ipv4? name with
        | some address => .ok (.ipv4 address)
        | none => .error .ipv4Address
      else .ok (.domain name)

def isForbidden (char : Char) : Bool :=
  "\x00\t\n\r #/:<>?@[\\]^|".toList.contains char

/-- The host of any other scheme. It is not interpreted, unless it stands in brackets. -/
def ofOtherText (text : Text) : Except UrlError Host :=
  match text with
  | '[' :: rest => bracketed rest
  | _ =>
    if text.any isForbidden then .error .domainCharacter
    else .ok (.domain (Percent.encode .whole text))

end Host

end TerminalSignIn
