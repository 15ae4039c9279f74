import TerminalSignIn.Url.Basic

/-!
# Domain names

The name of a server is brought into one form: letters in lower case, the variants of a character replaced by the
character itself, and each label with characters outside ASCII written in Punycode: its ASCII characters, a hyphen, and
the others as differences of code points and places, in digits whose weights adapt to the differences seen before. Of
the scripts of the world the table of variants covers those whose letters have two cases in a regular order, the wide
forms of ASCII, and the characters that are left out of names; marks are not composed with their letters, and a joiner
is refused wherever it stands.
-/

namespace TerminalSignIn

/-! ### Punycode -/

namespace Punycode

def base : Nat := 36

def leastThreshold : Nat := 1

def greatestThreshold : Nat := 26

def skew : Nat := 38

def damping : Nat := 700

def firstBias : Nat := 72

def isBasic (char : Char) : Bool :=
  char.toNat < 0x80

def digitChar (digit : Nat) : Char :=
  if digit < 26 then Char.ofNat ('a'.toNat + digit) else Char.ofNat ('0'.toNat + (digit - 26))

def digit? (char : Char) : Option Nat :=
  if 'a' ≤ char ∧ char ≤ 'z' then some (char.toNat - 'a'.toNat)
  else if 'A' ≤ char ∧ char ≤ 'Z' then some (char.toNat - 'A'.toNat)
  else if '0' ≤ char ∧ char ≤ '9' then some (char.toNat - '0'.toNat + 26)
  else none

/-- A digit below the threshold of its place is the last one of its number. -/
def threshold (place bias : Nat) : Nat :=
  if place ≤ bias then leastThreshold
  else min greatestThreshold (place - bias)

theorem threshold_pos (place bias : Nat) : 0 < threshold place bias := by
  unfold threshold leastThreshold greatestThreshold
  split <;> omega

/-- The bias that a difference leads to once it is small, and the places it takes until then. -/
def settle (delta places : Nat) : Nat :=
  if large : (base - leastThreshold) * greatestThreshold / 2 < delta then
    settle (delta / (base - leastThreshold)) (places + base)
  else places + (base - leastThreshold + 1) * delta / (delta + skew)
termination_by delta
decreasing_by
  simp only [base, leastThreshold, greatestThreshold] at *
  omega

def adapt (delta count : Nat) (first : Bool) : Nat :=
  let damped := if first then delta / damping else delta / 2
  settle (damped + damped / count) 0

def digits (bias place amount : Nat) : Text :=
  let bound := threshold place bias
  if amount < bound then [digitChar amount]
  else digitChar (bound + (amount - bound) % (base - bound))
    :: digits bias (place + base) ((amount - bound) / (base - bound))
termination_by amount
decreasing_by
  have positive := threshold_pos place bias
  have reduced := Nat.div_le_self (amount - threshold place bias) (base - threshold place bias)
  omega

structure Writing where
  written : Text
  delta : Nat
  bias : Nat
  count : Nat

def Writing.visit (basicCount code : Nat) (state : Writing) (char : Char) : Writing :=
  if char.toNat < code then { state with delta := state.delta + 1 }
  else if char.toNat = code then {
    written := state.written ++ digits state.bias base state.delta
    delta := 0
    bias := adapt state.delta (state.count + 1) (state.count = basicCount)
    count := state.count + 1 }
  else state

def codes (label : Text) : List Nat :=
  ((label.filter fun char => !isBasic char).map Char.toNat).mergeSort.eraseDups

def placeCodes (label : Text) (basicCount : Nat) : List Nat → (next : Nat) → Writing → Writing
  | [], _, state => state
  | code :: codes, next, state =>
    let advanced := { state with delta := state.delta + (code - next) * (state.count + 1) }
    let visited := label.foldl (Writing.visit basicCount code) advanced
    placeCodes label basicCount codes (code + 1) { visited with delta := visited.delta + 1 }

def encode (label : Text) : Text :=
  let basic := label.filter isBasic
  let extended := placeCodes label basic.length (codes label) 0x80 ⟨[], 0, firstBias, basic.length⟩
  basic ++ (if basic.isEmpty then [] else ['-']) ++ extended.written

def readNumber (bias : Nat) : Text → (place weight sum : Nat) → Option (Nat × Text)
  | [], _, _, _ => none
  | char :: rest, place, weight, sum => do
    let digit ← digit? char
    let bound := threshold place bias
    if digit < bound then some (sum + digit * weight, rest)
    else readNumber bias rest (place + base) (weight * (base - bound)) (sum + digit * weight)

theorem readNumber_length {bias : Nat} {text : Text} {place weight sum : Nat} {result : Nat × Text}
    (found : readNumber bias text place weight sum = some result) : result.2.length < text.length := by
  induction text generalizing place weight sum with
  | nil => simp [readNumber] at found
  | cons char rest ih =>
    rw [readNumber] at found
    cases digit : digit? char with
    | none => simp [digit] at found
    | some value =>
      simp only [digit, Option.bind_eq_bind, Option.bind_some] at found
      split at found
      · cases found
        simp
      · have shorter := ih found
        simp only [List.length_cons]
        omega

def isScalar (code : Nat) : Bool :=
  code < 0xD800 || (0xE000 ≤ code && code < 0x110000)

def insertCodes (bias code place : Nat) (label : Text) (text : Text) : Option Text :=
  if text.isEmpty then some label
  else match _found : readNumber bias text base 1 place with
    | none => none
    | some (sum, rest) =>
      let count := label.length + 1
      let code := code + sum / count
      if isScalar code then
        insertCodes (adapt (sum - place) count (place = 0)) code (sum % count + 1)
          (label.insertIdx (sum % count) (Char.ofNat code)) rest
      else none
termination_by text.length
decreasing_by exact readNumber_length _found

/-- The parts before and after the last hyphen; without a hyphen the first part is empty. -/
def splitBasic (text : Text) : Text × Text :=
  let backwards := text.reverse
  let extended := (backwards.takeWhile (· ≠ '-')).reverse
  ((backwards.dropWhile (· ≠ '-')).drop 1 |>.reverse, extended)

def decode? (text : Text) : Option Text :=
  let (basic, extended) := splitBasic text
  if basic.all isBasic then insertCodes firstBias 0x80 0 basic extended else none

end Punycode

/-! ### Names -/

namespace DomainName

def isForbidden (char : Char) : Bool :=
  char.toNat ≤ 0x20 || char.toNat = 0x7F || "#%/:<>?@[\\]^|".toList.contains char

def shiftedCapitals : List (Nat × Nat × Nat) :=
  [(0x41, 0x5A, 32), (0xC0, 0xD6, 32), (0xD8, 0xDE, 32), (0x391, 0x3A1, 32), (0x3A3, 0x3AB, 32),
    (0x400, 0x40F, 80), (0x410, 0x42F, 32), (0x531, 0x556, 48), (0x24B6, 0x24CF, 26), (0x10400, 0x10427, 40)]

/-- Ranges in which capital and small letters take turns: first, last; the capitals are those whose code is
even or odd as the first is. -/
def alternatingCapitals : List (Nat × Nat) :=
  [(0x100, 0x12F), (0x132, 0x137), (0x139, 0x148), (0x14A, 0x177), (0x179, 0x17E), (0x1CD, 0x1DC),
    (0x1DE, 0x1EF), (0x1F8, 0x21F), (0x222, 0x233), (0x370, 0x373), (0x3D8, 0x3EF), (0x460, 0x481),
    (0x48A, 0x4BF), (0x4C1, 0x4CE), (0x4D0, 0x52F), (0x1E00, 0x1E95), (0x1EA0, 0x1EFF)]

def singleVariants : List (Nat × Nat) :=
  [(0x178, 0xFF), (0x17F, 0x73), (0x212A, 0x6B), (0x212B, 0xE5)]

def isIgnored (code : Nat) : Bool :=
  code = 0xAD || code = 0x34F || (0x180B ≤ code && code ≤ 0x180F) || code = 0x200B || code = 0x2060
    || code = 0x2064 || (0xFE00 ≤ code && code ≤ 0xFE0F) || code = 0xFEFF || (0xE0100 ≤ code && code ≤ 0xE01EF)

def isDisallowed (code : Nat) : Bool :=
  (0x80 ≤ code && code < 0xA0) || (0x200C ≤ code && code ≤ 0x200F) || (0x2028 ≤ code && code ≤ 0x202E)
    || (0xE000 ≤ code && code < 0xF900) || (0xFFF0 ≤ code && code < 0x10000) || 0xE0000 ≤ code

def isFullStop (code : Nat) : Bool :=
  code = 0x3002 || code = 0xFF0E || code = 0xFF61

def lowerCode (code : Nat) : Nat :=
  match shiftedCapitals.find? fun (first, last, _) => first ≤ code && code ≤ last with
  | some (_, _, distance) => code + distance
  | none =>
    match alternatingCapitals.find? fun (first, last) => first ≤ code && code ≤ last with
    | some (first, _) => if code % 2 = first % 2 then code + 1 else code
    | none => (singleVariants.lookup code).getD code

def mapChar (char : Char) : Option Text :=
  let code := char.toNat
  if isIgnored code then some []
  else if isDisallowed code then none
  else if isFullStop code then some ['.']
  else if code = 0xA0 || code = 0x3000 then some [' ']
  else if 0xFF01 ≤ code && code ≤ 0xFF5E then some [Char.ofNat (lowerCode (code - 0xFEE0))]
  else some [Char.ofNat (lowerCode code)]

def encodedMark : Text := "xn--".toList

/-- A label in Punycode is right if it stands for a label that needs it and has its form. -/
def isEncodedLabel (encoded : Text) : Bool :=
  match Punycode.decode? encoded with
  | none => false
  | some label => label.any (fun char => !Punycode.isBasic char)
      && (label.mapM mapChar).map List.flatten = some label && Punycode.encode label = encoded

def label? (label : Text) : Option Text :=
  if label.all Punycode.isBasic then
    match label.after? encodedMark with
    | none => some label
    | some encoded => if isEncodedLabel encoded then some label else none
  else if label.startsWith encodedMark then none
  else some (encodedMark ++ Punycode.encode label)

def ofText? (text : Text) : Option Text := do
  let mapped := (← text.mapM mapChar).flatten
  let labels ← (mapped.splitOn '.').mapM label?
  let name := Text.join ['.'] labels
  guard !(name.any isForbidden)
  return name

end DomainName

end TerminalSignIn
