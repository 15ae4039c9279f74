import TerminalSignIn.Text.Basic

/-!
# The command line

The program takes a flag and two options. Arguments are read one by one; the first that asks for help, or makes no
sense, decides. An option whose value follows as an argument of its own is taken in when the next option is reached, so
that an unknown argument is reported before a missing value. For a mistyped argument the report names the option that is
most like it: the share of characters that both have near the same place, less the pairs of them in a different order.
-/

namespace TerminalSignIn

/-! ### Likeness of texts -/

namespace Text

def matchReach (left right : Text) : Nat :=
  max left.length right.length / 2 - 1

def markFirst? (char : Char) (low high : Nat) : List (Char × Bool) → Option (List (Char × Bool))
  | [] => none
  | (other, marked) :: places =>
    if high = 0 then none
    else if low = 0 && char = other && !marked then some ((other, true) :: places)
    else (markFirst? char (low - 1) (high - 1) places).map ((other, marked) :: ·)

def matchFrom (reach place : Nat) : Text → List (Char × Bool) → Text × List (Char × Bool)
  | [], places => ([], places)
  | char :: rest, places =>
    match markFirst? char (place - reach) (place + reach + 1) places with
    | none => matchFrom reach (place + 1) rest places
    | some places =>
      let (others, places) := matchFrom reach (place + 1) rest places
      (char :: others, places)

def matching (left right : Text) : Text × Text :=
  let (chars, places) := matchFrom (matchReach left right) 0 left (right.map (·, false))
  (chars, (places.filter Prod.snd).map Prod.fst)

structure Likeness where
  numerator : Nat
  denominator : Nat

namespace Likeness

def atLeast (share other : Likeness) : Bool :=
  other.numerator * share.denominator ≤ share.numerator * other.denominator

end Likeness

/-- The mean of three shares: of the matching characters in each text, and of those of them that stand in the
same order. -/
def likeness (left right : Text) : Likeness :=
  let (chars, others) := matching left right
  let count := chars.length
  let swapped := ((chars.zip others).filter fun (char, other) => char ≠ other).length / 2
  if count = 0 then ⟨0, 1⟩
  else
    ⟨count * count * right.length + count * count * left.length
        + (count - swapped) * left.length * right.length,
      3 * count * left.length * right.length⟩

def likenessBound : Likeness := ⟨7, 10⟩

/-- The candidate that is most like a text, the last one of several, if any is like it at all. -/
def mostLike? (text : Text) (candidates : List Text) : Option Text :=
  let alike := (candidates.map fun candidate => (candidate, text.likeness candidate)).filter
    fun (_, share) => share.atLeast likenessBound
  (alike.foldl (fun best candidate => match best with
    | none => some candidate
    | some best => if candidate.2.atLeast best.2 then some candidate else some best) none).map Prod.fst

end Text

/-! ### Arguments -/

inductive Parameter where
  | plain
  | email
  | baseUrl
  | help
  | version
deriving DecidableEq

namespace Parameter

def all : List Parameter := [.plain, .email, .baseUrl, .help, .version]

def name : Parameter → Text
  | .plain => "plain".toList
  | .email => "email".toList
  | .baseUrl => "base-url".toList
  | .help => "help".toList
  | .version => "version".toList

def placeholder? : Parameter → Option Text
  | .email => some "<EMAIL>".toList
  | .baseUrl => some "<BASE_URL>".toList
  | _ => none

def letter? : Parameter → Option Char
  | .help => some 'h'
  | .version => some 'V'
  | _ => none

def summary : Parameter → Text
  | .plain => "Read credentials from stdin instead of opening the form".toList
  | .email => "Email to pre-fill (overrides config and SIGNIN_EMAIL)".toList
  | .baseUrl => "Service base URL (overrides config and SIGNIN_BASE_URL)".toList
  | .help => "Print help".toList
  | .version => "Print version".toList

def dashes : Text := "--".toList

def flag (parameter : Parameter) : Text :=
  dashes ++ parameter.name

def display (parameter : Parameter) : Text :=
  match parameter.placeholder? with
  | none => parameter.flag
  | some placeholder => parameter.flag ++ ' ' :: placeholder

def takesValue (parameter : Parameter) : Bool :=
  parameter.placeholder?.isSome

def isSetting (parameter : Parameter) : Bool :=
  parameter.letter?.isNone

def named? (name : Text) : Option Parameter :=
  all.find? fun parameter => parameter.name = name

def lettered? (letter : Char) : Option Parameter :=
  all.find? fun parameter => parameter.letter? = some letter

def meant? (name : Text) : Option Parameter :=
  (Text.mostLike? name (all.map Parameter.name)).bind named?

end Parameter

structure Arguments where
  plain : Bool
  email : Option Text
  baseUrl : Option Text
deriving DecidableEq

inductive Interruption where
  | help
  | version
  /-- An argument that is neither an option nor its value. -/
  | unexpected (argument : Text)
  /-- A name that no option has, with the option that was probably meant. `given` tells whether a setting was
  given before. -/
  | unknown (name : Text) (meant : Option Parameter) (given : Bool)
  | unexpectedValue (parameter : Parameter) (value : Text) (given : Bool)
  | missingValue (parameter : Parameter)
  | repeated (parameter : Parameter)
deriving DecidableEq

namespace Arguments

def none : Arguments := ⟨false, .none, .none⟩

def isGiven (arguments : Arguments) : Bool :=
  arguments.plain || arguments.email.isSome || arguments.baseUrl.isSome

def has (arguments : Arguments) : Parameter → Bool
  | .plain => arguments.plain
  | .email => arguments.email.isSome
  | .baseUrl => arguments.baseUrl.isSome
  | .help | .version => false

def take (arguments : Arguments) (parameter : Parameter) (value : Text) : Except Interruption Arguments :=
  if arguments.has parameter then .error (.repeated parameter)
  else match parameter with
    | .plain => .ok { arguments with plain := true }
    | .email => .ok { arguments with email := some value }
    | .baseUrl => .ok { arguments with baseUrl := some value }
    | .help => .error .help
    | .version => .error .version

structure Pending where
  parameter : Parameter
  value : Option Text

structure Reading where
  arguments : Arguments
  pending : Option Pending

namespace Reading

def settle (reading : Reading) : Except Interruption Arguments :=
  match reading.pending with
  | .none => .ok reading.arguments
  | some ⟨parameter, .none⟩ => .error (.missingValue parameter)
  | some ⟨parameter, some value⟩ => reading.arguments.take parameter value

/-- Some setting is given, the option that waits included if it can be taken in. -/
def isGiven (reading : Reading) : Bool :=
  match reading.settle with
  | .ok arguments => arguments.isGiven
  | .error _ => reading.arguments.isGiven

def takeNamed (reading : Reading) (name : Text) (attached : Option Text) : Except Interruption Reading :=
  match Parameter.named? name with
  | .none =>
    let meant := Parameter.meant? name
    .error (.unknown name meant (reading.isGiven || meant.any Parameter.isSetting))
  | some parameter => match parameter.takesValue, attached with
    | true, .none => do return ⟨← reading.settle, some ⟨parameter, .none⟩⟩
    | true, some value => do return ⟨← (← reading.settle).take parameter value, .none⟩
    | false, .none => do return ⟨← (← reading.settle).take parameter [], .none⟩
    | false, some value => .error (.unexpectedValue parameter value reading.arguments.isGiven)

def takeLetter (reading : Reading) (letter : Char) : Except Interruption Reading :=
  match Parameter.lettered? letter with
  | .none => .error (.unexpected ['-', letter])
  | some parameter => do return ⟨← (← reading.settle).take parameter [], .none⟩

def takeValue (reading : Reading) (argument : Text) : Except Interruption Reading :=
  match reading.pending with
  | some ⟨parameter, .none⟩ => .ok { reading with pending := some ⟨parameter, some argument⟩ }
  | _ => .error (.unexpected argument)

/-- Read one argument. Letters stand behind a single dash; every letter that is known interrupts, so the first
one decides. -/
def takeArgument (reading : Reading) (argument : Text) : Except Interruption Reading :=
  match argument with
  | '-' :: '-' :: body => match Text.splitOnce? '=' body with
    | some (name, value) => reading.takeNamed name (some value)
    | .none => reading.takeNamed body .none
  | '-' :: letter :: _ => reading.takeLetter letter
  | argument => reading.takeValue argument

end Reading

/-- Read the arguments that are left. After two dashes no argument is an option, and none is taken. -/
def readFrom (reading : Reading) : List Text → Except Interruption Arguments
  | [] => reading.settle
  | argument :: rest =>
    if argument = Parameter.dashes then
      match rest with
      | [] => reading.settle
      | extra :: _ => .error (.unexpected extra)
    else do
      readFrom (← reading.takeArgument argument) rest

def read (arguments : List Text) : Except Interruption Arguments :=
  readFrom ⟨none, .none⟩ arguments

end Arguments

namespace Program

def name : Text := "signin".toList

def version : Text := "0.0.0".toList

def summary : Text := "Terminal sign-in form for the account service".toList

end Program

namespace Interruption

def settingsChoice : Text :=
  '<' :: Text.join ['|'] ((Parameter.all.filter Parameter.isSetting).map Parameter.display) ++ ['>']

def usage (pieces : List Text) : Text :=
  "Usage: ".toList ++ Text.join [' '] (Program.name :: if pieces.isEmpty then ["[OPTIONS]".toList] else pieces)

/-- How to call the program with a parameter, and perhaps with settings given before. Where any is given, they
stand as alternatives. -/
def usageOf (parameter : Option Parameter) (given : Bool) : Text :=
  let named := parameter.toList.filter fun parameter => !(given && parameter.isSetting)
  usage (named.map Parameter.display ++ if given then [settingsChoice] else [])

def helpLine (parameter : Parameter) : Text × Text :=
  let letter := match parameter.letter? with
    | none => "    ".toList
    | some letter => ['-', letter, ',', ' ']
  (letter ++ parameter.display, parameter.summary)

def helpLines : Text :=
  let lines := Parameter.all.map helpLine
  let width := lines.foldl (fun width (left, _) => max width left.length) 0
  lines.flatMap fun (left, right) =>
    "  ".toList ++ left ++ List.replicate (width + 2 - left.length) ' ' ++ right ++ ['\n']

def helpText : Text :=
  Program.summary ++ "\n\n".toList ++ usage [] ++ "\n\nOptions:\n".toList ++ helpLines

def versionText : Text :=
  Program.name ++ ' ' :: Program.version ++ ['\n']

def inQuotes (text : Text) : Text :=
  '\x27' :: text ++ ['\x27']

def paragraphs : Interruption → List Text
  | .help | .version => []
  | .unexpected argument =>
    ["unexpected argument ".toList ++ inQuotes argument ++ " found".toList, usage []]
  | .unknown name meant given =>
    ["unexpected argument ".toList ++ inQuotes (Parameter.dashes ++ name) ++ " found".toList]
      ++ (meant.map fun parameter =>
        "  tip: a similar argument exists: ".toList ++ inQuotes parameter.flag).toList
      ++ [usageOf meant given]
  | .unexpectedValue parameter value given =>
    ["unexpected value ".toList ++ inQuotes value ++ " for ".toList ++ inQuotes parameter.display
      ++ " found; no more were expected".toList, usageOf (some parameter) given]
  | .missingValue parameter =>
    ["a value is required for ".toList ++ inQuotes parameter.display ++ " but none was supplied".toList]
  | .repeated parameter =>
    ["the argument ".toList ++ inQuotes parameter.display ++ " cannot be used multiple times".toList, usage []]

def advice : Text := "For more information, try ".toList ++ inQuotes Parameter.help.flag ++ ['.']

def errors (interruption : Interruption) : Text :=
  match interruption.paragraphs with
  | [] => []
  | paragraphs =>
    "error: ".toList ++ Text.join "\n\n".toList (paragraphs ++ [advice]) ++ ['\n']

def output : Interruption → Text
  | .help => helpText
  | .version => versionText
  | _ => []

def exitStatus : Interruption → Nat
  | .help | .version => 0
  | _ => 2

end Interruption

end TerminalSignIn
