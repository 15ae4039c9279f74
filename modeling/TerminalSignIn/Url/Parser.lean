import TerminalSignIn.Url.Host

/-!
# Reading URLs

A text is read as an absolute URL: a scheme, then what the kind of the scheme asks for. Schemes of the web need a server
and read backslashes as slashes, local files have drives, all others are taken as they stand. Blanks and control
characters around the text do not count, nor do tabs and line ends inside it.

A path is read character by character. At a slash, or at the end, the segment read so far is closed: a dot segment
disappears, a double dot takes the segment before it along, any other segment is kept. Segments that look like the drive
of a local disk are never taken along.
-/

namespace TerminalSignIn

/-! ### Paths -/

structure PathRules where
  /-- A backslash counts as a slash. -/
  web : Bool
  /-- The path leads to a local file. -/
  file : Bool

/-- How far the reading of a path has come: the closed segments, last to first, and the open one, in reverse.
A path that has not begun has no first slash yet. -/
structure PathReading where
  begun : Bool
  closed : List Text
  current : Text
  /-- The path names a drive, so a host before it does not count. -/
  drive : Bool

namespace PathReading

def start (begun : Bool) : PathReading := ⟨begun, [], [], false⟩

def isLetter (char : Char) : Bool :=
  ('a' ≤ char && char ≤ 'z') || ('A' ≤ char && char ≤ 'Z')

def isDrive : Text → Bool
  | [letter, mark] => isLetter letter && (mark = ':' || mark = '|')
  | _ => false

def isPlainDrive : Text → Bool
  | [letter, mark] => isLetter letter && mark = ':'
  | _ => false

def isDot (segment : Text) : Bool :=
  [".".toList, "%2e".toList].contains segment.lowerAscii

def isDoubleDot (segment : Text) : Bool :=
  ["..".toList, "%2e.".toList, ".%2e".toList, "%2e%2e".toList].contains segment.lowerAscii

/-- The segments without the last one, unless that names a drive. -/
def shorten : List Text → List Text
  | [] => []
  | last :: others => if isDrive last then last :: others else others

/-- The segment that stands for the open one, when it is no dot segment. The first segment of a local path is
written as a drive if it names one. -/
def finished (rules : PathRules) (reading : PathReading) : Text :=
  let segment := reading.current.reverse
  if rules.file && reading.closed.isEmpty && isDrive segment then segment.take 1 ++ [':'] else segment

def close (rules : PathRules) (reading : PathReading) : PathReading :=
  let segment := reading.current.reverse
  if !reading.begun then { reading with begun := true }
  else if isDoubleDot segment then { reading with closed := shorten reading.closed, current := [] }
  else if isDot segment then { reading with current := [] }
  else { reading with
    closed := reading.finished rules :: reading.closed
    current := []
    drive := reading.drive || (rules.file && reading.closed.isEmpty && isDrive segment) }

/-- Take one character. After a drive at the beginning of a local path a slash is implied. -/
def next (rules : PathRules) (reading : PathReading) (char : Char) : PathReading :=
  if char = '/' || (rules.web && char = '\\') then reading.close rules
  else
    let implied := rules.file && reading.closed.isEmpty && isPlainDrive reading.current.reverse
    let reading := if implied then
        { reading with closed := [reading.current.reverse], current := [] }
      else reading
    { reading with current := (Percent.encodeChar .path char).reverse ++ reading.current }

def segments (rules : PathRules) (reading : PathReading) : List Text :=
  let segment := reading.current.reverse
  if !reading.begun then []
  else if isDoubleDot segment then ([] :: shorten reading.closed).reverse
  else if isDot segment then ([] :: reading.closed).reverse
  else (reading.finished rules :: reading.closed).reverse

def endsOnDrive (rules : PathRules) (reading : PathReading) : Bool :=
  reading.drive || (rules.file && reading.closed.isEmpty && isDrive reading.current.reverse)

end PathReading

/-- The segments of a path, and whether they name a drive. `begun` says that the first slash stands already. -/
def readPath (rules : PathRules) (begun : Bool) (text : Text) : List Text × Bool :=
  let reading := text.foldl (PathReading.next rules) (.start begun)
  (reading.segments rules, reading.endsOnDrive rules)

def localSegments (segments : List Text) : List Text :=
  match segments.dropWhile List.isEmpty with
  | [] => [[]]
  | kept => kept

/-! ### Schemes and servers -/

inductive SchemeKind where
  | web
  | file
  | other
deriving DecidableEq

namespace SchemeKind

def webPorts : List (Text × Nat) :=
  [("http".toList, 80), ("https".toList, 443), ("ws".toList, 80), ("wss".toList, 443), ("ftp".toList, 21)]

def ofScheme (scheme : Text) : SchemeKind :=
  if (webPorts.lookup scheme).isSome then .web
  else if scheme = "file".toList then .file
  else .other

def readsBackslash (kind : SchemeKind) : Bool :=
  kind ≠ .other

def pathRules (kind : SchemeKind) : PathRules :=
  ⟨kind.readsBackslash, kind = .file⟩

end SchemeKind

namespace Url

/-- The text as it is read: no blank or control character at its ends, no tab or line end in it. -/
def cleaned (text : Text) : Text :=
  let isMargin (char : Char) : Bool := char.toNat ≤ 0x20
  let inner := Text.dropEndWhile isMargin (text.dropWhile isMargin)
  inner.filter fun char => !(char = '\t' || char = '\n' || char = '\r')

def isSchemeChar (char : Char) : Bool :=
  char.isAlphanum || char = '+' || char = '-' || char = '.'

def splitScheme? (text : Text) : Option (Text × Text) := do
  let (scheme, rest) ← text.splitOnce? ':'
  guard (scheme.head?.any Char.isAlpha && scheme.all isSchemeChar)
  return (scheme.lowerAscii, rest)

def endsAuthority (kind : SchemeKind) (char : Char) : Bool :=
  char = '/' || char = '?' || char = '#' || (kind.readsBackslash && char = '\\')

def splitBefore (stops : Char → Bool) (text : Text) : Text × Text :=
  (text.takeWhile fun char => !stops char, text.dropWhile fun char => !stops char)

def readUser (text : Text) : UserInfo :=
  match text.splitOnce? ':' with
  | none => ⟨Percent.encode .user text, []⟩
  | some (name, password) => ⟨Percent.encode .user name, Percent.encode .user password⟩

def splitUser? (text : Text) : Option (Text × Text) :=
  (Text.splitOnce? '@' text.reverse).map fun (after, before) => (before.reverse, after.reverse)

/-- The host and what follows it; a colon inside brackets belongs to the host. -/
def splitHost (inBrackets : Bool) : Text → Text × Text
  | [] => ([], [])
  | char :: rest =>
    if char = ':' && !inBrackets then ([], char :: rest)
    else
      let (host, after) := splitHost (if char = '[' then true else if char = ']' then false else inBrackets) rest
      (char :: host, after)

def greatestPort : Nat := 65535

def readPort (customary : Option Nat) (digits : Text) : Except UrlError (Option Nat) :=
  if digits.isEmpty then .ok none
  else match Text.number? 10 digits with
    | none => .error .port
    | some port =>
      if greatestPort < port then .error .port
      else if some port = customary then .ok none
      else .ok (some port)

/-- The server that a text names. In a port a backslash ends the number for schemes of every kind, so what
follows it is left for the path. -/
def readServer (scheme : Text) (user : UserInfo) (text : Text) : Except UrlError (Authority × Text) := do
  let kind := SchemeKind.ofScheme scheme
  let (hostText, rest) := splitHost false text
  if kind = .web && hostText.isEmpty then throw .emptyHost
  let host ← if kind = .other then Host.ofOtherText hostText else Host.ofWebText hostText
  match rest with
  | ':' :: rest =>
    if hostText.isEmpty then throw .emptyHost
    let (digits, left) := splitBefore (· = '\\') rest
    let port ← readPort (SchemeKind.webPorts.lookup scheme) digits
    return (⟨user, host, port⟩, left)
  | _ => return (⟨user, host, none⟩, [])

def readAuthority (scheme text : Text) : Except UrlError (Authority × Text) := do
  let kind := SchemeKind.ofScheme scheme
  let (named, rest) := splitBefore (endsAuthority kind) text
  match splitUser? named with
  | none =>
    let (authority, left) ← readServer scheme .none named
    return (authority, left ++ rest)
  | some (userText, server) =>
    if userText.isEmpty && server.isEmpty && !rest.isEmpty then throw .emptyHost
    let user := readUser userText
    let (authority, left) ← readServer scheme user server
    if !user.toText.isEmpty && server.isEmpty then throw .emptyHost
    return (authority, left ++ rest)

def withTail (kind : SchemeKind) (scheme : Text) (authority : Option Authority) (path : UrlPath)
    (tail : Text) : Url :=
  let (queryText, fragmentText) := splitBefore (· = '#') tail
  let part : Percent.Part := if kind = .other then .query else .webQuery
  { scheme := scheme
    authority := authority
    path := path
    query := match queryText with
      | [] => none
      | _ :: query => some (Percent.encode part query)
    fragment := match fragmentText with
      | [] => none
      | _ :: fragment => some (Percent.encode .fragment fragment) }

def endsPath (char : Char) : Bool :=
  char = '?' || char = '#'

def readWeb (scheme text : Text) : Except UrlError Url := do
  let (authority, rest) ← readAuthority scheme text
  let (pathText, tail) := splitBefore endsPath rest
  let inner := match pathText with
    | '/' :: inner | '\\' :: inner => inner
    | _ => pathText
  let (segments, _) := readPath SchemeKind.web.pathRules true inner
  return withTail .web scheme (some authority) (.segments segments) tail

def readOther (scheme text : Text) : Except UrlError Url := do
  match text with
  | '/' :: '/' :: rest =>
    let (authority, rest) ← readAuthority scheme rest
    let (pathText, tail) := splitBefore endsPath rest
    let begun := pathText.head?.any (· ≠ '/')
    let (segments, _) := readPath SchemeKind.other.pathRules begun pathText
    return withTail .other scheme (some authority) (.segments segments) tail
  | '/' :: _ =>
    let (pathText, tail) := splitBefore endsPath text
    let (segments, _) := readPath SchemeKind.other.pathRules false pathText
    return withTail .other scheme none (.segments segments) tail
  | _ =>
    let (pathText, tail) := splitBefore endsPath text
    return withTail .other scheme none (.whole (Percent.encode .whole pathText)) tail

def localName : Text := "localhost".toList

/-- The host of a local file. The machine's own name counts as no host. -/
def readLocalHost (text : Text) : Except UrlError Host := do
  if text.isEmpty then return .domain []
  let host ← Host.ofWebText text
  return if host = .domain localName then .domain [] else host

/-- The URL of a local file. The text behind two slashes is the host, unless it is a drive. -/
def readFile (text : Text) : Except UrlError Url := do
  let isSlash (char : Char) : Bool := char = '/' || char = '\\'
  let rules := SchemeKind.file.pathRules
  match text with
  | first :: second :: rest =>
    if isSlash first && isSlash second then
      let (hostText, behind) := splitBefore (endsAuthority .file) rest
      let isDrive := PathReading.isDrive hostText
      let host ← if isDrive then pure (.domain []) else readLocalHost hostText
      let (pathText, tail) := splitBefore endsPath (if isDrive then rest else behind)
      let (segments, drive) := readPath rules isDrive pathText
      let host := if drive then .domain [] else host
      return withTail .file "file".toList (some ⟨.none, host, none⟩) (.segments (localSegments segments)) tail
    else fileWithoutHost rules isSlash text
  | _ => fileWithoutHost rules isSlash text
where
  /-- The URL of a local file whose text names no host. -/
  fileWithoutHost (rules : PathRules) (isSlash : Char → Bool) (text : Text) : Except UrlError Url := do
    let (pathText, tail) := splitBefore endsPath text
    let begun := !pathText.head?.any isSlash
    let (segments, _) := readPath rules begun pathText
    return withTail .file "file".toList (some ⟨.none, .domain [], none⟩) (.segments (localSegments segments)) tail

def parse (text : Text) : Except UrlError Url :=
  match splitScheme? (cleaned text) with
  | none => .error .relative
  | some (scheme, rest) =>
    match SchemeKind.ofScheme scheme with
    | .web => readWeb scheme (rest.dropWhile fun char => char = '/' || char = '\\')
    | .file => readFile rest
    | .other => readOther scheme rest

end Url

end TerminalSignIn
