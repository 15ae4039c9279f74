import TerminalSignIn.Text.Basic

/-!
# URLs

The parts of a URL, all of them in the encoded form in which they are written, and the written form itself. A character
that may not stand in a part is written byte by byte, each byte by a percent sign and two digits in base sixteen. Which
characters these are differs from part to part; control characters and those outside ASCII are always among them.
-/

namespace TerminalSignIn

inductive UrlError where
  | relative
  | emptyHost
  | internationalName
  | port
  | ipv4Address
  | ipv6Address
  | domainCharacter
deriving DecidableEq

namespace UrlError

def message : UrlError → Text
  | .relative => "relative URL without a base".toList
  | .emptyHost => "empty host".toList
  | .internationalName => "invalid international domain name".toList
  | .port => "invalid port number".toList
  | .ipv4Address => "invalid IPv4 address".toList
  | .ipv6Address => "invalid IPv6 address".toList
  | .domainCharacter => "invalid domain character".toList

end UrlError

/-- A host is a name or an address. An address of version 6 has eight pieces of sixteen bits. -/
inductive Host where
  | domain (name : Text)
  | ipv4 (address : Nat)
  | ipv6 (pieces : List Nat)
deriving DecidableEq

namespace Host

def ipv4Text (address : Nat) : Text :=
  Text.join ['.'] ([24, 16, 8, 0].map fun shift => Text.ofNat (address >>> shift % 256))

def leadingZeros (pieces : List Nat) : Nat :=
  (pieces.takeWhile (· = 0)).length

def longestZeros : List Nat → Nat × Nat
  | [] => (0, 0)
  | piece :: pieces =>
    let (start, length) := longestZeros pieces
    let here := leadingZeros (piece :: pieces)
    if length ≤ here then (0, here) else (start + 1, length)

/-- The pieces in base sixteen; the longest run of two zeros or more is left out. -/
def ipv6Text (pieces : List Nat) : Text :=
  let (start, length) := longestZeros pieces
  let written (pieces : List Nat) : Text := Text.join [':'] (pieces.map Text.hexOfNat)
  if length < 2 then written pieces
  else written (pieces.take start) ++ "::".toList ++ written (pieces.drop (start + length))

def toText : Host → Text
  | .domain name => name
  | .ipv4 address => ipv4Text address
  | .ipv6 pieces => '[' :: ipv6Text pieces ++ [']']

end Host

inductive UrlPath where
  | segments (names : List Text)
  | whole (text : Text)
deriving DecidableEq

namespace UrlPath

def toText : UrlPath → Text
  | .segments names => names.flatMap ('/' :: ·)
  | .whole text => text

end UrlPath

structure UserInfo where
  username : Text
  password : Text
deriving DecidableEq

namespace UserInfo

def none : UserInfo := ⟨[], []⟩

/-- The part before the host, its at sign included. A colon stands before a password that is not empty. -/
def toText (user : UserInfo) : Text :=
  if user.username.isEmpty && user.password.isEmpty then []
  else if user.password.isEmpty then user.username ++ ['@']
  else user.username ++ ':' :: user.password ++ ['@']

end UserInfo

/-- The part of a URL that names a server. The host of a local file may be the empty name; the port is absent
where it is the customary one of the scheme. -/
structure Authority where
  user : UserInfo
  host : Host
  port : Option Nat
deriving DecidableEq

namespace Authority

def toText (authority : Authority) : Text :=
  authority.user.toText ++ authority.host.toText ++ match authority.port with
    | none => []
    | some port => ':' :: Text.ofNat port

end Authority

structure Url where
  scheme : Text
  authority : Option Authority
  path : UrlPath
  query : Option Text
  fragment : Option Text
deriving DecidableEq

namespace Url

def host (url : Url) : Option Host := url.authority.map Authority.host

def port (url : Url) : Option Nat := url.authority.bind Authority.port

/-- What stands between the scheme and the path. A path that begins with two slashes would be taken for a server
where there is none, so a dot segment is written before it. -/
def serverText (url : Url) : Text :=
  match url.authority with
  | some authority => "//".toList ++ authority.toText
  | none => match url.path with
    | .segments ([] :: _ :: _) => "/.".toList
    | _ => []

def target (url : Url) : Text :=
  url.path.toText ++ match url.query with
    | none => []
    | some query => '?' :: query

def toText (url : Url) : Text :=
  url.scheme ++ ':' :: url.serverText ++ url.target ++ match url.fragment with
    | none => []
    | some fragment => '#' :: fragment

end Url

/-! ### Percent encoding -/

namespace Percent

inductive Part where
  | user
  /-- A path of segments. -/
  | path
  /-- A path or a host without structure. -/
  | whole
  | query
  /-- The query of a scheme of the web. -/
  | webQuery
  | fragment
deriving DecidableEq

def marks : Part → Text
  | .user => " \"<>\x60#?\x7b\x7d/:;=@[\\]^|".toList
  | .path => " \"<>\x60#?\x7b\x7d".toList
  | .whole => []
  | .query => " \"#<>".toList
  | .webQuery => " \"#<>\x27".toList
  | .fragment => " \"<>\x60".toList

def isEncoded (part : Part) (char : Char) : Bool :=
  char.toNat < 0x20 || 0x7F ≤ char.toNat || (marks part).contains char

def encodeByte (byte : UInt8) : Text :=
  '%' :: [Nat.digitChar (byte.toNat / 16), Nat.digitChar (byte.toNat % 16)].map Char.toUpper

def encodeChar (part : Part) (char : Char) : Text :=
  if isEncoded part char then (Utf8.encodeChar char).flatMap encodeByte else [char]

def encode (part : Part) (text : Text) : Text :=
  text.flatMap (encodeChar part)

/-- The bytes that an encoded text stands for. A percent sign without two digits behind it stands for itself. -/
def decode : Text → Bytes
  | [] => []
  | '%' :: first :: second :: rest =>
    match Text.digit? 16 first, Text.digit? 16 second with
    | some high, some low => UInt8.ofNat (high * 16 + low) :: decode rest
    | _, _ => Utf8.encodeChar '%' ++ decode (first :: second :: rest)
  | char :: rest => Utf8.encodeChar char ++ decode rest

end Percent

end TerminalSignIn
