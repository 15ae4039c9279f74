import TerminalSignIn.Attempt
import TerminalSignIn.Json.Parser
import TerminalSignIn.Url.Parser

/-!
# The service

Sign-ins are sent to the endpoint: the address of the service and the path of the sign-in, put together and read as one
URL. Its scheme has to be secure unless that is waived.

A reply is a status and a body that arrives in chunks, perhaps broken off. Every status of success accepts the attempt;
any other rejects it with the message of the body, of which no more than the beginning is read. The body of a rejection
may be JSON, where the message is looked for in five places and the first of them that holds a string decides, or plain
text. The verdict depends on the bytes that arrive and not on how they are cut into chunks.

A request is written to a connection of its own, and the reply is read from all that comes back before the connection
ends. No protocol version is offered under which a body could come in any other form.
-/

namespace TerminalSignIn

/-! ### The endpoint -/

structure Endpoint where
  url : Url
deriving DecidableEq

inductive EndpointError where
  | invalid (text : Text) (cause : UrlError)
  | insecure (text : Text)
deriving DecidableEq

namespace EndpointError

def message : EndpointError → Text
  | .invalid text cause => "invalid sign-in endpoint ".toList ++ text ++ ": ".toList ++ cause.message
  | .insecure text => "sign-in endpoint must use https: ".toList ++ text

def causes : EndpointError → List Text
  | .invalid _ cause => [cause.message]
  | .insecure _ => []

end EndpointError

namespace Endpoint

def secureScheme : Text := "https".toList

def joined (base path : Text) : Text :=
  Text.dropEndWhile (· = '/') base ++ path

/-- `read` is how the library of URLs reads a text. -/
def ofService (base path : Text) (allowInsecure : Bool) (read : Text → Except UrlError Url := Url.parse) :
    Except EndpointError Endpoint :=
  let text := joined base path
  match read text with
  | .error cause => .error (.invalid text cause)
  | .ok url =>
    if url.scheme ≠ secureScheme && !allowInsecure then .error (.insecure text)
    else .ok ⟨url⟩

def toText (endpoint : Endpoint) : Text :=
  endpoint.url.toText

end Endpoint

/-! ### Statuses -/

structure Status where
  code : Nat
deriving DecidableEq

namespace Status

def reasons : List (Nat × String) :=
  [(100, "Continue"), (101, "Switching Protocols"), (102, "Processing"), (103, "Early Hints"),
    (200, "OK"), (201, "Created"), (202, "Accepted"), (203, "Non Authoritative Information"),
    (204, "No Content"), (205, "Reset Content"), (206, "Partial Content"), (207, "Multi-Status"),
    (208, "Already Reported"), (226, "IM Used"), (300, "Multiple Choices"), (301, "Moved Permanently"),
    (302, "Found"), (303, "See Other"), (304, "Not Modified"), (305, "Use Proxy"),
    (307, "Temporary Redirect"), (308, "Permanent Redirect"), (400, "Bad Request"), (401, "Unauthorized"),
    (402, "Payment Required"), (403, "Forbidden"), (404, "Not Found"), (405, "Method Not Allowed"),
    (406, "Not Acceptable"), (407, "Proxy Authentication Required"), (408, "Request Timeout"),
    (409, "Conflict"), (410, "Gone"), (411, "Length Required"), (412, "Precondition Failed"),
    (413, "Payload Too Large"), (414, "URI Too Long"), (415, "Unsupported Media Type"),
    (416, "Range Not Satisfiable"), (417, "Expectation Failed"), (418, "I'm a teapot"),
    (421, "Misdirected Request"), (422, "Unprocessable Entity"), (423, "Locked"),
    (424, "Failed Dependency"), (425, "Too Early"), (426, "Upgrade Required"),
    (428, "Precondition Required"), (429, "Too Many Requests"), (431, "Request Header Fields Too Large"),
    (451, "Unavailable For Legal Reasons"), (500, "Internal Server Error"), (501, "Not Implemented"),
    (502, "Bad Gateway"), (503, "Service Unavailable"), (504, "Gateway Timeout"),
    (505, "HTTP Version Not Supported"), (506, "Variant Also Negotiates"), (507, "Insufficient Storage"),
    (508, "Loop Detected"), (510, "Not Extended"), (511, "Network Authentication Required")]

def unknownReason : String := "<unknown status code>"

def reason (status : Status) : Text :=
  ((reasons.lookup status.code).getD unknownReason).toList

def isSuccess (status : Status) : Bool :=
  200 ≤ status.code && status.code < 300

def isSwitch (status : Status) : Bool :=
  status.code = 101

/-- A reply with this status ends an exchange. The other statuses of three digits announce a further reply. -/
def isFinal (status : Status) : Bool :=
  status.isSwitch || (200 ≤ status.code && status.code < 1000)

def hasNoBody (status : Status) : Bool :=
  status.isSwitch || status.code = 204 || status.code = 304

def toText (status : Status) : Text :=
  Text.ofNat status.code ++ ' ' :: status.reason

end Status

/-! ### The message of a rejection -/

namespace RejectionBody

/-- The paths of the places where a message may be, in the order in which they are tried. -/
def places : List (List Text) :=
  [[], ["message".toList], ["error".toList, "message".toList], ["error".toList], ["data".toList]]

def firstString? (value : Json) : Option Text :=
  places.findSome? fun place => (value.at? place).bind Json.string?

/-- The message in a body, trimmed; none if the body is blank, or JSON without a message that is not. -/
def message? (body : Text) : Option Text :=
  let trimmed := body.trim
  if trimmed.isEmpty then none
  else match Json.parse? trimmed with
    | none => some trimmed
    | some value => ((firstString? value).map Text.trim).filter fun message => !message.isEmpty

end RejectionBody

/-! ### Replies -/

inductive Chunk where
  | data (bytes : Bytes)
  /-- The connection breaks; nothing that follows is read. -/
  | broken

structure Reply where
  status : Status
  chunks : List Chunk

namespace Reply

def bodyLimit : Nat := 32768

def truncationMark : Text := "...(truncated)".toList

def arrived : List Chunk → Bytes
  | [] => []
  | .broken :: _ => []
  | .data bytes :: chunks => bytes ++ arrived chunks

def cappedText (bytes : Bytes) : Text :=
  if bodyLimit < bytes.length then Utf8.decodeLenient (bytes.take bodyLimit) ++ truncationMark
  else Utf8.decodeLenient bytes

/-- The text of a body, read chunk by chunk behind the bytes collected so far. Reading stops with the chunk that
exceeds the limit. -/
def readBody (collected : Bytes) : List Chunk → Text
  | [] => Utf8.decodeLenient collected
  | .broken :: _ => Utf8.decodeLenient collected
  | .data bytes :: chunks =>
    let collected := collected ++ bytes
    if bodyLimit < collected.length then Utf8.decodeLenient (collected.take bodyLimit) ++ truncationMark
    else readBody collected chunks

def bodyText (reply : Reply) : Text :=
  readBody [] reply.chunks

def statusMessage (status : Status) : Text :=
  "Sign in failed (".toList ++ status.toText ++ ")".toList

def answer (reply : Reply) : Answer :=
  if reply.status.isSuccess then .accepted
  else .rejected (.ofMessage
    ((RejectionBody.message? reply.bodyText).getD (statusMessage reply.status)))

end Reply

/-! ### Exchanges -/

structure SignInRequest where
  target : Text
  body : Text
deriving DecidableEq

namespace SignInRequest

def method : Text := "POST".toList

def contentType : Text := "application/json".toList

end SignInRequest

inductive Delivery where
  | reply (reply : Reply)
  /-- The connection ends without a reply. -/
  | lost

/-- What comes of a reply after which the connection ends: nothing, if it announces a further one. -/
def Delivery.ofReply (reply : Reply) : Delivery :=
  if reply.status.isFinal then .reply reply else .lost

namespace Endpoint

def request (endpoint : Endpoint) (email password : Text) : SignInRequest where
  target := endpoint.url.target
  body := Json.stringObject [("email".toList, email), ("password".toList, password)]

def failure (endpoint : Endpoint) : Text :=
  "error sending request for url (".toList ++ endpoint.toText ++ ")".toList

def answer (endpoint : Endpoint) : Delivery → Answer
  | .reply reply => reply.answer
  | .lost => .rejected (.ofMessage ("Unable to reach sign-in service: ".toList ++ endpoint.failure))

end Endpoint

/-! ### On the wire -/

def Authority.serverName (authority : Authority) : Text :=
  { authority with user := .none }.toText

namespace SignInRequest

def lineEnd : Text := ['\r', '\n']

def headLines (request : SignInRequest) (server : Text) : List Text :=
  [method ++ ' ' :: request.target ++ " HTTP/1.0".toList,
    "Host: ".toList ++ server,
    "Content-Type: ".toList ++ contentType,
    "Content-Length: ".toList ++ Text.ofNat request.body.byteLength,
    []]

def encode (request : SignInRequest) (server : Text) : Bytes :=
  Utf8.encode ((request.headLines server).flatMap (· ++ lineEnd) ++ request.body)

end SignInRequest

namespace Reply

def splitHead? : Bytes → Option (Bytes × Bytes)
  | [] => none
  | 0x0D :: 0x0A :: 0x0D :: 0x0A :: body => some ([], body)
  | byte :: rest => (splitHead? rest).map fun (head, body) => (byte :: head, body)

def status? (head : Bytes) : Option Status :=
  let line := Utf8.decodeLenient (head.takeWhile (· ≠ 0x0D))
  ((Text.splitOn ' ' line)[1]?.bind (Text.number? 10)).map Status.mk

def decode? (bytes : Bytes) : Option Reply := do
  let (head, body) ← splitHead? bytes
  return ⟨← status? head, [.data body]⟩

end Reply

def Delivery.ofBytes (bytes : Bytes) : Delivery :=
  ((Reply.decode? bytes).map Delivery.ofReply).getD .lost

end TerminalSignIn
