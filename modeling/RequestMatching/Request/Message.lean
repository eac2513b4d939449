import RequestMatching.Request.Basic
import RequestMatching.Request.Query
import RequestMatching.Request.Uri

/-!
# Messages

A request as it comes over the wire: the head in its pieces and the body. Not every message is in
order; what can be matched of one that is becomes a request.
-/

namespace RequestMatching

inductive HttpVersion where
  | http10
  | http11
  | http2
  deriving DecidableEq

structure HttpMessage where
  method : String
  target : String
  version : HttpVersion
  headers : List (String × Bytes)
  body : Bytes

namespace HttpMessage

def isTokenChar (c : Char) : Bool :=
  c.isAlphanum || "!#$%&'*+-.^_\x60|~".toList.contains c

def isToken (s : String) : Bool :=
  !s.isEmpty && s.toList.all isTokenChar

def nameLimit : Nat := 65535

def isHeaderName (s : String) : Bool :=
  isToken s && s.length ≤ nameLimit

def isHeaderByte (b : UInt8) : Bool :=
  b = 9 || (32 ≤ b && b ≠ 127)

/-- The text of a value that holds visible characters and blanks only. -/
def plainText? (value : Bytes) : Option String :=
  if value.all fun b => b = 9 || (32 ≤ b && b < 127) then some (Utf8.decodeLossy value) else none

/-- Headers with names in small letters, those of one name together at the place of the first. -/
def gather (headers : List (String × Bytes)) : List (String × Bytes) :=
  (Groups.ofPairs (headers.map fun (n, v) => (Text.asciiLower n, v))).flatMap fun (n, vs) =>
    vs.map fun v => (n, v)

def valuesOf (name : String) (headers : List (String × Bytes)) : List Bytes :=
  (headers.filter (·.1 == name)).map (·.2)

/-- Whether the connection is kept: as the message says, or else as its version does. -/
def keepsAlive (version : HttpVersion) (headers : List (String × Bytes)) : Bool :=
  match ((valuesOf "connection" headers).head?.bind plainText?).map Text.asciiLower with
  | some "close" => false
  | some "keep-alive" => true
  | _ => version ≠ .http10

def toRequest (m : HttpMessage) (target : Uri) : HttpRequest :=
  let headers := gather m.headers
  { method := m.method
    path := target.path
    query := .ofPlain ((target.query.map Query.parse).getD [])
    headers := .ofPlain (headers.map fun (n, v) => (n, Utf8.decodeLossy v))
    cookies := .ofPlain
      (((valuesOf "cookie" headers).filterMap plainText?).flatMap Cookies.parse)
    body := if m.body.isEmpty then none else some m.body
    secure := target.scheme.map (· == "https")
    keepAlive := some (keepsAlive m.version headers)
    protocol := some (if m.version = .http2 then .http2 else .http1) }

def request? (m : HttpMessage) : Option HttpRequest :=
  if isToken m.method && m.headers.all fun (n, v) => isHeaderName n && v.all isHeaderByte then
    (Uri.parse m.target).map m.toRequest
  else none

end HttpMessage
end RequestMatching
