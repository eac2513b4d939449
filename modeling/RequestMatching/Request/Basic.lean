import RequestMatching.Json.Decode
import RequestMatching.Pattern.MultiMap
import RequestMatching.Text.Utf8

/-!
# Requests

A request as it is matched. In JSON all of its members may be left out, and a body is given as text
or, for any bytes, in base64.
-/

namespace RequestMatching

inductive Protocol where
  | http1
  | http2
  deriving DecidableEq

namespace Protocol

def name : Protocol → String
  | http1 => "HTTP_1_1"
  | http2 => "HTTP_2"

def decoder : Decoder Protocol :=
  .variant [(http1.name, http1), (http2.name, http2)]

end Protocol

structure HttpRequest where
  method : String := "GET"
  path : String := "/"
  query : MultiMap := []
  headers : MultiMap := []
  cookies : MultiMap := []
  body : Option Bytes := none
  secure : Option Bool := none
  keepAlive : Option Bool := none
  protocol : Option Protocol := none

namespace HttpRequest

def text (r : HttpRequest) : String :=
  s!"{r.method} {r.path}"

def bodyText? (r : HttpRequest) : Option String :=
  r.body.map Utf8.decodeLossy

/-! ## JSON -/

structure Written where
  request : HttpRequest := {}
  base64 : Option String := none

/-- Values under names in the order of the names, without a special reading. -/
def pairsDecoder : Decoder MultiMap := fun p s =>
  (Decoder.sortedMembers .oneOrMany p s).map fun members =>
    .ofPlain (members.flatMap fun (k, vs) => vs.map fun v => (k, v))

def cookiesDecoder : Decoder MultiMap := fun p s =>
  (Decoder.sortedMembers .string p s).map .ofPlain

def field {α : Type} (name : String) (d : Decoder α) (store : α → HttpRequest → HttpRequest) :
    Field Written :=
  .of name d fun a w => { w with request := store a w.request }

def fields : List (Field Written) :=
  [field "method" .string fun a r => { r with method := a },
   field "path" .string fun a r => { r with path := a },
   field "queryStringParameters" pairsDecoder fun a r => { r with query := a },
   field "headers" pairsDecoder fun a r => { r with headers := a },
   field "cookies" cookiesDecoder fun a r => { r with cookies := a },
   field "body" (.optional .string) fun a r => { r with body := a.map Utf8.encode },
   .of "bodyBase64" (.optional .string) fun a w => { w with base64 := a },
   field "secure" (.optional .bool) fun a r => { r with secure := a },
   field "keepAlive" (.optional .bool) fun a r => { r with keepAlive := a },
   field "protocol" (.optional Protocol.decoder) fun a r => { r with protocol := a }]

/-- The request that is written: a body in base64 wins over one that is text. -/
def Written.resolve (w : Written) : Except DecodeError HttpRequest :=
  match w.base64 with
  | none => .ok w.request
  | some b =>
    match Base64.decode (Text.trim b) with
    | .ok bytes => .ok { w.request with body := some bytes }
    | .error f => .error (.invalidBody f)

def decoder : Decoder HttpRequest := fun p s => do
  let w ← Decoder.record "RawHttpRequest" fields {} p s
  w.resolve

end HttpRequest
end RequestMatching
