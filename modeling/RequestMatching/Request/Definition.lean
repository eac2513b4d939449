import RequestMatching.Body.Definition
import RequestMatching.Request.Basic

/-!
# Request definitions

Which requests are meant: a pattern for each aspect of a request, where a missing one allows
anything. In JSON patterns that are missing or empty are left out.
-/

namespace RequestMatching

structure RequestDefinition where
  method : Option Flagged := none
  path : Option Flagged := none
  pathParameters : MultiMap := []
  query : MultiMap := []
  cookies : MultiMap := []
  headers : MultiMap := []
  body : Option BodyDefinition := none
  secure : Option Bool := none
  keepAlive : Option Bool := none
  protocol : Option Protocol := none

namespace RequestDefinition

def equalBodies : Option BodyDefinition → Option BodyDefinition → Bool
  | none, none => true
  | some a, some b => a.equal b
  | _, _ => false

def equal (a b : RequestDefinition) : Bool :=
  a.method == b.method && a.path == b.path && a.pathParameters == b.pathParameters &&
    a.query == b.query && a.cookies == b.cookies && a.headers == b.headers &&
    equalBodies a.body b.body && a.secure == b.secure && a.keepAlive == b.keepAlive &&
    a.protocol == b.protocol

/-! ## JSON -/

def optionalMember {α : Type} (name : String) (text : α → String) : Option α → List String
  | none => []
  | some a => [BodyPattern.member name (text a)]

def mapMember (name : String) (m : MultiMap) : List String :=
  if m.isEmpty then [] else [BodyPattern.member name m.jsonText]

def boolText (b : Bool) : String :=
  if b then "true" else "false"

def jsonText (d : RequestDefinition) : String :=
  "\x7b" ++ String.intercalate ","
    (optionalMember "method" (fun v => Json.quote v.text) d.method ++
      optionalMember "path" (fun v => Json.quote v.text) d.path ++
      mapMember "pathParameters" d.pathParameters ++
      mapMember "queryStringParameters" d.query ++
      mapMember "cookies" d.cookies ++
      mapMember "headers" d.headers ++
      optionalMember "body" BodyDefinition.jsonText d.body ++
      optionalMember "secure" boolText d.secure ++
      optionalMember "keepAlive" boolText d.keepAlive ++
      optionalMember "protocol" (fun p => Json.quote p.name) d.protocol) ++ "\x7d"

def flaggedDecoder : Decoder Flagged := fun p s =>
  (Decoder.string p s).map .parse

def fields : List (Field RequestDefinition) :=
  [.of "method" (.optional flaggedDecoder) fun a d => { d with method := a },
   .of "path" (.optional flaggedDecoder) fun a d => { d with path := a },
   .of "pathParameters" MultiMap.decoder fun a d => { d with pathParameters := a },
   .of "queryStringParameters" MultiMap.decoder fun a d => { d with query := a },
   .of "cookies" MultiMap.decoder fun a d => { d with cookies := a },
   .of "headers" MultiMap.decoder fun a d => { d with headers := a },
   .of "body" (.optional BodyDefinition.decoder) fun a d => { d with body := a },
   .of "secure" (.optional .bool) fun a d => { d with secure := a },
   .of "keepAlive" (.optional .bool) fun a d => { d with keepAlive := a },
   .of "protocol" (.optional Protocol.decoder) fun a d => { d with protocol := a }]

def decoder : Decoder RequestDefinition :=
  .record "RequestDefinition" fields {}

end RequestDefinition
end RequestMatching
