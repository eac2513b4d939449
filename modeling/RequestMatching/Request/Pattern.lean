import RequestMatching.Body.Matcher
import RequestMatching.Path.Pattern
import RequestMatching.Request.Definition

/-!
# Matching requests

A definition is made into a pattern for each aspect of a request, and a request is accepted if every
aspect of it is. An attempt that is explained in full tries all aspects; any other attempt ends with
the first one that rejects.
-/

namespace RequestMatching

structure RequestPattern where
  method : Option Flagged
  path : Option PathPattern
  pathParameters : MultiMapPattern
  query : MultiMapPattern
  cookies : MultiMapPattern
  headers : MultiMapPattern
  body : Option BodyMatcher
  secure : Option Bool
  protocol : Option Protocol
  keepAlive : Option Bool

namespace RequestPattern

/-- The pattern of a definition; `matchType` is for JSON bodies that name none. -/
def ofDefinition (matchType : JsonMatchType) (d : RequestDefinition) : RequestPattern where
  method := d.method.filter fun m => !m.isBlank
  path := (d.path.filter fun p => !p.isBlank).map .ofValue
  pathParameters := ⟨d.pathParameters, false⟩
  query := ⟨d.query, false⟩
  cookies := ⟨d.cookies, false⟩
  headers := .ignoringCase d.headers
  body := d.body.map (.ofDefinition matchType)
  secure := d.secure
  protocol := d.protocol
  keepAlive := d.keepAlive

def aspects : List Aspect :=
  [.method, .path, .pathParameters, .query, .cookies, .headers, .body, .secure, .protocol,
   .keepAlive]

def checkOptional {α : Type} (wanted : Option α) (check : α → Finding) : Finding :=
  match wanted with
  | none => .accept
  | some a => check a

def checkEqual {α : Type} [DecidableEq α] (text : α → String) (wanted : Option α) (actual : α) :
    Finding :=
  checkOptional wanted fun w =>
    .ofBool (w = actual) ("expected: " ++ text w ++ " found: " ++ text actual)

def check (c : Comparator) (explain : Bool) (p : RequestPattern) (r : HttpRequest) :
    Aspect → Finding
  | .method => checkOptional p.method fun m => c.compare m (.plain r.method)
  | .path => checkOptional p.path fun t => t.check c r.path
  | .pathParameters =>
    p.pathParameters.check c ((p.path.map fun t => t.parameters r.path).getD [])
  | .query => p.query.check c r.query
  | .cookies => p.cookies.check c r.cookies
  | .headers => p.headers.check c r.headers
  | .body => checkOptional p.body fun m => m.checkBytes explain r.body
  | .secure => checkEqual RequestDefinition.boolText p.secure (r.secure.getD false)
  | .protocol => checkEqual Protocol.name p.protocol (r.protocol.getD .http1)
  | .keepAlive => checkEqual RequestDefinition.boolText p.keepAlive (r.keepAlive.getD true)
  | .operation | .openapi => .accept

/-- An attempt on one aspect, which becomes the current one. -/
def attemptAspect (c : Comparator) (p : RequestPattern) (r : HttpRequest) (a : Aspect)
    (d : Option Diagnostics) : Attempt :=
  (p.check c (Diagnostics.explains d) r a).attempt none (d.map (·.about a))

def attemptAll (c : Comparator) (p : RequestPattern) (r : HttpRequest) :
    List Aspect → Option Diagnostics → Attempt
  | [], d => ⟨true, d⟩
  | a :: rest, d =>
    let first := attemptAspect c p r a d
    if first.accepted || Diagnostics.explains d then
      let others := attemptAll c p r rest first.diagnostics
      ⟨first.accepted && others.accepted, others.diagnostics⟩
    else first

def attempt (c : Comparator) (p : RequestPattern) (r : HttpRequest) (d : Option Diagnostics) :
    Attempt :=
  attemptAll c p r aspects d

end RequestPattern
end RequestMatching
