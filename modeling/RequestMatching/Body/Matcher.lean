import RequestMatching.Body.Definition
import RequestMatching.Diagnostics
import RequestMatching.JsonPath.Parser
import RequestMatching.Regex.Parser
import RequestMatching.Text.Base64
import RequestMatching.Text.Diff
import RequestMatching.XPath.Eval
import RequestMatching.XPath.Parser
import RequestMatching.Xsd.Validator

/-!
# Matching bodies

A blank pattern accepts every body, and any other pattern rejects a missing or blank one. Broken
patterns and broken bodies are rejections with their reason. A difference may be explained in full
or not at all, which never changes the verdict.
-/

namespace RequestMatching

inductive BodyRule where
  | json (pattern : String) (matchType : JsonMatchType)
  | jsonPath (query : String)
  | xpath (expression : String) (namespaces : List (String × String))
  | xmlSchema (schema : String)
  | text (pattern : String) (subString : Bool)
  | regex (expression : String)
  | binary (base64 : String)

namespace BodyRule

/-- The rule of a pattern; `matchType` is for JSON patterns that name none. A JSON string is taken
for the text of the pattern. -/
def ofPattern (matchType : JsonMatchType) : BodyPattern → BodyRule
  | .json (.string s) m => json s (m.getD matchType)
  | .json v m => json v.text (m.getD matchType)
  | .jsonPath q => jsonPath q
  | .xpath e ns => xpath e ns
  | .xmlSchema s => xmlSchema s
  | .string t sub => text t sub
  | .regex e => regex e
  | .binary b => binary b

def pattern : BodyRule → String
  | json p _ | jsonPath p | xpath p _ | xmlSchema p | text p _ | regex p | binary p => p

def isBlank (r : BodyRule) : Bool :=
  Text.isBlank r.pattern

def missing : Finding :=
  .reject "body is missing or blank"

/-! ## The rules for a body that is there -/

def checkJson (pattern : String) (matchType : JsonMatchType) (explain : Bool) (body : String) :
    Finding :=
  if body = pattern then .accept
  else
    match Json.parse pattern with
    | .error f => .reject ("json pattern failed to parse: " ++ f.message)
    | .ok expected =>
      match Json.parse body with
      | .error f => .reject s!"failed to parse body as json: {f.message} body: {body}"
      | .ok actual =>
        match Json.compareAt ⟨matchType, !explain⟩ [] expected actual with
        | [] => .accept
        | ds =>
          .reject (s!"json match failed expected:\n  {pattern}\nfound:\n  {body}\n" ++
            "failed because:\n" ++ String.intercalate "\n" (ds.map fun d => "  " ++ d.text))

def checkJsonPath (query body : String) : Finding :=
  if body = query then .accept
  else
    match JsonPath.parse (Text.trim query) with
    | none => .reject s!"json path {query} is invalid: *"
    | some q =>
      match Json.parse body with
      | .error f =>
        .reject s!"json path match failed expected: {query} found: {body} failed because: {f.message}"
      | .ok document =>
        .ofBool (JsonPath.selectsIn q document) s!"json path {query} selected nothing in {body}"

def checkXPath (expression : String) (namespaces : List (String × String)) (body : String) : Finding :=
  if body = expression then .accept
  else
    let failed := s!"xpath match failed expected: {expression} found: {body}"
    match XPath.parse (Text.trim expression) with
    | none => .reject s!"xpath {expression} is invalid: *"
    | some e =>
      match Xml.parse body with
      | none => .reject (failed ++ " failed because: invalid XML: *")
      | some document =>
        match XPath.isTrue e namespaces document with
        | .ok b => .ofBool b failed
        | .error _ => .reject (failed ++ " failed because: *")

def checkXmlSchema (schema body : String) : Finding :=
  match Xsd.Schema.parse schema with
  | .error f => .reject ("xml schema is invalid: " ++ f.message)
  | .ok s =>
    match s.check body with
    | .ok () => .accept
    | .error e => .reject s!"xml schema match failed found: {body} failed because: {e}"

def checkText (pattern : String) (subString : Bool) (body : String) : Finding :=
  if subString then
    .ofBool (Text.hasInfix pattern.toList body.toList)
      s!"substring match failed expected: {pattern} found: {body}"
  else .ofBool (body == pattern) ("exact string match failed:\n" ++ Diff.unified pattern body)

def checkRegex (expression body : String) : Finding :=
  if body = expression then .accept
  else
    match Regex.parseWholeDotAll expression with
    | .error _ => .reject s!"body regex {expression} is invalid: *"
    | .ok r =>
      .ofBool (r.isMatch body) s!"regex match failed expected: {expression} found: {body}"

def checkBinary (base64 : String) (body : Bytes) : Finding :=
  match Base64.decode (Text.trim base64) with
  | .error f => .reject ("binary pattern is invalid base64: " ++ f.message)
  | .ok expected =>
    .ofBool (expected == body)
      s!"binary match failed expected: {base64} found: {Base64.encode body}"

def checkPresent (explain : Bool) (r : BodyRule) (body : String) : Finding :=
  match r with
  | json p m => checkJson p m explain body
  | jsonPath q => checkJsonPath q body
  | xpath e ns => checkXPath e ns body
  | xmlSchema s => checkXmlSchema s body
  | text p sub => checkText p sub body
  | regex e => checkRegex e body
  | binary b => checkBinary b (Utf8.encode body)

def checkOptionalBinary (base64 : String) (body : Option Bytes) : Finding :=
  if Text.isBlank base64 then .accept
  else
    match body with
    | none | some [] => missing
    | some bytes => checkBinary base64 bytes

def checkOptional (explain : Bool) (r : BodyRule) (body : Option String) : Finding :=
  match r with
  | binary b => checkOptionalBinary b (body.map Utf8.encode)
  | r =>
    if r.isBlank then .accept
    else
      match body with
      | none => missing
      | some s => if Text.isBlank s then missing else checkPresent explain r s

end BodyRule

structure BodyMatcher where
  rule : BodyRule
  negated : Bool := false

namespace BodyMatcher

def ofDefinition (matchType : JsonMatchType) (d : BodyDefinition) : BodyMatcher :=
  ⟨.ofPattern matchType d.pattern, d.negated⟩

def negate (m : BodyMatcher) : BodyMatcher :=
  { m with negated := !m.negated }

/-- The finding of a negated rule: a rejection is accepted with its difference. -/
def applyNegation (m : BodyMatcher) (f : Finding) : Finding :=
  if !m.negated then f
  else if f.accepted then .reject "body matched but the body pattern is negated"
  else ⟨true, f.difference⟩

def check (explain : Bool) (m : BodyMatcher) (body : Option String) : Finding :=
  m.applyNegation (m.rule.checkOptional explain body)

/-- Checks a body of bytes: rules for text see them as text as far as they are. -/
def checkBytes (explain : Bool) (m : BodyMatcher) (body : Option Bytes) : Finding :=
  match m.rule with
  | .binary b => m.applyNegation (BodyRule.checkOptionalBinary b body)
  | _ => m.check explain (body.map Utf8.decodeLossy)

def attempt (m : BodyMatcher) (body : Option String) (d : Option Diagnostics) : Attempt :=
  (m.check (Diagnostics.explains d) body).attempt (some .body) d

def attemptBytes (m : BodyMatcher) (body : Option Bytes) (d : Option Diagnostics) : Attempt :=
  (m.checkBytes (Diagnostics.explains d) body).attempt (some .body) d

end BodyMatcher
end RequestMatching
