import RequestMatching.Json.Compare
import RequestMatching.Json.Decode

/-!
# Body definitions

What a definition says about the body of a request: one of seven kinds of pattern, which may be
negated. In JSON the kind is the member `type`, beside the members of the pattern and `not`.
-/

namespace RequestMatching

inductive BodyPattern where
  | json (value : Json) (matchType : Option JsonMatchType)
  | jsonPath (query : String)
  | xpath (expression : String) (namespaces : List (String × String))
  | xmlSchema (schema : String)
  | string (text : String) (subString : Bool)
  | regex (expression : String)
  | binary (base64 : String)

structure BodyDefinition where
  pattern : BodyPattern
  negated : Bool := false

namespace JsonMatchType

def name : JsonMatchType → String
  | strict => "STRICT"
  | onlyMatchingFields => "ONLY_MATCHING_FIELDS"

def names : List (String × JsonMatchType) :=
  [("STRICT", strict), ("strict", strict), ("ONLY_MATCHING_FIELDS", onlyMatchingFields),
   ("onlyMatchingFields", onlyMatchingFields)]

end JsonMatchType

namespace BodyPattern

def member (name value : String) : String :=
  Json.quote name ++ ":" ++ value

def memberTexts : BodyPattern → List String
  | json v m =>
    [member "type" "\"JSON\"", member "json" v.text] ++
      (m.map fun m => member "matchType" (Json.quote m.name)).toList
  | jsonPath q => [member "type" "\"JSON_PATH\"", member "jsonPath" (Json.quote q)]
  | xpath e ns =>
    [member "type" "\"XPATH\"", member "xpath" (Json.quote e)] ++
      if ns.isEmpty then []
      else [member "namespaces" ("\x7b" ++
        String.intercalate "," (ns.map fun (p, u) => member p (Json.quote u)) ++ "\x7d")]
  | xmlSchema s => [member "type" "\"XML_SCHEMA\"", member "xmlSchema" (Json.quote s)]
  | string t sub =>
    [member "type" "\"STRING\"", member "string" (Json.quote t),
     member "subString" (if sub then "true" else "false")]
  | regex e => [member "type" "\"REGEX\"", member "regex" (Json.quote e)]
  | binary b => [member "type" "\"BINARY\"", member "base64" (Json.quote b)]

def equal : BodyPattern → BodyPattern → Bool
  | json v m, json w n => v.equal w && m == n
  | jsonPath q, jsonPath r => q == r
  | xpath e ns, xpath f ms => e == f && ns == ms
  | xmlSchema s, xmlSchema t => s == t
  | string s a, string t b => s == t && a == b
  | regex e, regex f => e == f
  | binary a, binary b => a == b
  | _, _ => false

/-! ## Reading -/

def kinds : List String :=
  ["JSON", "JSON_PATH", "XPATH", "XML_SCHEMA", "STRING", "REGEX", "BINARY"]

/-- The kind that a value stands for: by its name or by its number. -/
def kindOf : Source → Except DecodeError String
  | .string r => do
    let name ← Decoder.ofFault r
    if kinds.contains name then .ok name else .error (.unknownVariant name kinds)
  | .number (.ok (.integer i)) =>
    if i < 0 then .error (.invalidType (.integer i) "variant identifier")
    else
      match kinds[i.toNat]? with
      | some name => .ok name
      | none => .error (.invalidValue (.integer i) "variant index 0 <= i < 7")
  | s => Decoder.mismatch "variant identifier" s

def required {α : Type} (name : String) : Option α → Except DecodeError α
  | some a => .ok a
  | none => .error (.missingField name)

def readString (name : String) (p : Place) (members : List (Except JsonFault String × Source)) :
    Except DecodeError String := do
  let found ← Field.readMembers [.of name .string fun s _ => some s] p [] none members
  required name found

def jsonFields : List (Field (Option Json × Option JsonMatchType)) :=
  [.of "json" .json fun v (_, m) => (some v, m),
   .of "matchType" (.optional (.variant JsonMatchType.names)) fun m (v, _) => (v, m)]

def xpathFields : List (Field (Option String × List (String × String))) :=
  [.of "xpath" .string fun e (_, ns) => (some e, ns),
   .of "namespaces" (.sortedMembers .string) fun ns (e, _) => (e, ns)]

def stringFields : List (Field (Option String × Bool)) :=
  [.of "string" .string fun t (_, b) => (some t, b),
   .of "subString" .bool fun b (t, _) => (t, b)]

def ofMembers (kind : String) (p : Place) (members : List (Except JsonFault String × Source)) :
    Except DecodeError BodyPattern :=
  match kind with
  | "JSON" => do
    let (value, matchType) ← Field.readMembers jsonFields p [] (none, none) members
    return json (← required "json" value) matchType
  | "JSON_PATH" => (readString "jsonPath" p members).map jsonPath
  | "XPATH" => do
    let (expression, namespaces) ← Field.readMembers xpathFields p [] (none, []) members
    return xpath (← required "xpath" expression) namespaces
  | "XML_SCHEMA" => (readString "xmlSchema" p members).map xmlSchema
  | "STRING" => do
    let (text, subString) ← Field.readMembers stringFields p [] (none, false) members
    return string (← required "string" text) subString
  | "REGEX" => (readString "regex" p members).map regex
  | _ => (readString "base64" p members).map binary

def splitKind : Option Source → List (Except JsonFault String × Source) →
    Except DecodeError (Option Source × List (Except JsonFault String × Source))
  | kind, [] => .ok (kind, [])
  | kind, (key, s) :: rest => do
    let name ← Decoder.ofFault key
    if name = "type" then
      if kind.isSome then throw (.duplicateField "type")
      splitKind (some s) rest
    else
      let (kind, others) ← splitKind kind rest
      return (kind, (key, s) :: others)

def read (p : Place) (members : List (Except JsonFault String × Source)) :
    Except DecodeError BodyPattern := do
  let (kind, others) ← splitKind none members
  let kind ← kindOf (← required "type" kind)
  ofMembers kind p others

end BodyPattern

namespace BodyDefinition

def equal (a b : BodyDefinition) : Bool :=
  a.pattern.equal b.pattern && a.negated == b.negated

def jsonText (d : BodyDefinition) : String :=
  "\x7b" ++ String.intercalate ","
    (d.pattern.memberTexts ++ if d.negated then [BodyPattern.member "not" "true"] else []) ++ "\x7d"

def splitNot (p : Place) : Option Bool → List (Except JsonFault String × Source) →
    Except DecodeError (Option Bool × List (Except JsonFault String × Source))
  | negated, [] => .ok (negated, [])
  | negated, (key, s) :: rest => do
    let name ← Decoder.ofFault key
    if name = "not" then
      if negated.isSome then throw (.duplicateField "not")
      let b ← Decoder.bool p s
      splitNot p (some b) rest
    else
      let _ ← Decoder.json p s
      let (negated, others) ← splitNot p negated rest
      return (negated, (key, s) :: others)

/-- Reads a definition from JSON. The pattern is read after all members have been. -/
def decoder : Decoder BodyDefinition
  | p, .object members breach => do
    let inner ← Decoder.enter p
    let (negated, others) ← splitNot inner none members
    Decoder.close breach ()
    let pattern ← BodyPattern.read { inner with buffered := true } others
    return ⟨pattern, negated.getD false⟩
  | _, s => Decoder.mismatch "struct BodyDefinition" s

end BodyDefinition
end RequestMatching
