import RequestMatching.Json.Decode
import RequestMatching.Registry.Basic
import RequestMatching.Yaml.Node

/-!
# Configuration

How requests are matched and how many expectations there may be. A configuration is read from JSON or
YAML, where everything may be left out, and parts of it can be overridden by environment variables.
-/

namespace RequestMatching

namespace MatchMode

def name : MatchMode → String
  | dataPlane => "dataPlane"
  | controlPlane => "controlPlane"

def names : List (String × MatchMode) :=
  [("dataPlane", dataPlane), ("controlPlane", controlPlane)]

end MatchMode

structure CacheConfig where
  maxSize : Nat := 1000
  ttlSeconds : Nat := 300
  deriving DecidableEq

structure Config where
  detailedMatchFailures : Bool := true
  /-- The capacity of the registry; with 0 nothing is ever registered. -/
  maxExpectations : Nat := 5000
  matchMode : MatchMode := .dataPlane
  regexCache : CacheConfig := {}
  matchType : JsonMatchType := .onlyMatchingFields
  logLevel : String := "info"
  deriving DecidableEq

namespace Config

def validate (c : Config) : Except LoadError Unit :=
  if c.regexCache.maxSize = 0 then
    .error (.invalidConfig "regexCache.maxSize must be greater than 0")
  else if Text.isBlank c.logLevel then .error (.invalidConfig "logLevel must not be blank")
  else .ok ()

def comparator (c : Config) : Comparator :=
  .ofCache c.matchMode (.ofSize c.regexCache.maxSize)

def registry (c : Config) : Registry :=
  .empty c.maxExpectations c.comparator c.detailedMatchFailures c.matchType

def natural (n : Nat) : Json :=
  .number (.integer n)

def toJson (c : Config) : Json :=
  .ofMembers
    [("detailedMatchFailures", .bool c.detailedMatchFailures),
     ("maxExpectations", natural c.maxExpectations),
     ("matchMode", .string c.matchMode.name),
     ("regexCache", .ofMembers
       [("maxSize", natural c.regexCache.maxSize), ("ttlSeconds", natural c.regexCache.ttlSeconds)]),
     ("defaultJsonMatchType", .string c.matchType.name),
     ("logLevel", .string c.logLevel)]

/-! ## JSON -/

def cacheFields : List (Field CacheConfig) :=
  [.of "maxSize" (.unsigned "usize") fun a c => { c with maxSize := a },
   .of "ttlSeconds" (.unsigned "u64") fun a c => { c with ttlSeconds := a }]

def fields : List (Field Config) :=
  [.of "detailedMatchFailures" .bool fun a c => { c with detailedMatchFailures := a },
   .of "maxExpectations" (.unsigned "usize") fun a c => { c with maxExpectations := a },
   .of "matchMode" (.variant MatchMode.names) fun a c => { c with matchMode := a },
   .of "regexCache" (.record "RegexCacheConfig" cacheFields {}) fun a c => { c with regexCache := a },
   .of "defaultJsonMatchType" (.variant JsonMatchType.names) fun a c => { c with matchType := a },
   .of "logLevel" .string fun a c => { c with logLevel := a }]

def ofJson (text : String) : Except LoadError Config :=
  ((Decoder.record "MatcherConfig" fields {}).ofText text).mapError fun e =>
    .malformed "json" e.message

/-! ## YAML -/

structure YamlField (α : Type) where
  name : String
  read : YamlNode → α → Option α

namespace YamlField

variable {α β : Type}

def of (name : String) (read : YamlNode → Option β) (store : β → α → α) : YamlField α :=
  ⟨name, fun n a => (read n).map fun b => store b a⟩

/-- Reads the members of a record; `seen` are the fields read so far. -/
def readMembers (fields : List (YamlField α)) :
    List String → α → List (YamlNode × YamlNode) → Option α
  | _, a, [] => some a
  | seen, a, (.scalar _ _ key, n) :: rest =>
    match fields.find? (·.name == key) with
    | none => readMembers fields seen a rest
    | some f =>
      if seen.contains key then none
      else do
        let a ← f.read n a
        readMembers fields (key :: seen) a rest
  | _, _, _ => none

def readItems : List (YamlField α) → α → List YamlNode → Option α
  | _, a, [] => some a
  | [], _, _ => none
  | f :: fields, a, n :: rest => do
    let a ← f.read n a
    readItems fields a rest

/-- Reads a record with the given fields, which begins as `initial`. Nothing stands for a record
without members. -/
def record (fields : List (YamlField α)) (initial : α) : YamlNode → Option α
  | .mapping members => readMembers fields [] initial members
  | .sequence items => readItems fields initial items
  | .scalar _ plain text => if plain && text.isEmpty then some initial else none

end YamlField

def yamlText : YamlNode → Option String
  | .scalar _ _ text => some text
  | _ => none

def yamlBool : YamlNode → Option Bool
  | .scalar _ true text =>
    if ["true", "True", "TRUE"].contains text then some true
    else if ["false", "False", "FALSE"].contains text then some false
    else none
  | _ => none

def digitsIn (base : Nat) (ds : List Char) : Option Nat := do
  let values ← ds.mapM Yaml.hexDigit?
  if ds.isEmpty || values.any (base ≤ ·) then none
  else some (values.foldl (fun n d => n * base + d) 0)

/-- A natural number of 64 bits, which has to be plain. It may have the mark of a base; a decimal one
does not begin with a zero. -/
def yamlNatural : YamlNode → Option Nat
  | .scalar _ true text => do
    let cs := match text.toList with
      | '+' :: cs => cs
      | cs => cs
    let n ← match cs with
      | '0' :: 'x' :: ds => digitsIn 16 ds
      | '0' :: 'o' :: ds => digitsIn 8 ds
      | '0' :: 'b' :: ds => digitsIn 2 ds
      | '0' :: _ :: _ => none
      | ds => digitsIn 10 ds
    if n < twoTo 64 then some n else none
  | _ => none

/-- One of several names, as a scalar or as the tag of nothing. -/
def yamlVariant {α : Type} (variants : List (String × α)) : YamlNode → Option α
  | .scalar tag plain text =>
    match tag.map String.toList with
    | some ('!' :: name) =>
      if plain && ["", "~", "null", "Null", "NULL"].contains text then
        variants.lookup (.ofList (if name.isEmpty then ['!'] else name))
      else none
    | _ => variants.lookup text
  | _ => none

def cacheYamlFields : List (YamlField CacheConfig) :=
  [.of "maxSize" yamlNatural fun a c => { c with maxSize := a },
   .of "ttlSeconds" yamlNatural fun a c => { c with ttlSeconds := a }]

def yamlFields : List (YamlField Config) :=
  [.of "detailedMatchFailures" yamlBool fun a c => { c with detailedMatchFailures := a },
   .of "maxExpectations" yamlNatural fun a c => { c with maxExpectations := a },
   .of "matchMode" (yamlVariant MatchMode.names) fun a c => { c with matchMode := a },
   .of "regexCache" (YamlField.record cacheYamlFields {}) fun a c => { c with regexCache := a },
   .of "defaultJsonMatchType" (yamlVariant JsonMatchType.names)
     fun a c => { c with matchType := a },
   .of "logLevel" yamlText fun a c => { c with logLevel := a }]

def ofDocuments : List YamlNode → Option Config
  | [] => some {}
  | [n] => YamlField.record yamlFields {} n
  | _ => none

def ofYaml (text : String) : Except LoadError Config :=
  if Text.isBlank text then .ok {}
  else
    match (Yaml.documents text).bind ofDocuments with
    | some c => .ok c
    | none => .error (.malformed "yaml" "*")

/-! ## Files -/

/-- What follows the last dot of a file name, if a dot is there and not only at its begin. -/
def extension? (path : String) : Option String :=
  let name := ((Text.splitOn '/' path).filter fun s => !s.isEmpty && s ≠ ".").getLast?.getD ""
  match (Text.splitOn '.' name).reverse with
  | ext :: before :: more => if before.isEmpty && more.isEmpty then none else some ext
  | _ => none

def ofFile (path : String) (contents : Option String) : Except LoadError Config := do
  match contents with
  | none => throw (.unreadable path "no such file")
  | some text =>
    let c ← if (extension? path).any fun ext => Text.asciiLower ext = "json" then ofJson text
      else ofYaml text
    c.validate
    return c

/-! ## Environment variables -/

abbrev Environment := String → Option String

structure Override where
  name : String
  apply : String → Config → Except String Config

def flag? (value : String) : Option Bool :=
  let word := Text.asciiLower (Text.trim value)
  if ["true", "1", "yes"].contains word then some true
  else if ["false", "0", "no"].contains word then some false
  else none

def modeNames : List (String × MatchMode) :=
  [("dataPlane", .dataPlane), ("data_plane", .dataPlane), ("DATA_PLANE", .dataPlane),
   ("controlPlane", .controlPlane), ("control_plane", .controlPlane),
   ("CONTROL_PLANE", .controlPlane)]

def wrongValue {α : Type} (wanted value : String) : Except String α :=
  .error (s!"must be {wanted}, got '" ++ value ++ "'")

def overrides : List Override :=
  [⟨"MOCK_MATCHER_DETAILED_MATCH_FAILURES", fun value c =>
      match flag? value with
      | some b => .ok { c with detailedMatchFailures := b }
      | none => wrongValue "a boolean" value⟩,
   ⟨"MOCK_MATCHER_MAX_EXPECTATIONS", fun value c =>
      match Digits.unsigned? (twoTo 64) (Text.trim value) with
      | some n => .ok { c with maxExpectations := n }
      | none => wrongValue "a non-negative integer" value⟩,
   ⟨"MOCK_MATCHER_MATCH_MODE", fun value c =>
      match modeNames.lookup (Text.trim value) with
      | some m => .ok { c with matchMode := m }
      | none => wrongValue "dataPlane or controlPlane" (Text.trim value)⟩,
   ⟨"MOCK_MATCHER_LOG_LEVEL", fun value c => .ok { c with logLevel := Text.trim value }⟩]

def applyOverrides (env : Environment) : List Override → Config → Config × Except LoadError Unit
  | [], c => (c, .ok ())
  | o :: rest, c =>
    match env o.name with
    | none => applyOverrides env rest c
    | some value =>
      match o.apply value c with
      | .ok c => applyOverrides env rest c
      | .error reason => (c, .error (.invalidConfig (o.name ++ " " ++ reason)))

/-- The configuration with the parts that the environment overrides. What is overridden before a
wrong value stays so. -/
def override (c : Config) (env : Environment) : Config × Except LoadError Unit :=
  applyOverrides env overrides c

end Config
end RequestMatching
