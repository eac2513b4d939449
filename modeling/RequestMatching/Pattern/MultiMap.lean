import RequestMatching.Groups
import RequestMatching.Json.Decode
import RequestMatching.Pattern.Subset

/-!
# Multimaps

Entries in order, where keys may repeat. In JSON a multimap is an object with one value or a list
of values for each key.
-/

namespace RequestMatching

abbrev MultiMap := List Entry

namespace MultiMap

def ofPlain (pairs : List (String × String)) : MultiMap :=
  pairs.map fun (k, v) => .plain k v

def firstValue? (m : MultiMap) (key : String) : Option String :=
  (m.find? (·.key.value == key)).map (·.value.value)

def allNegated (m : MultiMap) : Bool :=
  m.all (·.key.negated)

def allOptional (m : MultiMap) : Bool :=
  m.all (·.key.optional)

def hasAgreeing (c : Comparator) (m : MultiMap) (entry : Entry) : Bool :=
  m.any fun e => entry.agrees c e

def contains (c : Comparator) (m pattern : MultiMap) : Finding :=
  if pattern.isEmpty then .accept else Subset.check c pattern m

def lowercaseKeys (m : MultiMap) : MultiMap :=
  m.map fun e => { e with key := e.key.lowercase }

def lowercasePatternKeys (m : MultiMap) : MultiMap :=
  m.map fun e => { e with key := e.key.lowercasePattern }

/-! ## JSON -/

def groups (m : MultiMap) : Groups String String :=
  .ofPairs (m.map fun e => (e.key.text, e.value.text))

def groupText : List String → String
  | [v] => Json.quote v
  | vs => "[" ++ String.intercalate "," (vs.map Json.quote) ++ "]"

def jsonText (m : MultiMap) : String :=
  "\x7b" ++ String.intercalate ","
    (m.groups.map fun (k, vs) => Json.quote k ++ ":" ++ groupText vs) ++ "\x7d"

def ofMembers (members : List (String × List String)) : MultiMap :=
  members.flatMap fun (k, vs) => vs.map fun v => .parse k v

def decoder : Decoder MultiMap := fun p s =>
  (Decoder.members "a map of keys to a value or a list of values" .oneOrMany p s).map ofMembers

end MultiMap

/-- A pattern for a multimap; keys may be compared without regard to case. -/
structure MultiMapPattern where
  entries : MultiMap
  ignoreCase : Bool := false

namespace MultiMapPattern

def ignoringCase (m : MultiMap) : MultiMapPattern :=
  ⟨m.lowercasePatternKeys, true⟩

def check (c : Comparator) (p : MultiMapPattern) (candidate : MultiMap) : Finding :=
  if p.entries.isEmpty then .accept
  else if candidate.isEmpty then
    .ofBool (p.entries.allNegated || p.entries.allOptional)
      s!"multimap subset match failed expected: {Entry.listText p.entries} found: none"
  else
    (if p.ignoreCase then candidate.lowercaseKeys else candidate).contains c p.entries

end MultiMapPattern
end RequestMatching
