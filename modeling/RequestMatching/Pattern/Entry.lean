import RequestMatching.Pattern.Comparator

/-!
# Entries

A key and a value, both flagged. A negated key with a value that is not negated forbids the key.
-/

namespace RequestMatching

structure Entry where
  key : Flagged
  value : Flagged
  deriving DecidableEq

namespace Entry

def plain (key value : String) : Entry :=
  ⟨.plain key, .plain value⟩

def parse (key value : String) : Entry :=
  ⟨.parse key, .parse value⟩

def isOptional (e : Entry) : Bool :=
  e.key.optional

def isForbidding (e : Entry) : Bool :=
  e.key.negated && !e.value.negated

def text (e : Entry) : String :=
  e.key.text ++ "=" ++ e.value.text

def accepts (c : Comparator) (pattern candidate : Entry) : Bool :=
  c.accepts pattern.key candidate.key && c.accepts pattern.value candidate.value

/-- Whether a pattern is as good as a candidate: it accepts it, or the keys do not match and one
of them is optional. -/
def agrees (c : Comparator) (pattern candidate : Entry) : Bool :=
  if c.accepts pattern.key candidate.key then c.accepts pattern.value candidate.value
  else pattern.key.optional || candidate.key.optional

def listText (entries : List Entry) : String :=
  "[" ++ String.intercalate ", " (entries.map text) ++ "]"

end Entry
end RequestMatching
