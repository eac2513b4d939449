import RequestMatching.Path.Template
import RequestMatching.Pattern.MultiMap
import RequestMatching.Text.Percent

/-!
# Path patterns

A path pattern is a template if one of its segments is a parameter and its braces are in order, and
a value to compare with otherwise.
-/

namespace RequestMatching

/-- A pattern for paths, with the template that it spells, if it does. -/
structure PathPattern where
  value : Flagged
  template : Option Template

namespace PathPattern

def isNameChar (c : Char) : Bool :=
  c.isAlphanum || c = '_' || c = '-'

def isParameter (segment : List Char) : Bool :=
  match segment with
  | '{' :: cs =>
    cs.getLast? = some '}' && !cs.dropLast.isEmpty && cs.dropLast.all isNameChar
  | _ => false

def hasParameter (path : List Char) : Bool :=
  path.head? = some '/' && (Text.splitChars '/' path).any isParameter

def ofValue (value : Flagged) : PathPattern :=
  ⟨value, if hasParameter value.value.toList then Template.parse value.value else none⟩

def check (c : Comparator) (p : PathPattern) (path : String) : Finding :=
  if p.value.isBlank then .accept
  else
    match p.template with
    | none => c.compare p.value (.plain path)
    | some t =>
      .ofBool (p.value.negated ^^ (t.capture path.toList).isSome)
        s!"path template match failed expected: {p.value.text} found: {path}"

/-- A captured value with its percent encoding undone, where that gives text. -/
def decodeValue (cs : List Char) : String :=
  (Percent.decode? (.ofList cs)).getD (.ofList cs)

def parameters (p : PathPattern) (path : String) : MultiMap :=
  match p.template with
  | none => []
  | some t =>
    .ofPlain (((t.capture path.toList).getD []).map fun (name, cs) => (name, decodeValue cs))

end PathPattern
end RequestMatching
