import RequestMatching.Json.Value
import RequestMatching.Pattern.Assignment

/-!
# Comparing JSON values

The differences between an expected and an actual value. The relaxed comparison tolerates further
members and items and disregards the order of items; the strict one tolerates nothing. An expected
string may be a placeholder for a class of values.
-/

namespace RequestMatching

inductive JsonMatchType where
  | strict
  | onlyMatchingFields
  deriving DecidableEq

inductive JsonDifferenceKind where
  /-- Present, but not expected. -/
  | extra
  /-- Expected, but absent. -/
  | missing
  /-- Present with another value. -/
  | different
  deriving DecidableEq

def JsonDifferenceKind.name : JsonDifferenceKind → String
  | extra => "EXTRA"
  | missing => "MISSING"
  | different => "DIFFERENT"

inductive JsonStep where
  | member (name : String)
  | item (place : Nat)
  deriving DecidableEq

def JsonStep.text : JsonStep → String
  | member name => "." ++ name
  | item place => s!"[{place}]"

structure JsonDifference where
  kind : JsonDifferenceKind
  path : List JsonStep
  expected : Option String
  actual : Option String
  deriving DecidableEq

namespace JsonDifference

def pathText (d : JsonDifference) : String :=
  "$" ++ String.join (d.path.map JsonStep.text)

def text (d : JsonDifference) : String :=
  s!"{d.kind.name} at {d.pathText}" ++
    (match d.expected with | some e => s!" expected: {e}" | none => "") ++
    (match d.actual with | some a => s!" found: {a}" | none => "")

end JsonDifference

inductive Placeholder where
  | anything
  | anyString
  | anyNumber
  | anyBoolean
  deriving DecidableEq

namespace Placeholder

def ofString? (s : String) : Option Placeholder :=
  if s = "$\x7bjson-unit.ignore\x7d" then some anything
  else if s = "$\x7bjson-unit.any-string\x7d" then some anyString
  else if s = "$\x7bjson-unit.any-number\x7d" then some anyNumber
  else if s = "$\x7bjson-unit.any-boolean\x7d" then some anyBoolean
  else none

def accepts : Placeholder → Json → Bool
  | anything, _ => true
  | anyString, .string _ => true
  | anyNumber, .number _ => true
  | anyBoolean, .bool _ => true
  | _, _ => false

end Placeholder

namespace Json

/-- A way of comparing values: how closely, and whether the first difference is enough. -/
structure Comparison where
  matchType : JsonMatchType
  firstOnly : Bool

def Comparison.andThen (c : Comparison) (found more : List JsonDifference) : List JsonDifference :=
  if c.firstOnly && !found.isEmpty then found else found ++ more

/-- A difference at the place that is reached by the steps of `trail`, the last one first. -/
def difference (trail : List JsonStep) (kind : JsonDifferenceKind) (expected actual : Option Json) :
    List JsonDifference :=
  [⟨kind, trail.reverse, expected.map text, actual.map text⟩]

def compareWith (same : Bool) (trail : List JsonStep) (expected actual : Json) :
    List JsonDifference :=
  if same then [] else difference trail .different (some expected) (some actual)

def extraMembers (c : Comparison) (trail : List JsonStep) (expected : List (String × Json)) :
    List (String × Json) → List JsonDifference
  | [] => []
  | (n, v) :: rest =>
    let found := match lookup n expected with
      | some _ => []
      | none => difference (.member n :: trail) .extra none (some v)
    c.andThen found (extraMembers c trail expected rest)

def extraItems (c : Comparison) (trail : List JsonStep) (place : Nat) :
    List Json → List JsonDifference
  | [] => []
  | v :: rest =>
    c.andThen (difference (.item place :: trail) .extra none (some v))
      (extraItems c trail (place + 1) rest)

def missingItems (c : Comparison) (trail : List JsonStep) (place : Nat) :
    List Json → List (Option Nat) → List JsonDifference
  | v :: rest, assigned :: assignment =>
    let found := match assigned with
      | some _ => []
      | none => difference (.item place :: trail) .missing (some v) none
    c.andThen found (missingItems c trail (place + 1) rest assignment)
  | _, _ => []

def placesOf (p : Json → Bool) (start : Nat) : List Json → List Nat
  | [] => []
  | v :: rest => if p v then start :: placesOf p (start + 1) rest else placesOf p (start + 1) rest

mutual

def compareAt (c : Comparison) (trail : List JsonStep) : Json → Json → List JsonDifference
  | string s, actual =>
    match Placeholder.ofString? s with
    | some p => compareWith (p.accepts actual) trail (string s) actual
    | none => compareWith ((string s).equal actual) trail (string s) actual
  | object es, object as =>
    let found := compareMembers c trail es as
    match c.matchType with
    | .strict => c.andThen found (extraMembers c trail es as)
    | .onlyMatchingFields => found
  | array es, array as =>
    match c.matchType with
    | .strict => compareItems c trail 0 es as
    | .onlyMatchingFields =>
      missingItems c trail 0 es (Assignment.ofEdges (itemChoices c.matchType es as) as.length)
  | number e, number a => compareWith (e.same a) trail (number e) (number a)
  | null, actual => compareWith (null.equal actual) trail null actual
  | bool b, actual => compareWith ((bool b).equal actual) trail (bool b) actual
  | expected, actual => compareWith (expected.equal actual) trail expected actual
termination_by structural e => e

def compareMembers (c : Comparison) (trail : List JsonStep) :
    List (String × Json) → List (String × Json) → List JsonDifference
  | [], _ => []
  | (n, e) :: rest, as =>
    let found := match lookup n as with
      | some a => compareAt c (.member n :: trail) e a
      | none => difference (.member n :: trail) .missing (some e) none
    c.andThen found (compareMembers c trail rest as)
termination_by structural es => es

def compareItems (c : Comparison) (trail : List JsonStep) (place : Nat) :
    List Json → List Json → List JsonDifference
  | [], as => extraItems c trail place as
  | e :: rest, [] =>
    c.andThen (difference (.item place :: trail) .missing (some e) none)
      (compareItems c trail (place + 1) rest [])
  | e :: rest, a :: as =>
    c.andThen (compareAt c (.item place :: trail) e a) (compareItems c trail (place + 1) rest as)
termination_by structural es => es

/-- For each expected item, the places of the actual items without a difference to it. -/
def itemChoices (matchType : JsonMatchType) : List Json → List Json → List (List Nat)
  | [], _ => []
  | e :: rest, as =>
    placesOf (fun a => (compareAt ⟨matchType, true⟩ [] e a).isEmpty) 0 as ::
      itemChoices matchType rest as
termination_by structural es => es

end

def compare (expected actual : Json) (matchType : JsonMatchType) : List JsonDifference :=
  compareAt ⟨matchType, false⟩ [] expected actual

end Json
end RequestMatching
