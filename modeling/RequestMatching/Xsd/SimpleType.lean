import RequestMatching.Number.Reader
import RequestMatching.Regex.Cache
import RequestMatching.Text.Utf8
import RequestMatching.Time.Reader

/-!
# Simple types

A simple type is a built-in type with restrictions, the ones of the type it comes from first. A text
is checked against the form of the built-in type and then against each restriction.
-/

namespace RequestMatching

namespace Xsd

inductive BuiltIn where
  | string
  | int
  | integer
  | long
  | short
  | decimal
  | double
  | float
  | boolean
  | date
  | dateTime
  | positiveInteger
  | nonNegativeInteger
  | anyUri
  deriving DecidableEq

namespace BuiltIn

def ofName? : String → Option BuiltIn
  | "string" | "anySimpleType" => some string
  | "int" => some int
  | "integer" => some integer
  | "long" => some long
  | "short" => some short
  | "decimal" => some decimal
  | "double" => some double
  | "float" => some float
  | "boolean" => some boolean
  | "date" => some date
  | "dateTime" => some dateTime
  | "positiveInteger" => some positiveInteger
  | "nonNegativeInteger" => some nonNegativeInteger
  | "anyURI" => some anyUri
  | _ => none

def name : BuiltIn → String
  | string => "string"
  | int => "int"
  | integer => "integer"
  | long => "long"
  | short => "short"
  | decimal => "decimal"
  | double => "double"
  | float => "float"
  | boolean => "boolean"
  | date => "date"
  | dateTime => "dateTime"
  | positiveInteger => "positiveInteger"
  | nonNegativeInteger => "nonNegativeInteger"
  | anyUri => "anyURI"

def isNumeric : BuiltIn → Bool
  | int | integer | long | short | decimal | double | float | positiveInteger
  | nonNegativeInteger => true
  | _ => false

end BuiltIn

/-- The integer of 128 bits that a text spells; a plus sign in front is dropped first. -/
def integerOf? (cs : List Char) : Option Int :=
  match cs with
  | '+' :: cs => Digits.signed? 128 cs
  | cs => Digits.signed? 128 cs

def isDecimal (cs : List Char) : Bool :=
  let cs := match cs with
    | '+' :: cs | '-' :: cs => cs
    | cs => cs
  let (whole, fraction) := (Text.cutChars '.' cs).getD (cs, [])
  (!whole.isEmpty || !fraction.isEmpty) && whole.all Char.isDigit && fraction.all Char.isDigit

/-- The floating point number that a text spells. No word but those of the three special values is
one. -/
def floatOf? (cs : List Char) : Option Binary64 :=
  if cs = "INF".toList then some (.infinite false)
  else if cs = "-INF".toList then some (.infinite true)
  else if cs = "NaN".toList then some .nan
  else if cs.any fun c => c.isAlpha && c ≠ 'e' && c ≠ 'E' then none
  else Binary64.ofChars? cs

def byteSize (cs : List Char) : Nat :=
  cs.foldl (fun n c => n + (Utf8.encodeChar c).length) 0

/-- A text cut where `n` bytes end, if a character ends there. -/
def cutBytes : Nat → List Char → Option (List Char × List Char)
  | 0, cs => some ([], cs)
  | _ + 1, [] => none
  | n + 1, c :: cs =>
    let size := (Utf8.encodeChar c).length
    if size ≤ n + 1 then (cutBytes (n + 1 - size) cs).map fun (a, b) => (c :: a, b) else none

/-- A date without its time zone: a `Z` at its end, or a sign with what follows it in a text of
sixteen bytes. -/
def withoutZone (cs : List Char) : List Char :=
  if cs.getLast? = some 'Z' then cs.dropLast
  else if byteSize cs = 16 then
    match cutBytes 10 cs with
    | some (date, c :: _) => if c = '+' || c = '-' then date else cs
    | _ => cs
  else cs

def isInteger (cs : List Char) (inRange : Int → Bool) : Bool :=
  (integerOf? cs).any inRange

def BuiltIn.check : BuiltIn → List Char → Bool
  | string, _ | anyUri, _ => true
  | int, cs => isInteger cs (fitsSigned 32)
  | long, cs => isInteger cs (fitsSigned 64)
  | short, cs => isInteger cs (fitsSigned 16)
  | integer, cs => isInteger cs fun _ => true
  | positiveInteger, cs => isInteger cs (0 < ·)
  | nonNegativeInteger, cs => isInteger cs (0 ≤ ·)
  | decimal, cs => isDecimal cs
  | double, cs | float, cs => (floatOf? cs).isSome
  | boolean, cs =>
    cs = "true".toList || cs = "false".toList || cs = ['1'] || cs = ['0']
  | date, cs => (CivilTime.ofDateText (withoutZone cs)).isOk
  | dateTime, cs =>
    (CivilTime.ofStrictText cs).isOk || (CivilTime.ofLocalText cs).isOk

structure Facets where
  enumeration : List String := []
  patterns : List Regex := []
  length : Option Nat := none
  minLength : Option Nat := none
  maxLength : Option Nat := none
  minInclusive : Option Binary64 := none
  maxInclusive : Option Binary64 := none
  minExclusive : Option Binary64 := none
  maxExclusive : Option Binary64 := none

namespace Facets

def isBounded (f : Facets) : Bool :=
  f.minInclusive.isSome || f.maxInclusive.isSome || f.minExclusive.isSome || f.maxExclusive.isSome

def isOutOfRange (f : Facets) (x : Binary64) : Bool :=
  f.minInclusive.any (x.lt ·) || f.maxInclusive.any (·.lt x) ||
    f.minExclusive.any (x.le ·) || f.maxExclusive.any (·.le x)

def checkRange (f : Facets) (value : String) : Except String Unit :=
  if f.isBounded then
    match floatOf? value.toList with
    | none => .error ("value '" ++ value ++ "' is not numeric")
    | some x =>
      if f.isOutOfRange x then .error ("value '" ++ value ++ "' is out of range") else .ok ()
  else .ok ()

def checkLength (f : Facets) (value : String) : Except String Unit :=
  let size := value.length
  let quoted := "value '" ++ value ++ "'"
  if f.length.any (size ≠ ·) then
    .error (quoted ++ s!" must have length {f.length.getD 0}")
  else if f.minLength.any (size < ·) then
    .error (quoted ++ s!" is shorter than {f.minLength.getD 0}")
  else if f.maxLength.any (· < size) then
    .error (quoted ++ s!" is longer than {f.maxLength.getD 0}")
  else .ok ()

def check (f : Facets) (value : String) : Except String Unit :=
  if !f.enumeration.isEmpty && !f.enumeration.contains value then
    .error ("value '" ++ value ++ "' is not one of [" ++ String.intercalate ", " f.enumeration ++ "]")
  else if !f.patterns.isEmpty && !f.patterns.any (·.isMatch value) then
    .error ("value '" ++ value ++ "' does not match the required pattern")
  else do
    f.checkLength value
    f.checkRange value

end Facets

structure SimpleType where
  base : BuiltIn
  restrictions : List Facets := []

namespace SimpleType

def checkAll (value : String) : List Facets → Except String Unit
  | [] => .ok ()
  | f :: rest => do
    f.check value
    checkAll value rest

/-- Checks a text. White space at its ends counts for strings only. -/
def check (t : SimpleType) (raw : String) : Except String Unit :=
  let value := if t.base = .string then raw else Text.trim raw
  if t.base.check value.toList then checkAll value t.restrictions
  else .error ("value '" ++ value ++ s!"' is not a valid {t.base.name}")

end SimpleType

end Xsd
end RequestMatching
