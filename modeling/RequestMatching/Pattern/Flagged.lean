import RequestMatching.Text.Blank
import RequestMatching.Text.Lowercase

/-!
# Flagged values

A text that may be negated and may be optional. It is written with `!` before a negated value and
`?` before an optional one, in either order; only the first mark of each kind is a flag.
-/

namespace RequestMatching

structure Flagged where
  value : String
  negated : Bool := false
  optional : Bool := false
  deriving DecidableEq

namespace Flagged

def plain (value : String) : Flagged :=
  { value }

/-- Takes one mark off the front, unless its flag is set already. -/
def takeMark : List Char × Bool × Bool → List Char × Bool × Bool
  | ('!' :: cs, false, optional) => (cs, true, optional)
  | ('?' :: cs, negated, false) => (cs, negated, true)
  | (cs, negated, optional) => (cs, negated, optional)

def parse (text : String) : Flagged :=
  let (rest, negated, optional) := takeMark (takeMark (text.toList, false, false))
  ⟨.ofList rest, negated, optional⟩

def text (v : Flagged) : String :=
  (if v.optional then "?" else "") ++ (if v.negated then "!" else "") ++ v.value

def isBlank (v : Flagged) : Bool :=
  Text.isBlank v.value

def withoutNegation (v : Flagged) : Flagged :=
  { v with negated := false }

def lowercase (v : Flagged) : Flagged :=
  { v with value := Text.lowercase v.value }

/-- Lower case character by character, but for each character after a backslash; `escaped` tells
whether one stands before. -/
def lowerPatternFrom (escaped : Bool) : List Char → List Char
  | [] => []
  | c :: cs =>
    if escaped then c :: lowerPatternFrom false cs
    else lowerChar c ++ lowerPatternFrom (c == '\\') cs

/-- The value in lower case where it is a pattern: `\D` keeps its meaning. -/
def lowercasePattern (v : Flagged) : Flagged :=
  { v with value := .ofList (lowerPatternFrom false v.value.toList) }

end Flagged
end RequestMatching
