import RequestMatching.Json.Value
import RequestMatching.Regex.Parser

/-!
# Queries on JSON values

A query walks down from the whole value, or from the current one inside a condition, and selects
members and items on its way. Conditions test for the existence of what a query selects and compare
single values.
-/

namespace RequestMatching

namespace JsonPath

inductive Order where
  | equal
  | unequal
  | less
  | lessOrEqual
  | greater
  | greaterOrEqual
  deriving DecidableEq

mutual

inductive Segment where
  | children (selectors : List Selector)
  | descendants (selectors : List Selector)

inductive Selector where
  | member (name : String)
  | all
  | item (place : Int)
  | slice (first last step : Option Int)
  | satisfying (condition : Condition)

inductive Condition where
  | or (left right : Condition)
  | and (left right : Condition)
  | not (condition : Condition)
  /-- The query selects something; `absolute` tells whether it starts from the whole value. -/
  | selects (absolute : Bool) (segments : List Segment)
  | compares (order : Order) (left right : Operand)
  /-- The text matches the expression, as a whole or in some part. -/
  | matching (whole : Bool) (text expression : Operand)

/-- What stands for at most one value in a condition. -/
inductive Operand where
  | literal (value : Json)
  | single (absolute : Bool) (segments : List Segment)
  | length (operand : Operand)
  | count (absolute : Bool) (segments : List Segment)
  | only (absolute : Bool) (segments : List Segment)

end

/-! ## Values -/

mutual

def descendants : Json → List Json
  | .array items => .array items :: descendantsOfItems items
  | .object members => .object members :: descendantsOfMembers members
  | v => [v]

def descendantsOfItems : List Json → List Json
  | [] => []
  | v :: rest => descendants v ++ descendantsOfItems rest

def descendantsOfMembers : List (String × Json) → List Json
  | [] => []
  | (_, v) :: rest => descendants v ++ descendantsOfMembers rest

end

def children : Json → List Json
  | .array items => items
  | .object members => members.map (·.2)
  | _ => []

def sameNumber : JsonNumber → JsonNumber → Bool
  | .integer i, .integer j => i == j
  | a, b => Binary64.eq a.toBinary64 b.toBinary64

def lessNumber : JsonNumber → JsonNumber → Bool
  | .integer i, .integer j => i < j
  | a, b => Binary64.lt a.toBinary64 b.toBinary64

mutual

def sameValue : Json → Json → Bool
  | .null, .null => true
  | .bool a, .bool b => a == b
  | .number a, .number b => sameNumber a b
  | .string a, .string b => a == b
  | .array a, .array b => sameItems a b
  | .object a, .object b => sameMembers a b
  | _, _ => false

def sameItems : List Json → List Json → Bool
  | [], [] => true
  | a :: as, b :: bs => sameValue a b && sameItems as bs
  | _, _ => false

def sameMembers : List (String × Json) → List (String × Json) → Bool
  | [], [] => true
  | (n, a) :: as, (m, b) :: bs => n == m && sameValue a b && sameMembers as bs
  | _, _ => false

end

def sameOperand : Option Json → Option Json → Bool
  | some a, some b => sameValue a b
  | none, none => true
  | _, _ => false

/-- Order of what operands stand for: numbers and strings have one. -/
def lessOperand : Option Json → Option Json → Bool
  | some (.number a), some (.number b) => lessNumber a b
  | some (.string a), some (.string b) => a < b
  | _, _ => false

namespace Order

def holds : Order → Option Json → Option Json → Bool
  | equal, a, b => sameOperand a b
  | unequal, a, b => !sameOperand a b
  | less, a, b => lessOperand a b
  | lessOrEqual, a, b => lessOperand a b || sameOperand a b
  | greater, a, b => lessOperand b a
  | greaterOrEqual, a, b => lessOperand b a || sameOperand a b

end Order

def lengthOf : Option Json → Option Json
  | some (.string s) => some (.number (.integer s.length))
  | some (.array items) => some (.number (.integer items.length))
  | some (.object members) => some (.number (.integer members.length))
  | _ => none

def onlyOf : List Json → Option Json
  | [v] => some v
  | _ => none

/-- Whether a text matches an expression, which is read with carriage returns as line ends. -/
def isMatching (whole : Bool) : Option Json → Option Json → Bool
  | some (.string text), some (.string expression) =>
    match Regex.parse ("(?R)" ++ if whole then "^(" ++ expression ++ ")$" else expression) with
    | .ok r => r.isMatch text
    | .error _ => false
  | _, _ => false

/-! ## Slices -/

def fromEnd (size place : Int) : Int :=
  if place < 0 then size + place else place

/-- The places from `first` towards `last` in steps, at most `n` of them. -/
def placesFrom (step last : Int) : Nat → Int → List Int
  | 0, _ => []
  | n + 1, place =>
    if (0 < step && place < last) || (step < 0 && last < place) then
      place :: placesFrom step last n (place + step)
    else []

def slicePlaces (first last step : Option Int) (size : Nat) : List Int :=
  let step := step.getD 1
  if 0 ≤ step then
    let first := (fromEnd size (first.getD 0)).toNat
    let last := (fromEnd size (last.getD size)).toNat
    placesFrom step (min last size) size (min first size)
  else
    let clamp (place : Int) : Int := max (-1) (min place (size - 1))
    let first := clamp ((first.map (fromEnd size)).getD (size - 1))
    let last := clamp ((last.map (fromEnd size)).getD (-1))
    placesFrom step last size first

def itemAt (items : List Json) (place : Int) : List Json :=
  if place < 0 then [] else items[place.toNat]?.toList

/-! ## Queries -/

mutual

def walk (root : Json) : List Segment → List Json → List Json
  | [], vs => vs
  | s :: rest, vs => walk root rest (vs.flatMap fun v => step root s v)

def step (root : Json) : Segment → Json → List Json
  | .children sels, v => selectAll root sels v
  | .descendants sels, v => (descendants v).flatMap fun d => selectAll root sels d

def selectAll (root : Json) : List Selector → Json → List Json
  | [], _ => []
  | s :: rest, v => select root s v ++ selectAll root rest v

def select (root : Json) : Selector → Json → List Json
  | .member name, .object members => (Json.lookup name members).toList
  | .member _, _ => []
  | .all, v => children v
  | .item place, .array items => itemAt items (fromEnd items.length place)
  | .item _, _ => []
  | .slice first last step, .array items =>
    (slicePlaces first last step items.length).flatMap (itemAt items)
  | .slice .., _ => []
  | .satisfying condition, v => (children v).filter fun child => holds root condition child

def holds (root : Json) : Condition → Json → Bool
  | .or left right, v => holds root left v || holds root right v
  | .and left right, v => holds root left v && holds root right v
  | .not condition, v => !holds root condition v
  | .selects absolute segments, v => !(walk root segments [if absolute then root else v]).isEmpty
  | .compares order left right, v => order.holds (operand root left v) (operand root right v)
  | .matching whole text expression, v =>
    isMatching whole (operand root text v) (operand root expression v)

def operand (root : Json) : Operand → Json → Option Json
  | .literal value, _ => some value
  | .single absolute segments, v => (walk root segments [if absolute then root else v]).head?
  | .length o, v => lengthOf (operand root o v)
  | .count absolute segments, v =>
    some (.number (.integer (walk root segments [if absolute then root else v]).length))
  | .only absolute segments, v => onlyOf (walk root segments [if absolute then root else v])

end

def selectsIn (query : List Segment) (value : Json) : Bool :=
  !(walk value query [value]).isEmpty

end JsonPath
end RequestMatching
