import RequestMatching.Json.Source
import RequestMatching.JsonPath.Basic

/-!
# Reading queries

The written form of queries. A function has to be given what it takes: `length`, `match` and
`search` take single values, `count` and `value` take queries.
-/

namespace RequestMatching

namespace JsonPath

abbrev Reader (α : Type) := List Char → Option (α × List Char)

def skipSpace (cs : List Char) : List Char :=
  cs.dropWhile fun c => c = ' ' || c = '\t' || c = '\n' || c = '\r'

def skipWord : List Char → List Char → Option (List Char)
  | [], cs => some cs
  | w :: ws, c :: cs => if w = c then skipWord ws cs else none
  | _ :: _, [] => none

/-! ## Names, numbers and strings -/

def isNameStart (c : Char) : Bool :=
  c.isAlpha || c = '_' || 0x80 ≤ c.toNat

def isNameChar (c : Char) : Bool :=
  isNameStart c || c.isDigit

def readName : Reader String
  | [] => none
  | c :: cs =>
    if isNameStart c then some (.ofList (c :: cs.takeWhile isNameChar), cs.dropWhile isNameChar)
    else none

def digitsValue (ds : List Char) : Nat :=
  ds.foldl (fun n d => n * 10 + (d.toNat - 48)) 0

/-- The digits of an integer: `0`, or some that do not begin with it. -/
def readDigits : Reader (List Char)
  | '0' :: cs => some (['0'], cs)
  | cs =>
    let ds := cs.takeWhile Char.isDigit
    if ds.isEmpty then none else some (ds, cs.dropWhile Char.isDigit)

def greatestInteger : Nat := twoTo 53 - 1

def readInteger : Reader Int := fun cs => do
  let (negative, cs) := match cs with
    | '-' :: cs => (true, cs)
    | cs => (false, cs)
  let (ds, rest) ← readDigits cs
  let n := digitsValue ds
  if n > greatestInteger || (negative && n = 0) then none
  else some (if negative then -n else n, rest)

def fractionOf : List Char → List Char
  | '.' :: cs =>
    let ds := cs.takeWhile Char.isDigit
    if ds.isEmpty then [] else '.' :: ds
  | _ => []

def signOf : List Char → List Char
  | '+' :: _ => ['+']
  | '-' :: _ => ['-']
  | _ => []

def exponentOf : List Char → List Char
  | c :: cs =>
    if c = 'e' || c = 'E' then
      let sign := signOf cs
      let ds := (cs.drop sign.length).takeWhile Char.isDigit
      if ds.isEmpty then [] else c :: (sign ++ ds)
    else []
  | [] => []

def readNumber : Reader Json := fun cs => do
  let (minus, cs) := match cs with
    | '-' :: cs => (['-'], cs)
    | cs => ([], cs)
  let (ds, rest) ← readDigits cs
  let fraction := fractionOf rest
  let rest := rest.drop fraction.length
  let exponent := exponentOf rest
  let rest := rest.drop exponent.length
  match Json.parse (.ofList (minus ++ ds ++ fraction ++ exponent)) with
  | .ok v => some (v, rest)
  | .error _ => none

def shortEscape? (quote c : Char) : Option Char :=
  if c = 'b' then some '\x08'
  else if c = 'f' then some '\x0C'
  else if c = 'n' then some '\n'
  else if c = 'r' then some '\r'
  else if c = 't' then some '\t'
  else if c = '/' || c = '\\' || c = quote then some c
  else none

def unitOf (a b c d : Char) : Option Nat := do
  let a ← hexValue? a
  let b ← hexValue? b
  let c ← hexValue? c
  let d ← hexValue? d
  some (((a * 16 + b) * 16 + c) * 16 + d)

/-- A string after its opening quote; `n` bounds the number of its characters. -/
def readStringFrom (quote : Char) : Nat → List Char → Reader String
  | 0, _, _ => none
  | _ + 1, _, [] => none
  | n + 1, acc, '\\' :: 'u' :: a :: b :: c :: d :: cs => do
    let u ← unitOf a b c d
    if 0xD800 ≤ u && u < 0xDC00 then
      match cs with
      | '\\' :: 'u' :: a :: b :: c :: d :: cs => do
        let v ← unitOf a b c d
        if 0xDC00 ≤ v && v < 0xE000 then
          let char := Char.ofNat (0x10000 + (u - 0xD800) * 0x400 + (v - 0xDC00))
          readStringFrom quote n (char :: acc) cs
        else none
      | _ => none
    else if 0xDC00 ≤ u && u < 0xE000 then none
    else readStringFrom quote n (Char.ofNat u :: acc) cs
  | n + 1, acc, '\\' :: c :: cs => do
    readStringFrom quote n ((← shortEscape? quote c) :: acc) cs
  | n + 1, acc, c :: cs =>
    if c = quote then some (.ofList acc.reverse, cs)
    else if c.toNat < 0x20 || c = '\\' then none
    else readStringFrom quote n (c :: acc) cs

def readString : Reader String
  | '"' :: cs => readStringFrom '"' (cs.length + 1) [] cs
  | '\'' :: cs => readStringFrom '\'' (cs.length + 1) [] cs
  | _ => none

def readLiteral : Reader Json := fun cs =>
  match readString cs with
  | some (s, rest) => some (.string s, rest)
  | none =>
    match skipWord "true".toList cs, skipWord "false".toList cs, skipWord "null".toList cs with
    | some rest, _, _ => some (.bool true, rest)
    | _, some rest, _ => some (.bool false, rest)
    | _, _, some rest => some (.null, rest)
    | _, _, _ => readNumber cs

/-! ## Selectors without conditions -/

def readOptional : Reader (Option Int) := fun cs =>
  match readInteger cs with
  | some (i, rest) => some (some i, rest)
  | none => some (none, cs)

def readSlice : Reader Selector := fun cs => do
  let (first, rest) ← readOptional cs
  match skipSpace rest with
  | ':' :: rest =>
    let (last, rest) ← readOptional (skipSpace rest)
    match skipSpace rest with
    | ':' :: more =>
      let (step, rest) ← readOptional (skipSpace more)
      some (.slice first last step, rest)
    | _ => some (.slice first last none, rest)
  | _ => none

def readPlainSelector : Reader Selector := fun cs =>
  match cs with
  | '*' :: rest => some (.all, rest)
  | _ =>
    match readString cs with
    | some (name, rest) => some (.member name, rest)
    | none =>
      match readSlice cs with
      | some r => some r
      | none => (readInteger cs).map fun (i, rest) => (.item i, rest)

def readOrder : Reader Order
  | '=' :: '=' :: cs => some (.equal, cs)
  | '!' :: '=' :: cs => some (.unequal, cs)
  | '<' :: '=' :: cs => some (.lessOrEqual, cs)
  | '>' :: '=' :: cs => some (.greaterOrEqual, cs)
  | '<' :: cs => some (.less, cs)
  | '>' :: cs => some (.greater, cs)
  | _ => none

/-- Whether a query is on a single value: it takes one member or item at each step. -/
def isSingle (segments : List Segment) : Bool :=
  segments.all fun
    | .children [.member _] | .children [.item _] => true
    | _ => false

def readFunction : Reader String := fun cs =>
  match cs with
  | [] => none
  | c :: _ =>
    let isPart (c : Char) : Bool := c.isLower || c = '_' || c.isDigit
    match c.isLower, cs.dropWhile isPart with
    | true, '(' :: rest => some (.ofList (cs.takeWhile isPart), rest)
    | _, _ => none

def readMark (mark : Char) (cs : List Char) : Option (List Char) :=
  match skipSpace cs with
  | c :: rest => if c = mark then some rest else none
  | [] => none

mutual

/-- The steps of a query, as far as they go; the number bounds the depth. -/
def readSegments : Nat → Reader (List Segment)
  | 0, _ => none
  | n + 1, cs =>
    match readSegment n (skipSpace cs) with
    | none => some ([], cs)
    | some (s, rest) => do
      let (more, rest) ← readSegments n rest
      some (s :: more, rest)

def readSegment : Nat → Reader Segment
  | 0, _ => none
  | n + 1, '.' :: '.' :: cs =>
    match cs with
    | '*' :: rest => some (.descendants [.all], rest)
    | '[' :: rest => (readSelectors n rest).map fun (sels, rest) => (.descendants sels, rest)
    | _ => (readName cs).map fun (name, rest) => (.descendants [.member name], rest)
  | _ + 1, '.' :: '*' :: rest => some (.children [.all], rest)
  | _ + 1, '.' :: cs => (readName cs).map fun (name, rest) => (.children [.member name], rest)
  | n + 1, '[' :: rest => (readSelectors n rest).map fun (sels, rest) => (.children sels, rest)
  | _ + 1, _ => none

def readSelectors : Nat → Reader (List Selector)
  | 0, _ => none
  | n + 1, cs => do
    let (s, rest) ← readSelector n (skipSpace cs)
    match skipSpace rest with
    | ']' :: rest => some ([s], rest)
    | ',' :: rest =>
      let (more, rest) ← readSelectors n rest
      some (s :: more, rest)
    | _ => none

def readSelector : Nat → Reader Selector
  | 0, _ => none
  | n + 1, '?' :: cs =>
    (readOr n (skipSpace cs)).map fun (condition, rest) => (.satisfying condition, rest)
  | _ + 1, cs => readPlainSelector cs

def readOr : Nat → Reader Condition
  | 0, _ => none
  | n + 1, cs => do
    let (left, rest) ← readAnd n cs
    match skipSpace rest with
    | '|' :: '|' :: more =>
      let (right, rest) ← readOr n (skipSpace more)
      some (.or left right, rest)
    | _ => some (left, rest)

def readAnd : Nat → Reader Condition
  | 0, _ => none
  | n + 1, cs => do
    let (left, rest) ← readBasic n cs
    match skipSpace rest with
    | '&' :: '&' :: more =>
      let (right, rest) ← readAnd n (skipSpace more)
      some (.and left right, rest)
    | _ => some (left, rest)

def readBasic : Nat → Reader Condition
  | 0, _ => none
  | n + 1, '!' :: cs =>
    let cs := skipSpace cs
    (readGroup n cs <|> readTest n cs).map fun (c, rest) => (.not c, rest)
  | n + 1, cs => readGroup n cs <|> readComparison n cs <|> readTest n cs

def readGroup : Nat → Reader Condition
  | n + 1, '(' :: cs => do
    let (c, rest) ← readOr n (skipSpace cs)
    some (c, ← readMark ')' rest)
  | _, _ => none

def readComparison : Nat → Reader Condition
  | 0, _ => none
  | n + 1, cs => do
    let (left, rest) ← readOperand n cs
    let (order, rest) ← readOrder (skipSpace rest)
    let (right, rest) ← readOperand n (skipSpace rest)
    some (.compares order left right, rest)

def readTest : Nat → Reader Condition
  | 0, _ => none
  | n + 1, cs =>
    match readQuery n cs with
    | some ((absolute, segments), rest) => some (.selects absolute segments, rest)
    | none => do
      let (name, rest) ← readFunction cs
      let whole ← if name = "match" then some true else if name = "search" then some false else none
      let (text, rest) ← readOperand n (skipSpace rest)
      let rest ← readMark ',' rest
      let (expression, rest) ← readOperand n (skipSpace rest)
      some (.matching whole text expression, ← readMark ')' rest)

def readQuery : Nat → Reader (Bool × List Segment)
  | n + 1, '$' :: cs => (readSegments n cs).map fun (segments, rest) => ((true, segments), rest)
  | n + 1, '@' :: cs => (readSegments n cs).map fun (segments, rest) => ((false, segments), rest)
  | _, _ => none

def readOperand : Nat → Reader Operand
  | 0, _ => none
  | n + 1, cs =>
    match readLiteral cs, readQuery n cs with
    | some (v, rest), _ => some (.literal v, rest)
    | none, some ((absolute, segments), rest) =>
      if isSingle segments then some (.single absolute segments, rest) else none
    | none, none => do
      let (name, rest) ← readFunction cs
      let rest := skipSpace rest
      if name = "length" then
        let (o, rest) ← readOperand n rest
        some (.length o, ← readMark ')' rest)
      else if name = "count" || name = "value" then
        let ((absolute, segments), rest) ← readQuery n rest
        let rest ← readMark ')' rest
        some (if name = "count" then .count absolute segments else .only absolute segments, rest)
      else none

end

def parse (s : String) : Option (List Segment) :=
  match s.toList with
  | '$' :: cs =>
    match readSegments (8 * cs.length + 8) cs with
    | some (segments, []) => some segments
    | _ => none
  | _ => none

end JsonPath
end RequestMatching
