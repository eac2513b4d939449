import RequestMatching.Number.Shortest

/-!
# JSON values

The members of an object are kept in the order of their names. A number is an integer of 64 bits
if it was written as one that fits, and a double-precision number otherwise.
-/

namespace RequestMatching

inductive JsonNumber where
  | integer (i : Int)
  | float (x : Binary64)
  deriving DecidableEq

inductive Json where
  | null
  | bool (b : Bool)
  | number (n : JsonNumber)
  | string (s : String)
  | array (items : List Json)
  | object (members : List (String × Json))

namespace JsonNumber

def layout : DecimalLayout where
  least := -5
  greatest := 15
  keepPoint := true
  infinity := "inf"
  nan := "NaN"

def text : JsonNumber → String
  | integer i => toString i
  | float x => layout.text x

def toBinary64 : JsonNumber → Binary64
  | integer i => .ofInt i
  | float x => x

/-- Numeric equality: of integers when both fit 64 bits with a sign or both without one, of the
double-precision values otherwise. -/
def same (a b : JsonNumber) : Bool :=
  match a, b with
  | integer i, integer j =>
    if (fitsSigned 64 i && fitsSigned 64 j) || (0 ≤ i && 0 ≤ j) then i == j
    else Binary64.eq (.ofInt i) (.ofInt j)
  | a, b => Binary64.eq a.toBinary64 b.toBinary64

/-- Equality of numbers as values: an integer never equals a floating point number. -/
def equal : JsonNumber → JsonNumber → Bool
  | integer i, integer j => i == j
  | float x, float y => Binary64.eq x y
  | _, _ => false

end JsonNumber

namespace Json

def lookup (name : String) : List (String × Json) → Option Json
  | [] => none
  | (n, v) :: rest => if n = name then some v else lookup name rest

def setMember (name : String) (value : Json) : List (String × Json) → List (String × Json)
  | [] => [(name, value)]
  | (n, v) :: rest =>
    if name < n then (name, value) :: (n, v) :: rest
    else if name = n then (name, value) :: rest
    else (n, v) :: setMember name value rest

/-- An object of the members in the order in which they were written; a later one replaces an
earlier one of the same name. -/
def ofMembers (members : List (String × Json)) : Json :=
  object (members.foldl (fun acc (n, v) => setMember n v acc) [])

mutual

def equal : Json → Json → Bool
  | null, null => true
  | bool a, bool b => a == b
  | number a, number b => a.equal b
  | string a, string b => a == b
  | array a, array b => equalItems a b
  | object a, object b => equalMembers a b
  | _, _ => false

def equalItems : List Json → List Json → Bool
  | [], [] => true
  | a :: as, b :: bs => equal a b && equalItems as bs
  | _, _ => false

def equalMembers : List (String × Json) → List (String × Json) → Bool
  | [], [] => true
  | (n, a) :: as, (m, b) :: bs => n == m && equal a b && equalMembers as bs
  | _, _ => false

end

def isNull : Json → Bool
  | null => true
  | _ => false

/-! ## Text -/

def escapeChar (c : Char) : List Char :=
  if c = '"' then ['\\', '"']
  else if c = '\\' then ['\\', '\\']
  else if c = '\x08' then ['\\', 'b']
  else if c = '\t' then ['\\', 't']
  else if c = '\n' then ['\\', 'n']
  else if c = '\x0C' then ['\\', 'f']
  else if c = '\r' then ['\\', 'r']
  else if c.toNat < 32 then
    '\\' :: 'u' :: '0' :: '0' :: [Nat.digitChar (c.toNat / 16), Nat.digitChar (c.toNat % 16)]
  else [c]

def quote (s : String) : String :=
  "\"" ++ .ofList (s.toList.flatMap escapeChar) ++ "\""

mutual

def text : Json → String
  | null => "null"
  | bool b => if b then "true" else "false"
  | number n => n.text
  | string s => quote s
  | array items => "[" ++ String.intercalate "," (itemTexts items) ++ "]"
  | object members => "\x7b" ++ String.intercalate "," (memberTexts members) ++ "\x7d"

def itemTexts : List Json → List String
  | [] => []
  | v :: rest => text v :: itemTexts rest

def memberTexts : List (String × Json) → List String
  | [] => []
  | (n, v) :: rest => (quote n ++ ":" ++ text v) :: memberTexts rest

end

def indented (level : Nat) (s : String) : String :=
  "\n" ++ .ofList (List.replicate (2 * level) ' ') ++ s

mutual

def pretty (level : Nat) : Json → String
  | array (v :: rest) =>
    "[" ++ String.intercalate "," (prettyItems (level + 1) (v :: rest)) ++ indented level "]"
  | object ((n, v) :: rest) =>
    "\x7b" ++ String.intercalate "," (prettyMembers (level + 1) ((n, v) :: rest)) ++
      indented level "\x7d"
  | array [] => "[]"
  | object [] => "\x7b\x7d"
  | null => "null"
  | bool b => if b then "true" else "false"
  | number n => n.text
  | string s => quote s

def prettyItems (level : Nat) : List Json → List String
  | [] => []
  | v :: rest => indented level (pretty level v) :: prettyItems level rest

def prettyMembers (level : Nat) : List (String × Json) → List String
  | [] => []
  | (n, v) :: rest =>
    indented level (quote n ++ ": " ++ pretty level v) :: prettyMembers level rest

end

end Json
end RequestMatching
