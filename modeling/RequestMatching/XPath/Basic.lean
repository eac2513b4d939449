import RequestMatching.Number.Reader
import RequestMatching.Number.Shortest
import RequestMatching.Text.Blank
import RequestMatching.XPath.Nodes

/-!
# Path expressions

Expressions over the nodes of a document and their values: sets of nodes, booleans, numbers and
strings, each of which can be taken for the others.
-/

namespace RequestMatching

namespace XPath

inductive Axis where
  | ancestor
  | ancestorOrSelf
  | attributes
  | child
  | descendant
  | descendantOrSelf
  | following
  | followingSibling
  | namespaces
  | parent
  | preceding
  | precedingSibling
  | here
  deriving DecidableEq

inductive NodeTest where
  | any
  | text
  | comment
  | instruction (target : Option String)
  /-- A name; `none` for the part stands for any. -/
  | name (mark : Option String) (part : Option String)
  deriving DecidableEq

inductive Arithmetic where
  | add
  | subtract
  | multiply
  | divide
  | remainder
  deriving DecidableEq

inductive Order where
  | equal
  | unequal
  | less
  | lessOrEqual
  | greater
  | greaterOrEqual
  deriving DecidableEq

mutual

inductive Expr where
  | or (left right : Expr)
  | and (left right : Expr)
  | compare (order : Order) (left right : Expr)
  | arithmetic (op : Arithmetic) (left right : Expr)
  | negate (e : Expr)
  | union (left right : Expr)
  /-- Steps from the root, or from the current node. -/
  | path (absolute : Bool) (steps : List Step)
  /-- Steps from the nodes of an expression. -/
  | startingAt (start : Expr) (steps : List Step)
  | filter (e : Expr) (conditions : List Expr)
  | literal (s : String)
  | number (x : Binary64)
  | variable (name : String)
  | call (name : String) (arguments : List Expr)

inductive Step where
  | mk (axis : Axis) (test : NodeTest) (conditions : List Expr)

end

/-- The value of an expression. Sets of nodes are in document order. -/
inductive Value where
  | nodes (ns : List Nat)
  | boolean (b : Bool)
  | number (x : Binary64)
  | string (s : String)

def numberLayout : DecimalLayout where
  least := -400
  greatest := 400
  keepPoint := false
  infinity := "Infinity"
  nan := "NaN"

def numberOf (s : String) : Binary64 :=
  (Binary64.ofChars? (Text.trim s).toList).getD .nan

namespace Value

variable (d : Document)

def toText : Value → String
  | nodes [] => ""
  | nodes (n :: _) => d.text n
  | boolean b => if b then "true" else "false"
  | number x => numberLayout.text x
  | string s => s

def toNumber : Value → Binary64
  | boolean b => if b then .ofNat 1 else .zero
  | number x => x
  | v => numberOf (toText d v)

def toBool : Value → Bool
  | nodes ns => !ns.isEmpty
  | boolean b => b
  | number x => !(x.isNaN || x.eq .zero)
  | string s => !s.isEmpty

/-- Equality. Sets of nodes are equal to something if one of their nodes is. -/
def same : Value → Value → Bool
  | nodes ns, nodes ms => ns.any fun n => ms.any fun m => d.text n == d.text m
  | nodes ns, number x | number x, nodes ns => ns.any fun n => (numberOf (d.text n)).eq x
  | nodes ns, string s | string s, nodes ns => ns.any fun n => d.text n == s
  | boolean b, v | v, boolean b => b == toBool v
  | number x, v | v, number x => x.eq (toNumber d v)
  | string s, string t => s == t

def holds (order : Order) (a b : Value) : Bool :=
  match order with
  | .equal => same d a b
  | .unequal => !same d a b
  | .less => (toNumber d a).lt (toNumber d b)
  | .lessOrEqual => (toNumber d a).le (toNumber d b)
  | .greater => (toNumber d b).lt (toNumber d a)
  | .greaterOrEqual => (toNumber d b).le (toNumber d a)

end Value

def Arithmetic.apply : Arithmetic → Binary64 → Binary64 → Binary64
  | add, a, b => a.add b
  | subtract, a, b => a.sub b
  | multiply, a, b => a.mul b
  | divide, a, b => a.div b
  | remainder, a, b => a.rem b

/-- The nearest whole number, of two the greater one. -/
def roundHalfUp (x : Binary64) : Binary64 :=
  let low := x.floor
  if x.isNaN || low.eq x then x
  else
    let twice := (x.add x).sub low
    let r := twice.floor
    match x, r with
    | .finite true _, .finite false u => .finite true u
    | _, r => r

end XPath
end RequestMatching
