import RequestMatching.XPath.Basic

/-!
# Values of path expressions

An expression is evaluated at a node with its position among others. Only what is evaluated can
fail: the second operand of `or` and `and` may not matter, and conditions matter only for nodes that
are there.
-/

namespace RequestMatching

namespace XPath

inductive Fault where
  | unknownFunction (name : String)
  | unknownVariable (name : String)
  | unboundMark (mark : String)
  | wrongArgumentCount
  | notNodes
  deriving DecidableEq

structure Setting where
  document : Document
  marks : List (String × String)

structure Focus where
  node : Nat
  position : Nat
  size : Nat

/-! ## Sets of nodes -/

def insertNode (n : Nat) : List Nat → List Nat
  | [] => [n]
  | m :: rest => if n < m then n :: m :: rest else if n = m then m :: rest else m :: insertNode n rest

def setOf (ns : List Nat) : List Nat :=
  ns.foldl (fun acc n => insertNode n acc) []

def nodesOfValue : Value → Except Fault (List Nat)
  | .nodes ns => .ok ns
  | _ => .error .notNodes

/-! ## Steps -/

def Axis.nodes (a : Axis) (d : Document) (n : Nat) : List Nat :=
  match a with
  | ancestor => d.ancestors n
  | ancestorOrSelf => n :: d.ancestors n
  | attributes => d.attributes n
  | child => d.children n
  | descendant => d.descendants n
  | descendantOrSelf => n :: d.descendants n
  | following =>
    (Document.between ((d.get n).last + 1) (d.nodes.size - 1)).filter d.isContent
  | followingSibling => (d.siblings n).filter (n < ·)
  | namespaces => d.namespaces n
  | parent => (d.get n).parent.toList
  | preceding =>
    ((List.range n).filter fun m => d.isContent m && (d.get m).last < n).reverse
  | precedingSibling => ((d.siblings n).filter (· < n)).reverse
  | here => [n]

def Axis.isPrincipal (a : Axis) (k : Kind) : Bool :=
  match a, k with
  | attributes, .attributeOf _ => true
  | namespaces, .namespaceOf .. => true
  | attributes, _ | namespaces, _ => false
  | _, .element _ => true
  | _, _ => false

def isNamed (space : Option String) (marked : Bool) (part : Option String) (name : XmlName) : Bool :=
  (if marked || part.isSome then name.space == space else true) && part.all (· == name.part)

def NodeTest.passes (t : NodeTest) (s : Setting) (a : Axis) (n : Nat) : Except Fault Bool :=
  let k := (s.document.get n).kind
  match t, k with
  | any, _ => .ok true
  | text, .text _ => .ok true
  | comment, .comment _ => .ok true
  | instruction none, .instruction .. => .ok true
  | instruction (some target), .instruction t _ => .ok (t == target)
  | name mark part, k => do
    let space ← match mark with
      | none => .ok none
      | some m =>
        match s.marks.lookup m with
        | some space => .ok (some space)
        | none => .error (.unboundMark m)
    .ok (a.isPrincipal k && (s.document.name? n).any (isNamed space mark.isSome part))
  | _, _ => .ok false

/-- The nodes that pass a condition, which is given each node with its position. -/
def selectFrom (condition : Focus → Except Fault Bool) (size : Nat) :
    Nat → List Nat → Except Fault (List Nat)
  | _, [] => .ok []
  | position, n :: rest => do
    let keep ← condition ⟨n, position, size⟩
    let more ← selectFrom condition size (position + 1) rest
    .ok (if keep then n :: more else more)

def testAll (t : NodeTest) (s : Setting) (a : Axis) : List Nat → Except Fault (List Nat)
  | [] => .ok []
  | n :: rest => do
    let keep ← t.passes s a n
    let more ← testAll t s a rest
    .ok (if keep then n :: more else more)

def collect (f : Nat → Except Fault (List Nat)) : List Nat → Except Fault (List Nat)
  | [] => .ok []
  | n :: rest => do
    let first ← f n
    let more ← collect f rest
    .ok (first ++ more)

/-! ## Functions -/

/-- The characters of a text after the first occurrence of another text, and before it. -/
def splitAt (part : List Char) : List Char → Option (List Char × List Char)
  | [] => if part.isEmpty then some ([], []) else none
  | c :: cs =>
    if part.isPrefixOf (c :: cs) then some ([], (c :: cs).drop part.length)
    else (splitAt part cs).map fun (before, after) => (c :: before, after)

/-- The characters from a position on, counted from one, as far as `stop` allows. -/
def substring (start : Binary64) (stop : Binary64) (position : Nat) : List Char → List Char
  | [] => []
  | c :: cs =>
    let p := Binary64.ofNat position
    let rest := substring start stop (position + 1) cs
    if start.le p && p.lt stop then c :: rest else rest

def normalizeSpace (s : String) : String :=
  let isBlank (c : Char) : Bool := c = ' ' || c = '\t' || c = '\n' || c = '\r'
  let words := Text.splitChars ' ' (s.toList.map fun c => if isBlank c then ' ' else c)
  String.intercalate " " ((words.filter fun w => !w.isEmpty).map .ofList)

/-- What a character is replaced with; the first replacement counts. -/
def replacement (c : Char) : List Char → List Char → List Char
  | [], _ => [c]
  | f :: fs, [] => if c = f then [] else replacement c fs []
  | f :: fs, t :: ts => if c = f then [t] else replacement c fs ts

def subject (f : Focus) : List Value → Except Fault (Option Nat)
  | [] => .ok (some f.node)
  | [v] => do return (← nodesOfValue v).head?
  | _ => .error .wrongArgumentCount

def subjectValue (f : Focus) : List Value → Except Fault Value
  | [] => .ok (.nodes [f.node])
  | [v] => .ok v
  | _ => .error .wrongArgumentCount

def numeric (d : Document) (op : Binary64 → Binary64) : List Value → Except Fault Value
  | [v] => .ok (.number (op (v.toNumber d)))
  | _ => .error .wrongArgumentCount

def textual (d : Document) (op : List Char → List Char → Value) : List Value → Except Fault Value
  | [a, b] => .ok (op (a.toText d).toList (b.toText d).toList)
  | _ => .error .wrongArgumentCount

def constant (v : Value) : List Value → Except Fault Value
  | [] => .ok v
  | _ => .error .wrongArgumentCount

def count (n : Nat) : Value :=
  .number (.ofNat n)

def call (d : Document) (f : Focus) (name : String) (arguments : List Value) : Except Fault Value :=
  match name with
  | "last" => constant (count f.size) arguments
  | "position" => constant (count f.position) arguments
  | "true" => constant (.boolean true) arguments
  | "false" => constant (.boolean false) arguments
  | "count" =>
    match arguments with
    | [v] => do return count (← nodesOfValue v).length
    | _ => .error .wrongArgumentCount
  | "sum" =>
    match arguments with
    | [v] => do
      let ns ← nodesOfValue v
      return .number (ns.foldl (fun x n => x.add (numberOf (d.text n))) .zero)
    | _ => .error .wrongArgumentCount
  | "local-name" => do
    let n ← subject f arguments
    return .string (((n.bind d.name?).map (·.part)).getD "")
  | "namespace-uri" => do
    let n ← subject f arguments
    return .string (((n.bind d.name?).bind (·.space)).getD "")
  | "name" => do
    let n ← subject f arguments
    return .string ((n.map d.writtenName).getD "")
  | "string" => do return .string ((← subjectValue f arguments).toText d)
  | "number" => do return .number ((← subjectValue f arguments).toNumber d)
  | "string-length" => do return count ((← subjectValue f arguments).toText d).length
  | "normalize-space" => do return .string (normalizeSpace ((← subjectValue f arguments).toText d))
  | "boolean" =>
    match arguments with
    | [v] => .ok (.boolean v.toBool)
    | _ => .error .wrongArgumentCount
  | "not" =>
    match arguments with
    | [v] => .ok (.boolean !v.toBool)
    | _ => .error .wrongArgumentCount
  | "concat" =>
    if arguments.length < 2 then .error .wrongArgumentCount
    else .ok (.string (String.join (arguments.map (Value.toText d))))
  | "starts-with" => textual d (fun a b => .boolean (b.isPrefixOf a)) arguments
  | "contains" => textual d (fun a b => .boolean (Text.hasInfix b a)) arguments
  | "substring-before" =>
    textual d (fun a b => .string (.ofList ((splitAt b a).map (·.1) |>.getD []))) arguments
  | "substring-after" =>
    textual d (fun a b => .string (.ofList ((splitAt b a).map (·.2) |>.getD []))) arguments
  | "substring" =>
    match arguments with
    | [s, a] =>
      .ok (.string (.ofList
        (substring (roundHalfUp (a.toNumber d)) (.infinite false) 1 (s.toText d).toList)))
    | [s, a, n] =>
      let start := roundHalfUp (a.toNumber d)
      let stop := start.add (roundHalfUp (n.toNumber d))
      .ok (.string (.ofList (substring start stop 1 (s.toText d).toList)))
    | _ => .error .wrongArgumentCount
  | "translate" =>
    match arguments with
    | [s, a, b] =>
      .ok (.string (.ofList ((s.toText d).toList.flatMap fun c =>
        replacement c (a.toText d).toList (b.toText d).toList)))
    | _ => .error .wrongArgumentCount
  | "floor" => numeric d .floor arguments
  | "ceiling" => numeric d .ceil arguments
  | "round" => numeric d roundHalfUp arguments
  | _ => .error (.unknownFunction name)

/-! ## Expressions -/

/-- Whether the value of a condition keeps the node in focus: a number is a position. -/
def keeps (f : Focus) : Value → Bool
  | .number x => (Binary64.ofNat f.position).eq x
  | v => v.toBool

mutual

def eval (s : Setting) : Expr → Focus → Except Fault Value
  | .or a b, f => do
    let x ← eval s a f
    if x.toBool then return .boolean true
    let y ← eval s b f
    return .boolean y.toBool
  | .and a b, f => do
    let x ← eval s a f
    if !x.toBool then return .boolean false
    let y ← eval s b f
    return .boolean y.toBool
  | .compare order a b, f => do
    let x ← eval s a f
    let y ← eval s b f
    return .boolean (Value.holds s.document order x y)
  | .arithmetic op a b, f => do
    let x ← eval s a f
    let y ← eval s b f
    return .number (op.apply (x.toNumber s.document) (y.toNumber s.document))
  | .negate a, f => do
    let x ← eval s a f
    return .number (x.toNumber s.document).neg
  | .union a b, f => do
    let x ← nodesOfValue (← eval s a f)
    let y ← nodesOfValue (← eval s b f)
    return .nodes (setOf (x ++ y))
  | .path absolute steps, f => do
    let ns ← walk s steps [if absolute then 0 else f.node]
    return .nodes ns
  | .startingAt start steps, f => do
    let ns ← nodesOfValue (← eval s start f)
    return .nodes (← walk s steps ns)
  | .filter a conditions, f => do
    let ns ← nodesOfValue (← eval s a f)
    return .nodes (← narrow s conditions ns)
  | .literal t, _ => .ok (.string t)
  | .number x, _ => .ok (.number x)
  | .variable name, _ => .error (.unknownVariable name)
  | .call name arguments, f => do
    call s.document f name (← evalAll s arguments f)

def evalAll (s : Setting) : List Expr → Focus → Except Fault (List Value)
  | [], _ => .ok []
  | e :: rest, f => do
    let v ← eval s e f
    let more ← evalAll s rest f
    .ok (v :: more)

def walk (s : Setting) : List Step → List Nat → Except Fault (List Nat)
  | [], ns => .ok ns
  | step :: rest, ns => do
    let found ← collect (fun n => take s step n) ns
    walk s rest (setOf found)

def take (s : Setting) : Step → Nat → Except Fault (List Nat)
  | .mk axis test conditions, n => do
    let ns ← testAll test s axis (axis.nodes s.document n)
    narrow s conditions ns

/-- The nodes that satisfy conditions, each of which counts those that the ones before it left. -/
def narrow (s : Setting) : List Expr → List Nat → Except Fault (List Nat)
  | [], ns => .ok ns
  | e :: rest, ns => do
    let kept ← selectFrom (fun f => (eval s e f).map (keeps f)) ns.length 1 ns
    narrow s rest kept

end

def isTrue (e : Expr) (marks : List (String × String)) (d : XmlDocument) : Except Fault Bool :=
  (eval ⟨⟨ofDocument d⟩, marks⟩ e ⟨0, 1, 1⟩).map Value.toBool

end XPath
end RequestMatching
