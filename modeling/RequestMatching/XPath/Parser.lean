import RequestMatching.XPath.Basic
import RequestMatching.Xml.Parser

/-!
# Reading path expressions

The text is cut into tokens first. A star or one of the words `and`, `or`, `mod` and `div` is an
operator wherever an operand stands before it; a word before a double colon is an axis, and one
before a parenthesis a function or a kind of node.
-/

namespace RequestMatching

namespace XPath

inductive Token where
  | slash
  | doubleSlash
  | open
  | close
  | openBracket
  | closeBracket
  | dot
  | doubleDot
  | atSign
  | comma
  | pipe
  | plus
  | minus
  | order (o : Order)
  | and
  | or
  | times
  | divide
  | remainder
  | axis (a : Axis)
  | kind (name : String)
  | function (name : String)
  | name (mark part : Option String)
  | literal (s : String)
  | number (x : Binary64)
  | reference (name : String)
  deriving DecidableEq

def Token.endsOperand : Token → Bool
  | close | closeBracket | dot | doubleDot | name .. | literal _ | number _ | reference _ => true
  | _ => false

def axisOf? : String → Option Axis
  | "ancestor" => some .ancestor
  | "ancestor-or-self" => some .ancestorOrSelf
  | "attribute" => some .attributes
  | "child" => some .child
  | "descendant" => some .descendant
  | "descendant-or-self" => some .descendantOrSelf
  | "following" => some .following
  | "following-sibling" => some .followingSibling
  | "namespace" => some .namespaces
  | "parent" => some .parent
  | "preceding" => some .preceding
  | "preceding-sibling" => some .precedingSibling
  | "self" => some .here
  | _ => none

def operatorOf? : String → Option Token
  | "and" => some .and
  | "or" => some .or
  | "mod" => some .remainder
  | "div" => some .divide
  | _ => none

def isKind (name : String) : Bool :=
  name = "node" || name = "text" || name = "comment" || name = "processing-instruction"

def joined (mark : Option String) (part : String) : String :=
  match mark with
  | some m => m ++ ":" ++ part
  | none => part

def readNamed (afterOperand : Bool) : Xml.Reader Token := fun cs => do
  let (first, rest) ← Xml.readPart cs
  match if afterOperand then operatorOf? first else none with
  | some t => some (t, rest)
  | none =>
    let after := Xml.skipBlank rest
    match Xml.skipWord [':', ':'] after with
    | some more => some (.axis (← axisOf? first), more)
    | none =>
      let (mark, part, rest) ← match rest with
        | ':' :: '*' :: more => some (some first, none, more)
        | ':' :: more =>
          match Xml.readPart more with
          | some (second, more) => some (some first, some second, more)
          | none => none
        | _ => some (none, some first, rest)
      match part, Xml.skipBlank rest with
      | some part, '(' :: _ =>
        if mark.isNone && isKind part then some (.kind part, rest)
        else some (.function (joined mark part), rest)
      | part, _ => some (.name mark part, rest)

def readNumber : Xml.Reader Token := fun cs =>
  let whole := cs.takeWhile Char.isDigit
  let rest := cs.dropWhile Char.isDigit
  let (fraction, rest) := match rest with
    | '.' :: more => ('.' :: more.takeWhile Char.isDigit, more.dropWhile Char.isDigit)
    | rest => ([], rest)
  (Binary64.ofChars? (whole ++ fraction)).map fun x => (.number x, rest)

def readToken (afterOperand : Bool) : Xml.Reader Token
  | [] => none
  | '/' :: '/' :: cs => some (.doubleSlash, cs)
  | '/' :: cs => some (.slash, cs)
  | '(' :: cs => some (.open, cs)
  | ')' :: cs => some (.close, cs)
  | '[' :: cs => some (.openBracket, cs)
  | ']' :: cs => some (.closeBracket, cs)
  | '.' :: '.' :: cs => some (.doubleDot, cs)
  | '@' :: cs => some (.atSign, cs)
  | ',' :: cs => some (.comma, cs)
  | '|' :: cs => some (.pipe, cs)
  | '+' :: cs => some (.plus, cs)
  | '-' :: cs => some (.minus, cs)
  | '!' :: '=' :: cs => some (.order .unequal, cs)
  | '=' :: cs => some (.order .equal, cs)
  | '<' :: '=' :: cs => some (.order .lessOrEqual, cs)
  | '>' :: '=' :: cs => some (.order .greaterOrEqual, cs)
  | '<' :: cs => some (.order .less, cs)
  | '>' :: cs => some (.order .greater, cs)
  | '*' :: cs => some (if afterOperand then .times else .name none none, cs)
  | '$' :: cs => (Xml.readName cs).map fun ((mark, part), rest) => (.reference (joined mark part), rest)
  | '"' :: cs => (Xml.readUntil ['"'] cs).map fun (s, rest) => (.literal (.ofList s), rest)
  | '\'' :: cs => (Xml.readUntil ['\''] cs).map fun (s, rest) => (.literal (.ofList s), rest)
  | '.' :: c :: cs => if c.isDigit then readNumber ('.' :: c :: cs) else some (.dot, c :: cs)
  | ['.'] => some (.dot, [])
  | c :: cs => if c.isDigit then readNumber (c :: cs) else readNamed afterOperand (c :: cs)

def tokensFrom : Nat → Bool → List Char → Option (List Token)
  | 0, _, _ => none
  | n + 1, afterOperand, cs =>
    match Xml.skipBlank cs with
    | [] => some []
    | cs => do
      let (t, rest) ← readToken afterOperand cs
      let more ← tokensFrom n t.endsOperand rest
      some (t :: more)

abbrev Parser (α : Type) := List Token → Option (α × List Token)

def anyDepth : Step :=
  .mk .descendantOrSelf .any []

def readTest : Parser NodeTest
  | .name mark part :: ts => some (.name mark part, ts)
  | .kind "node" :: .open :: .close :: ts => some (.any, ts)
  | .kind "text" :: .open :: .close :: ts => some (.text, ts)
  | .kind "comment" :: .open :: .close :: ts => some (.comment, ts)
  | .kind "processing-instruction" :: .open :: .close :: ts => some (.instruction none, ts)
  | .kind "processing-instruction" :: .open :: .literal s :: .close :: ts =>
    some (.instruction (some s), ts)
  | _ => none

def readStepHead : Parser (Axis × NodeTest)
  | .dot :: ts => some ((.here, .any), ts)
  | .doubleDot :: ts => some ((.parent, .any), ts)
  | .atSign :: ts => (readTest ts).map fun (t, rest) => ((.attributes, t), rest)
  | .axis a :: ts => (readTest ts).map fun (t, rest) => ((a, t), rest)
  | ts => (readTest ts).map fun (t, rest) => ((.child, t), rest)

def Token.startsStep : Token → Bool
  | dot | doubleDot | atSign | axis _ | name .. | kind _ => true
  | _ => false

/-- The operators of each level, from the one that binds least. -/
def operatorAt : Nat → Token → Option (Expr → Expr → Expr)
  | 0, .or => some .or
  | 1, .and => some .and
  | 2, .order .equal => some (.compare .equal)
  | 2, .order .unequal => some (.compare .unequal)
  | 3, .order .less => some (.compare .less)
  | 3, .order .lessOrEqual => some (.compare .lessOrEqual)
  | 3, .order .greater => some (.compare .greater)
  | 3, .order .greaterOrEqual => some (.compare .greaterOrEqual)
  | 4, .plus => some (.arithmetic .add)
  | 4, .minus => some (.arithmetic .subtract)
  | 5, .times => some (.arithmetic .multiply)
  | 5, .divide => some (.arithmetic .divide)
  | 5, .remainder => some (.arithmetic .remainder)
  | _, _ => none

mutual

/-- An expression whose operators bind at least as much as those of a level. -/
def readLevel : Nat → Nat → Parser Expr
  | 0, _, _ => none
  | n + 1, level, ts =>
    if level < 6 then do
      let (left, rest) ← readLevel n (level + 1) ts
      readMore n level left rest
    else readUnary n ts

def readMore : Nat → Nat → Expr → Parser Expr
  | 0, _, _, _ => none
  | _ + 1, _, left, [] => some (left, [])
  | n + 1, level, left, t :: ts =>
    match operatorAt level t with
    | none => some (left, t :: ts)
    | some op => do
      let (right, rest) ← readLevel n (level + 1) ts
      readMore n level (op left right) rest

def readUnary : Nat → Parser Expr
  | 0, _ => none
  | n + 1, .minus :: ts => (readUnary n ts).map fun (e, rest) => (.negate e, rest)
  | n + 1, ts => do
    let (left, rest) ← readPath n ts
    readUnion n left rest

def readUnion : Nat → Expr → Parser Expr
  | 0, _, _ => none
  | n + 1, left, .pipe :: ts => do
    let (right, rest) ← readPath n ts
    readUnion n (.union left right) rest
  | _ + 1, left, ts => some (left, ts)

def readPath : Nat → Parser Expr
  | 0, _ => none
  | n + 1, .slash :: t :: ts =>
    if t.startsStep then
      (readSteps n (t :: ts)).map fun (steps, rest) => (.path true steps, rest)
    else some (.path true [], t :: ts)
  | _ + 1, [.slash] => some (.path true [], [])
  | n + 1, .doubleSlash :: ts =>
    (readSteps n ts).map fun (steps, rest) => (.path true (anyDepth :: steps), rest)
  | n + 1, t :: ts =>
    if t.startsStep then
      (readSteps n (t :: ts)).map fun (steps, rest) => (.path false steps, rest)
    else do
      let (e, rest) ← readPrimary n (t :: ts)
      let (conditions, rest) ← readConditions n rest
      let e := if conditions.isEmpty then e else .filter e conditions
      match rest with
      | .slash :: more => (readSteps n more).map fun (steps, rest) => (.startingAt e steps, rest)
      | .doubleSlash :: more =>
        (readSteps n more).map fun (steps, rest) => (.startingAt e (anyDepth :: steps), rest)
      | rest => some (e, rest)
  | _ + 1, [] => none

def readSteps : Nat → Parser (List Step)
  | 0, _ => none
  | n + 1, ts => do
    let ((axis, test), rest) ← readStepHead ts
    let (conditions, rest) ← readConditions n rest
    let step := Step.mk axis test conditions
    match rest with
    | .slash :: more => (readSteps n more).map fun (steps, rest) => (step :: steps, rest)
    | .doubleSlash :: more =>
      (readSteps n more).map fun (steps, rest) => (step :: anyDepth :: steps, rest)
    | rest => some ([step], rest)

def readConditions : Nat → Parser (List Expr)
  | 0, _ => none
  | n + 1, .openBracket :: ts => do
    let (e, rest) ← readLevel n 0 ts
    match rest with
    | .closeBracket :: rest =>
      (readConditions n rest).map fun (more, rest) => (e :: more, rest)
    | _ => none
  | _ + 1, ts => some ([], ts)

def readPrimary : Nat → Parser Expr
  | 0, _ => none
  | n + 1, .open :: ts => do
    let (e, rest) ← readLevel n 0 ts
    match rest with
    | .close :: rest => some (e, rest)
    | _ => none
  | _ + 1, .literal s :: ts => some (.literal s, ts)
  | _ + 1, .number x :: ts => some (.number x, ts)
  | _ + 1, .reference name :: ts => some (.variable name, ts)
  | _ + 1, .function name :: .open :: .close :: ts => some (.call name [], ts)
  | n + 1, .function name :: .open :: ts =>
    (readArguments n ts).map fun (arguments, rest) => (.call name arguments, rest)
  | _ + 1, _ => none

def readArguments : Nat → Parser (List Expr)
  | 0, _ => none
  | n + 1, ts => do
    let (e, rest) ← readLevel n 0 ts
    match rest with
    | .comma :: more => (readArguments n more).map fun (es, rest) => (e :: es, rest)
    | .close :: rest => some ([e], rest)
    | _ => none

end

def parse (s : String) : Option Expr := do
  let cs := s.toList
  let ts ← tokensFrom (cs.length + 1) false cs
  match ← readLevel (12 * ts.length + 12) 0 ts with
  | (e, []) => some e
  | _ => none

end XPath
end RequestMatching
