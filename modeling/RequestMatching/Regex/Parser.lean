import RequestMatching.Regex.Basic
import RequestMatching.Regex.Size
import RequestMatching.Text.Utf8

/-!
# Reading regular expressions

The parser goes through the characters once and keeps the open groups on a stack. Flags such as
`(?i)` hold to the end of the group they stand in, and the group of `(?i:…)` has flags of its own.
An expression is refused when it is malformed or able to match a part of a character. One that has been
read may still be beyond the limits of the engine, which are its own: at most 250 constructs in one
another and 10 MiB for what it compiles to.
-/

namespace RequestMatching.Regex

inductive Fault where
  | groupUnclosed
  | groupUnopened
  | groupName
  | lookAround
  | flag
  | nothingToRepeat
  | repetition
  | escape
  | backReference
  | classUnclosed
  | classRange
  | unknownProperty
  | notUnicode
  | nestedTooDeeply
  | tooLarge
  deriving DecidableEq

structure Flags where
  ignoreCase : Bool := false
  multiLine : Bool := false
  dotAll : Bool := false
  unicode : Bool := true
  crlf : Bool := false
  verbose : Bool := false

structure Piece where
  regex : Regex
  /-- How many constructs that may hold others are in one another. -/
  depth : Nat
  size : Size

inductive Atom where
  /-- `byte` tells that the character was written as two hexadecimal digits. -/
  | literal (c : Char) (byte : Bool)
  | set (s : CharSet)
  | look (l : Look)

structure Group where
  items : List (Option Piece)
  branches : List Piece
  flags : Flags
  captures : Bool

/-- The parser's state: finished branches and items of the innermost group, latest first; an item
that only sets flags is `none`. -/
structure State where
  items : List (Option Piece)
  branches : List Piece
  flags : Flags
  groups : List Group
  names : List String

/-! ## Characters -/

/-- What is left after white space and comments; the argument tells whether a comment is open. -/
def skipTrivia : Bool → List Char → List Char
  | _, [] => []
  | true, c :: cs => skipTrivia (c != '\n') cs
  | false, c :: cs =>
    if isSpace c then skipTrivia false cs
    else if c = '#' then skipTrivia true cs
    else c :: cs

def Flags.skip (f : Flags) (cs : List Char) : List Char :=
  if f.verbose then skipTrivia false cs else cs

def isNameChar (first : Bool) (c : Char) : Bool :=
  c = '_' || Property.alphabetic.holds c.toNat ||
    (!first && (c = '.' || c = '[' || c = ']' || (Category.of c.toNat).startsWith "N"))

def isMeta (c : Char) : Bool :=
  "\\.+*?()|[]\x7b\x7d^$#&-~".toList.contains c

def isEscapable (c : Char) : Bool :=
  isMeta c || (c.toNat < 128 && !c.isAlphanum && c != '<' && c != '>')

def charOf? (n : Nat) : Option Char :=
  if n.isValidChar then some (.ofNat n) else none

/-! ## Escapes -/

def hexDigits (f : Flags) : Nat → Nat → List Char → Except Fault (Nat × List Char)
  | 0, n, cs => .ok (n, cs)
  | _ + 1, _, [] => .error .escape
  | k + 1, n, c :: cs =>
    match hexValue c with
    | some d => hexDigits f k (n * 16 + d) (f.skip cs)
    | none => .error .escape
where
  hexValue (c : Char) : Option Nat :=
    if c.isDigit then some (c.toNat - 48)
    else if 'a' ≤ c && c ≤ 'f' then some (c.toNat - 87)
    else if 'A' ≤ c && c ≤ 'F' then some (c.toNat - 55)
    else none

def untilBrace (f : Flags) : Nat → List Char → Except Fault (List Char × List Char)
  | 0, _ | _, [] => .error .escape
  | fuel + 1, c :: cs =>
    if c = '}' then .ok ([], cs)
    else do
      let (inner, rest) ← untilBrace f fuel (f.skip cs)
      .ok (c :: inner, rest)

def bracedHex (f : Flags) (cs : List Char) : Except Fault (Atom × List Char) := do
  let (inner, rest) ← untilBrace f (cs.length + 1) (f.skip cs)
  if inner.isEmpty then throw .escape
  let (n, _) ← hexDigits f inner.length 0 inner
  match charOf? n with
  | some c => return (.literal c false, f.skip rest)
  | none => throw .escape

def plainHex (f : Flags) (width : Nat) (cs : List Char) : Except Fault (Atom × List Char) := do
  let (n, rest) ← hexDigits f width 0 cs
  match charOf? n with
  | some c => return (.literal c (width = 2), rest)
  | none => throw .escape

def hexEscape (f : Flags) (width : Nat) (cs : List Char) : Except Fault (Atom × List Char) :=
  match f.skip cs with
  | '{' :: cs => bracedHex f cs
  | cs => plainHex f width cs

def Flags.fold (f : Flags) (s : CharSet) : CharSet :=
  if f.ignoreCase then (if f.unicode then .folded s else .asciiFolded s) else s

/-- A set under the flags; it is complemented after it has been folded. -/
def Flags.finish (f : Flags) (negated : Bool) (s : CharSet) : Except Fault CharSet :=
  let set := CharSet.complIf negated (f.fold s)
  if f.unicode || set.isAscii then .ok set else .error .notUnicode

def cutAtUnequal : List Char → Option (List Char × List Char)
  | '!' :: '=' :: cs => some ([], cs)
  | c :: cs => (cutAtUnequal cs).map fun (a, b) => (c :: a, b)
  | [] => none

/-- The set that a property with its value stands for, and whether its complement is meant. -/
def propertyNamed (negated : Bool) (inner : List Char) : Option CharSet × Bool :=
  let name := String.ofList inner
  if let some (key, value) := cutAtUnequal inner then
    (CharSet.ofPropertyValue? (.ofList key) (.ofList value), !negated)
  else if let some (key, value) := Text.cutAt ':' name then
    (CharSet.ofPropertyValue? key value, negated)
  else if let some (key, value) := Text.cutAt '=' name then
    (CharSet.ofPropertyValue? key value, negated)
  else (CharSet.ofPropertyName? name, negated)

def propertyAtom (f : Flags) : Option CharSet × Bool → Except Fault Atom
  | (found, negated) => do
    if !f.unicode then throw .notUnicode
    match found with
    | some s => return .set (← f.finish negated s)
    | none => throw .unknownProperty

def bracedProperty (f : Flags) (negated : Bool) (cs : List Char) :
    Except Fault (Atom × List Char) := do
  let (inner, rest) ← untilBrace f (cs.length + 1) (f.skip cs)
  return (← propertyAtom f (propertyNamed negated inner), rest)

def letterProperty (f : Flags) (negated : Bool) : List Char → Except Fault (Atom × List Char)
  | [] => .error .escape
  | c :: cs => do
    if c = '\\' then throw .escape
    return (← propertyAtom f (CharSet.ofPropertyName? (.ofList [c]), negated), f.skip cs)

def propertyEscape (f : Flags) (negated : Bool) (cs : List Char) :
    Except Fault (Atom × List Char) :=
  match f.skip cs with
  | '{' :: cs => bracedProperty f negated cs
  | cs => letterProperty f negated cs

def perlClass (f : Flags) (c : Char) (rest : List Char) : Except Fault (Atom × List Char) := do
  let base := match c.toLower with
    | 'd' => if f.unicode then CharSet.digit else CharSet.asciiDigit
    | 's' => if f.unicode then CharSet.space else CharSet.asciiSpace
    | _ => if f.unicode then CharSet.word else CharSet.asciiWord
  let set := CharSet.complIf c.isUpper base
  if f.unicode || set.isAscii then return (.set set, rest) else throw .notUnicode

def boundaryNamed (ascii : Bool) (name : List Char) : Except Fault Atom :=
  match String.ofList name with
  | "start" => .ok (.look (.word ascii fun a b => !a && b))
  | "end" => .ok (.look (.word ascii fun a b => a && !b))
  | "start-half" => .ok (.look (.word ascii fun a _ => !a))
  | "end-half" => .ok (.look (.word ascii fun _ b => !b))
  | _ => .error .escape

/-- A word boundary such as `\b{start}`, after its `\b`. A brace that does not open a name is left. -/
def wordBoundary (f : Flags) (cs : List Char) : Except Fault (Atom × List Char) :=
  let ascii := !f.unicode
  let plain : Atom := .look (.word ascii fun a b => a != b)
  match cs with
  | '{' :: inner =>
    match f.skip inner with
    | [] => .error .escape
    | c :: _ =>
      if c.isAlpha || c = '-' then do
        let (name, rest) ← untilBrace f (inner.length + 1) (f.skip inner)
        return (← boundaryNamed ascii name, rest)
      else .ok (plain, cs)
  | _ => .ok (plain, cs)

def letterEscape (f : Flags) (c : Char) : List Char → Except Fault (Atom × List Char) :=
  match c with
  | 'x' => hexEscape f 2
  | 'u' => hexEscape f 4
  | 'U' => hexEscape f 8
  | 'p' => propertyEscape f false
  | 'P' => propertyEscape f true
  | 'd' | 's' | 'w' | 'D' | 'S' | 'W' => perlClass f c
  | 'a' => fun cs => .ok (.literal '\x07' false, cs)
  | 'f' => fun cs => .ok (.literal '\x0C' false, cs)
  | 't' => fun cs => .ok (.literal '\t' false, cs)
  | 'n' => fun cs => .ok (.literal '\n' false, cs)
  | 'r' => fun cs => .ok (.literal '\r' false, cs)
  | 'v' => fun cs => .ok (.literal '\x0B' false, cs)
  | 'A' => fun cs => .ok (.look .textStart, cs)
  | 'z' => fun cs => .ok (.look .textEnd, cs)
  | 'b' => wordBoundary f
  | 'B' => fun cs => .ok (.look (.word (!f.unicode) fun a b => a == b), cs)
  | '<' => fun cs => .ok (.look (.word (!f.unicode) fun a b => !a && b), cs)
  | '>' => fun cs => .ok (.look (.word (!f.unicode) fun a b => a && !b), cs)
  | _ => fun _ => .error .escape

def escape (f : Flags) : List Char → Except Fault (Atom × List Char)
  | [] => .error .escape
  | c :: cs =>
    if c.isDigit then .error .backReference
    else if isEscapable c then .ok (.literal c false, cs)
    else letterEscape f c cs

/-! ## Bracketed classes -/

inductive SetOp where
  | inter
  | diff
  | symmDiff

/-- A part of a class; a class or an operation in it is nested, and so are several items. -/
structure ClassPart where
  set : CharSet
  depth : Nat

/-- An open class: its items so far, latest first, and an operation that waits for its right side. -/
structure OpenClass where
  negated : Bool
  items : List ClassPart
  pending : Option (SetOp × ClassPart)

def itemsPart : List ClassPart → ClassPart
  | [] => ⟨.empty, 0⟩
  | [p] => p
  | ps => ps.foldr (fun p q => ⟨.union q.set p.set, Nat.max q.depth (p.depth + 1)⟩) ⟨.empty, 1⟩

def OpenClass.part (f : Flags) (o : OpenClass) : ClassPart :=
  let right := itemsPart o.items
  match o.pending with
  | none => right
  | some (op, left) =>
    let a := f.fold left.set
    let b := f.fold right.set
    let set : CharSet := match op with
      | .inter => .inter a b
      | .diff => .diff a b
      | .symmDiff => .symmDiff a b
    ⟨set, Nat.max left.depth right.depth + 1⟩

def OpenClass.add (o : OpenClass) (p : ClassPart) : OpenClass :=
  { o with items := p :: o.items }

def OpenClass.addSet (o : OpenClass) (s : CharSet) : OpenClass :=
  o.add ⟨s, 0⟩

def leadingHyphens (f : Flags) : Nat → OpenClass → List Char → OpenClass × List Char
  | fuel + 1, o, '-' :: cs => leadingHyphens f fuel (o.addSet (.single '-')) (f.skip cs)
  | _, o, cs => (o, cs)

/-- The start of the items of a class: a closing bracket, or else hyphens, are literal there. -/
def openItems (f : Flags) (negated : Bool) : List Char → OpenClass × List Char
  | ']' :: cs => (⟨negated, [⟨.single ']', 0⟩], none⟩, f.skip cs)
  | cs => leadingHyphens f (cs.length + 1) ⟨negated, [], none⟩ cs

def openClass (f : Flags) (cs : List Char) : OpenClass × List Char :=
  match f.skip cs with
  | '^' :: cs => openItems f true (f.skip cs)
  | cs => openItems f false cs

def namedSet? (cs : List Char) : Option (CharSet × List Char) :=
  let (name, rest) := cs.span (· != ':')
  match rest with
  | ':' :: ']' :: rest => (CharSet.named? (.ofList name)).map fun s => (s, rest)
  | _ => none

/-- An ASCII class such as `:alpha:]` or `:^alpha:]`, after the bracket that opens it, and whether it is
negated. -/
def namedClass? : List Char → Option ((Bool × CharSet) × List Char)
  | ':' :: '^' :: cs => (namedSet? cs).map fun (s, rest) => ((true, s), rest)
  | ':' :: cs => (namedSet? cs).map fun (s, rest) => ((false, s), rest)
  | _ => none

def classItem (f : Flags) : List Char → Except Fault (Atom × List Char)
  | [] => .error .classUnclosed
  | '\\' :: cs => escape f cs
  | c :: cs => .ok (.literal c false, cs)

def classLiteral (f : Flags) : Atom → Except Fault Nat
  | .literal c byte =>
    if f.unicode || byte || c.toNat < 128 then .ok c.toNat else .error .notUnicode
  | _ => .error .classRange

/-- What follows the hyphen of a range; one before a bracket or another hyphen makes no range. -/
def afterHyphen? (f : Flags) : List Char → Option (List Char)
  | '-' :: after =>
    match f.skip after with
    | ']' :: _ | '-' :: _ => none
    | cs => some cs
  | _ => none

def itemSet (f : Flags) : Atom → Except Fault CharSet
  | .set s => .ok s
  | .look _ => .error .escape
  | .literal c byte => do
    let a ← classLiteral f (.literal c byte)
    return .range a a

def rangeSet (f : Flags) (first last : Atom) : Except Fault CharSet := do
  let a ← classLiteral f first
  let b ← classLiteral f last
  if a ≤ b then return .range a b else throw .classRange

def rangeAfter (f : Flags) (first : Atom) (rest : List Char) : Except Fault (CharSet × List Char) :=
  match afterHyphen? f rest with
  | some cs => do
    let (last, rest) ← classItem f cs
    return (← rangeSet f first last, rest)
  | none => do
    return (← itemSet f first, rest)

def classRange (f : Flags) (cs : List Char) : Except Fault (CharSet × List Char) := do
  let (first, rest) ← classItem f cs
  rangeAfter f first (f.skip rest)

def OpenClass.operate (f : Flags) (o : OpenClass) (op : SetOp) : OpenClass :=
  ⟨o.negated, [], some (op, o.part f)⟩

def OpenClass.close (f : Flags) (o : OpenClass) : Except Fault ClassPart := do
  let part := o.part f
  return ⟨← f.finish o.negated part.set, part.depth + 1⟩

/-- Reads a class whose bracket has been opened; `outer` are the classes around it. -/
def classBody (f : Flags) : Nat → OpenClass → List OpenClass → List Char →
    Except Fault (ClassPart × List Char)
  | 0, _, _, _ => .error .classUnclosed
  | fuel + 1, inner, outer, cs =>
    match f.skip cs with
    | [] => .error .classUnclosed
    | '[' :: cs =>
      match namedClass? cs with
      | some ((negated, s), rest) => do
        classBody f fuel (inner.addSet (← f.finish negated s)) outer rest
      | none =>
        let (o, rest) := openClass f cs
        classBody f fuel o (inner :: outer) rest
    | ']' :: cs => do
      let part ← inner.close f
      match outer with
      | [] => .ok (part, cs)
      | parent :: outer => classBody f fuel (parent.add part) outer cs
    | '&' :: '&' :: cs => classBody f fuel (inner.operate f .inter) outer cs
    | '-' :: '-' :: cs => classBody f fuel (inner.operate f .diff) outer cs
    | '~' :: '~' :: cs => classBody f fuel (inner.operate f .symmDiff) outer cs
    | cs => do
      let (s, rest) ← classRange f cs
      classBody f fuel (inner.addSet s) outer rest

/-! ## Repetition -/

def decimal? (f : Flags) : Nat → Option Nat → List Char → Option Nat × List Char
  | 0, n, cs => (n, cs)
  | fuel + 1, n, c :: cs =>
    if c.isDigit then decimal? f fuel (some (n.getD 0 * 10 + (c.toNat - 48))) (f.skip cs)
    else (n, c :: cs)
  | _, n, [] => (n, [])

def repeatCount (f : Flags) (cs : List Char) : Except Fault (Nat × List Char) :=
  let cs := cs.dropWhile isSpace
  match decimal? f (cs.length + 1) none cs with
  | (some n, rest) =>
    if n < twoTo 32 then .ok (n, rest.dropWhile isSpace) else .error .repetition
  | (none, _) => .error .repetition

def repeatEnd (min max : Nat) : List Char → Except Fault ((Nat × Option Nat) × List Char)
  | '}' :: rest => if min ≤ max then .ok ((min, some max), rest) else .error .repetition
  | _ => .error .repetition

def repeatMax (f : Flags) (min : Nat) (cs : List Char) :
    Except Fault ((Nat × Option Nat) × List Char) :=
  match f.skip cs with
  | '}' :: rest => .ok ((min, none), rest)
  | cs => do
    let (max, rest) ← repeatCount f cs
    repeatEnd min max rest

def repeatRest (f : Flags) (min : Nat) : List Char → Except Fault ((Nat × Option Nat) × List Char)
  | '}' :: rest => .ok ((min, some min), rest)
  | ',' :: rest => repeatMax f min rest
  | _ => .error .repetition

def repeatBounds (f : Flags) (cs : List Char) : Except Fault ((Nat × Option Nat) × List Char) := do
  let (min, rest) ← repeatCount f (f.skip cs)
  repeatRest f min rest

def isWidthless : Regex → Bool
  | empty | look _ => true
  | char _ => false
  | cat a b | alt a b => a.isWidthless && b.isWidthless
  | rep r _ max => r.isWidthless || max == some 0

/-- Whether some match may be empty, as far as lengths tell. -/
def mayBeEmpty : Regex → Bool
  | empty | look _ => true
  | char _ => false
  | cat a b => a.mayBeEmpty && b.mayBeEmpty
  | alt a b => a.mayBeEmpty || b.mayBeEmpty
  | rep r min _ => min == 0 || r.mayBeEmpty

/-- The size of a repetition. What is always empty is repeated once at most, and a repetition without end
needs a second turning if what it repeats may be empty. -/
def Piece.repSize (p : Piece) (min : Nat) (max : Option Nat) : Size :=
  let turning := Size.union 2
  let counts := if p.regex.isWidthless then (Nat.min min 1, some (Nat.min (max.getD 1) 1)) else (min, max)
  match counts with
  | (0, none) => if p.regex.mayBeEmpty then p.size + turning + turning + .states 1 else p.size + turning
  | (min, none) => p.size.times min + turning
  | (min, some max) =>
    if max = 0 then .states 1
    else if min = max then p.size.times min
    else
      let ends := if min = 0 && max != 1 then 2 else 1
      p.size.times min + (p.size + turning).times (max - min) + .states ends

def Piece.rep (p : Piece) (min : Nat) (max : Option Nat) : Piece :=
  ⟨.rep p.regex min max, p.depth + 1, p.repSize min max⟩

def State.repeatLast (s : State) (min : Nat) (max : Option Nat) : Except Fault State :=
  match s.items with
  | some p :: items => .ok { s with items := some (p.rep min max) :: items }
  | _ => .error .nothingToRepeat

def dropLazy : List Char → List Char
  | '?' :: cs => cs
  | cs => cs

/-! ## Groups and flags -/

/-- A concatenation of the items, which are given latest first. -/
def sequencePiece : List (Option Piece) → Piece
  | [] | [none] => ⟨.empty, 0, .states 1⟩
  | [some p] => p
  | items =>
    items.foldl (fun after item =>
      match item with
      | none => after
      | some p =>
        { regex := .cat p.regex after.regex, depth := Nat.max (p.depth + 1) after.depth,
          size := p.size + after.size }) ⟨.empty, 1, .states 0⟩

def choicePiece (last : Piece) : List Piece → Piece
  | [] => last
  | branches =>
    branches.foldl (fun after p =>
      { regex := .alt p.regex after.regex, depth := Nat.max (p.depth + 1) after.depth,
        size := p.size + after.size })
      ⟨last.regex, last.depth + 1, last.size + .union (branches.length + 1) + .states 1⟩

def State.piece (s : State) : Piece :=
  choicePiece (sequencePiece s.items) s.branches

def State.push (s : State) (p : Piece) : State :=
  { s with items := some p :: s.items }

def State.openGroup (s : State) (flags : Flags) (captures : Bool) : State :=
  { s with items := [], branches := [], flags,
           groups := ⟨s.items, s.branches, s.flags, captures⟩ :: s.groups }

def Piece.grouped (p : Piece) (captures : Bool) : Piece :=
  ⟨p.regex, p.depth + 1, if captures then p.size + .capture else p.size⟩

def State.closeGroup (s : State) : Except Fault State :=
  match s.groups with
  | [] => .error .groupUnopened
  | g :: groups =>
    .ok { s with items := some (s.piece.grouped g.captures) :: g.items,
                 branches := g.branches, flags := g.flags, groups }

/-- The flags with one of them set or cleared. Which repetitions prefer fewer rounds (`U`) does not
change what is matched. -/
def Flags.set (f : Flags) (letter : Char) (on : Bool) : Option Flags :=
  match letter with
  | 'i' => some { f with ignoreCase := on }
  | 'm' => some { f with multiLine := on }
  | 's' => some { f with dotAll := on }
  | 'U' => some f
  | 'u' => some { f with unicode := on }
  | 'R' => some { f with crlf := on }
  | 'x' => some { f with verbose := on }
  | _ => none

/-- Reads flags up to a colon or a closing parenthesis, which is returned with them, and tells whether
there are none. `seen` are the letters so far, a hyphen among them. -/
def readFlags (f : Flags) (seen : List Char) :
    List Char → Except Fault ((Flags × Char × Bool) × List Char)
  | [] => .error .flag
  | c :: cs =>
    if c = ':' || c = ')' then
      if seen.head? = some '-' then .error .flag else .ok ((f, c, seen.isEmpty), cs)
    else if seen.contains c then .error .flag
    else if c = '-' then readFlags f (c :: seen) cs
    else match f.set c (!seen.contains '-') with
      | some f => readFlags f (c :: seen) cs
      | none => .error .flag

def groupName (first : Bool) : List Char → Except Fault (List Char × List Char)
  | [] => .error .groupName
  | '>' :: cs => if first then .error .groupName else .ok ([], cs)
  | c :: cs =>
    if isNameChar first c then (groupName false cs).map fun (name, rest) => (c :: name, rest)
    else .error .groupName

def State.openNamed (s : State) (cs : List Char) : Except Fault (State × List Char) := do
  let (name, rest) ← groupName true cs
  let name := String.ofList name
  if s.names.contains name then throw .groupName
  return ({ s with names := name :: s.names }.openGroup s.flags true, rest)

def State.flagGroup (s : State) (cs : List Char) : Except Fault (State × List Char) := do
  let ((flags, close, bare), rest) ← readFlags s.flags [] cs
  if close = ':' then return (s.openGroup flags false, rest)
  else if bare then throw .nothingToRepeat
  else return ({ s with items := none :: s.items, flags }, rest)

def State.angleGroup (s : State) : List Char → Except Fault (State × List Char)
  | '=' :: _ | '!' :: _ => .error .lookAround
  | cs => s.openNamed cs

def State.markedGroup (s : State) : List Char → Except Fault (State × List Char)
  | '=' :: _ | '!' :: _ => .error .lookAround
  | '<' :: cs => s.angleGroup cs
  | 'P' :: '<' :: cs => s.openNamed cs
  | cs => s.flagGroup cs

def State.group (s : State) (cs : List Char) : Except Fault (State × List Char) :=
  match s.flags.skip cs with
  | '?' :: cs => s.markedGroup cs
  | cs => .ok (s.openGroup s.flags true, cs)

/-! ## Expressions -/

def setPiece (s : CharSet) (depth : Nat) : Piece :=
  ⟨.char s, depth, s.size⟩

def lookPiece (l : Look) : Piece :=
  ⟨.look l, 0, .states 1⟩

def literalPiece (f : Flags) (c : Char) : Piece :=
  let set : CharSet := .single c
  let variants := if f.unicode then (caseOrbit c.toNat).length else (asciiOrbit c.toNat).length
  if f.ignoreCase && variants > 1 then
    setPiece (if f.unicode then .folded set else .asciiFolded set) 0
  else ⟨.char set, 0, .states (Utf8.encodeChar c).length⟩

def atomPiece (f : Flags) : Atom → Except Fault Piece
  | .literal c byte =>
    if !f.unicode && byte && c.toNat ≥ 128 then .error .notUnicode else .ok (literalPiece f c)
  | .set s => .ok (setPiece s 0)
  | .look l => .ok (lookPiece l)

def dotSet (f : Flags) : CharSet :=
  if f.dotAll then .range 0 0x10FFFF
  else if f.crlf then .compl (.ofRanges [(0xA, 0xA), (0xD, 0xD)])
  else .compl (.single '\n')

def State.bracket (s : State) (cs : List Char) : Except Fault (State × List Char) := do
  let (o, rest) := openClass s.flags cs
  let (part, rest) ← classBody s.flags (2 * rest.length + 2) o [] rest
  return (s.push (setPiece part.set part.depth), rest)

def State.counted (s : State) (cs : List Char) : Except Fault (State × List Char) :=
  match s.items with
  | some _ :: _ => do
    let ((min, max), rest) ← repeatBounds s.flags cs
    return (← s.repeatLast min max, dropLazy (s.flags.skip rest))
  | _ => .error .nothingToRepeat

def State.escaped (s : State) (cs : List Char) : Except Fault (State × List Char) := do
  let (atom, rest) ← escape s.flags cs
  return (s.push (← atomPiece s.flags atom), rest)

def State.step (s : State) (c : Char) : List Char → Except Fault (State × List Char) :=
  match c with
  | '(' => s.group
  | ')' => fun cs => (s.closeGroup).map (·, cs)
  | '|' => fun cs =>
    .ok ({ s with items := [], branches := sequencePiece s.items :: s.branches }, cs)
  | '[' => s.bracket
  | '?' => fun cs => (s.repeatLast 0 (some 1)).map (·, dropLazy cs)
  | '*' => fun cs => (s.repeatLast 0 none).map (·, dropLazy cs)
  | '+' => fun cs => (s.repeatLast 1 none).map (·, dropLazy cs)
  | '{' => s.counted
  | '\\' => s.escaped
  | '.' => fun cs =>
    if s.flags.unicode then .ok (s.push (setPiece (dotSet s.flags) 0), cs) else .error .notUnicode
  | '^' => fun cs =>
    let l : Look := if s.flags.multiLine then .lineStart s.flags.crlf else .textStart
    .ok (s.push (lookPiece l), cs)
  | '$' => fun cs =>
    let l : Look := if s.flags.multiLine then .lineEnd s.flags.crlf else .textEnd
    .ok (s.push (lookPiece l), cs)
  | c => fun cs => .ok (s.push (literalPiece s.flags c), cs)

def State.run : Nat → State → List Char → Except Fault State
  | 0, s, _ => .ok s
  | fuel + 1, s, cs =>
    match s.flags.skip cs with
    | [] => .ok s
    | c :: cs => do
      let (s, rest) ← s.step c cs
      s.run fuel rest

def State.complete (s : State) : Except Fault Piece :=
  if s.groups.isEmpty then .ok s.piece else .error .groupUnclosed

def State.start (f : Flags) : State :=
  ⟨[], [], f, [], []⟩

/-- What the characters spell when the reading starts under the flags. -/
def parsePiece (f : Flags) (cs : List Char) : Except Fault Piece := do
  (← (State.start f).run (cs.length + 1) cs).complete

def depthLimit : Nat := 250

def sizeLimit : Nat := 10 * 1024 * 1024

def Piece.accept (p : Piece) : Except Fault Regex :=
  if p.depth > depthLimit then .error .nestedTooDeeply
  else if (p.size + .frame).largest > sizeLimit then .error .tooLarge
  else .ok p.regex

def parseChars (f : Flags) (cs : List Char) : Except Fault Regex := do
  (← parsePiece f cs).accept

def parse (source : String) : Except Fault Regex :=
  parseChars {} source.toList

/-- The expression that has to match a whole text: the source is put between anchors as text. -/
def parseWhole (source : String) : Except Fault Regex :=
  parse ("^(?:" ++ source ++ ")$")

def parseWholeDotAll (source : String) : Except Fault Regex :=
  parse ("(?s)^(?:" ++ source ++ ")$")

end RequestMatching.Regex
