import RequestMatching.Number.Power
import RequestMatching.Text.Percent
import RequestMatching.Xml.Tree

/-!
# Reading XML

Well-formed documents with namespaces and without document type declarations. Each stretch of
characters, each reference and each marked section becomes a text of its own.
-/

namespace RequestMatching

namespace Xml

abbrev Reader (α : Type) := List Char → Option (α × List Char)

/-! ## Characters and names -/

def isBlankChar (c : Char) : Bool :=
  c = ' ' || c = '\t' || c = '\n' || c = '\r'

def skipBlank (cs : List Char) : List Char :=
  cs.dropWhile isBlankChar

def skipSomeBlank : List Char → Option (List Char)
  | c :: cs => if isBlankChar c then some (skipBlank cs) else none
  | [] => none

def skipWord : List Char → List Char → Option (List Char)
  | [], cs => some cs
  | w :: ws, c :: cs => if w = c then skipWord ws cs else none
  | _ :: _, [] => none

def nameStartRanges : List (Nat × Nat) :=
  [(0xC0, 0xD6), (0xD8, 0xF6), (0xF8, 0x2FF), (0x370, 0x37D), (0x37F, 0x1FFF), (0x200C, 0x200D),
   (0x2070, 0x218F), (0x2C00, 0x2FEF), (0x3001, 0xD7FF), (0xF900, 0xFDCF), (0xFDF0, 0xFFFD),
   (0x10000, 0xEFFFF)]

def isNameStart (c : Char) : Bool :=
  c.isAlpha || c = '_' || nameStartRanges.any fun (a, b) => a ≤ c.toNat && c.toNat ≤ b

def isNameChar (c : Char) : Bool :=
  isNameStart c || c.isDigit || c = '-' || c = '.' || c.toNat = 0xB7 ||
    (0x300 ≤ c.toNat && c.toNat ≤ 0x36F) || (0x203F ≤ c.toNat && c.toNat ≤ 0x2040)

def readPart : Reader String
  | [] => none
  | c :: cs =>
    if isNameStart c then some (.ofList (c :: cs.takeWhile isNameChar), cs.dropWhile isNameChar)
    else none

def readName : Reader (Option String × String) := fun cs => do
  let (first, rest) ← readPart cs
  match rest with
  | ':' :: more =>
    let (second, rest) ← readPart more
    some ((some first, second), rest)
  | _ => some ((none, first), rest)

def readTarget : Reader String
  | [] => none
  | c :: cs =>
    if isNameStart c || c = ':' then
      let isPart (c : Char) : Bool := isNameChar c || c = ':'
      some (.ofList (c :: cs.takeWhile isPart), cs.dropWhile isPart)
    else none

def readUntil (word : List Char) : Reader (List Char)
  | [] => if word.isEmpty then some ([], []) else none
  | c :: cs =>
    match skipWord word (c :: cs) with
    | some rest => some ([], rest)
    | none => (readUntil word cs).map fun (before, rest) => (c :: before, rest)

/-! ## References -/

def numberOf (base : Nat) (digits : List Char) : Option Nat :=
  digits.foldl (fun n d => do
    let n ← n
    let v ← hexValue? d
    if v < base && n * base + v < twoTo 32 then some (n * base + v) else none) (some 0)

def charOf (n : Nat) : Option Char :=
  if n < 0xD800 || (0xE000 ≤ n && n < 0x110000) then some (Char.ofNat n) else none

def refersTo (name : List Char) : Option Char :=
  match name with
  | '#' :: 'x' :: ds => if ds.isEmpty then none else (numberOf 16 ds).bind charOf
  | '#' :: ds => if ds.isEmpty then none else (numberOf 10 ds).bind charOf
  | _ =>
    if name = "lt".toList then some '<'
    else if name = "gt".toList then some '>'
    else if name = "amp".toList then some '&'
    else if name = "apos".toList then some '\''
    else if name = "quot".toList then some '"'
    else none

def readReference : Reader Char := fun cs => do
  let (name, rest) ← readUntil [';'] cs
  some (← refersTo name, rest)

/-! ## Tags -/

/-- The value of an attribute up to its quote; `n` bounds the number of its characters. -/
def readValueFrom (quote : Char) : Nat → List Char → Reader String
  | 0, _, _ => none
  | _ + 1, _, [] => none
  | n + 1, acc, c :: cs =>
    if c = quote then some (.ofList acc.reverse, cs)
    else if c = '<' then none
    else if c = '&' then do
      let (r, rest) ← readReference cs
      readValueFrom quote n (r :: acc) rest
    else readValueFrom quote n (c :: acc) cs

def readValue : Reader String
  | '"' :: cs => readValueFrom '"' (cs.length + 1) [] cs
  | '\'' :: cs => readValueFrom '\'' (cs.length + 1) [] cs
  | _ => none

def skipEquals (cs : List Char) : Option (List Char) :=
  match skipBlank cs with
  | '=' :: rest => some (skipBlank rest)
  | _ => none

abbrev RawAttribute := (Option String × String) × String

def readAttributes : Nat → Reader (List RawAttribute)
  | 0, _ => none
  | n + 1, cs =>
    match (skipSomeBlank cs).bind readName with
    | none => some ([], skipBlank cs)
    | some (name, rest) => do
      let (value, rest) ← readValue (← skipEquals rest)
      let (more, rest) ← readAttributes n rest
      some ((name, value) :: more, rest)

/-- What marks stand for inside an element, and the namespace of names without a mark. -/
structure Scope where
  marks : List (String × String) := []
  plain : Option String := none

def Scope.find? (s : Scope) (mark : String) : Option String :=
  if mark = "xml" then some reservedSpace else s.marks.lookup mark

/-- The marks that attributes give a meaning to; none may stand for the empty namespace. -/
def bindingsOf : List RawAttribute → Option (List (String × String))
  | [] => some []
  | ((some "xmlns", mark), value) :: rest => do
    if value.isEmpty then none
    some ((mark, value) :: (← bindingsOf rest))
  | _ :: rest => bindingsOf rest

def resolveAttributes (scope : Scope) : List RawAttribute → Option (List XmlAttribute)
  | [] => some []
  | ((some "xmlns", _), _) :: rest => resolveAttributes scope rest
  | ((none, "xmlns"), _) :: rest => resolveAttributes scope rest
  | ((none, part), value) :: rest => do
    some (⟨⟨none, part⟩, none, value⟩ :: (← resolveAttributes scope rest))
  | ((some mark, part), value) :: rest => do
    let space ← scope.find? mark
    some (⟨⟨some space, part⟩, some mark, value⟩ :: (← resolveAttributes scope rest))

/-- Attributes of which a later one replaces an earlier one of the same name. -/
def lastOfEach : List XmlAttribute → List XmlAttribute
  | [] => []
  | a :: rest => if rest.any (·.name = a.name) then lastOfEach rest else a :: lastOfEach rest

/-- The tag that a written name and written attributes make, and the scope inside the element. An
element with a mark does not pass on the namespace of names without one. -/
def resolveTag (outer : Scope) (name : Option String × String) (attributes : List RawAttribute) :
    Option (XmlTag × Scope) := do
  if !(attributes.map (·.1)).Nodup then none
  let bindings ← bindingsOf attributes
  let marks := bindings.reverse ++ outer.marks
  let (resolved, plain) ← match name with
    | (some mark, part) => do
      let space ← ({ marks } : Scope).find? mark
      pure (XmlName.mk (some space) part, outer.plain)
    | (none, part) =>
      match attributes.lookup (none, "xmlns") with
      | some "" => pure (XmlName.mk none part, none)
      | some space => pure (XmlName.mk (some space) part, some space)
      | none => pure (XmlName.mk outer.plain part, outer.plain)
  let inner : Scope := { marks, plain }
  let attributes ← resolveAttributes inner attributes
  some (⟨resolved, name.1, bindings, lastOfEach attributes⟩, inner)

/-! ## Comments, instructions and the declaration -/

def readComment : Reader XmlNode := fun cs => do
  let (body, rest) ← readUntil ['-', '-'] cs
  match rest with
  | '>' :: rest => some (.comment (.ofList body), rest)
  | _ => none

def readInstruction : Reader XmlNode := fun cs => do
  let (target, rest) ← readTarget cs
  if target.map Char.toLower = "xml" then none
  match skipWord ['?', '>'] rest with
  | some rest => some (.instruction target none, rest)
  | none =>
    let (value, rest) ← readUntil ['?', '>'] (← skipSomeBlank rest)
    some (.instruction target (some (.ofList value)), rest)

def readDeclared (name : String) (ok : List Char → Bool) (cs : List Char) : Option (List Char) := do
  let rest ← skipWord name.toList (← skipSomeBlank cs)
  let rest ← skipEquals rest
  match rest with
  | q :: rest =>
    if q = '"' || q = '\'' then
      let (value, rest) ← readUntil [q] rest
      if ok value then some rest else none
    else none
  | [] => none

def isVersion : List Char → Bool
  | '1' :: '.' :: ds => !ds.isEmpty && ds.all Char.isDigit
  | _ => false

def isEncoding : List Char → Bool
  | c :: cs => c.isAlpha && cs.all fun c => c.isAlphanum || c = '.' || c = '_' || c = '-'
  | [] => false

def skipDeclaration (cs : List Char) : Option (List Char) := do
  let rest ← skipWord "<?xml".toList cs
  let rest ← readDeclared "version" isVersion rest
  let rest := (readDeclared "encoding" isEncoding rest).getD rest
  let rest := (readDeclared "standalone" (fun v => v = "yes".toList || v = "no".toList) rest).getD rest
  skipWord ['?', '>'] (skipBlank rest)

/-! ## Content -/

def readChars : List Char → Option (List Char × List Char)
  | [] => some ([], [])
  | c :: cs =>
    if c = '<' || c = '&' then some ([], c :: cs)
    else if (skipWord [']', ']', '>'] (c :: cs)).isSome then none
    else (readChars cs).map fun (text, rest) => (c :: text, rest)

mutual

def readElement : Nat → Scope → Reader (XmlTag × List XmlNode)
  | 0, _, _ => none
  | n + 1, scope, cs => do
    let (name, rest) ← readName cs
    let (attributes, rest) ← readAttributes (rest.length + 1) rest
    let (tag, inner) ← resolveTag scope name attributes
    match rest with
    | '/' :: '>' :: rest => some ((tag, []), rest)
    | '>' :: rest =>
      let (children, rest) ← readContent n inner rest
      let (closing, rest) ← readName (← skipWord ['<', '/'] rest)
      match skipBlank rest with
      | '>' :: rest => if closing = name then some ((tag, children), rest) else none
      | _ => none
    | _ => none

def readContent : Nat → Scope → Reader (List XmlNode)
  | 0, _, _ => none
  | _ + 1, _, [] => none
  | n + 1, scope, '<' :: cs =>
    match cs with
    | '/' :: _ => some ([], '<' :: cs)
    | '!' :: '-' :: '-' :: cs => do
      let (comment, rest) ← readComment cs
      let (more, rest) ← readContent n scope rest
      some (comment :: more, rest)
    | '?' :: cs => do
      let (instruction, rest) ← readInstruction cs
      let (more, rest) ← readContent n scope rest
      some (instruction :: more, rest)
    | '!' :: cs => do
      let (text, rest) ← readUntil [']', ']', '>'] (← skipWord "[CDATA[".toList cs)
      let (more, rest) ← readContent n scope rest
      some (.text (.ofList text) :: more, rest)
    | cs => do
      let ((tag, children), rest) ← readElement n scope cs
      let (more, rest) ← readContent n scope rest
      some (.element tag children :: more, rest)
  | n + 1, scope, '&' :: cs => do
    let (c, rest) ← readReference cs
    let (more, rest) ← readContent n scope rest
    some (.text (.singleton c) :: more, rest)
  | n + 1, scope, cs => do
    let (text, rest) ← readChars cs
    let (more, rest) ← readContent n scope rest
    some (.text (.ofList text) :: more, rest)

end

def readOutside : Nat → Reader (List XmlNode)
  | 0, _ => none
  | n + 1, cs =>
    match skipBlank cs with
    | '<' :: '!' :: '-' :: '-' :: cs => do
      let (comment, rest) ← readComment cs
      let (more, rest) ← readOutside n rest
      some (comment :: more, rest)
    | '<' :: '?' :: cs => do
      let (instruction, rest) ← readInstruction cs
      let (more, rest) ← readOutside n rest
      some (instruction :: more, rest)
    | rest => some ([], rest)

def parse (s : String) : Option XmlDocument := do
  let cs := s.toList
  let cs := (skipDeclaration cs).getD cs
  let (before, rest) ← readOutside (cs.length + 1) cs
  match rest with
  | '<' :: cs =>
    let ((tag, children), rest) ← readElement (2 * cs.length + 2) {} cs
    let (after, rest) ← readOutside (rest.length + 1) rest
    if rest.isEmpty then some ⟨before, ⟨tag, children⟩, after⟩ else none
  | _ => none

end Xml
end RequestMatching
