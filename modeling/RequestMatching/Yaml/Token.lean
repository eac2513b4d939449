import RequestMatching.Number.Reader

/-!
# Tokens of YAML

The text of a YAML stream as a row of tokens, in which indentation has become marks for the begin
and the end of blocks. What a mapping key is shows only at the colon behind it; then the mark of the
key is put in before the tokens of the key.
-/

namespace RequestMatching
namespace Yaml

inductive Token where
  | directive
  | documentStart
  | documentEnd
  | blockSequence
  | blockMapping
  | blockEnd
  | blockEntry
  | flowSequence
  | flowSequenceEnd
  | flowMapping
  | flowMappingEnd
  | flowEntry
  | key
  | value
  | anchor (name : String)
  | alias (name : String)
  | tag (name : String)
  | scalar (text : String) (plain : Bool)
  deriving DecidableEq

/-! ## Characters -/

/-- Whether a character ends a line. Other line ends than these are made into line feeds before. -/
def isBreak (c : Char) : Bool :=
  c = '\n' || c = '\u2028' || c = '\u2029'

def isBlank (c : Char) : Bool :=
  c = ' ' || c = '\t'

def atGap : List Char → Bool
  | [] => true
  | c :: _ => isBlank c || isBreak c

def isFlowMark (c : Char) : Bool :=
  [',', '[', ']', '{', '}'].contains c

def isAllowed (c : Char) : Bool :=
  let n := c.toNat
  n = 9 || n = 10 || n = 13 || n = 0x85 || (0x20 ≤ n && n ≤ 0x7E) || (0xA0 ≤ n && n ≤ 0xD7FF) ||
    (0xE000 ≤ n && n ≤ 0xFFFD && n ≠ 0xFEFF) || 0x10000 ≤ n

def normalize : List Char → List Char
  | [] => []
  | '\r' :: '\n' :: cs => '\n' :: normalize cs
  | c :: cs => (if c = '\r' || c = '\u0085' then '\n' else c) :: normalize cs

structure Cursor where
  rest : List Char
  line : Nat := 0
  column : Nat := 0
  index : Nat := 0

namespace Cursor

def step (p : Cursor) : Cursor :=
  match p.rest with
  | [] => p
  | c :: cs =>
    if isBreak c then ⟨cs, p.line + 1, 0, p.index + 1⟩
    else ⟨cs, p.line, p.column + 1, p.index + 1⟩

def skip : Nat → Cursor → Cursor
  | 0, p => p
  | n + 1, p => skip n p.step

def skipWhile (p : Cursor) (q : Char → Bool) : Cursor :=
  p.skip (p.rest.takeWhile q).length

def atDocumentMark (p : Cursor) : Bool :=
  p.column = 0 &&
    match p.rest with
    | a :: b :: c :: cs => (a = '-' || a = '.') && a = b && b = c && atGap cs
    | _ => false

end Cursor

/-! ## Scalars -/

/-- The text that line ends in a scalar stand for: a single one is a blank, and of several the first
is dropped. -/
def folded : List Char → List Char
  | [] => []
  | ['\n'] => [' ']
  | '\n' :: more => more
  | breaks => breaks

structure Gap where
  blanks : List Char := []
  breaks : List Char := []

def Gap.text (g : Gap) : List Char :=
  if g.breaks.isEmpty then g.blanks else folded g.breaks

/-- Reads a gap. After a line end no tab may stand before the column `indent`. -/
def readGap (indent : Nat) : Nat → Gap → Cursor → Option (Gap × Cursor)
  | 0, g, p => some (g, p)
  | fuel + 1, g, p =>
    match p.rest with
    | [] => some (g, p)
    | c :: _ =>
      if isBlank c then
        if g.breaks.isEmpty then readGap indent fuel { g with blanks := g.blanks ++ [c] } p.step
        else if c = '\t' && p.column < indent then none
        else readGap indent fuel g p.step
      else if isBreak c then readGap indent fuel { g with breaks := g.breaks ++ [c] } p.step
      else some (g, p)

def plainWord (flow : Bool) : List Char → Option (List Char)
  | [] => some []
  | c :: cs =>
    if isBlank c || isBreak c then some []
    else if flow && c = ':' && cs.head?.any (fun d => isFlowMark d || d = '?') then none
    else if (c = ':' && atGap cs) || (flow && isFlowMark c) then some []
    else (plainWord flow cs).map (c :: ·)

def readPlain (flow : Bool) (indent : Nat) :
    Nat → List Char → Gap → Cursor → Option (List Char × Bool × Cursor)
  | 0, _, _, _ => none
  | fuel + 1, acc, gap, p =>
    if p.atDocumentMark || p.rest.head? = some '#' then some (acc, !gap.breaks.isEmpty, p)
    else do
      let word ← plainWord flow p.rest
      let (acc, gap) := if word.isEmpty then (acc, gap) else (acc ++ gap.text ++ word, {})
      let p := p.skip word.length
      if p.rest.isEmpty || !atGap p.rest then return (acc, !gap.breaks.isEmpty, p)
      let (gap, p) ← readGap indent (p.rest.length + 1) {} p
      if !flow && p.column < indent then return (acc, !gap.breaks.isEmpty, p)
      readPlain flow indent fuel acc gap p

def escapes : List (Char × Char) :=
  [('0', '\x00'), ('a', '\x07'), ('b', '\x08'), ('t', '\t'), ('\t', '\t'), ('n', '\n'),
   ('v', '\x0b'), ('f', '\x0c'), ('r', '\r'), ('e', '\x1b'), (' ', ' '), ('"', '"'), ('/', '/'),
   ('\'', '\''), ('\\', '\\'), ('N', '\u0085'), ('_', '\u00a0'), ('L', '\u2028'), ('P', '\u2029')]

def codeLength : Char → Option Nat
  | 'x' => some 2
  | 'u' => some 4
  | 'U' => some 8
  | _ => none

def hexDigit? (c : Char) : Option Nat :=
  if c.isDigit then some (c.toNat - 48)
  else if 'a' ≤ c && c ≤ 'f' then some (c.toNat - 87)
  else if 'A' ≤ c && c ≤ 'F' then some (c.toNat - 55)
  else none

def charOfCode (ds : List Char) : Option Char := do
  let digits ← ds.mapM hexDigit?
  let n := digits.foldl (fun n d => n * 16 + d) 0
  if n.isValidChar then some (Char.ofNat n) else none

def readEscape (p : Cursor) : Option (Char × Cursor) :=
  match p.rest with
  | [] => none
  | c :: cs =>
    match escapes.lookup c, codeLength c with
    | some d, _ => some (d, p.step)
    | none, some n =>
      if (cs.take n).length < n then none
      else (charOfCode (cs.take n)).map fun d => (d, p.skip (n + 1))
    | none, none => none

def readQuoted (quote : Char) : Nat → List Char → Cursor → Option (List Char × Cursor)
  | 0, _, _ => none
  | fuel + 1, acc, p =>
    if p.atDocumentMark then none
    else
      match p.rest with
      | [] => none
      | c :: cs =>
        if c = quote then
          if quote = '\'' && cs.head? = some '\'' then readQuoted quote fuel (acc ++ [c]) (p.skip 2)
          else some (acc, p.step)
        else if quote = '"' && c = '\\' then
          if cs.head?.any isBreak then do
            let (gap, p) ← readGap 0 (cs.length + 1) {} (p.skip 2)
            let text := if gap.breaks.isEmpty then [] else gap.breaks
            readQuoted quote fuel (acc ++ text) p
          else do
            let (d, p) ← readEscape p.step
            readQuoted quote fuel (acc ++ [d]) p
        else if isBlank c || isBreak c then do
          let (gap, p) ← readGap 0 (cs.length + 2) {} p
          readQuoted quote fuel (acc ++ gap.text) p
        else readQuoted quote fuel (acc ++ [c]) p.step

inductive Chomping where
  | strip
  | clip
  | keep

def Chomping.ofSign? : Char → Option Chomping
  | '+' => some keep
  | '-' => some strip
  | _ => none

def increment? (c : Char) : Option Nat :=
  if '1' ≤ c && c ≤ '9' then some (c.toNat - 48) else none

def readBlockHead (cs : List Char) : Chomping × Option Nat × Nat :=
  match cs with
  | a :: b :: _ =>
    match Chomping.ofSign? a, increment? a with
    | some c, _ =>
      match increment? b with
      | some n => (c, some n, 2)
      | none => (c, none, 1)
    | none, some n =>
      match Chomping.ofSign? b with
      | some c => (c, some n, 2)
      | none => (.clip, some n, 1)
    | none, none => (.clip, none, 0)
  | [a] =>
    match Chomping.ofSign? a, increment? a with
    | some c, _ => (c, none, 1)
    | none, some n => (.clip, some n, 1)
    | none, none => (.clip, none, 0)
  | [] => (.clip, none, 0)

/-- Reads empty lines and the indentation of the next one, up to the column `indent` if there is
one. The last number is the greatest column so far. -/
def readEmptyLines (indent : Option Nat) :
    Nat → List Char → Nat → Cursor → Option (List Char × Nat × Cursor)
  | 0, _, _, _ => none
  | fuel + 1, breaks, widest, p =>
    let room := match indent with
      | some n => n - p.column
      | none => p.rest.length
    let p := p.skip ((p.rest.take room).takeWhile (· = ' ')).length
    let widest := max widest p.column
    let short := indent.all (p.column < ·)
    match p.rest with
    | c :: _ =>
      if short && c = '\t' then none
      else if isBreak c then readEmptyLines indent fuel (breaks ++ [c]) widest p.step
      else some (breaks, widest, p)
    | [] => some (breaks, widest, p)

/-- Reads the lines of a block scalar. `last` is the line end before the next line, `blank` tells
whether the line before it begins with a blank. -/
def readBlockLines (literal : Bool) (indent : Nat) :
    Nat → List Char → List Char → List Char → Bool → Cursor →
      Option (List Char × List Char × List Char × Cursor)
  | 0, _, _, _, _, _ => none
  | fuel + 1, acc, last, empty, blank, p =>
    if p.column ≠ indent || p.rest.isEmpty then some (acc, last, empty, p)
    else do
      let startsBlank := p.rest.head?.any isBlank
      let glue :=
        if !literal && last = ['\n'] && !blank && !startsBlank then
          if empty.isEmpty then [' '] else empty
        else last ++ empty
      let line := p.rest.takeWhile fun c => !isBreak c
      let p := p.skip line.length
      let last := p.rest.take 1
      let (empty, _, p) ← readEmptyLines (some indent) (p.rest.length + 1) [] 0 p.step
      readBlockLines literal indent fuel (acc ++ glue ++ line) last empty startsBlank p

def readBlock (literal : Bool) (parent : Int) (p : Cursor) : Option (List Char × Cursor) := do
  let (chomping, increment, length) := readBlockHead p.rest
  let p := (p.skip length).skipWhile isBlank
  let p := if p.rest.head? = some '#' then p.skipWhile (fun c => !isBreak c) else p
  if !p.rest.isEmpty && !p.rest.head?.any isBreak then none
  let p := p.step
  let fuel := p.rest.length + 2
  let given := increment.map fun n => (if 0 ≤ parent then parent.toNat else 0) + n
  let (empty, widest, p) ← readEmptyLines given fuel [] 0 p
  let indent := given.getD (max widest (max (parent + 1).toNat 1))
  let (acc, last, empty, p) ← readBlockLines literal indent fuel [] [] empty false p
  match chomping with
  | .strip => return (acc, p)
  | .clip => return (acc ++ last, p)
  | .keep => return (acc ++ last ++ empty, p)

/-! ## Other tokens -/

def isNameChar (c : Char) : Bool :=
  c.isAlphanum || c = '_' || c = '-'

def readName (p : Cursor) : Option (String × Cursor) :=
  let name := p.rest.takeWhile isNameChar
  let p := p.skip name.length
  if !name.isEmpty && (atGap p.rest || p.rest.head?.any ("?:,]\x7d%@\x60".toList.contains ·)) then
    some (.ofList name, p)
  else none

def isTagChar (c : Char) : Bool :=
  isNameChar c || ";/?:@&=+$.!~*'()%".toList.contains c

/-- Reads a tag after its exclamation mark. A tag of the common set is given without a name. -/
def readTag (flow : Bool) (p : Cursor) : Option (String × Cursor) := do
  let (name, p) ← match p.rest with
    | '<' :: cs =>
      let name := cs.takeWhile fun c => isTagChar c || [',', '[', ']'].contains c
      if name.isEmpty || (cs.drop name.length).head? ≠ some '>' then none
      else some (name, p.skip (name.length + 2))
    | '!' :: cs =>
      let name := cs.takeWhile isTagChar
      if name.isEmpty then none else some ([], p.skip (name.length + 1))
    | cs =>
      let name := cs.takeWhile isTagChar
      if name.contains '!' then none else some ('!' :: name, p.skip name.length)
  if atGap p.rest || (flow && p.rest.head? = some ',') then return (.ofList name, p) else none

def isDirective (line : List Char) : Bool :=
  let words := ((String.ofList (line.map fun c => if c = '\t' then ' ' else c)).splitOn " ").filter
    fun w => !w.isEmpty
  match words.takeWhile fun w => !w.startsWith "#" with
  | ["YAML", version] => version = "1.1" || version = "1.2"
  | ["TAG", handle, _] => handle.startsWith "!"
  | _ => false

/-! ## Scanning -/

/-- A place where a mapping key may have begun. -/
structure Candidate where
  required : Bool
  token : Nat
  line : Nat
  column : Nat
  index : Nat

/-- What is known at a place: the tokens before it, the open blocks by their columns, a place for a
key in each open bracket and outside of them, and whether a key may begin. -/
structure Scan where
  place : Cursor
  tokens : List Token := []
  indents : List Nat := []
  candidate : Option Candidate := none
  outer : List (Option Candidate) := []
  keyAllowed : Bool := true

namespace Scan

def inFlow (s : Scan) : Bool :=
  !s.outer.isEmpty

def indent (s : Scan) : Int :=
  (s.indents.head?.map Int.ofNat).getD (-1)

def push (s : Scan) (t : Token) : Scan :=
  { s with tokens := s.tokens ++ [t] }

def pushOver (s : Scan) (n : Nat) (t : Token) : Scan :=
  { s.push t with place := s.place.skip n }

def dropCandidate (s : Scan) : Option Scan :=
  if s.candidate.any (·.required) then none else some { s with candidate := none }

def dropStale (s : Scan) : Option Scan :=
  match s.candidate with
  | none => some s
  | some k =>
    if k.line < s.place.line || k.index + 1024 < s.place.index then s.dropCandidate else some s

/-- Whether a candidate of an outer bracket has become stale though there had to be a key. -/
def outerStale (s : Scan) : Bool :=
  s.outer.any fun k => k.any fun k =>
    k.required && (k.line < s.place.line || k.index + 1024 < s.place.index)

def saveCandidate (s : Scan) : Option Scan :=
  if s.keyAllowed then do
    let s ← s.dropCandidate
    let p := s.place
    let required := !s.inFlow && s.indent = p.column
    some { s with candidate := some ⟨required, s.tokens.length, p.line, p.column, p.index⟩ }
  else some s

/-- Opens a block at a column beyond the innermost one; its mark goes before the token with the
given number. -/
def openBlock (s : Scan) (column token : Nat) (mark : Token) : Scan :=
  if s.inFlow || column ≤ s.indent then s
  else
    { s with
      indents := column :: s.indents
      tokens := s.tokens.take token ++ mark :: s.tokens.drop token }

def closeBlocks (column : Int) (s : Scan) : Scan :=
  if s.inFlow then s
  else
    let closed := s.indents.takeWhile fun n => column < Int.ofNat n
    { s with
      indents := s.indents.drop closed.length
      tokens := s.tokens ++ closed.map fun _ => .blockEnd }

def skipGap : Nat → Scan → Scan
  | 0, s => s
  | fuel + 1, s =>
    let p := s.place.skipWhile fun c => c = ' ' || ((s.inFlow || !s.keyAllowed) && c = '\t')
    let p := if p.rest.head? = some '#' then p.skipWhile (fun c => !isBreak c) else p
    if p.rest.head?.any isBreak then
      skipGap fuel { s with place := p.step, keyAllowed := s.keyAllowed || !s.inFlow }
    else { s with place := p }

def documentMark (s : Scan) (t : Token) : Option Scan := do
  let s ← (s.closeBlocks (-1)).dropCandidate
  return { s.pushOver 3 t with keyAllowed := false }

def directive (s : Scan) : Option Scan := do
  let s ← (s.closeBlocks (-1)).dropCandidate
  let line := s.place.rest.takeWhile fun c => !isBreak c
  if isDirective (line.drop 1) then
    return { s.pushOver line.length .directive with keyAllowed := false }
  else none

def openFlow (s : Scan) (t : Token) : Option Scan := do
  let s ← s.saveCandidate
  return { s.pushOver 1 t with
    outer := s.candidate :: s.outer, candidate := none, keyAllowed := true }

def closeFlow (s : Scan) (t : Token) : Option Scan := do
  let s ← s.dropCandidate
  let s := { s.pushOver 1 t with keyAllowed := false }
  match s.outer with
  | [] => return s
  | k :: outer => return { s with candidate := k, outer }

def flowEntry (s : Scan) : Option Scan := do
  let s ← s.dropCandidate
  return { s.pushOver 1 .flowEntry with keyAllowed := true }

def blockEntry (s : Scan) : Option Scan := do
  if !s.inFlow && !s.keyAllowed then none
  let s ← (s.openBlock s.place.column s.tokens.length .blockSequence).dropCandidate
  return { s.pushOver 1 .blockEntry with keyAllowed := true }

def explicitKey (s : Scan) : Option Scan := do
  if !s.inFlow && !s.keyAllowed then none
  let s ← (s.openBlock s.place.column s.tokens.length .blockMapping).dropCandidate
  return { s.pushOver 1 .key with keyAllowed := !s.inFlow }

def valueMark (s : Scan) : Option Scan :=
  match s.candidate with
  | some k =>
    let s := { s with tokens := s.tokens.take k.token ++ Token.key :: s.tokens.drop k.token }
    let s := s.openBlock k.column k.token .blockMapping
    some { s.pushOver 1 .value with candidate := none, keyAllowed := false }
  | none => do
    if !s.inFlow && !s.keyAllowed then none
    let s := s.openBlock s.place.column s.tokens.length .blockMapping
    return { s.pushOver 1 .value with keyAllowed := !s.inFlow }

def named (s : Scan) (read : Cursor → Option (Token × Cursor)) : Option Scan := do
  let s ← s.saveCandidate
  let (t, p) ← read s.place
  return { s.push t with place := p, keyAllowed := false }

def blockScalar (s : Scan) (literal : Bool) : Option Scan := do
  let s ← s.dropCandidate
  let (text, p) ← readBlock literal s.indent s.place.step
  return { s.push (.scalar (.ofList text) false) with place := p, keyAllowed := true }

def quotedScalar (s : Scan) (quote : Char) : Option Scan :=
  s.named fun p => do
    let (text, p) ← readQuoted quote (p.rest.length + 1) [] p.step
    return (.scalar (.ofList text) false, p)

def plainScalar (s : Scan) : Option Scan := do
  let s ← s.saveCandidate
  let (text, ended, p) ←
    readPlain s.inFlow (s.indent + 1).toNat (s.place.rest.length + 1) [] {} s.place
  return { s.push (.scalar (.ofList text) true) with place := p, keyAllowed := ended }

def startsPlain (flow : Bool) (c : Char) (cs : List Char) : Bool :=
  (!isBlank c && !"-?:,[]\x7b\x7d#&*!|>'\"%@\x60".toList.contains c) ||
    (c = '-' && !cs.head?.any isBlank) ||
    (!flow && (c = '?' || c = ':') && !atGap cs)

def token (s : Scan) (c : Char) (cs : List Char) : Option Scan :=
  if s.place.column = 0 && c = '%' then s.directive
  else if s.place.atDocumentMark then
    s.documentMark (if c = '-' then .documentStart else .documentEnd)
  else if c = '[' then s.openFlow .flowSequence
  else if c = '{' then s.openFlow .flowMapping
  else if c = ']' then s.closeFlow .flowSequenceEnd
  else if c = '}' then s.closeFlow .flowMappingEnd
  else if c = ',' then s.flowEntry
  else if c = '-' && atGap cs then s.blockEntry
  else if c = '?' && (s.inFlow || atGap cs) then s.explicitKey
  else if c = ':' && (s.inFlow || atGap cs) then s.valueMark
  else if c = '*' then s.named fun p => (readName p.step).map fun (n, p) => (.alias n, p)
  else if c = '&' then s.named fun p => (readName p.step).map fun (n, p) => (.anchor n, p)
  else if c = '!' then
    let flow := s.inFlow
    s.named fun p => (readTag flow p.step).map fun (n, p) => (.tag n, p)
  else if c = '|' && !s.inFlow then s.blockScalar true
  else if c = '>' && !s.inFlow then s.blockScalar false
  else if c = '\'' || c = '"' then s.quotedScalar c
  else if startsPlain s.inFlow c cs then s.plainScalar
  else none

def run : Nat → Scan → Option (List Token)
  | 0, _ => none
  | fuel + 1, s => do
    let s := skipGap (s.place.rest.length + 1) s
    if s.outerStale then none
    let s ← s.dropStale
    let s := s.closeBlocks s.place.column
    match s.place.rest with
    | [] => (← (s.closeBlocks (-1)).dropCandidate).tokens
    | c :: cs => run fuel (← s.token c cs)

end Scan

def tokens (text : String) : Option (List Token) :=
  let cs := match text.toList with
    | '\uFEFF' :: cs => cs
    | cs => cs
  if cs.all isAllowed then
    let cs := normalize cs
    Scan.run (cs.length + 2) { place := ⟨cs, 0, 0, 0⟩ }
  else none

end Yaml
end RequestMatching
