import RequestMatching.Json.Value
import RequestMatching.Text.Utf8
import RequestMatching.Text.Percent

/-!
# JSON as written

A text is read into a tree that keeps the members in their order and keeps what is wrong where it
is wrong. What a fault means depends on who reads on: a value that nobody wants is skipped under
looser rules than one that is taken. `Source.take` gives the value of a tree or its first fault.
-/

namespace RequestMatching

inductive JsonFault where
  | eofValue
  | eofList
  | eofObject
  | eofString
  | expectedValue
  | expectedIdent
  | expectedColon
  | expectedListEnd
  | expectedObjectEnd
  | keyNotString
  | invalidEscape
  | invalidNumber
  | numberOutOfRange
  | controlCharacter
  | loneSurrogate
  | hexEscapeEnd
  | trailingComma
  | trailingCharacters
  | nestedTooDeeply
  deriving DecidableEq

def JsonFault.message : JsonFault → String
  | eofValue => "EOF while parsing a value"
  | eofList => "EOF while parsing a list"
  | eofObject => "EOF while parsing an object"
  | eofString => "EOF while parsing a string"
  | expectedValue => "expected value"
  | expectedIdent => "expected ident"
  | expectedColon => "expected `:`"
  | expectedListEnd => "expected `,` or `]`"
  | expectedObjectEnd => "expected `,` or `\x7d`"
  | keyNotString => "key must be a string"
  | invalidEscape => "invalid escape"
  | invalidNumber => "invalid number"
  | numberOutOfRange => "number out of range"
  | controlCharacter => "control character (\\u0000-\\u001F) found while parsing a string"
  | loneSurrogate => "lone leading surrogate in hex escape"
  | hexEscapeEnd => "unexpected end of hex escape"
  | trailingComma => "trailing comma"
  | trailingCharacters => "trailing characters"
  | nestedTooDeeply => "recursion limit exceeded"

/-- A place where reading cannot go on: the fault for a reader that takes the value, the fault for
one that skips it, and the character at which the broken value starts. -/
structure Breach where
  taken : JsonFault
  skipped : JsonFault
  start : Option Char

/-- A JSON text as a tree. A list or an object ends at its breach, if it has one. -/
inductive Source where
  | null
  | bool (b : Bool)
  | number (n : Except JsonFault JsonNumber)
  | string (s : Except JsonFault String)
  | array (items : List Source) (breach : Option Breach)
  | object (members : List (Except JsonFault String × Source)) (breach : Option Breach)
  | broken (breach : Breach)

namespace Source

def isGap (c : Char) : Bool :=
  c = ' ' || c = '\n' || c = '\t' || c = '\r'

def skipGap (cs : List Char) : List Char :=
  cs.dropWhile isGap

def fail (f : JsonFault) (start : Option Char) : Breach :=
  ⟨f, f, start⟩

/-! ## Numbers -/

def greatestPower : Nat := 308

/-- The number with `digits` scaled by ten to the power `exponent`: the digits are rounded first,
then each multiplication or division is. -/
def scale (negative : Bool) (digits : Nat) (exponent : Int) : Except JsonFault Binary64 :=
  go 40 (.ofFraction negative digits 1) exponent
where
  /-- Divides by the greatest power until the exponent is in its range. -/
  go : Nat → Binary64 → Int → Except JsonFault Binary64
    | 0, x, _ => .ok x
    | fuel + 1, x, e =>
      if e.natAbs ≤ greatestPower then
        let power : Binary64 := .ofDecimal false 1 e.natAbs
        if e ≥ 0 then
          match x.mul power with
          | .infinite _ => .error .numberOutOfRange
          | y => .ok y
        else .ok (x.div power)
      else match x with
        | .finite _ 0 => .ok x
        | _ =>
          if e ≥ 0 then .error .numberOutOfRange
          else go fuel (x.div (.ofDecimal false 1 greatestPower)) (e + greatestPower)

def spanDigits (cs : List Char) : List Char × List Char :=
  cs.span Char.isDigit

/-- Adds digits to a number as long as it stays below 2^64, and counts the digits that were added. -/
def addDigits : Nat → Nat → List Char → Nat × Nat × Bool
  | n, k, [] => (n, k, false)
  | n, k, c :: cs =>
    let m := n * 10 + (c.toNat - 48)
    if m < twoTo 64 then addDigits m (k + 1) cs else (n, k, true)

def exponentOf (ds : List Char) : Option Nat :=
  let n := ds.foldl (fun n c => if n ≥ twoTo 31 then n else n * 10 + (c.toNat - 48)) 0
  if n < twoTo 31 then some n else none

def someDigits (start : Option Char) (cs : List Char) : Except Breach (List Char × List Char) :=
  let (ds, rest) := spanDigits cs
  if ds.isEmpty then
    .error ⟨if cs.isEmpty then .eofValue else .invalidNumber, .invalidNumber, start⟩
  else .ok (ds, rest)

def readWhole (start : Option Char) (cs : List Char) : Except Breach (List Char × List Char) := do
  let (whole, rest) ← someDigits start cs
  match whole with
  | '0' :: _ :: _ => throw (fail .invalidNumber start)
  | _ => return (whole, rest)

def readFraction (start : Option Char) : List Char →
    Except Breach (Option (List Char) × List Char)
  | '.' :: cs => do
    let (ds, rest) ← someDigits start cs
    return (some ds, rest)
  | cs => .ok (none, cs)

def exponentSign : List Char → Bool × List Char
  | '+' :: cs => (false, cs)
  | '-' :: cs => (true, cs)
  | cs => (false, cs)

def readExponent (start : Option Char) : List Char →
    Except Breach (Option (Bool × List Char) × List Char)
  | [] => .ok (none, [])
  | c :: cs =>
    if c = 'e' || c = 'E' then do
      let (minus, cs) := exponentSign cs
      let (ds, rest) ← someDigits start cs
      return (some (minus, ds), rest)
    else .ok (none, c :: cs)

def numberOf (negative : Bool) (whole : List Char) (fraction : Option (List Char))
    (exponent : Option (Bool × List Char)) : Except JsonFault JsonNumber :=
  let (n, used, full) := addDigits 0 0 whole
  let beyond : Int := whole.length - used
  if fraction.isNone && exponent.isNone && !full then
    if !negative then .ok (.integer n)
    else if 0 < n && n ≤ twoTo 63 then .ok (.integer (-n))
    else .ok (.float (.ofFraction true n 1))
  else
    let (n, places) := match fraction with
      | none => (n, 0)
      | some ds => let (m, k, _) := addDigits n 0 ds; (m, k)
    let shift : Int := beyond - places
    let value := match exponent with
      | none => scale negative n shift
      | some (minus, ds) =>
        match exponentOf ds with
        | some e => scale negative n (if minus then shift - e else shift + e)
        | none =>
          if n ≠ 0 && !minus then .error .numberOutOfRange else .ok (.finite negative 0)
    value.map .float

def readNumber (start : Option Char) (negative : Bool) (cs : List Char) :
    Except Breach (Except JsonFault JsonNumber × List Char) := do
  let (whole, rest) ← readWhole start cs
  let (fraction, rest) ← readFraction start rest
  let (exponent, rest) ← readExponent start rest
  return (numberOf negative whole fraction exponent, rest)

/-! ## Strings -/

def hex4 (cs : List Char) : Except JsonFault (Nat × List Char) :=
  match cs with
  | a :: b :: c :: d :: rest =>
    match hexValue? a, hexValue? b, hexValue? c, hexValue? d with
    | some a, some b, some c, some d => .ok (((a * 16 + b) * 16 + c) * 16 + d, rest)
    | _, _, _, _ => .error .invalidEscape
  | cs => .error (if (cs.flatMap Utf8.encodeChar).length < 4 then .eofString else .invalidEscape)

/-- The character of a `\u` escape for a reader that takes the string, after its four digits: a
leading surrogate needs the other half. -/
def unicodeChar (n : Nat) (rest : List Char) : Except JsonFault Char :=
  if 0xDC00 ≤ n && n ≤ 0xDFFF then .error .loneSurrogate
  else if n < 0xD800 || 0xDFFF < n then .ok (.ofNat n)
  else match rest with
    | '\\' :: 'u' :: cs => do
      let (m, _) ← hex4 cs
      if 0xDC00 ≤ m && m ≤ 0xDFFF then
        .ok (.ofNat ((n - 0xD800) * 0x400 + (m - 0xDC00) + 0x10000))
      else .error .loneSurrogate
    | [] | ['\\'] => .error .eofString
    | _ => .error .hexEscapeEnd

def shortEscape? (c : Char) : Option Char :=
  match c with
  | '"' => some '"'
  | '\\' => some '\\'
  | '/' => some '/'
  | 'b' => some '\x08'
  | 'f' => some '\x0C'
  | 'n' => some '\n'
  | 'r' => some '\r'
  | 't' => some '\t'
  | _ => none

/-- Reads a string after its opening quote. The result is the text for a reader that takes it and
the rest after the closing quote; a breach is one for every reader, but the reader that takes the
string stops at an earlier fault. `fault` is that fault, `acc` the characters in reverse. -/
def readString (start : Option Char) :
    Nat → Option JsonFault → List Char → List Char → Except Breach (Except JsonFault String × List Char)
  | 0, _, _, _ => .error (fail .eofString start)
  | _ + 1, fault, _, [] => .error ⟨fault.getD .eofString, .eofString, start⟩
  | fuel + 1, fault, acc, c :: cs =>
    if c = '"' then
      .ok (match fault with
        | some f => .error f
        | none => .ok (.ofList acc.reverse), cs)
    else if c = '\\' then
      match cs with
      | [] => .error ⟨fault.getD .eofString, .eofString, start⟩
      | 'u' :: cs =>
        match hex4 cs with
        | .error f => .error ⟨fault.getD f, f, start⟩
        | .ok (n, rest) =>
          match unicodeChar n rest with
          | .error f => readString start fuel (some (fault.getD f)) acc rest
          | .ok c =>
            let rest := if 0x10000 ≤ c.toNat then rest.drop 6 else rest
            readString start fuel fault (c :: acc) rest
      | e :: cs =>
        match shortEscape? e with
        | some c => readString start fuel fault (c :: acc) cs
        | none => .error ⟨fault.getD .invalidEscape, .invalidEscape, start⟩
    else if c.toNat < 32 then .error ⟨fault.getD .controlCharacter, .controlCharacter, start⟩
    else readString start fuel fault (c :: acc) cs

/-! ## Values -/

def readWord (start : Option Char) : List Char → List Char → Except Breach (List Char)
  | [], cs => .ok cs
  | _ :: _, [] => .error (fail .eofValue start)
  | w :: ws, c :: cs => if w = c then readWord start ws cs else .error (fail .expectedIdent start)

def readScalar (c : Char) (cs : List Char) : Source × Option (List Char) :=
  let start := some c
  let word (rest : List Char) (v : Source) : Source × Option (List Char) :=
    match readWord start rest cs with
    | .ok rest => (v, some rest)
    | .error b => (broken b, none)
  let numeral (r : Except Breach (Except JsonFault JsonNumber × List Char)) :
      Source × Option (List Char) :=
    match r with
    | .ok (n, rest) => (number n, some rest)
    | .error b => (broken b, none)
  if c = 'n' then word ['u', 'l', 'l'] null
  else if c = 't' then word ['r', 'u', 'e'] (bool true)
  else if c = 'f' then word ['a', 'l', 's', 'e'] (bool false)
  else if c = '-' then numeral (readNumber start true cs)
  else if c.isDigit then numeral (readNumber start false (c :: cs))
  else if c = '"' then
    match readString start (cs.length + 1) none [] cs with
    | .ok (s, rest) => (string s, some rest)
    | .error b => (broken b, none)
  else (broken (fail .expectedValue start), none)

mutual

/-- Reads a value. What follows it is `none` if the value is broken somewhere. -/
def readValue : Nat → List Char → Source × Option (List Char)
  | 0, _ => (broken (fail .eofValue none), none)
  | fuel + 1, cs =>
    match skipGap cs with
    | [] => (broken (fail .eofValue none), none)
    | '[' :: cs =>
      let (items, breach, rest) := readItems fuel true cs
      (array items breach, rest)
    | '{' :: cs =>
      let (members, breach, rest) := readMembers fuel true cs
      (object members breach, rest)
    | c :: cs => readScalar c cs

def readItems : Nat → Bool → List Char → List Source × Option Breach × Option (List Char)
  | 0, _, _ => ([], some (fail .eofList none), none)
  | fuel + 1, first, cs =>
    match skipGap cs with
    | [] => ([], some (fail .eofList none), none)
    | ']' :: cs => ([], none, some cs)
    | ',' :: cs =>
      if first then readItem fuel (',' :: cs)
      else match skipGap cs with
        | ']' :: _ => ([], some ⟨.trailingComma, .expectedValue, none⟩, none)
        | [] => ([], some (fail .eofValue none), none)
        | cs => readItem fuel cs
    | c :: cs =>
      if first then readItem fuel (c :: cs) else ([], some (fail .expectedListEnd none), none)

def readItem : Nat → List Char → List Source × Option Breach × Option (List Char)
  | 0, _ => ([], some (fail .eofList none), none)
  | fuel + 1, cs =>
    match readValue fuel cs with
    | (v, none) => ([v], none, none)
    | (v, some rest) =>
      let (items, breach, rest) := readItems fuel false rest
      (v :: items, breach, rest)

def readMembers : Nat → Bool → List Char →
    List (Except JsonFault String × Source) × Option Breach × Option (List Char)
  | 0, _, _ => ([], some (fail .eofObject none), none)
  | fuel + 1, first, cs =>
    match skipGap cs with
    | [] => ([], some (fail .eofObject none), none)
    | '}' :: cs => ([], none, some cs)
    | ',' :: cs =>
      if first then ([], some (fail .keyNotString none), none)
      else match skipGap cs with
        | '}' :: _ => ([], some ⟨.trailingComma, .keyNotString, none⟩, none)
        | [] => ([], some ⟨.eofValue, .eofObject, none⟩, none)
        | c :: cs => readMember fuel c cs
    | c :: cs =>
      if first then readMember fuel c cs else ([], some (fail .expectedObjectEnd none), none)

def readMember : Nat → Char → List Char →
    List (Except JsonFault String × Source) × Option Breach × Option (List Char)
  | 0, _, _ => ([], some (fail .eofObject none), none)
  | fuel + 1, c, cs =>
    if c ≠ '"' then ([], some (fail .keyNotString none), none)
    else match readString (some c) (cs.length + 1) none [] cs with
      | .error b => ([], some b, none)
      | .ok (key, rest) =>
        match skipGap rest with
        | [] => ([(key, broken (fail .eofObject none))], none, none)
        | ':' :: cs =>
          match readValue fuel cs with
          | (v, none) => ([(key, v)], none, none)
          | (v, some rest) =>
            let (members, breach, rest) := readMembers fuel false rest
            ((key, v) :: members, breach, rest)
        | _ => ([(key, broken (fail .expectedColon none))], none, none)

end

def ofText (s : String) : Source × Bool :=
  let cs := s.toList
  match readValue (3 * cs.length + 3) cs with
  | (v, some rest) => (v, !(skipGap rest).isEmpty)
  | (v, none) => (v, false)

/-! ## Taking and skipping -/

/-- The number of lists and objects that may not be open at the same time. -/
def depthLimit : Nat := 128

mutual

def take (depth : Nat) : Source → Except JsonFault Json
  | null => .ok .null
  | bool b => .ok (.bool b)
  | number n => n.map .number
  | string s => s.map .string
  | broken b => .error b.taken
  | array items breach =>
    if depth + 1 ≥ depthLimit then .error .nestedTooDeeply
    else do
      let values ← takeItems (depth + 1) items
      match breach with
      | some b => .error b.taken
      | none => .ok (.array values)
  | object members breach =>
    if depth + 1 ≥ depthLimit then .error .nestedTooDeeply
    else do
      let values ← takeMembers (depth + 1) members
      match breach with
      | some b => .error b.taken
      | none => .ok (.ofMembers values)

def takeItems (depth : Nat) : List Source → Except JsonFault (List Json)
  | [] => .ok []
  | v :: rest => do
    let v ← take depth v
    let rest ← takeItems depth rest
    .ok (v :: rest)

def takeMembers (depth : Nat) :
    List (Except JsonFault String × Source) → Except JsonFault (List (String × Json))
  | [] => .ok []
  | (n, v) :: rest => do
    let n ← n
    let v ← take depth v
    let rest ← takeMembers depth rest
    .ok ((n, v) :: rest)

end

mutual

def skipFault : Source → Option JsonFault
  | array items breach => (skipItems items).or (breach.map (·.skipped))
  | object members breach => (skipMembers members).or (breach.map (·.skipped))
  | broken b => some b.skipped
  | _ => none

def skipItems : List Source → Option JsonFault
  | [] => none
  | v :: rest => (skipFault v).or (skipItems rest)

def skipMembers : List (Except JsonFault String × Source) → Option JsonFault
  | [] => none
  | (_, v) :: rest => (skipFault v).or (skipMembers rest)

end

end Source

def Json.parse (s : String) : Except JsonFault Json := do
  let (tree, more) := Source.ofText s
  let v ← tree.take 0
  if more then throw .trailingCharacters else return v

end RequestMatching
