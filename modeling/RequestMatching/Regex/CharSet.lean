import RequestMatching.Text.CaseTable
import RequestMatching.Text.Category
import RequestMatching.Text.Script

/-!
# Sets of characters

A bracketed class, an escape such as `\d` or a property of characters is an expression over ranges
and tables. `contains` decides membership of a character number.
-/

namespace RequestMatching.Regex

inductive CharSet where
  | range (first last : Nat)
  | property (p : Property)
  | category (isMember : String → Bool)
  | union (a b : CharSet)
  | inter (a b : CharSet)
  | diff (a b : CharSet)
  | symmDiff (a b : CharSet)
  | compl (a : CharSet)
  | folded (a : CharSet)
  | asciiFolded (a : CharSet)

/-- The characters with the same simple case folding as `n`, which is among them. -/
def caseOrbit (n : Nat) : List Nat :=
  let f := CaseRun.shifted CaseRun.folding n
  f :: CaseRun.sources CaseRun.folding f

/-- An ASCII letter in both cases; any other character alone. -/
def asciiOrbit (n : Nat) : List Nat :=
  if (0x41 ≤ n && n ≤ 0x5A) then [n, n + 32]
  else if (0x61 ≤ n && n ≤ 0x7A) then [n, n - 32]
  else [n]

namespace CharSet

def contains : CharSet → Nat → Bool
  | range first last, n => first ≤ n && n ≤ last
  | property p, n => p.holds n
  | category isMember, n => isMember (Category.of n)
  | union a b, n => a.contains n || b.contains n
  | inter a b, n => a.contains n && b.contains n
  | diff a b, n => a.contains n && !b.contains n
  | symmDiff a b, n => xor (a.contains n) (b.contains n)
  | compl a, n => !a.contains n
  | folded a, n => (caseOrbit n).any fun m => a.contains m
  | asciiFolded a, n => (asciiOrbit n).any fun m => a.contains m

def empty : CharSet :=
  range 1 0

def single (c : Char) : CharSet :=
  range c.toNat c.toNat

def ofRanges (rs : List (Nat × Nat)) : CharSet :=
  rs.foldl (fun s (a, b) => union s (range a b)) empty

def complIf (negated : Bool) (s : CharSet) : CharSet :=
  if negated then compl s else s

def isAscii (s : CharSet) : Bool :=
  (List.range 128).all fun k => !s.contains (128 + k)

def digit : CharSet :=
  category (· == "Nd")

def space : CharSet :=
  ofRanges [(0x9, 0xD), (0x20, 0x20), (0x85, 0x85), (0xA0, 0xA0), (0x1680, 0x1680),
    (0x2000, 0x200A), (0x2028, 0x2029), (0x202F, 0x202F), (0x205F, 0x205F), (0x3000, 0x3000)]

def word : CharSet :=
  union (category fun c => c.startsWith "M" || c == "Nd" || c == "Pc")
    (union (property Property.alphabetic) (range 0x200C 0x200D))

def asciiDigit : CharSet :=
  range 0x30 0x39

def asciiSpace : CharSet :=
  ofRanges [(0x9, 0xD), (0x20, 0x20)]

def asciiWord : CharSet :=
  ofRanges [(0x30, 0x39), (0x41, 0x5A), (0x5F, 0x5F), (0x61, 0x7A)]

def named? (name : String) : Option CharSet :=
  let ranges : Option (List (Nat × Nat)) := match name with
    | "alnum" => some [(0x30, 0x39), (0x41, 0x5A), (0x61, 0x7A)]
    | "alpha" => some [(0x41, 0x5A), (0x61, 0x7A)]
    | "ascii" => some [(0, 0x7F)]
    | "blank" => some [(0x9, 0x9), (0x20, 0x20)]
    | "cntrl" => some [(0, 0x1F), (0x7F, 0x7F)]
    | "digit" => some [(0x30, 0x39)]
    | "graph" => some [(0x21, 0x7E)]
    | "lower" => some [(0x61, 0x7A)]
    | "print" => some [(0x20, 0x7E)]
    | "punct" => some [(0x21, 0x2F), (0x3A, 0x40), (0x5B, 0x60), (0x7B, 0x7E)]
    | "space" => some [(0x9, 0xD), (0x20, 0x20)]
    | "upper" => some [(0x41, 0x5A)]
    | "word" => some [(0x30, 0x39), (0x41, 0x5A), (0x5F, 0x5F), (0x61, 0x7A)]
    | "xdigit" => some [(0x30, 0x39), (0x41, 0x46), (0x61, 0x66)]
    | _ => none
  ranges.map ofRanges

/-! ## Properties by name -/

/-- A name of a property without case, blanks, hyphens and underscores, and without a leading
`is`. -/
def propertyName (s : String) : String :=
  let plain := Script.plainName s
  if plain.startsWith "is" && plain != "isc" then .ofList (plain.toList.drop 2) else plain

def category? (name : String) : Option CharSet :=
  let one (c : String) : Option CharSet := some (category (· == c))
  let group (c : String) : Option CharSet := some (category (·.startsWith c))
  match name with
  | "any" => some (range 0 0x10FFFF)
  | "assigned" => some (compl (category (· == "Cn")))
  | "ascii" => some (range 0 0x7F)
  | "c" | "other" => group "C"
  | "cc" | "control" | "cntrl" => one "Cc"
  | "cf" | "format" => one "Cf"
  | "cn" | "unassigned" => one "Cn"
  | "co" | "privateuse" => one "Co"
  | "l" | "letter" => group "L"
  | "lc" | "casedletter" => some (category fun c => c == "Lu" || c == "Ll" || c == "Lt")
  | "ll" | "lowercaseletter" => one "Ll"
  | "lm" | "modifierletter" => one "Lm"
  | "lo" | "otherletter" => one "Lo"
  | "lt" | "titlecaseletter" => one "Lt"
  | "lu" | "uppercaseletter" => one "Lu"
  | "m" | "mark" | "combiningmark" => group "M"
  | "mc" | "spacingmark" => one "Mc"
  | "me" | "enclosingmark" => one "Me"
  | "mn" | "nonspacingmark" => one "Mn"
  | "n" | "number" => group "N"
  | "nd" | "decimalnumber" | "digit" => one "Nd"
  | "nl" | "letternumber" => one "Nl"
  | "no" | "othernumber" => one "No"
  | "p" | "punctuation" | "punct" => group "P"
  | "pc" | "connectorpunctuation" => one "Pc"
  | "pd" | "dashpunctuation" => one "Pd"
  | "pe" | "closepunctuation" => one "Pe"
  | "pf" | "finalpunctuation" => one "Pf"
  | "pi" | "initialpunctuation" => one "Pi"
  | "po" | "otherpunctuation" => one "Po"
  | "ps" | "openpunctuation" => one "Ps"
  | "s" | "symbol" => group "S"
  | "sc" | "currencysymbol" => one "Sc"
  | "sk" | "modifiersymbol" => one "Sk"
  | "sm" | "mathsymbol" => one "Sm"
  | "so" | "othersymbol" => one "So"
  | "z" | "separator" => group "Z"
  | "zl" | "lineseparator" => one "Zl"
  | "zp" | "paragraphseparator" => one "Zp"
  | "zs" | "spaceseparator" => one "Zs"
  | _ => none

def binary? (name : String) : Option CharSet :=
  match name with
  | "alphabetic" | "alpha" => some (property Property.alphabetic)
  | "lowercase" | "lower" => some (property Property.lowercase)
  | "uppercase" | "upper" => some (property Property.uppercase)
  | "cased" => some (property Property.cased)
  | "caseignorable" | "ci" => some (property Property.caseIgnorable)
  | "whitespace" | "wspace" | "space" => some space
  | "asciihexdigit" | "ahex" => some (ofRanges [(0x30, 0x39), (0x41, 0x46), (0x61, 0x66)])
  | "hexdigit" | "hex" => some (ofRanges [(0x30, 0x39), (0x41, 0x46), (0x61, 0x66),
      (0xFF10, 0xFF19), (0xFF21, 0xFF26), (0xFF41, 0xFF46)])
  | "ideographic" | "ideo" => some (property Property.ideographic)
  | "math" => some (property Property.math)
  | "dash" => some (property Property.dash)
  | "quotationmark" | "qmark" => some (property Property.quotationMark)
  | "diacritic" | "dia" => some (property Property.diacritic)
  | "emoji" => some (property Property.emoji)
  | "emojipresentation" | "epres" => some (property Property.emojiPresentation)
  | "extendedpictographic" | "extpict" => some (property Property.extendedPictographic)
  | "idstart" | "ids" | "xidstart" | "xids" => some (property Property.idStart)
  | "idcontinue" | "idc" | "xidcontinue" | "xidc" => some (property Property.idContinue)
  | "joincontrol" | "joinc" => some (range 0x200C 0x200D)
  | _ => none

/-- The set that a single name of a property stands for: a property, else a category, else a
script. The names `cf`, `sc` and `lc` are categories. -/
def ofPropertyName? (s : String) : Option CharSet :=
  let name := propertyName s
  let direct := if name == "cf" || name == "sc" || name == "lc" then none else binary? name
  direct <|> category? name <|> (Script.find? name).map property

def ofPropertyValue? (s value : String) : Option CharSet :=
  match propertyName s with
  | "generalcategory" | "gc" => category? (propertyName value)
  | "script" | "sc" | "scriptextensions" | "scx" => (Script.find? (propertyName value)).map property
  | _ => none

end CharSet
end RequestMatching.Regex
