/-!
# Blank text

White space is what has the White_Space property. `trim` takes it off both ends of a text, and a
text is blank when nothing is left.
-/

namespace RequestMatching

def isSpace (c : Char) : Bool :=
  let n := c.toNat
  (0x9 ≤ n && n ≤ 0xD) || n == 0x20 || n == 0x85 || n == 0xA0 || n == 0x1680 ||
    (0x2000 ≤ n && n ≤ 0x200A) || n == 0x2028 || n == 0x2029 || n == 0x202F || n == 0x205F ||
    n == 0x3000

namespace Text

def trimChars (p : Char → Bool) (cs : List Char) : List Char :=
  ((cs.dropWhile p).reverse.dropWhile p).reverse

def trimBy (p : Char → Bool) (s : String) : String :=
  .ofList (trimChars p s.toList)

def trim (s : String) : String :=
  trimBy isSpace s

def isBlank (s : String) : Bool :=
  s.toList.all isSpace

/-- The parts of a text between the separators; there is always at least one. -/
def splitChars (sep : Char) : List Char → List (List Char)
  | [] => [[]]
  | c :: cs =>
    if c = sep then [] :: splitChars sep cs
    else match splitChars sep cs with
      | [] => [[c]]
      | part :: parts => (c :: part) :: parts

def splitOn (sep : Char) (s : String) : List String :=
  (splitChars sep s.toList).map .ofList

def cutChars (sep : Char) : List Char → Option (List Char × List Char)
  | [] => none
  | c :: cs =>
    if c = sep then some ([], cs)
    else (cutChars sep cs).map fun (before, after) => (c :: before, after)

def cutAt (sep : Char) (s : String) : Option (String × String) :=
  (cutChars sep s.toList).map fun (before, after) => (.ofList before, .ofList after)

/-- The lines of a text: each ends at a line feed, which goes with the carriage return before it;
a last empty line is none. -/
def lines (s : String) : List String :=
  let parts := splitChars '\n' s.toList
  let ended := parts.dropLast.map fun l => if l.getLast? = some '\r' then l.dropLast else l
  let last := match parts.getLast? with
    | none | some [] => []
    | some l => [l]
  (ended ++ last).map .ofList

def hasInfix (part : List Char) : List Char → Bool
  | [] => part.isEmpty
  | c :: cs => part.isPrefixOf (c :: cs) || hasInfix part cs

def asciiLower (s : String) : String :=
  s.map Char.toLower

end Text
end RequestMatching
