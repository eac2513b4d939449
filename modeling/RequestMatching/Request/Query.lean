import RequestMatching.Text.Blank
import RequestMatching.Text.Percent

/-!
# Query strings and cookies

The two texts of a request that hold lists of pairs.
-/

namespace RequestMatching

/-- A text cut at its first equals sign; without one all of it is the name. -/
def splitPair (cs : List Char) : List Char × List Char :=
  (Text.cutChars '=' cs).getD (cs, [])

namespace Query

/-- Undoes the form encoding of a name or a value: a plus is a blank. Where the bytes are not text,
only that is undone. -/
def decodeComponent (cs : List Char) : String :=
  let spaced := String.ofList (cs.map fun c => if c = '+' then ' ' else c)
  (Percent.decode? spaced).getD spaced

def parse (query : String) : List (String × String) :=
  ((Text.splitChars '&' query.toList).filter fun item => !item.isEmpty).map fun item =>
    let (name, value) := splitPair item
    (decodeComponent name, decodeComponent value)

end Query

namespace Cookies

def parse (header : String) : List (String × String) :=
  (Text.splitChars ';' header.toList).filterMap fun part =>
    let part := Text.trimChars isSpace part
    if part.isEmpty then none
    else
      let (name, value) := splitPair part
      some (.ofList (Text.trimChars isSpace name),
        .ofList (Text.trimChars (· = '"') (Text.trimChars isSpace value)))

end Cookies
end RequestMatching
