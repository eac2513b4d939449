/-!
# Path templates

A template is text with parameters in braces. A parameter stands for a part of one segment that is
not empty; text may stand before it and after it. A last parameter whose name begins with a star
stands for all the rest. Doubled braces are braces of the text. The router that this follows gives up
at more than 25 parameters; here their number is not bounded.
-/

namespace RequestMatching

inductive TemplatePiece where
  | text (cs : List Char)
  /-- A parameter; `suffix` is the text between it and the end of its segment. -/
  | parameter (name : String) (suffix : List Char)
  | rest (name : String)
  deriving DecidableEq

abbrev Template := List TemplatePiece

namespace Template

/-- The characters of a template, those of a doubled brace as one that is marked. -/
def unescape : List Char → List (Char × Bool)
  | '{' :: '{' :: cs => ('{', true) :: unescape cs
  | '}' :: '}' :: cs => ('}', true) :: unescape cs
  | c :: cs => (c, false) :: unescape cs
  | [] => []

/-- What is being read, with its characters so far in reverse. -/
inductive Reading where
  | text (cs : List Char)
  | opening
  | name (cs : List Char)
  | restName (cs : List Char)
  | suffix (name : String) (cs : List Char)
  | done (name : String)

def withText (cs : List Char) (pieces : Template) : Template :=
  if cs.isEmpty then pieces else .text cs.reverse :: pieces

def read : Reading → List (Char × Bool) → Option Template
  | .text acc, [] => some (withText acc [])
  | .text acc, (c, escaped) :: cs =>
    if c = '}' && !escaped then none
    else if c = '{' && !escaped then (read .opening cs).map (withText acc)
    else read (.text (c :: acc)) cs
  | .opening, (c, _) :: cs =>
    if c = '}' then none
    else if c = '*' then read (.restName []) cs
    else read (.name [c]) cs
  | .name acc, (c, escaped) :: cs =>
    if c = '}' && !escaped then read (.suffix (.ofList acc.reverse) []) cs
    else if c = '*' || c = '/' then none
    else read (.name (c :: acc)) cs
  | .restName acc, (c, escaped) :: cs =>
    if c = '}' && !escaped then
      if acc.isEmpty then none else read (.done (.ofList acc.reverse)) cs
    else if c = '*' || c = '/' then none
    else read (.restName (c :: acc)) cs
  | .suffix name acc, [] => some [.parameter name acc.reverse]
  | .suffix name acc, (c, escaped) :: cs =>
    if (c = '{' || c = '}') && !escaped then none
    else if c = '/' then
      (read (.text ['/']) cs).map fun pieces => .parameter name acc.reverse :: pieces
    else read (.suffix name (c :: acc)) cs
  | .done name, [] => some [.rest name]
  | .done _, _ :: _ => none
  | .opening, [] | .name _, [] | .restName _, [] => none

def parse (s : String) : Option Template :=
  read (.text []) (unescape s.toList)

def dropText : List Char → List Char → Option (List Char)
  | [], path => some path
  | c :: cs, d :: path => if c = d then dropText cs path else none
  | _ :: _, [] => none

def beforeSuffix (suffix segment : List Char) : Option (List Char) :=
  (dropText suffix.reverse segment.reverse).map List.reverse

def capture : Template → List Char → Option (List (String × List Char))
  | [], path => if path.isEmpty then some [] else none
  | .text cs :: pieces, path => do capture pieces (← dropText cs path)
  | .parameter name suffix :: pieces, path => do
    let value ← beforeSuffix suffix (path.takeWhile (· != '/'))
    if value.isEmpty then none
    let more ← capture pieces (path.dropWhile (· != '/'))
    some ((name, value) :: more)
  | .rest name :: pieces, path => do
    if path.isEmpty then none
    let more ← capture pieces []
    some ((name, path) :: more)

end Template
end RequestMatching
