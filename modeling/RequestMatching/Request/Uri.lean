import RequestMatching.Text.Blank
import RequestMatching.Text.Utf8

/-!
# Request targets

The target of a request is a path with a query, an authority, both after a scheme, or an asterisk.
What follows a number sign is dropped.
-/

namespace RequestMatching

structure Uri where
  scheme : Option String := none
  path : String
  query : Option String := none

namespace Uri

def lengthLimit : Nat := 65534

def schemeLimit : Nat := 64

/-! ## Authority -/

def endsAuthority (c : Char) : Bool :=
  c = '/' || c = '?' || c = '#'

def isPlain (c : Char) : Bool :=
  c.isAlphanum || "!$&'()*+,-.;=_~".toList.contains c

/-- What has been seen of an authority: colons and percent signs since the last mark that makes them
part of something else, brackets, and whether the last character is an at sign. -/
structure AuthorityScan where
  colons : Nat := 0
  opened : Bool := false
  closed : Bool := false
  percent : Bool := false
  endsInAt : Bool := false

def AuthorityScan.step (s : AuthorityScan) (c : Char) : Option AuthorityScan :=
  let s := { s with endsInAt := false }
  if c = ':' then
    if s.colons ≥ 8 then none else some { s with colons := s.colons + 1 }
  else if c = '[' then
    if s.percent || s.opened then none else some { s with opened := true }
  else if c = ']' then
    if !s.opened || s.closed then none
    else some { s with closed := true, colons := 0, percent := false }
  else if c = '@' then some { s with endsInAt := true, colons := 0, percent := false }
  else if c = '%' then some { s with percent := true }
  else if isPlain c then some s
  else none

def isAuthority (cs : List Char) : Bool :=
  match cs.foldlM AuthorityScan.step {} with
  | none => false
  | some s => s.opened == s.closed && s.colons ≤ 1 && !s.endsInAt && !s.percent

/-! ## Path and query -/

def isQueryChar (c : Char) : Bool :=
  '!' ≤ c && c ≠ '"' && c ≠ '#' && c ≠ '<' && c ≠ '>'

def isPathChar (c : Char) : Bool :=
  '!' ≤ c && (['#', '<', '>', '?', '\x60'].contains c).not

/-- The target with a path and maybe a query; a missing path is that of the root. -/
def ofPath (scheme : Option String) (cs : List Char) : Option Uri :=
  let cs := cs.takeWhile (· ≠ '#')
  let (path, query) := match Text.cutChars '?' cs with
    | some (path, query) => (path, some query)
    | none => (cs, none)
  if path.all isPathChar && query.all (·.all isQueryChar) then
    some ⟨scheme, if path.isEmpty then "/" else .ofList path, query.map .ofList⟩
  else none

/-! ## Scheme -/

def isSchemeChar (c : Char) : Bool :=
  c.isAlphanum || c = '+' || c = '-' || c = '.' || c = '~'

/-- The scheme of a target, in small letters if it is a common one, and what follows it. -/
def cutScheme (cs : List Char) : Option (String × List Char) :=
  let name := cs.takeWhile isSchemeChar
  match cs.drop name.length with
  | ':' :: '/' :: '/' :: rest =>
    let lower := name.map Char.toLower
    let common := lower = "http".toList || lower = "https".toList
    if common then some (.ofList lower, rest)
    else if cs.length > 3 then some (.ofList name, rest)
    else none
  | _ => none

def ofAuthority (cs : List Char) : Option Uri :=
  if !cs.isEmpty && !cs.any endsAuthority && isAuthority cs then some { path := "" } else none

def parse (s : String) : Option Uri :=
  if Utf8.size s > lengthLimit then none
  else
    match s.toList with
    | ['*'] => some { path := "*" }
    | '/' :: cs => ofPath none ('/' :: cs)
    | cs =>
      match cutScheme cs with
      | none => ofAuthority cs
      | some (scheme, rest) =>
        let authority := rest.takeWhile fun c => !endsAuthority c
        if scheme.length > schemeLimit || authority.isEmpty || !isAuthority authority then none
        else ofPath (some scheme) (rest.drop authority.length)

end Uri
end RequestMatching
