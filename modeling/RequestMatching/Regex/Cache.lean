import RequestMatching.Regex.Parser

/-!
# A cache of regular expressions

The cache holds what became of the sources that were asked for last: the expression that has to
match a whole text, or none if the source is not valid. A full cache gives up the source that has
not been asked for the longest.
-/

namespace RequestMatching

namespace Regex

def compileWhole (source : String) : Option Regex :=
  (parseWhole source).toOption

structure CacheEntry where
  source : String
  regex : Option Regex
  /-- The request that the source was compiled for. -/
  compiled : Nat
  /-- The last request for the source. -/
  used : Nat
  sound : regex = compileWhole source

structure Cache where
  capacity : Nat
  requests : Nat := 0
  entries : List CacheEntry := []

namespace Cache

/-- An empty cache, which has room for one source at least. -/
def ofSize (n : Nat) : Cache :=
  { capacity := Nat.max n 1 }

def size (c : Cache) : Nat :=
  c.entries.length

def find? (c : Cache) (source : String) : Option CacheEntry :=
  c.entries.find? (·.source == source)

def touch (source : String) (request : Nat) (entries : List CacheEntry) : List CacheEntry :=
  entries.map fun e => if e.source = source then { e with used := request } else e

def oldest : List CacheEntry → Option CacheEntry
  | [] => none
  | e :: rest =>
    match oldest rest with
    | none => some e
    | some o => some (if e.used ≤ o.used then e else o)

def withoutOldest (entries : List CacheEntry) : List CacheEntry :=
  match oldest entries with
  | none => entries
  | some o => entries.filter (·.source != o.source)

def request (c : Cache) (source : String) : CacheEntry × Cache :=
  let now := c.requests + 1
  match c.find? source with
  | some e => (e, { c with requests := now, entries := touch source now c.entries })
  | none =>
    let e : CacheEntry := ⟨source, compileWhole source, now, now, rfl⟩
    let kept := if c.capacity ≤ c.size then withoutOldest c.entries else c.entries
    (e, { c with requests := now, entries := e :: kept })

def matchWhole (c : Cache) (source text : String) : Bool × Cache :=
  let (e, c) := c.request source
  (e.regex.any (·.isMatch text), c)

def clear (c : Cache) : Cache :=
  { c with entries := [] }

end Cache
end Regex
end RequestMatching
