import RequestMatching.Pattern.Assignment
import RequestMatching.Pattern.Entry

/-!
# Subsets of entries

Candidates contain patterns if no forbidden key is present, every pattern accepts some candidate or
is optional and absent, and the patterns that require something can have distinct candidates.
-/

namespace RequestMatching

namespace Subset

variable (c : Comparator)

def acceptedPlaces (pattern : Entry) (start : Nat) : List Entry → List Nat
  | [] => []
  | e :: rest =>
    if pattern.accepts c e then start :: acceptedPlaces pattern (start + 1) rest
    else acceptedPlaces pattern (start + 1) rest

def hasKey (pattern : Entry) (candidates : List Entry) : Bool :=
  candidates.any fun e => c.accepts pattern.key e.key

def hasForbidden (pattern : Entry) (candidates : List Entry) : Bool :=
  pattern.key.negated &&
    candidates.any fun e => !e.key.negated && c.accepts (.plain pattern.key.value) e.key

def isAbsent (pattern : Entry) (candidates : List Entry) : Bool :=
  pattern.isOptional && !hasKey c pattern candidates

/-- The choices of the patterns that require a candidate, or what is wrong with the first pattern
that fails on its own. -/
def choices (candidates : List Entry) : List Entry → Except String (List (List Nat))
  | [] => .ok []
  | p :: rest =>
    let places := acceptedPlaces c p 0 candidates
    if hasForbidden c p candidates then
      .error s!"forbidden key {p.key.value} is present in {Entry.listText candidates}"
    else if places.isEmpty && !isAbsent c p candidates then
      .error s!"no entry matched {p.text} in {Entry.listText candidates}"
    else do
      let more ← choices candidates rest
      .ok (if isAbsent c p candidates || p.isForbidding then more else places :: more)

def check (patterns candidates : List Entry) : Finding :=
  match choices c candidates patterns with
  | .error difference => .reject difference
  | .ok required =>
    let wanted := required.length
    let distinct := Assignment.count (Assignment.ofEdges required candidates.length)
    .ofBool (wanted ≤ distinct)
      (s!"{wanted} required entries matched only {distinct} distinct entries in " ++
        Entry.listText candidates)

end Subset
end RequestMatching
