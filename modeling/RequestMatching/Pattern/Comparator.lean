import RequestMatching.Diagnostics
import RequestMatching.Pattern.Flagged
import RequestMatching.Regex.Cache

/-!
# Comparing values

A pattern matches a value if it is blank, equal to it, or an expression that matches all of it;
between two patterns the second may also be an expression that matches the first. A negation on one
side turns the result around, negations on both sides cancel out.
-/

namespace RequestMatching

inductive MatchMode where
  /-- Requests against patterns. -/
  | dataPlane
  /-- Patterns against patterns. -/
  | controlPlane
  deriving DecidableEq

/-- Compares values in a mode, where `matchesWhole` decides which texts an expression matches. -/
structure Comparator where
  mode : MatchMode
  matchesWhole : String → String → Bool

namespace Comparator

def ofCache (mode : MatchMode) (cache : Regex.Cache) : Comparator :=
  ⟨mode, fun pattern text => (cache.matchWhole pattern text).1⟩

def fresh (mode : MatchMode) : Comparator :=
  ofCache mode (.ofSize 1000)

def acceptsText (c : Comparator) (pattern text : String) : Bool :=
  Text.isBlank pattern || pattern == text || c.matchesWhole pattern text ||
    (c.mode == .controlPlane && c.matchesWhole text pattern)

def accepts (c : Comparator) (pattern candidate : Flagged) : Bool :=
  let structural := c.acceptsText pattern.value candidate.value
  if pattern.negated && candidate.negated then structural
  else (pattern.negated || candidate.negated) ^^ structural

def compare (c : Comparator) (pattern candidate : Flagged) : Finding :=
  .ofBool (c.accepts pattern candidate)
    s!"string or regex match failed expected: {pattern.text} found: {candidate.text}"

/-- The cache after a comparison of two texts: what the comparison had to look up is in it. -/
def cacheAfter (mode : MatchMode) (cache : Regex.Cache) (pattern text : String) : Regex.Cache :=
  if Text.isBlank pattern || pattern == text then cache
  else
    let (found, cache) := cache.matchWhole pattern text
    if !found && mode == .controlPlane then (cache.matchWhole text pattern).2 else cache

end Comparator
end RequestMatching
