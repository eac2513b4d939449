/-!
# Assignments

Items on the left are assigned distinct items on the right, as many as possible. The left items are
taken in turn, and one that finds all its choices taken makes their owners look for others.
-/

namespace RequestMatching

namespace Assignment

/-- The owner of each right item, and the right items that the current search has tried. -/
structure Search where
  owner : List (Option Nat)
  visited : List Bool

/-- Gives item `i` the first of its choices that is free or whose owner `displace` can move. -/
def takeFirst (displace : Nat → Search → Bool × Search) (i : Nat) :
    List Nat → Search → Bool × Search
  | [], s => (false, s)
  | j :: choices, s =>
    if s.visited.getD j true then takeFirst displace i choices s
    else
      let s := { s with visited := s.visited.set j true }
      let (free, s) := match s.owner.getD j none with
        | none => (true, s)
        | some k => displace k s
      if free then (true, { s with owner := s.owner.set j (some i) })
      else takeFirst displace i choices s

/-- Finds a place for item `i`, moving others up to `depth` times in a row. -/
def augment (edges : List (List Nat)) : Nat → Nat → Search → Bool × Search
  | 0, _, s => (false, s)
  | depth + 1, i, s => takeFirst (augment edges depth) i (edges.getD i []) s

def owners (edges : List (List Nat)) (size : Nat) : List Nat → List (Option Nat) → List (Option Nat)
  | [], owner => owner
  | i :: rest, owner =>
    let (_, s) := augment edges (size + 1) i ⟨owner, List.replicate size false⟩
    owners edges size rest s.owner

/-- What each left item is assigned, where `edges` lists its choices among `size` right items. -/
def ofEdges (edges : List (List Nat)) (size : Nat) : List (Option Nat) :=
  let owner := owners edges size (List.range edges.length) (List.replicate size none)
  (List.range edges.length).map fun i => owner.idxOf? (some i)

def count (assignment : List (Option Nat)) : Nat :=
  assignment.countP (·.isSome)

end Assignment
end RequestMatching
