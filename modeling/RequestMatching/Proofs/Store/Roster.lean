import RequestMatching.Store.Basic

/-!
# Rosters

A roster is a single list of keys with their values and marks, in the order in which the keys were
added. It has the operations of a store, and runs of both can be compared answer by answer.
-/

namespace RequestMatching

/-- A key with its value; a mark tells whether the value takes part in the priority order. -/
structure Listed (K V : Type) where
  key : K
  value : V
  ranked : Bool
  deriving DecidableEq

abbrev Roster (K V : Type) := List (Listed K V)

namespace Roster

variable {K V P : Type} [DecidableEq K]

def get? (l : Roster K V) (key : K) : Option V :=
  (l.find? fun r => r.key = key).map (·.value)

def hasKey (l : Roster K V) (key : K) : Bool :=
  l.any fun r => r.key = key

/-- The marked values, of which those of lower priority come first and others stay as they are. -/
def byPriority [Ord P] (priorityOf : V → P) (l : Roster K V) : List V :=
  ((l.filter (·.ranked)).map (·.value)).mergeSort fun a b =>
    (compare (priorityOf a) (priorityOf b)).isLE

def change (key : K) (f : Listed K V → Listed K V) (l : Roster K V) : Roster K V :=
  l.map fun r => if r.key = key then f r else r

/-- Adds an absent key at the end; the head has to leave when there are too many. -/
def push (capacity : Nat) (key : K) (value : V) (l : Roster K V) : Option V × Roster K V :=
  let longer := l ++ [⟨key, value, true⟩]
  if longer.length ≤ capacity then (none, longer) else (longer.head?.map (·.value), longer.tail)

/-- Adds a value, or puts it in the place of the one under its key. -/
def add (capacity : Nat) (keyOf : V → K) (value : V) (l : Roster K V) : Option V × Roster K V :=
  if capacity = 0 then (none, l)
  else if l.hasKey (keyOf value) then (none, l.change (keyOf value) fun r => { r with value })
  else l.push capacity (keyOf value) value

def removeKey (key : K) (l : Roster K V) : Bool × Roster K V :=
  (l.hasKey key, l.filter fun r => r.key ≠ key)

/-- Sets the mark of a key and tells whether it was another one before. -/
def mark (key : K) (ranked : Bool) (l : Roster K V) : Bool × Roster K V :=
  ((l.find? fun r => r.key = key).any fun r => r.ranked != ranked, l.change key fun r => { r with ranked })

end Roster

namespace Store

inductive Op (K V : Type) where
  | add (value : V)
  | remove (value : V)
  | removeKey (key : K)
  | unrank (key : K)
  | rerank (key : K)
  | clear

inductive Answer (V : Type) where
  | evicted (value : Option V)
  | changed (b : Bool)
  | done
  deriving DecidableEq

section
variable {K V P : Type} [DecidableEq K] [Ord P]

def apply (s : Store K V P) : Op K V → Answer V × Store K V P
  | .add value => (.evicted (s.add value).1, (s.add value).2)
  | .remove value => (.changed (s.remove value).1, (s.remove value).2)
  | .removeKey key => (.changed (s.removeKey key).1, (s.removeKey key).2)
  | .unrank key => (.changed (s.unrank key).1, (s.unrank key).2)
  | .rerank key => (.changed (s.rerank key).1, (s.rerank key).2)
  | .clear => (.done, s.clear)

def run (s : Store K V P) : List (Op K V) → List (Answer V) × Store K V P
  | [] => ([], s)
  | op :: ops => ((s.apply op).1 :: ((s.apply op).2.run ops).1, ((s.apply op).2.run ops).2)

/-- What a call of `next` gives after `n` others on the same stream. -/
def draw (s : Store K V P) : Nat → List K → Option V
  | 0, stream => (s.next stream).1
  | n + 1, stream => s.draw n (s.next stream).2

end

end Store

namespace Roster

variable {K V : Type} [DecidableEq K]

def apply (capacity : Nat) (keyOf : V → K) (l : Roster K V) : Store.Op K V → Store.Answer V × Roster K V
  | .add value => (.evicted (l.add capacity keyOf value).1, (l.add capacity keyOf value).2)
  | .remove value => (.changed (l.removeKey (keyOf value)).1, (l.removeKey (keyOf value)).2)
  | .removeKey key => (.changed (l.removeKey key).1, (l.removeKey key).2)
  | .unrank key => (.changed (l.mark key false).1, (l.mark key false).2)
  | .rerank key => (.changed (l.mark key true).1, (l.mark key true).2)
  | .clear => (.done, [])

def run (capacity : Nat) (keyOf : V → K) (l : Roster K V) :
    List (Store.Op K V) → List (Store.Answer V) × Roster K V
  | [] => ([], l)
  | op :: ops => ((l.apply capacity keyOf op).1 :: ((l.apply capacity keyOf op).2.run capacity keyOf ops).1,
      ((l.apply capacity keyOf op).2.run capacity keyOf ops).2)

end Roster

end RequestMatching
