/-!
# A bounded store in two orders

Values are found by their keys, listed in the order in which their keys were first added, and
streamed by priority. When the store grows beyond its capacity the oldest value leaves. A key can be
taken out of the priority order and put back without touching the rest.
-/

namespace RequestMatching

/-- A place in the priority order: values of one priority are in the order of their sequence. -/
structure Rank (K P : Type) where
  priority : P
  sequence : Nat
  key : K

/-- A value with its place in the priority order, in which it may or may not take part. -/
structure Slot (K V P : Type) where
  value : V
  rank : Rank K P
  ranked : Bool

structure Store (K V P : Type) where
  capacity : Nat
  keyOf : V → K
  priorityOf : V → P
  sequence : Nat := 0
  slots : List (K × Slot K V P) := []
  ranking : List (Rank K P) := []
  queue : List K := []

namespace Rank

variable {K P : Type} [Ord P]

def order (a b : Rank K P) : Ordering :=
  (compare a.priority b.priority).then (compare a.sequence b.sequence)

def insert (r : Rank K P) : List (Rank K P) → List (Rank K P)
  | [] => [r]
  | q :: rest =>
    match r.order q with
    | .lt => r :: q :: rest
    | .eq => q :: rest
    | .gt => q :: insert r rest

def erase (r : Rank K P) (ranking : List (Rank K P)) : List (Rank K P) :=
  ranking.filter fun q => r.order q != .eq

end Rank

namespace Store

variable {K V P : Type} [DecidableEq K] [Ord P]

def isDisabled (s : Store K V P) : Bool :=
  s.capacity == 0

def slot? (s : Store K V P) (key : K) : Option (Slot K V P) :=
  s.slots.lookup key

def get? (s : Store K V P) (key : K) : Option V :=
  (s.slot? key).map (·.value)

def contains (s : Store K V P) (key : K) : Bool :=
  (s.slot? key).isSome

def size (s : Store K V P) : Nat :=
  s.slots.length

def setSlot (key : K) (slot : Slot K V P) : List (K × Slot K V P) → List (K × Slot K V P)
  | [] => []
  | (k, old) :: rest => if k = key then (k, slot) :: rest else (k, old) :: setSlot key slot rest

def dropSlot (key : K) (slots : List (K × Slot K V P)) : List (K × Slot K V P) :=
  slots.filter fun (k, _) => k != key

def replace (s : Store K V P) (key : K) (old : Slot K V P) (value : V) : Store K V P :=
  let slot : Slot K V P :=
    { old with value, rank := ⟨s.priorityOf value, old.rank.sequence, key⟩ }
  { s with
    slots := setSlot key slot s.slots
    ranking := if old.ranked then slot.rank.insert (old.rank.erase s.ranking) else s.ranking }

def append (s : Store K V P) (key : K) (value : V) : Store K V P :=
  let rank : Rank K P := ⟨s.priorityOf value, s.sequence, key⟩
  { s with
    sequence := s.sequence + 1
    slots := s.slots ++ [(key, ⟨value, rank, true⟩)]
    ranking := rank.insert s.ranking
    queue := s.queue ++ [key] }

def evict (s : Store K V P) : Option V × Store K V P :=
  match s.queue with
  | [] => (none, s)
  | oldest :: queue =>
    match s.slot? oldest with
    | none => (none, { s with queue })
    | some slot =>
      (some slot.value,
        { s with
          queue
          slots := dropSlot oldest s.slots
          ranking := if slot.ranked then slot.rank.erase s.ranking else s.ranking })

/-- Adds a value, or replaces the one under its key, and tells which value had to leave. -/
def add (s : Store K V P) (value : V) : Option V × Store K V P :=
  if s.isDisabled then (none, s)
  else
    let key := s.keyOf value
    match s.slot? key with
    | some old => (none, s.replace key old value)
    | none =>
      let s := s.append key value
      if s.queue.length ≤ s.capacity then (none, s) else s.evict

def removeKey (s : Store K V P) (key : K) : Bool × Store K V P :=
  match s.slot? key with
  | none => (false, s)
  | some slot =>
    (true,
      { s with
        slots := dropSlot key s.slots
        ranking := if slot.ranked then slot.rank.erase s.ranking else s.ranking
        queue := s.queue.filter (· != key) })

def remove (s : Store K V P) (value : V) : Bool × Store K V P :=
  s.removeKey (s.keyOf value)

/-- Takes a key out of the priority order and tells whether it was there. -/
def unrank (s : Store K V P) (key : K) : Bool × Store K V P :=
  match s.slot? key with
  | none => (false, s)
  | some slot =>
    if slot.ranked then
      (true,
        { s with
          slots := setSlot key { slot with ranked := false } s.slots
          ranking := slot.rank.erase s.ranking })
    else (false, s)

/-- Puts a key back into the priority order and tells whether it was out of it. -/
def rerank (s : Store K V P) (key : K) : Bool × Store K V P :=
  match s.slot? key with
  | none => (false, s)
  | some slot =>
    if slot.ranked then (false, s)
    else
      (true,
        { s with
          slots := setSlot key { slot with ranked := true } s.slots
          ranking := slot.rank.insert s.ranking })

def modify (s : Store K V P) (key : K) (change : V → V) : Store K V P :=
  match s.slot? key with
  | none => s
  | some slot => { s with slots := setSlot key { slot with value := change slot.value } s.slots }

def values (s : Store K V P) : List V :=
  s.queue.filterMap s.get?

def clear (s : Store K V P) : Store K V P :=
  { s with slots := [], ranking := [], queue := [] }

/-! ## Streams -/

def stream (s : Store K V P) : List K :=
  s.ranking.map (·.key)

/-- The next value of a stream and the keys that are left. A key is passed over if it is not in the
priority order any more. -/
def next (s : Store K V P) : List K → Option V × List K
  | [] => (none, [])
  | key :: rest =>
    match s.slot? key with
    | some slot => if slot.ranked then (some slot.value, rest) else next s rest
    | none => next s rest

def inPriorityOrder (s : Store K V P) : List V :=
  s.stream.filterMap fun key =>
    match s.slot? key with
    | some slot => if slot.ranked then some slot.value else none
    | none => none

end Store
end RequestMatching
