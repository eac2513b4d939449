import RequestMatching.Expectation.Matcher
import RequestMatching.Registry.Metrics
import RequestMatching.Store.Basic

/-!
# Registries of expectations

A registry holds the matchers of expectations by their identifiers. A request is for the first
active matcher that accepts it, in the order of precedence. Each change of the registry is noted, in
such a way that the notes alone tell which expectations are there and in which order they came.
-/

namespace RequestMatching

inductive RegistryChange where
  | added (id : String)
  | updated (id : String)
  | removed (id : String)
  | reset
  deriving DecidableEq

structure Registry where
  comparator : Comparator
  /-- Whether a failed lookup is to be explained. -/
  detailed : Bool
  matchType : JsonMatchType
  store : Store String ExpectationMatcher Precedence
  /-- All changes so far, the first one first. -/
  changes : List RegistryChange := []
  metrics : Metrics := {}

namespace Registry

def empty (capacity : Nat) (c : Comparator) (detailed : Bool) (matchType : JsonMatchType) :
    Registry where
  comparator := c
  detailed := detailed
  matchType := matchType
  store := { capacity, keyOf := (·.id), priorityOf := (·.precedence) }

def size (r : Registry) : Nat :=
  r.store.size

def get? (r : Registry) (id : String) : Option ExpectationMatcher :=
  r.store.get? id

def note (r : Registry) (changes : List RegistryChange) : Registry :=
  { r with changes := r.changes ++ changes }

def recordSize (r : Registry) : Registry :=
  { r with metrics := { r.metrics with expectations := r.size } }

def update (r : Registry) (m : ExpectationMatcher) (e : Expectation) :
    ExpectationMatcher × Registry :=
  let (changed, next) := m.update { e with created := m.expectation.created }
  if changed then
    (next, { r with store := (r.store.add next).2 }.note [.updated next.id])
  else (m, r)

/-- Adds a matcher under a new identifier, for which the oldest one may have to leave. -/
def insert (r : Registry) (m : ExpectationMatcher) : Registry :=
  if r.store.isDisabled then r
  else
    let (evicted, store) := r.store.add m
    let r := { r with store }.note [.added m.id]
    match evicted with
    | none => r.recordSize
    | some old =>
      let metrics := { r.metrics with evictions := r.metrics.evictions + 1 }
      ({ r with metrics }.note [.removed old.id]).recordSize

def add (r : Registry) (e : Expectation) (origin : Origin) :
    Except LoadError (ExpectationMatcher × Registry) := do
  e.validate
  match r.get? e.id with
  | some m => return r.update m e
  | none =>
    let m := ExpectationMatcher.ofExpectation r.comparator r.matchType origin e
    return (m, r.insert m)

def addAll (r : Registry) : List Expectation → Except LoadError Registry
  | [] => .ok r
  | e :: rest => do
    let (_, r) ← r.add e .api
    r.addAll rest

def remove (r : Registry) (id : String) : Bool × Registry :=
  let (removed, store) := r.store.removeKey id
  if removed then (true, ({ r with store }.recordSize).note [.removed id]) else (false, r)

def reset (r : Registry) : Registry :=
  ({ r with store := r.store.clear }.recordSize).note [.reset]

def setActive (r : Registry) (id : String) (active : Bool) : Registry :=
  { r with store := r.store.modify id fun m => { m with active } }

def setBusy (r : Registry) (id : String) (busy : Bool) : Registry :=
  { r with store := r.store.modify id fun m => { m with busy } }

/-! ## Lookups -/

def diagnosticsFor (r : Registry) (request : HttpRequest) : Diagnostics :=
  { detailed := r.detailed, subject := if r.detailed then some request.text else none }

def takes (r : Registry) (request : HttpRequest) (m : ExpectationMatcher) : Bool :=
  m.active && !m.busy && (m.attempt request (some (r.diagnosticsFor request))).accepted

def firstMatch (r : Registry) (request : HttpRequest) : Option ExpectationMatcher × Registry :=
  let found := r.store.inPriorityOrder.find? (r.takes request)
  (found, { r with metrics := r.metrics.recordLookup found.isSome })

def allMatches (r : Registry) (request : HttpRequest) : List ExpectationMatcher :=
  r.store.inPriorityOrder.filter fun m => m.active && m.accepts request

def activeMatchers (r : Registry) : List ExpectationMatcher :=
  r.store.inPriorityOrder.filter (·.active)

def expectations (r : Registry) : List Expectation :=
  r.store.values.map (·.expectation)

def explain (r : Registry) (id : String) (request : HttpRequest) : Option Attempt :=
  (r.get? id).map fun m =>
    m.attempt request (some { detailed := true, subject := some request.text })

end Registry
end RequestMatching
