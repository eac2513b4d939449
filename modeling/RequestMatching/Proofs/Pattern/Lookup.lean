import RequestMatching.Path.Pattern

/-!
# Comparisons with lookups

A comparison looks expressions up in a cache, one after the other, and every lookup changes the cache
that the next one finds. Since a cache only holds what the sources stand for, the verdicts are the
same from whichever cache a comparison starts.
-/

namespace RequestMatching

abbrev Lookup (α : Type) := StateM Regex.Cache α

theorem Finding.ofBool_accepted (accepted : Bool) (difference : String) :
    (Finding.ofBool accepted difference).accepted = accepted := by
  cases accepted <;> rfl

/-- The comparator that reads every expression anew. -/
def Comparator.direct (mode : MatchMode) : Comparator :=
  ⟨mode, fun source text => (Regex.compileWhole source).any (·.isMatch text)⟩

/-! ## One lookup -/

namespace Regex.Cache

theorem request_source (c : Regex.Cache) (source : String) : (c.request source).1.source = source := by
  unfold request
  cases hf : c.find? source with
  | none => rfl
  | some e => simpa using List.find?_some hf

theorem matchWhole_answer (c : Regex.Cache) (source text : String) :
    (c.matchWhole source text).1 = (compileWhole source).any (·.isMatch text) := by
  have hentry := (c.request source).1.sound
  rw [request_source] at hentry
  exact congrArg (Option.any (·.isMatch text)) hentry

end Regex.Cache

theorem Comparator.ofCache_eq_direct (mode : MatchMode) (cache : Regex.Cache) :
    Comparator.ofCache mode cache = .direct mode := by
  have hlookup : (fun source text => (cache.matchWhole source text).1) =
      (Comparator.direct mode).matchesWhole := by
    funext source text
    exact cache.matchWhole_answer source text
  rw [ofCache, hlookup]
  rfl

namespace Lookup

/-! ## The comparisons

Each of them answers what its namesake for a comparator does, with the lookups in the order in
which they are made.
-/

def matchesWhole (source text : String) : Lookup Bool :=
  fun cache => cache.matchWhole source text

def acceptsText (mode : MatchMode) (pattern text : String) : Lookup Bool :=
  if Text.isBlank pattern || pattern == text then pure true
  else do
    if ← matchesWhole pattern text then pure true
    else if mode == .controlPlane then matchesWhole text pattern
    else pure false

def accepts (mode : MatchMode) (pattern candidate : Flagged) : Lookup Bool := do
  let structural ← acceptsText mode pattern.value candidate.value
  return if pattern.negated && candidate.negated then structural
    else (pattern.negated || candidate.negated) ^^ structural

def acceptsEntry (mode : MatchMode) (pattern candidate : Entry) : Lookup Bool := do
  if ← accepts mode pattern.key candidate.key then accepts mode pattern.value candidate.value
  else pure false

def acceptedPlaces (mode : MatchMode) (pattern : Entry) (start : Nat) :
    List Entry → Lookup (List Nat)
  | [] => pure []
  | e :: rest => do
    let accepted ← acceptsEntry mode pattern e
    let places ← acceptedPlaces mode pattern (start + 1) rest
    return if accepted then start :: places else places

def isAbsent (mode : MatchMode) (pattern : Entry) (candidates : List Entry) : Lookup Bool := do
  if pattern.isOptional then
    return !(← candidates.anyM fun e => accepts mode pattern.key e.key)
  else pure false

def hasForbidden (mode : MatchMode) (pattern : Entry) (candidates : List Entry) : Lookup Bool :=
  if pattern.key.negated then
    (candidates.filter fun e => !e.key.negated).anyM fun e =>
      accepts mode (.plain pattern.key.value) e.key
  else pure false

def choices (mode : MatchMode) (candidates : List Entry) :
    List Entry → Lookup (Option (List (List Nat)))
  | [] => pure (some [])
  | p :: rest => do
    let places ← acceptedPlaces mode p 0 candidates
    let absent ← isAbsent mode p candidates
    let forbidden ← hasForbidden mode p candidates
    if forbidden || (places.isEmpty && !absent) then pure none
    else do
      let more ← choices mode candidates rest
      return if absent || p.isForbidding then more else more.map (places :: ·)

def contains (mode : MatchMode) (patterns candidates : List Entry) : Lookup Bool := do
  return match ← choices mode candidates patterns with
    | none => false
    | some required =>
      required.length ≤ Assignment.count (Assignment.ofEdges required candidates.length)

def acceptsMap (mode : MatchMode) (p : MultiMapPattern) (candidate : MultiMap) : Lookup Bool :=
  if p.entries.isEmpty then pure true
  else if candidate.isEmpty then pure (p.entries.allNegated || p.entries.allOptional)
  else contains mode p.entries (if p.ignoreCase then candidate.lowercaseKeys else candidate)

def acceptsPath (mode : MatchMode) (p : PathPattern) (path : String) : Lookup Bool :=
  if p.value.isBlank then pure true
  else
    match p.template with
    | none => accepts mode p.value (.plain path)
    | some t => pure (p.value.negated ^^ (t.capture path.toList).isSome)

/-! ## Values that do not depend on the cache -/

/-- The computation comes to a value from whichever cache it starts. -/
def Yields {α : Type} (x : Lookup α) (a : α) : Prop :=
  ∀ cache, (x.run cache).1 = a

section
variable {α β : Type} {x : Lookup α} {a : α}

theorem Yields.pure (a : α) : Yields (Pure.pure a : Lookup α) a :=
  fun _ => rfl

theorem Yields.bind {f : α → Lookup β} {b : β} (hx : Yields x a) (hf : Yields (f a) b) :
    Yields (x >>= f) b := by
  intro cache
  have hrun := hf (x.run cache).2
  rw [← hx cache] at hrun
  exact hrun

theorem Yields.map (f : α → β) (hx : Yields x a) : Yields (x >>= fun a => Pure.pure (f a)) (f a) :=
  hx.bind (.pure _)

theorem Yields.any {f : α → Lookup Bool} {p : α → Bool} (h : ∀ a, Yields (f a) (p a)) :
    ∀ l : List α, Yields (l.anyM f) (l.any p)
  | [] => .pure false
  | a :: l => by
    refine (h a).bind ?_
    rw [List.any_cons]
    cases p a with
    | true => exact .pure true
    | false => exact Yields.any h l

end

/-! ## The verdicts -/

variable (mode : MatchMode)

theorem matchesWhole_yields (source text : String) :
    Yields (matchesWhole source text) ((Comparator.direct mode).matchesWhole source text) :=
  fun cache => cache.matchWhole_answer source text

theorem acceptsText_yields (pattern text : String) :
    Yields (acceptsText mode pattern text) ((Comparator.direct mode).acceptsText pattern text) := by
  have hforth := matchesWhole_yields mode pattern text
  have hback := matchesWhole_yields mode text pattern
  unfold acceptsText Comparator.acceptsText
  cases Text.isBlank pattern || pattern == text with
  | true => exact .pure true
  | false =>
    refine hforth.bind ?_
    cases (Comparator.direct mode).matchesWhole pattern text with
    | true => exact .pure true
    | false =>
      cases mode with
      | dataPlane => exact .pure false
      | controlPlane => exact hback

theorem accepts_yields (pattern candidate : Flagged) :
    Yields (accepts mode pattern candidate) ((Comparator.direct mode).accepts pattern candidate) :=
  (acceptsText_yields mode pattern.value candidate.value).map _

theorem acceptsEntry_yields (pattern candidate : Entry) :
    Yields (acceptsEntry mode pattern candidate) (pattern.accepts (.direct mode) candidate) := by
  refine (accepts_yields mode pattern.key candidate.key).bind ?_
  unfold Entry.accepts
  cases (Comparator.direct mode).accepts pattern.key candidate.key with
  | true => exact accepts_yields mode pattern.value candidate.value
  | false => exact .pure false

theorem acceptedPlaces_yields (pattern : Entry) (candidates : List Entry) : ∀ start : Nat,
    Yields (acceptedPlaces mode pattern start candidates)
      (Subset.acceptedPlaces (.direct mode) pattern start candidates) := by
  induction candidates with
  | nil => exact fun _ => .pure []
  | cons e rest ih =>
    intro start
    exact (acceptsEntry_yields mode pattern e).bind ((ih (start + 1)).map _)

theorem isAbsent_yields (pattern : Entry) (candidates : List Entry) :
    Yields (isAbsent mode pattern candidates) (Subset.isAbsent (.direct mode) pattern candidates) := by
  have hkey : Yields (candidates.anyM fun e => accepts mode pattern.key e.key)
      (Subset.hasKey (.direct mode) pattern candidates) :=
    Yields.any (fun e : Entry => accepts_yields mode pattern.key e.key) candidates
  unfold isAbsent Subset.isAbsent
  cases pattern.isOptional with
  | false => exact .pure false
  | true =>
    rw [if_pos rfl, Bool.true_and]
    exact hkey.map not

theorem hasForbidden_yields (pattern : Entry) (candidates : List Entry) :
    Yields (hasForbidden mode pattern candidates)
      (Subset.hasForbidden (.direct mode) pattern candidates) := by
  unfold hasForbidden Subset.hasForbidden
  cases pattern.key.negated with
  | false => exact .pure false
  | true =>
    have hany := Yields.any (fun e : Entry => accepts_yields mode (.plain pattern.key.value) e.key)
      (candidates.filter fun e => !e.key.negated)
    rw [List.any_filter] at hany
    exact hany

theorem choices_yields (candidates patterns : List Entry) :
    Yields (choices mode candidates patterns)
      (Subset.choices (.direct mode) candidates patterns).toOption := by
  induction patterns with
  | nil => exact .pure _
  | cons p rest ih =>
    refine (acceptedPlaces_yields mode p candidates 0).bind
      ((isAbsent_yields mode p candidates).bind ((hasForbidden_yields mode p candidates).bind ?_))
    rw [Subset.choices]
    cases Subset.hasForbidden (.direct mode) p candidates with
    | true => exact .pure none
    | false =>
      cases (Subset.acceptedPlaces (.direct mode) p 0 candidates).isEmpty &&
        !Subset.isAbsent (.direct mode) p candidates with
      | true => exact .pure none
      | false =>
        have hmore := ih.map fun more =>
          if Subset.isAbsent (.direct mode) p candidates || p.isForbidding then more
          else more.map (Subset.acceptedPlaces (.direct mode) p 0 candidates :: ·)
        cases hrest : Subset.choices (.direct mode) candidates rest with
        | error difference => simpa [hrest, Except.toOption, bind, Except.bind] using hmore
        | ok more =>
          cases hskip : Subset.isAbsent (.direct mode) p candidates || p.isForbidding <;>
            simpa [hrest, hskip, Except.toOption, bind, Except.bind] using hmore

theorem contains_yields (patterns candidates : List Entry) :
    Yields (contains mode patterns candidates)
      (Subset.check (.direct mode) patterns candidates).accepted := by
  have hverdict : (Subset.check (.direct mode) patterns candidates).accepted =
      match (Subset.choices (.direct mode) candidates patterns).toOption with
      | none => false
      | some required =>
        required.length ≤ Assignment.count (Assignment.ofEdges required candidates.length) := by
    unfold Subset.check
    cases Subset.choices (.direct mode) candidates patterns with
    | error difference => rfl
    | ok required => exact Finding.ofBool_accepted ..
  rw [hverdict]
  exact (choices_yields mode candidates patterns).map _

theorem acceptsMap_yields (p : MultiMapPattern) (candidate : MultiMap) :
    Yields (acceptsMap mode p candidate) (p.check (.direct mode) candidate).accepted := by
  unfold acceptsMap MultiMapPattern.check
  cases hp : p.entries.isEmpty with
  | true => exact .pure true
  | false =>
    cases candidate.isEmpty with
    | true =>
      simp only [Bool.false_eq_true, if_false, if_true, Finding.ofBool_accepted]
      exact .pure _
    | false =>
      simp only [Bool.false_eq_true, if_false, MultiMap.contains, hp]
      exact contains_yields mode _ _

theorem acceptsPath_yields (p : PathPattern) (path : String) :
    Yields (acceptsPath mode p path) (p.check (.direct mode) path).accepted := by
  unfold acceptsPath PathPattern.check
  cases p.value.isBlank with
  | true => exact .pure true
  | false =>
    cases p.template with
    | none =>
      simp only [Bool.false_eq_true, if_false, Comparator.compare, Finding.ofBool_accepted]
      exact accepts_yields mode p.value (.plain path)
    | some t =>
      simp only [Bool.false_eq_true, if_false, Finding.ofBool_accepted]
      exact .pure _

end Lookup
end RequestMatching
