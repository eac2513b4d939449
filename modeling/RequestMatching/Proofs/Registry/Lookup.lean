import RequestMatching.Proofs.Registry.Mirror

/-!
# Lookups in a registry

A registry follows its enrolment through every step, and its store lists the matchers in the order of
precedence. So lookups find what has been enrolled.
-/

namespace RequestMatching

/-! ## The order of precedence -/

instance : Std.TransCmp CivilTime.order :=
  inferInstanceAs <| Std.TransCmp <|
    compareLex (compareOn CivilTime.year) <| compareLex (compareOn CivilTime.month) <|
      compareLex (compareOn CivilTime.day) <| compareLex (compareOn CivilTime.hour) <|
        compareLex (compareOn CivilTime.minute) <|
          compareLex (compareOn CivilTime.second) (compareOn CivilTime.nanos)

instance : Std.TransOrd CivilTime :=
  inferInstanceAs (Std.TransCmp CivilTime.order)

instance : Std.TransCmp fun a b : Precedence => compare b.priority a.priority :=
  inferInstanceAs (Std.TransCmp fun a b => compareOn Precedence.priority b a)

instance : Std.TransOrd Precedence :=
  inferInstanceAs <| Std.TransCmp <|
    compareLex (fun a b : Precedence => compare b.priority a.priority) (compareOn Precedence.created)

namespace Registry

/-! ## Steps -/

/-- A registry follows an enrolment. -/
structure Follows (capacity : Nat) (c : Comparator) (matchType : JsonMatchType) (r : Registry)
    (l : Enrolment) : Prop where
  coherent : r.store.Coherent
  rules : r.store.rules = (capacity, (·.id), (·.precedence))
  holds : HoldAll c matchType r.store.roster l
  comparator : r.comparator = c
  matchType : r.matchType = matchType

theorem empty_follows (capacity : Nat) (c : Comparator) (detailed : Bool)
    (matchType : JsonMatchType) : Follows capacity c matchType (empty capacity c detailed matchType) [] :=
  ⟨Store.coherent_empty .., rfl, .nil, rfl, rfl⟩

section
variable {capacity : Nat} {c : Comparator} {matchType : JsonMatchType} {r : Registry} {l : Enrolment}

structure Becomes (r : Registry) (store : Store String ExpectationMatcher Precedence)
    (r' : Registry) : Prop where
  store_eq : r'.store = store
  comparator : r'.comparator = r.comparator
  matchType : r'.matchType = r.matchType

theorem insert_becomes (r : Registry) (m : ExpectationMatcher) :
    Becomes r (r.store.add m).2 (r.insert m) := by
  unfold insert
  cases hd : r.store.isDisabled with
  | true =>
    rw [if_pos rfl, Store.add, hd, if_pos rfl]
    exact ⟨rfl, rfl, rfl⟩
  | false =>
    rw [if_neg Bool.false_ne_true]
    rcases r.store.add m with ⟨_ | old, store⟩
    · exact ⟨rfl, rfl, rfl⟩
    · exact ⟨rfl, rfl, rfl⟩

theorem update_becomes (r : Registry) (m : ExpectationMatcher) (e : Expectation) :
    let u := m.update { e with created := m.expectation.created }
    Becomes r (if u.1 then (r.store.add u.2).2 else r.store) (r.update m e).2 := by
  simp only [Registry.update]
  rcases m.update { e with created := m.expectation.created } with ⟨_ | _, next⟩
  · exact ⟨rfl, rfl, rfl⟩
  · exact ⟨rfl, rfl, rfl⟩

theorem remove_becomes (r : Registry) (id : String) :
    Becomes r (r.store.removeKey id).2 (r.remove id).2 := by
  unfold Registry.remove Store.removeKey
  cases r.store.slot? id with
  | none => exact ⟨rfl, rfl, rfl⟩
  | some slot => exact ⟨rfl, rfl, rfl⟩

theorem apply_add_of_blank {e : Expectation} (he : Text.isBlank e.id = true) (origin : Origin) :
    r.apply (.add e origin) = r := by
  simp [apply, add, Expectation.validate, he, bind, Except.bind]

theorem apply_add_of_some {e : Expectation} {m : ExpectationMatcher}
    (he : Text.isBlank e.id = false) (hm : r.get? e.id = some m) (origin : Origin) :
    r.apply (.add e origin) = (r.update m e).2 := by
  simp [apply, add, Expectation.validate, he, hm, bind, Except.bind, pure, Except.pure]

theorem apply_add_of_none {e : Expectation} (he : Text.isBlank e.id = false)
    (hm : r.get? e.id = none) (origin : Origin) :
    r.apply (.add e origin) =
      r.insert (.ofExpectation r.comparator r.matchType origin e) := by
  simp [apply, add, Expectation.validate, he, hm, bind, Except.bind, pure, Except.pure]

theorem Follows.of_becomes {store : Store String ExpectationMatcher Precedence} {r' : Registry}
    {l' : Enrolment} (h : Follows capacity c matchType r l) (hr : Becomes r store r')
    (hcoherent : store.Coherent) (hrules : store.rules = r.store.rules)
    (hholds : HoldAll c matchType store.roster l') : Follows capacity c matchType r' l' where
  coherent := hr.store_eq ▸ hcoherent
  rules := hr.store_eq ▸ hrules.trans h.rules
  holds := hr.store_eq ▸ hholds
  comparator := hr.comparator.trans h.comparator
  matchType := hr.matchType.trans h.matchType

theorem Follows.add (h : Follows capacity c matchType r l) (e : Expectation) (origin : Origin) :
    Follows capacity c matchType (r.apply (.add e origin)) (l.add capacity e) := by
  have hcapacity : r.store.capacity = capacity := congrArg (·.1) h.rules
  have hkeyOf : r.store.keyOf = (·.id) := congrArg (·.2.1) h.rules
  have hkeys : (r.store.roster.map (·.key)).Nodup := Store.roster_keys r.store ▸ h.coherent.nodup
  have hpresent := h.holds.hasKey e.id
  rw [Enrolment.add, ← hpresent]
  cases he : Text.isBlank e.id with
  | true =>
    rw [apply_add_of_blank he]
    exact h
  | false =>
    simp only [Bool.false_or, decide_eq_true_eq]
    cases hm : r.get? e.id with
    | none =>
      have hget : r.store.roster.get? e.id = none := r.store.get?_eq e.id ▸ hm
      have hadd := h.coherent.add (.ofExpectation r.comparator r.matchType origin e)
      have hkey : r.store.roster.hasKey e.id = false := by
        rw [Store.hasKey_eq_isSome, hget, Option.isSome_none]
      rw [apply_add_of_none he hm]
      refine h.of_becomes (r.insert_becomes _) hadd.coherent (r.store.apply_rules (.add _)) ?_
      rw [hadd.roster_eq, hcapacity, hkeyOf, h.comparator, h.matchType, hkey]
      exact h.holds.addNew capacity hkey origin
    | some m =>
      have hget : r.store.roster.get? e.id = some m := r.store.get?_eq e.id ▸ hm
      have hkey : r.store.roster.hasKey e.id = true := by
        rw [Store.hasKey_eq_isSome, hget, Option.isSome_some]
      have hknown := h.holds.addKnown hkeys capacity hget
      have hadd := h.coherent.add (m.update { e with created := m.expectation.created }).2
      have hbecomes := r.update_becomes m e
      rw [apply_add_of_some he hm, hkey, if_pos rfl]
      simp only at hbecomes hknown
      split at hbecomes
      · refine h.of_becomes hbecomes hadd.coherent (r.store.apply_rules (.add _)) ?_
        rw [if_pos ‹_›] at hknown
        rw [hadd.roster_eq, hcapacity, hkeyOf]
        exact hknown
      · rw [if_neg ‹_›] at hknown
        exact h.of_becomes hbecomes h.coherent rfl hknown

theorem Follows.modify (h : Follows capacity c matchType r l) (id : String)
    {f : ExpectationMatcher → ExpectationMatcher} {g : Enrolled → Enrolled}
    (hf : ∀ m x, Mirrors c matchType m x → Mirrors c matchType (f m) (g x))
    (hid : ∀ x, (g x).expectation.id = x.expectation.id)
    (hprecedence : ∀ m, (f m).precedence = m.precedence) :
    Follows capacity c matchType { r with store := r.store.modify id f } (l.change id g) := by
  have hpriorityOf : r.store.priorityOf = (·.precedence) := congrArg (·.2.2) h.rules
  have hcoherent : (r.store.modify id f).Coherent := h.coherent.modify id fun m => by
    rw [hpriorityOf]
    exact hprecedence m
  have hrules : (r.store.modify id f).rules = r.store.rules := by
    unfold Store.modify
    split <;> rfl
  refine h.of_becomes ⟨rfl, rfl, rfl⟩ hcoherent hrules ?_
  rw [h.coherent.modify_roster]
  exact h.holds.change fun e _ x _ hex => ⟨hex.ranked, hex.key.trans (hid x).symm, hf _ _ hex.mirrors⟩

/-- A registry follows its enrolment through every step. -/
theorem Follows.apply (h : Follows capacity c matchType r l) (op : Op) :
    Follows capacity c matchType (r.apply op) (l.apply capacity op) := by
  cases op with
  | add e origin => exact h.add e origin
  | remove id =>
    have hremove := h.coherent.remove id
    refine h.of_becomes (r.remove_becomes id) hremove.coherent (r.store.apply_rules (.removeKey id)) ?_
    rw [hremove.roster_eq]
    exact h.holds.filter id
  | reset => exact h.of_becomes ⟨rfl, rfl, rfl⟩ (Store.coherent_clear _) rfl .nil
  | setActive id active =>
    exact h.modify id (fun m x hmx => { hmx with active := rfl }) (fun _ => rfl) fun _ => rfl
  | setBusy id busy =>
    exact h.modify id (fun m x hmx => { hmx with busy := rfl }) (fun _ => rfl) fun _ => rfl
  | lookup request => exact h.of_becomes ⟨rfl, rfl, rfl⟩ h.coherent rfl h.holds

theorem Follows.run (ops : List Op) : ∀ {r : Registry} {l : Enrolment},
    Follows capacity c matchType r l →
      Follows capacity c matchType (r.run ops) (l.run capacity ops) := by
  induction ops with
  | nil => exact fun h => h
  | cons op ops ih => exact fun h => ih (h.apply op)

/-! ## Lookups -/

theorem notAfter_eq (a b : Enrolled) :
    a.notAfter b = (compare a.expectation.precedence b.expectation.precedence).isLE := by
  have horder : compare a.expectation.precedence b.expectation.precedence =
      (compare b.expectation.priority a.expectation.priority).then
        (compare a.expectation.created b.expectation.created) := rfl
  rw [horder, Bool.eq_iff_iff, Ordering.isLE_then_iff_or, Int.compare_eq_lt, Int.compare_eq_eq,
    Enrolled.notAfter, eq_comm (a := b.expectation.priority)]
  simp only [Bool.or_eq_true, Bool.and_eq_true, decide_eq_true_eq]

theorem Follows.inPriorityOrder (h : Follows capacity c matchType r l) :
    List.Forall₂ (Mirrors c matchType) r.store.inPriorityOrder l.byPrecedence := by
  have hpriorityOf : r.store.priorityOf = (·.precedence) := congrArg (·.2.2) h.rules
  have hranked : ∀ e ∈ r.store.roster, e.ranked = true :=
    ((List.forall₂_and_left _ _).mp (h.holds.imp fun _ _ hex => ⟨hex.ranked, hex⟩)).1
  have hmirrors : List.Forall₂ (Mirrors c matchType) (r.store.roster.map (·.value)) l :=
    List.forall₂_map_left_iff.mpr (h.holds.imp fun _ _ hex => hex.mirrors)
  rw [h.coherent.inPriorityOrder_eq, hpriorityOf, Roster.byPriority, List.filter_eq_self.mpr hranked]
  refine forall₂_mergeSort hmirrors fun hx hy => ?_
  rw [notAfter_eq, ← hx.precedence, ← hy.precedence]

end

theorem firstMatch_eq_find? (r : Registry) (request : HttpRequest) :
    (r.firstMatch request).1 = (r.allMatches request).find? (!·.busy) := by
  rw [firstMatch, allMatches, List.find?_filter]
  refine congrArg (List.find? · _) (funext fun m => ?_)
  rw [takes, ExpectationMatcher.accepts, ExpectationMatcher.attempt, ExpectationMatcher.attempt,
    RequestPattern.attempt_accepted, RequestPattern.attempt_accepted]
  generalize RequestPattern.aspects.all (m.pattern.acceptsAspect m.comparator request) = accepted
  cases m.active <;> cases m.busy <;> cases accepted <;> rfl

/-- After any run, lookups find what has been enrolled. -/
theorem run_lookups (capacity : Nat) (c : Comparator) (detailed : Bool) (matchType : JsonMatchType)
    (ops : List Op) (request : HttpRequest) :
    let r := (empty capacity c detailed matchType).run ops
    let l := (Enrolment.run capacity [] ops).byPrecedence
    (r.firstMatch request).1.map (·.id) =
        (l.find? fun x => x.active && !x.busy && x.accepts c matchType request).map
          (·.expectation.id) ∧
      (r.allMatches request).map (·.id) =
        (l.filter fun x => x.active && x.accepts c matchType request).map (·.expectation.id) ∧
      (r.firstMatch request).1 = (r.allMatches request).find? (!·.busy) ∧
      (∀ x ∈ l, x.definition = x.expectation.request ∨
        x.definition.equal x.expectation.request = true) ∧
      ((∀ op ∈ ops, op.isPlain = true) → ∀ x ∈ l, x.definition = x.expectation.request) := by
  intro r l
  have hfollows := (empty_follows capacity c detailed matchType).run ops
  have horder := hfollows.inPriorityOrder
  have hmem : ∀ x, x ∈ l ↔ x ∈ Enrolment.run capacity [] ops := fun _ => List.mem_mergeSort
  refine ⟨?_, ?_, r.firstMatch_eq_find? request, fun x hx => ?_, fun hops x hx => ?_⟩
  · refine find?_map_eq_of_forall₂ horder (fun hmx => ?_) Mirrors.id
    rw [takes, hmx.accepted, hmx.active, hmx.busy]
  · refine map_eq_of_forall₂ (forall₂_filter horder fun hmx => ?_) Mirrors.id
    rw [ExpectationMatcher.accepts, hmx.accepted, hmx.active]
  · exact Enrolment.definition_run capacity ops x ((hmem x).mp hx)
  · exact Enrolment.definition_run_of_plain capacity hops x ((hmem x).mp hx)

/-! ## Zeros of either sign

A pair of a placeholder for numbers and a zero matches its own text, but that text has a string in the
place of the number. So a request with the text of the pair tells the sign of the zero.
-/

def pairWithZero (negative : Bool) : Json :=
  .array [.string "$\x7bjson-unit.any-number\x7d", .number (.float (.finite negative 0))]

def expectingPair (negative : Bool) : Expectation where
  id := "a"
  created := { year := 2024, month := 1, day := 1 }
  request := { body := some { pattern := .json (pairWithZero negative) none } }

def pairRequest : HttpRequest where
  method := "POST"
  body := some (Utf8.encode (pairWithZero true).text)

/-- Lookups do not go by the definitions that were added last: one with negative zero that comes after
one with zero is not compared. -/
theorem not_lookups_by_last_definition : ¬ ∀ (capacity : Nat) (c : Comparator) (detailed : Bool)
    (matchType : JsonMatchType) (ops : List Op) (request : HttpRequest),
    let r := (empty capacity c detailed matchType).run ops
    let l := (Enrolment.run capacity [] ops).byPrecedence
    let accepts : Enrolled → Bool := fun x =>
      ((RequestPattern.ofDefinition matchType x.expectation.request).attempt c request none).accepted
    (r.firstMatch request).1.map (·.id) =
        (l.find? fun x => x.active && !x.busy && accepts x).map (·.expectation.id) ∧
      (r.allMatches request).map (·.id) =
        (l.filter fun x => x.active && accepts x).map (·.expectation.id) := by
  intro h
  have hfirst := (h 1 (.direct .dataPlane) false .onlyMatchingFields
    [.add (expectingPair false) .api, .add (expectingPair true) .api] pairRequest).1
  exact absurd hfirst (by decide +kernel)

end Registry
end RequestMatching
