import RequestMatching.Proofs.Json.FirstDifference

/-!
# Walks with one trail

A comparison can be a walk through both values that keeps one trail and one list of differences for
all its steps: each step down is put on the trail and taken off again, and a walk for the first
difference looks after every step whether it is done. Both kinds of walk leave the trail as it was and
find what the comparison by parts finds, so one ends with the first difference of the other.
-/

namespace RequestMatching

namespace Json

/-- Where a walk is, the last step first, and what it has found so far. -/
structure Walk where
  trail : List JsonStep := []
  differences : List JsonDifference := []

namespace Walk

def isDone (c : Comparison) (w : Walk) : Bool :=
  c.firstOnly && !w.differences.isEmpty

def record (kind : JsonDifferenceKind) (expected actual : Option Json) (w : Walk) : Walk :=
  { w with differences := w.differences ++ difference w.trail kind expected actual }

def recordUnless (same : Bool) (expected actual : Json) (w : Walk) : Walk :=
  if same then w else w.record .different (some expected) (some actual)

def within (step : JsonStep) (part : Walk → Walk) (w : Walk) : Walk :=
  let w := part { w with trail := step :: w.trail }
  { w with trail := w.trail.tail }

def andThen (c : Comparison) (more : Walk → Walk) (w : Walk) : Walk :=
  if w.isDone c then w else more w

end Walk

def walkExtraMembers (c : Comparison) (expected : List (String × Json)) :
    List (String × Json) → Walk → Walk
  | [], w => w
  | (n, v) :: rest, w =>
    match lookup n expected with
    | some _ => walkExtraMembers c expected rest w
    | none =>
      (w.within (.member n) (·.record .extra none (some v))).andThen c
        (walkExtraMembers c expected rest)

def walkExtraItems (c : Comparison) (place : Nat) : List Json → Walk → Walk
  | [], w => w
  | v :: rest, w =>
    (w.within (.item place) (·.record .extra none (some v))).andThen c
      (walkExtraItems c (place + 1) rest)

def walkMissingItems (c : Comparison) (place : Nat) : List Json → List (Option Nat) → Walk → Walk
  | _ :: rest, some _ :: assignment, w => walkMissingItems c (place + 1) rest assignment w
  | v :: rest, none :: assignment, w =>
    (w.within (.item place) (·.record .missing (some v) none)).andThen c
      (walkMissingItems c (place + 1) rest assignment)
  | _, _, w => w

mutual

def walkAt (c : Comparison) : Json → Json → Walk → Walk
  | string s, actual, w =>
    w.andThen c <|
      match Placeholder.ofString? s with
      | some p => (·.recordUnless (p.accepts actual) (string s) actual)
      | none => (·.recordUnless ((string s).equal actual) (string s) actual)
  | object es, object as, w =>
    w.andThen c fun w =>
      (walkMembers c es as w).andThen c <|
        match c.matchType with
        | .strict => walkExtraMembers c es as
        | .onlyMatchingFields => id
  | array es, array as, w =>
    w.andThen c <|
      match c.matchType with
      | .strict => walkItems c 0 es as
      | .onlyMatchingFields =>
        walkMissingItems c 0 es (Assignment.ofEdges (walkChoices c.matchType es as) as.length)
  | number e, number a, w => w.andThen c (·.recordUnless (e.same a) (number e) (number a))
  | null, actual, w => w.andThen c (·.recordUnless (null.equal actual) null actual)
  | bool b, actual, w => w.andThen c (·.recordUnless ((bool b).equal actual) (bool b) actual)
  | expected, actual, w => w.andThen c (·.recordUnless (expected.equal actual) expected actual)
termination_by structural e => e

def walkMembers (c : Comparison) : List (String × Json) → List (String × Json) → Walk → Walk
  | [], _, w => w
  | (n, e) :: rest, as, w =>
    (w.within (.member n) fun w =>
      match lookup n as with
      | some a => walkAt c e a w
      | none => w.record .missing (some e) none).andThen c (walkMembers c rest as)
termination_by structural es => es

def walkItems (c : Comparison) (place : Nat) : List Json → List Json → Walk → Walk
  | [], as, w => walkExtraItems c place as w
  | e :: rest, [], w =>
    (w.within (.item place) (·.record .missing (some e) none)).andThen c
      (walkItems c (place + 1) rest [])
  | e :: rest, a :: as, w =>
    (w.within (.item place) (walkAt c e a)).andThen c (walkItems c (place + 1) rest as)
termination_by structural es => es

/-- For each expected item, the places of the actual items with which a walk of their own finds no
difference. -/
def walkChoices (matchType : JsonMatchType) : List Json → List Json → List (List Nat)
  | [], _ => []
  | e :: rest, as =>
    placesOf (fun a => (walkAt ⟨matchType, true⟩ e a {}).differences.isEmpty) 0 as ::
      walkChoices matchType rest as
termination_by structural es => es

end

/-! ## What a part adds to a walk -/

namespace Walk

variable {c : Comparison} {w : Walk} {found more : List JsonDifference}

def append (c : Comparison) (found : List JsonDifference) (w : Walk) : Walk :=
  if w.isDone c then w else { w with differences := w.differences ++ found }

theorem append_nil (c : Comparison) (w : Walk) : w.append c [] = w := by
  simp [append]

theorem andThen_of_append {part : Walk → Walk}
    (h : w.isDone c = false → part w = w.append c found) : w.andThen c part = w.append c found := by
  cases hw : w.isDone c with
  | true => simp [andThen, append, hw]
  | false => simpa [andThen, hw] using h hw

theorem record_eq_append (hw : w.isDone c = false) (kind : JsonDifferenceKind)
    (expected actual : Option Json) :
    w.record kind expected actual = w.append c (difference w.trail kind expected actual) := by
  simp [record, append, hw]

theorem recordUnless_eq_append (hw : w.isDone c = false) (same : Bool) (expected actual : Json) :
    w.recordUnless same expected actual = w.append c (compareWith same w.trail expected actual) := by
  cases same with
  | true => exact (append_nil c w).symm
  | false => exact record_eq_append hw _ _ _

/-- A part one step down adds to the walk what it finds and leaves the trail as it was. -/
theorem within_eq_append {step : JsonStep} {part : Walk → Walk} (hw : w.isDone c = false)
    (h : ∀ w' : Walk, w'.isDone c = false → w'.trail = step :: w.trail → part w' = w'.append c found) :
    w.within step part = w.append c found := by
  have hdown : Walk.isDone c { w with trail := step :: w.trail } = false := hw
  have hpart := h _ hdown rfl
  simp only [within, hpart, append, hw, hdown, Bool.false_eq_true, if_false, List.tail_cons]

/-- Two parts in a row find what `Comparison.andThen` makes of their findings. -/
theorem append_andThen {part : Walk → Walk}
    (h : ∀ w' : Walk, w'.isDone c = false → w'.trail = w.trail → part w' = w'.append c more) :
    (w.append c found).andThen c part = w.append c (c.andThen found more) := by
  cases hw : w.isDone c with
  | true => simp [andThen, append, hw]
  | false =>
    have hafter : w.append c found = { w with differences := w.differences ++ found } := by
      simp [append, hw]
    cases hdone : (w.append c found).isDone c with
    | true =>
      -- the walk was not done before, so what makes it done now is in the first part
      have hfirst : c.firstOnly = true ∧ found ≠ [] := by
        rw [hafter] at hdone
        simp only [isDone, Bool.and_eq_true, Bool.and_eq_false_imp, Bool.not_eq_true',
          Bool.not_eq_false', List.isEmpty_iff, List.isEmpty_eq_false_iff] at hdone hw
        refine ⟨hdone.1, fun hnil => hdone.2 ?_⟩
        rw [hw hdone.1, hnil, List.append_nil]
      have hkept : c.andThen found more = found := by
        simp [Comparison.andThen, hfirst]
      rw [andThen, if_pos hdone, hkept]
    | false =>
      rw [andThen, hdone, if_neg Bool.false_ne_true, h _ hdone (by rw [hafter]), append, hdone,
        if_neg Bool.false_ne_true, hafter]
      have hall : c.andThen found more = found ++ more := by
        rw [hafter] at hdone
        cases hc : c.firstOnly with
        | false => simp [Comparison.andThen, hc]
        | true =>
          have hnil : found = [] := by simp_all [isDone]
          simp [Comparison.andThen, hnil]
      simp [append, hw, hall]

theorem within_andThen {step : JsonStep} {part rest : Walk → Walk} (hw : w.isDone c = false)
    (hpart : ∀ w' : Walk, w'.isDone c = false → w'.trail = step :: w.trail →
      part w' = w'.append c found)
    (hrest : ∀ w' : Walk, w'.isDone c = false → w'.trail = w.trail → rest w' = w'.append c more) :
    (w.within step part).andThen c rest = w.append c (c.andThen found more) := by
  rw [within_eq_append hw hpart]
  exact append_andThen hrest

end Walk

/-! ## Walks find what comparisons find -/

variable {c : Comparison}

theorem walkExtraMembers_eq (expected : List (String × Json)) : ∀ (as : List (String × Json)) (w : Walk),
    w.isDone c = false →
      walkExtraMembers c expected as w = w.append c (extraMembers c w.trail expected as)
  | [], w, _ => (w.append_nil c).symm
  | (n, v) :: rest, w, hw => by
    have hrest := walkExtraMembers_eq expected rest
    rw [walkExtraMembers, extraMembers]
    cases lookup n expected with
    | some _ => simpa [Comparison.andThen] using hrest w hw
    | none =>
      refine Walk.within_andThen hw (fun w' hw' htrail => ?_) fun w' hw' htrail => ?_
      · rw [Walk.record_eq_append hw', htrail]
      · rw [hrest w' hw', htrail]

theorem walkExtraItems_eq : ∀ (place : Nat) (as : List Json) (w : Walk), w.isDone c = false →
    walkExtraItems c place as w = w.append c (extraItems c w.trail place as)
  | _, [], w, _ => (w.append_nil c).symm
  | place, v :: rest, w, hw => by
    rw [walkExtraItems, extraItems]
    refine Walk.within_andThen hw (fun w' hw' htrail => ?_) fun w' hw' htrail => ?_
    · rw [Walk.record_eq_append hw', htrail]
    · rw [walkExtraItems_eq (place + 1) rest w' hw', htrail]

theorem walkMissingItems_eq : ∀ (place : Nat) (es : List Json) (assignment : List (Option Nat))
    (w : Walk), w.isDone c = false →
      walkMissingItems c place es assignment w =
        w.append c (missingItems c w.trail place es assignment)
  | _, [], _, w, _ => (w.append_nil c).symm
  | _, _ :: _, [], w, _ => (w.append_nil c).symm
  | place, v :: rest, some _ :: assignment, w, hw => by
    simpa [walkMissingItems, missingItems, Comparison.andThen] using
      walkMissingItems_eq (place + 1) rest assignment w hw
  | place, v :: rest, none :: assignment, w, hw => by
    rw [walkMissingItems, missingItems]
    refine Walk.within_andThen hw (fun w' hw' htrail => ?_) fun w' hw' htrail => ?_
    · rw [Walk.record_eq_append hw', htrail]
    · rw [walkMissingItems_eq (place + 1) rest assignment w' hw', htrail]

mutual

theorem walkAt_eq (c : Comparison) : ∀ (e a : Json) (w : Walk),
    walkAt c e a w = w.append c (compareAt c w.trail e a)
  | null, a, w | bool b, a, w => by
    simp only [walkAt, compareAt]
    exact Walk.andThen_of_append fun hw => Walk.recordUnless_eq_append hw ..
  | number n, a, w => by
    cases a <;>
      (simp only [walkAt, compareAt]
       exact Walk.andThen_of_append fun hw => Walk.recordUnless_eq_append hw ..)
  | string s, a, w => by
    simp only [walkAt, compareAt]
    cases Placeholder.ofString? s <;>
      exact Walk.andThen_of_append fun hw => Walk.recordUnless_eq_append hw ..
  | array es, a, w => by
    cases a with
    | array as =>
      have hitems := walkItems_eq c 0 es as w
      have hchoices := walkChoices_eq c.matchType es as
      simp only [walkAt, compareAt, hchoices]
      cases c.matchType with
      | strict => exact Walk.andThen_of_append hitems
      | onlyMatchingFields => exact Walk.andThen_of_append (walkMissingItems_eq 0 es _ w)
    | _ =>
      simp only [walkAt, compareAt]
      exact Walk.andThen_of_append fun hw => Walk.recordUnless_eq_append hw ..
  | object es, a, w => by
    cases a with
    | object as =>
      simp only [walkAt, compareAt]
      refine Walk.andThen_of_append fun hw => ?_
      rw [walkMembers_eq c es as w hw]
      cases c.matchType with
      | strict =>
        refine Walk.append_andThen fun w' hw' htrail => ?_
        rw [← htrail]
        exact walkExtraMembers_eq es as w' hw'
      | onlyMatchingFields => exact ite_self _
    | _ =>
      simp only [walkAt, compareAt]
      exact Walk.andThen_of_append fun hw => Walk.recordUnless_eq_append hw ..
termination_by structural e => e

theorem walkMembers_eq (c : Comparison) : ∀ (es as : List (String × Json)) (w : Walk),
    w.isDone c = false → walkMembers c es as w = w.append c (compareMembers c w.trail es as)
  | [], _, w, _ => (w.append_nil c).symm
  | (n, e) :: rest, as, w, hw => by
    rw [walkMembers, compareMembers]
    refine Walk.within_andThen hw (fun w' hw' htrail => ?_) fun w' hw' htrail => ?_
    · rw [← htrail]
      cases lookup n as with
      | some a => exact walkAt_eq c e a w'
      | none => exact Walk.record_eq_append hw' ..
    · rw [walkMembers_eq c rest as w' hw', htrail]
termination_by structural es => es

theorem walkItems_eq (c : Comparison) (place : Nat) : ∀ (es as : List Json) (w : Walk),
    w.isDone c = false → walkItems c place es as w = w.append c (compareItems c w.trail place es as)
  | [], as, w, hw => walkExtraItems_eq place as w hw
  | e :: rest, [], w, hw => by
    rw [walkItems, compareItems]
    refine Walk.within_andThen hw (fun w' hw' htrail => ?_) fun w' hw' htrail => ?_
    · rw [Walk.record_eq_append hw', htrail]
    · rw [walkItems_eq c (place + 1) rest [] w' hw', htrail]
  | e :: rest, a :: as, w, hw => by
    rw [walkItems, compareItems]
    refine Walk.within_andThen hw (fun w' hw' htrail => ?_) fun w' hw' htrail => ?_
    · rw [walkAt_eq c e a w', htrail]
    · rw [walkItems_eq c (place + 1) rest as w' hw', htrail]
termination_by structural es => es

theorem walkChoices_eq (m : JsonMatchType) : ∀ es as : List Json,
    walkChoices m es as = itemChoices m es as
  | [], _ => rfl
  | e :: rest, as => by
    have hitem : ∀ a, (walkAt ⟨m, true⟩ e a {}).differences = compareAt ⟨m, true⟩ [] e a := fun a => by
      rw [walkAt_eq ⟨m, true⟩ e a {}]
      simp [Walk.append, Walk.isDone]
    simp only [walkChoices, itemChoices, hitem, walkChoices_eq m rest as]
termination_by structural es => es

end

/-- From any trail on, a walk for the first difference ends with the first one of all that a full walk
finds, and with none if there is none. Both end where they began, with the differences that the
comparison by parts finds. -/
theorem walkAt_first (m : JsonMatchType) (trail : List JsonStep) (e a : Json) :
    let full := walkAt ⟨m, false⟩ e a ⟨trail, []⟩
    let first := walkAt ⟨m, true⟩ e a ⟨trail, []⟩
    first.differences = full.differences.take 1 ∧ first.trail = trail ∧ full.trail = trail ∧
      full.differences = compareAt ⟨m, false⟩ trail e a ∧
      first.differences = compareAt ⟨m, true⟩ trail e a ∧
      compareAt ⟨m, true⟩ [] e a = (compare e a m).take 1 := by
  intro full first
  have hwalk : ∀ firstOnly, walkAt ⟨m, firstOnly⟩ e a ⟨trail, []⟩ =
      ⟨trail, compareAt ⟨m, firstOnly⟩ trail e a⟩ := fun firstOnly => by
    rw [walkAt_eq]
    simp [Walk.append, Walk.isDone]
  have hfull : full = ⟨trail, compareAt ⟨m, false⟩ trail e a⟩ := hwalk false
  have hfirst : first = ⟨trail, compareAt ⟨m, true⟩ trail e a⟩ := hwalk true
  rw [hfull, hfirst]
  exact ⟨compareAt_first trail e a, rfl, rfl, rfl, rfl, compareAt_first [] e a⟩

/-- Of the three differences of two objects a walk for the first one finds that of the first item. -/
example :
    let e := object [("a", array [number (.integer 1), number (.integer 2)]), ("b", null)]
    let a := object [("a", array [number (.integer 3)])]
    (walkAt ⟨.strict, false⟩ e a {}).differences.map (·.path) =
        [[.member "a", .item 0], [.member "a", .item 1], [.member "b"]] ∧
      (walkAt ⟨.strict, true⟩ e a {}).differences.map (·.path) = [[.member "a", .item 0]] := by
  decide

end Json
end RequestMatching
