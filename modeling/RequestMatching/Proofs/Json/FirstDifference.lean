import RequestMatching.Json.Compare

/-!
# The first difference

A comparison that ends with the first difference finds the first of all differences, so it finds
none exactly when there is none.
-/

namespace RequestMatching

namespace Json

variable {m : JsonMatchType} {found more found' more' : List JsonDifference}

/-- With the first difference of each part comes the first difference of the whole. -/
theorem andThen_first (hf : found' = found.take 1) (hm : more' = more.take 1) :
    Comparison.andThen ⟨m, true⟩ found' more' =
      (Comparison.andThen ⟨m, false⟩ found more).take 1 := by
  subst hf hm
  cases found <;> simp [Comparison.andThen]

theorem difference_first (trail : List JsonStep) (kind : JsonDifferenceKind)
    (expected actual : Option Json) :
    difference trail kind expected actual = (difference trail kind expected actual).take 1 := by
  rfl

theorem compareWith_first (same : Bool) (trail : List JsonStep) (e a : Json) :
    compareWith same trail e a = (compareWith same trail e a).take 1 := by
  cases same <;> rfl

/-! ## Rows of differences -/

theorem extraMembers_first (trail : List JsonStep) (expected members : List (String × Json)) :
    extraMembers ⟨m, true⟩ trail expected members =
      (extraMembers ⟨m, false⟩ trail expected members).take 1 := by
  induction members with
  | nil => rfl
  | cons member rest ih =>
    obtain ⟨n, v⟩ := member
    rw [extraMembers, extraMembers]
    refine andThen_first ?_ ih
    cases lookup n expected <;> rfl

theorem extraItems_first (trail : List JsonStep) (items : List Json) : ∀ place : Nat,
    extraItems ⟨m, true⟩ trail place items = (extraItems ⟨m, false⟩ trail place items).take 1 := by
  induction items with
  | nil => exact fun _ => rfl
  | cons v rest ih => exact fun place => andThen_first (difference_first ..) (ih (place + 1))

theorem missingItems_first (trail : List JsonStep) (items : List Json) :
    ∀ (place : Nat) (assignment : List (Option Nat)),
      missingItems ⟨m, true⟩ trail place items assignment =
        (missingItems ⟨m, false⟩ trail place items assignment).take 1 := by
  induction items with
  | nil => exact fun _ _ => rfl
  | cons v rest ih =>
    intro place assignment
    cases assignment with
    | nil => rfl
    | cons assigned assignment =>
      simp only [missingItems]
      refine andThen_first ?_ (ih (place + 1) assignment)
      cases assigned <;> rfl

/-! ## Whole values -/

mutual

/-- The comparison that ends early finds the first difference of the one that does not. -/
theorem compareAt_first (trail : List JsonStep) : ∀ e a : Json,
    compareAt ⟨m, true⟩ trail e a = (compareAt ⟨m, false⟩ trail e a).take 1
  | null, a => by
    simp only [compareAt]
    exact compareWith_first ..
  | bool b, a => by
    simp only [compareAt]
    exact compareWith_first ..
  | number n, a => by
    cases a <;> (simp only [compareAt]; exact compareWith_first ..)
  | string s, a => by
    simp only [compareAt]
    cases Placeholder.ofString? s <;> exact compareWith_first ..
  | array es, a => by
    cases a with
    | array as =>
      have hitems := compareItems_first trail 0 es as
      simp only [compareAt]
      cases m with
      | strict => exact hitems
      | onlyMatchingFields => exact missingItems_first ..
    | _ =>
      simp only [compareAt]
      exact compareWith_first ..
  | object es, a => by
    cases a with
    | object as =>
      have hmembers := compareMembers_first trail es as
      simp only [compareAt]
      cases m with
      | strict => exact andThen_first hmembers (extraMembers_first ..)
      | onlyMatchingFields => exact hmembers
    | _ =>
      simp only [compareAt]
      exact compareWith_first ..
termination_by structural e => e

theorem compareMembers_first (trail : List JsonStep) : ∀ es as : List (String × Json),
    compareMembers ⟨m, true⟩ trail es as = (compareMembers ⟨m, false⟩ trail es as).take 1
  | [], _ => rfl
  | (n, e) :: rest, as => by
    rw [compareMembers, compareMembers]
    refine andThen_first ?_ (compareMembers_first trail rest as)
    cases lookup n as with
    | none => exact difference_first ..
    | some a => exact compareAt_first (.member n :: trail) e a
termination_by structural es => es

theorem compareItems_first (trail : List JsonStep) (place : Nat) : ∀ es as : List Json,
    compareItems ⟨m, true⟩ trail place es as = (compareItems ⟨m, false⟩ trail place es as).take 1
  | [], as => extraItems_first trail as place
  | e :: rest, [] => by
    rw [compareItems, compareItems]
    exact andThen_first (difference_first ..) (compareItems_first trail (place + 1) rest [])
  | e :: rest, a :: as => by
    rw [compareItems, compareItems]
    exact andThen_first (compareAt_first (.item place :: trail) e a)
      (compareItems_first trail (place + 1) rest as)
termination_by structural es => es

end

theorem compareAt_eq_nil_iff (firstOnly : Bool) (trail : List JsonStep) (e a : Json) :
    compareAt ⟨m, firstOnly⟩ trail e a = [] ↔ compareAt ⟨m, false⟩ trail e a = [] := by
  cases firstOnly with
  | false => exact .rfl
  | true =>
    rw [compareAt_first, List.take_eq_nil_iff]
    exact ⟨fun h => h.resolve_left Nat.one_ne_zero, .inr⟩

end Json
end RequestMatching
