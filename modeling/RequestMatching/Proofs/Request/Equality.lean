import RequestMatching.Expectation.Basic

/-!
# Equality as values

Expectations are equal as values if all that they hold is, where zero equals negative zero and nothing
equals what is not a number. That is a partial equivalence. Expectations without negative zeros that
are equal as values are the same.
-/

namespace RequestMatching

/-! ## Numbers -/

namespace Binary64

theorem eq_symm {x y : Binary64} (h : eq x y = true) : eq y x = true := by
  cases x <;> cases y <;> simp_all [eq]

theorem eq_trans {x y z : Binary64} (hxy : eq x y = true) (hyz : eq y z = true) : eq x z = true := by
  cases x <;> cases y <;> cases z <;> simp_all [eq]

def isNegativeZero (x : Binary64) : Bool :=
  x = finite true 0

theorem eq_of_eq {x y : Binary64} (h : eq x y = true) (hx : x.isNegativeZero = false)
    (hy : y.isNegativeZero = false) : x = y := by
  cases x with
  | nan => simp [eq] at h
  | infinite s => cases y <;> simp_all [eq]
  | finite s u =>
    cases y with
    | nan => simp [eq] at h
    | infinite t => simp [eq] at h
    | finite t v =>
      have hunits : signedUnits s u = signedUnits t v := by simpa [eq] using h
      simp only [isNegativeZero, finite.injEq, decide_eq_false_iff_not, not_and] at hx hy
      cases s <;> cases t <;> simp only [signedUnits, if_true, Bool.false_eq_true, if_false] at hunits
      · rw [show u = v by omega]
      · exact absurd (show v = 0 by omega) (hy rfl)
      · exact absurd (show u = 0 by omega) (hx rfl)
      · rw [show u = v by omega]

end Binary64

namespace JsonNumber

theorem equal_symm {a b : JsonNumber} (h : a.equal b = true) : b.equal a = true := by
  cases a <;> cases b <;> simp_all [equal]
  exact Binary64.eq_symm h

theorem equal_trans {a b c : JsonNumber} (hab : a.equal b = true) (hbc : b.equal c = true) :
    a.equal c = true := by
  cases a <;> cases b <;> cases c <;> simp_all [equal]
  exact Binary64.eq_trans hab hbc

def isPlain : JsonNumber → Bool
  | integer _ => true
  | float x => !x.isNegativeZero

theorem eq_of_equal {a b : JsonNumber} (h : a.equal b = true) (ha : a.isPlain = true)
    (hb : b.isPlain = true) : a = b := by
  cases a <;> cases b <;> simp_all [equal, isPlain]
  exact Binary64.eq_of_eq h ha hb

end JsonNumber

/-! ## JSON values -/

namespace Json

mutual

/-- Whether no number of the value is a negative zero. -/
def isPlain : Json → Bool
  | number n => n.isPlain
  | array items => arePlainItems items
  | object members => arePlainMembers members
  | _ => true

def arePlainItems : List Json → Bool
  | [] => true
  | v :: rest => isPlain v && arePlainItems rest

def arePlainMembers : List (String × Json) → Bool
  | [] => true
  | (_, v) :: rest => isPlain v && arePlainMembers rest

end

mutual

theorem equal_symm : ∀ {a b : Json}, a.equal b = true → b.equal a = true
  | null, b, h => by cases b <;> simp_all [equal]
  | bool _, b, h => by cases b <;> simp_all [equal]
  | number _, b, h => by
    cases b <;> simp_all [equal]
    exact JsonNumber.equal_symm h
  | string _, b, h => by cases b <;> simp_all [equal]
  | array as, b, h => by
    cases b <;> simp_all [equal]
    exact equalItems_symm h
  | object as, b, h => by
    cases b <;> simp_all [equal]
    exact equalMembers_symm h

theorem equalItems_symm : ∀ {as bs : List Json}, equalItems as bs = true → equalItems bs as = true
  | [], bs, h => by cases bs <;> simp_all [equalItems]
  | _ :: _, [], h => by simp [equalItems] at h
  | a :: as, b :: bs, h => by
    simp only [equalItems, Bool.and_eq_true] at h ⊢
    exact ⟨equal_symm h.1, equalItems_symm h.2⟩

theorem equalMembers_symm : ∀ {as bs : List (String × Json)},
    equalMembers as bs = true → equalMembers bs as = true
  | [], bs, h => by cases bs <;> simp_all [equalMembers]
  | (_, _) :: _, [], h => by simp [equalMembers] at h
  | (n, a) :: as, (m, b) :: bs, h => by
    simp only [equalMembers, Bool.and_eq_true, beq_iff_eq] at h ⊢
    exact ⟨⟨h.1.1.symm, equal_symm h.1.2⟩, equalMembers_symm h.2⟩

end

mutual

theorem equal_trans : ∀ {a b c : Json}, a.equal b = true → b.equal c = true → a.equal c = true
  | null, b, c, hab, hbc => by cases b <;> cases c <;> simp_all [equal]
  | bool _, b, c, hab, hbc => by cases b <;> cases c <;> simp_all [equal]
  | number _, b, c, hab, hbc => by
    cases b <;> cases c <;> simp_all [equal]
    exact JsonNumber.equal_trans hab hbc
  | string _, b, c, hab, hbc => by cases b <;> cases c <;> simp_all [equal]
  | array _, b, c, hab, hbc => by
    cases b <;> cases c <;> simp_all [equal]
    exact equalItems_trans hab hbc
  | object _, b, c, hab, hbc => by
    cases b <;> cases c <;> simp_all [equal]
    exact equalMembers_trans hab hbc

theorem equalItems_trans : ∀ {as bs cs : List Json},
    equalItems as bs = true → equalItems bs cs = true → equalItems as cs = true
  | [], bs, cs, hab, hbc => by cases bs <;> cases cs <;> simp_all [equalItems]
  | _ :: _, [], _, hab, _ => by simp [equalItems] at hab
  | _ :: _, _ :: _, [], _, hbc => by simp [equalItems] at hbc
  | a :: as, b :: bs, c :: cs, hab, hbc => by
    simp only [equalItems, Bool.and_eq_true] at hab hbc ⊢
    exact ⟨equal_trans hab.1 hbc.1, equalItems_trans hab.2 hbc.2⟩

theorem equalMembers_trans : ∀ {as bs cs : List (String × Json)},
    equalMembers as bs = true → equalMembers bs cs = true → equalMembers as cs = true
  | [], bs, cs, hab, hbc => by cases bs <;> cases cs <;> simp_all [equalMembers]
  | (_, _) :: _, [], _, hab, _ => by simp [equalMembers] at hab
  | (_, _) :: _, (_, _) :: _, [], _, hbc => by simp [equalMembers] at hbc
  | (n, a) :: as, (m, b) :: bs, (k, c) :: cs, hab, hbc => by
    simp only [equalMembers, Bool.and_eq_true, beq_iff_eq] at hab hbc ⊢
    exact ⟨⟨hab.1.1.trans hbc.1.1, equal_trans hab.1.2 hbc.1.2⟩, equalMembers_trans hab.2 hbc.2⟩

end

mutual

theorem eq_of_equal : ∀ {a b : Json}, a.equal b = true → a.isPlain = true → b.isPlain = true → a = b
  | null, b, h, _, _ => by cases b <;> simp_all [equal]
  | bool _, b, h, _, _ => by cases b <;> simp_all [equal]
  | number _, b, h, ha, hb => by
    cases b <;> simp_all [equal, isPlain]
    exact JsonNumber.eq_of_equal h ha hb
  | string _, b, h, _, _ => by cases b <;> simp_all [equal]
  | array _, b, h, ha, hb => by
    cases b <;> simp_all [equal, isPlain]
    exact eq_of_equalItems h ha hb
  | object _, b, h, ha, hb => by
    cases b <;> simp_all [equal, isPlain]
    exact eq_of_equalMembers h ha hb

theorem eq_of_equalItems : ∀ {as bs : List Json},
    equalItems as bs = true → arePlainItems as = true → arePlainItems bs = true → as = bs
  | [], bs, h, _, _ => by cases bs <;> simp_all [equalItems]
  | _ :: _, [], h, _, _ => by simp [equalItems] at h
  | a :: as, b :: bs, h, ha, hb => by
    simp only [equalItems, arePlainItems, Bool.and_eq_true] at h ha hb
    rw [eq_of_equal h.1 ha.1 hb.1, eq_of_equalItems h.2 ha.2 hb.2]

theorem eq_of_equalMembers : ∀ {as bs : List (String × Json)},
    equalMembers as bs = true → arePlainMembers as = true → arePlainMembers bs = true → as = bs
  | [], bs, h, _, _ => by cases bs <;> simp_all [equalMembers]
  | (_, _) :: _, [], h, _, _ => by simp [equalMembers] at h
  | (n, a) :: as, (m, b) :: bs, h, ha, hb => by
    simp only [equalMembers, arePlainMembers, Bool.and_eq_true, beq_iff_eq] at h ha hb
    rw [h.1.1, eq_of_equal h.1.2 ha.1 hb.1, eq_of_equalMembers h.2 ha.2 hb.2]

end

end Json

/-! ## Definitions -/

namespace BodyPattern

theorem equal_symm {a b : BodyPattern} (h : a.equal b = true) : b.equal a = true := by
  cases a <;> cases b <;> first
    | exact absurd h Bool.false_ne_true
    | simp only [equal, Bool.and_eq_true, beq_iff_eq] at h ⊢
  case json.json => exact ⟨Json.equal_symm h.1, h.2.symm⟩
  all_goals simp only [h, and_self]

theorem equal_trans {a b c : BodyPattern} (hab : a.equal b = true) (hbc : b.equal c = true) :
    a.equal c = true := by
  cases a <;> cases b <;> try exact absurd hab Bool.false_ne_true
  all_goals
    cases c <;> first
      | exact absurd hbc Bool.false_ne_true
      | simp only [equal, Bool.and_eq_true, beq_iff_eq] at hab hbc ⊢
  case json.json.json => exact ⟨Json.equal_trans hab.1 hbc.1, hab.2.trans hbc.2⟩
  all_goals simp only [hab, hbc, and_self]

def isPlain : BodyPattern → Bool
  | json v _ => v.isPlain
  | _ => true

theorem eq_of_equal {a b : BodyPattern} (h : a.equal b = true) (ha : a.isPlain = true)
    (hb : b.isPlain = true) : a = b := by
  cases a <;> cases b <;> first
    | exact absurd h Bool.false_ne_true
    | simp only [equal, Bool.and_eq_true, beq_iff_eq] at h
  case json.json => rw [Json.eq_of_equal h.1 ha hb, h.2]
  all_goals simp only [h]

end BodyPattern

namespace BodyDefinition

theorem equal_iff {a b : BodyDefinition} :
    a.equal b = true ↔ a.pattern.equal b.pattern = true ∧ a.negated = b.negated := by
  simp only [equal, Bool.and_eq_true, beq_iff_eq]

theorem equal_symm {a b : BodyDefinition} (h : a.equal b = true) : b.equal a = true := by
  rw [equal_iff] at h ⊢
  exact ⟨BodyPattern.equal_symm h.1, h.2.symm⟩

theorem equal_trans {a b c : BodyDefinition} (hab : a.equal b = true) (hbc : b.equal c = true) :
    a.equal c = true := by
  rw [equal_iff] at hab hbc ⊢
  exact ⟨BodyPattern.equal_trans hab.1 hbc.1, hab.2.trans hbc.2⟩

theorem eq_of_equal {a b : BodyDefinition} (h : a.equal b = true) (ha : a.pattern.isPlain = true)
    (hb : b.pattern.isPlain = true) : a = b := by
  obtain ⟨p, s⟩ := a
  obtain ⟨q, t⟩ := b
  rw [equal_iff] at h
  rw [show p = q from BodyPattern.eq_of_equal h.1 ha hb, show s = t from h.2]

end BodyDefinition

namespace RequestDefinition

theorem equalBodies_symm : ∀ {a b : Option BodyDefinition},
    equalBodies a b = true → equalBodies b a = true
  | none, none, _ => rfl
  | some _, some _, h => BodyDefinition.equal_symm h

theorem equalBodies_trans : ∀ {a b c : Option BodyDefinition},
    equalBodies a b = true → equalBodies b c = true → equalBodies a c = true
  | none, none, none, _, _ => rfl
  | some _, some _, some _, hab, hbc => BodyDefinition.equal_trans hab hbc

/-- Equal definitions have the same patterns but for their bodies, which are equal as values. -/
theorem equal_iff {a b : RequestDefinition} : a.equal b = true ↔
    { a with body := none } = { b with body := none } ∧ equalBodies a.body b.body = true := by
  obtain ⟨⟩ := a
  obtain ⟨⟩ := b
  simp only [equal, Bool.and_eq_true, beq_iff_eq, mk.injEq]
  grind

theorem equal_symm {a b : RequestDefinition} (h : a.equal b = true) : b.equal a = true := by
  rw [equal_iff] at h ⊢
  exact ⟨h.1.symm, equalBodies_symm h.2⟩

theorem equal_trans {a b c : RequestDefinition} (hab : a.equal b = true) (hbc : b.equal c = true) :
    a.equal c = true := by
  rw [equal_iff] at hab hbc ⊢
  exact ⟨hab.1.trans hbc.1, equalBodies_trans hab.2 hbc.2⟩

def isPlain (d : RequestDefinition) : Bool :=
  d.body.all (·.pattern.isPlain)

theorem eq_of_equalBodies : ∀ {a b : Option BodyDefinition}, equalBodies a b = true →
    a.all (·.pattern.isPlain) = true → b.all (·.pattern.isPlain) = true → a = b
  | none, none, _, _, _ => rfl
  | some _, some _, h, ha, hb => congrArg some (BodyDefinition.eq_of_equal h ha hb)

theorem eq_of_equal {a b : RequestDefinition} (h : a.equal b = true) (ha : a.isPlain = true)
    (hb : b.isPlain = true) : a = b := by
  obtain ⟨hrest, hbodies⟩ := equal_iff.mp h
  have hbody : a.body = b.body := eq_of_equalBodies hbodies ha hb
  calc a = { { a with body := none } with body := a.body } := rfl
    _ = { { b with body := none } with body := b.body } := by rw [hrest, hbody]
    _ = b := rfl

end RequestDefinition

/-! ## Expectations -/

namespace Expectation

theorem equal_iff {a b : Expectation} : a.equal b = true ↔
    a.id = b.id ∧ a.precedence = b.precedence ∧ a.request.equal b.request = true ∧
      a.action.equal b.action = true := by
  simp only [equal, precedence, Bool.and_eq_true, beq_iff_eq, Precedence.mk.injEq, and_assoc]

end Expectation
end RequestMatching
