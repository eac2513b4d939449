import RequestMatching.Proofs.Json.Writing
import RequestMatching.Proofs.Request.Equality

/-!
# Equality and identity

Where no number is a negative zero, or is not a number at all, only the same expectations are equal as
values, and each equals itself.
-/

namespace RequestMatching

/-! ## JSON values -/

/-- Whether a number equals no other one, and equals itself. -/
def JsonNumber.isExact : JsonNumber → Bool
  | integer _ => true
  | float x => x != .nan && !x.isNegativeZero

theorem JsonNumber.equal_self {n : JsonNumber} (h : n.isExact = true) : n.equal n = true := by
  cases n with
  | integer i => simp [equal]
  | float x => cases x <;> simp_all [isExact, equal, Binary64.eq]

theorem JsonNumber.isPlain_of_isExact {n : JsonNumber} (h : n.isExact = true) : n.isPlain = true := by
  cases n with
  | integer i => rfl
  | float x => exact (Bool.and_eq_true_iff.mp h).2

namespace Json

def isExact (v : Json) : Bool :=
  v.numbers.all (·.isExact)

mutual

theorem equal_self : ∀ v : Json, (∀ n ∈ v.numbers, n.equal n = true) → v.equal v = true
  | null, _ => rfl
  | bool b, _ => by simp [equal]
  | number n, h => h n (by simp [numbers])
  | string s, _ => by simp [equal]
  | array items, h => equalItems_self items h
  | object members, h => equalMembers_self members h

theorem equalItems_self : ∀ items : List Json,
    (∀ n ∈ itemNumbers items, n.equal n = true) → equalItems items items = true
  | [], _ => rfl
  | v :: rest, h => by
    rw [equalItems, Bool.and_eq_true]
    exact ⟨equal_self v fun n hn => h n (List.mem_append_left _ hn),
      equalItems_self rest fun n hn => h n (List.mem_append_right _ hn)⟩

theorem equalMembers_self : ∀ members : List (String × Json),
    (∀ n ∈ memberNumbers members, n.equal n = true) → equalMembers members members = true
  | [], _ => rfl
  | (k, v) :: rest, h => by
    rw [equalMembers, Bool.and_eq_true, Bool.and_eq_true]
    exact ⟨⟨beq_self_eq_true k, equal_self v fun n hn => h n (List.mem_append_left _ hn)⟩,
      equalMembers_self rest fun n hn => h n (List.mem_append_right _ hn)⟩

end

mutual

theorem isPlain_of_numbers : ∀ v : Json, (∀ n ∈ v.numbers, n.isPlain = true) → v.isPlain = true
  | null, _ | bool _, _ | string _, _ => rfl
  | number n, h => h n (by simp [numbers])
  | array items, h => arePlainItems_of_numbers items h
  | object members, h => arePlainMembers_of_numbers members h

theorem arePlainItems_of_numbers : ∀ items : List Json,
    (∀ n ∈ itemNumbers items, n.isPlain = true) → arePlainItems items = true
  | [], _ => rfl
  | v :: rest, h => by
    rw [arePlainItems, Bool.and_eq_true]
    exact ⟨isPlain_of_numbers v fun n hn => h n (List.mem_append_left _ hn),
      arePlainItems_of_numbers rest fun n hn => h n (List.mem_append_right _ hn)⟩

theorem arePlainMembers_of_numbers : ∀ members : List (String × Json),
    (∀ n ∈ memberNumbers members, n.isPlain = true) → arePlainMembers members = true
  | [], _ => rfl
  | (_, v) :: rest, h => by
    rw [arePlainMembers, Bool.and_eq_true]
    exact ⟨isPlain_of_numbers v fun n hn => h n (List.mem_append_left _ hn),
      arePlainMembers_of_numbers rest fun n hn => h n (List.mem_append_right _ hn)⟩

end

theorem equal_iff_eq {v w : Json} (hv : v.isExact = true) (hw : w.isExact = true) :
    v.equal w = true ↔ v = w := by
  have hplain : ∀ u : Json, u.isExact = true → u.isPlain = true := fun u hu =>
    u.isPlain_of_numbers fun n hn => n.isPlain_of_isExact (List.all_eq_true.mp hu n hn)
  constructor
  · exact fun h => eq_of_equal h (hplain v hv) (hplain w hw)
  · rintro rfl
    exact v.equal_self fun n hn => n.equal_self (List.all_eq_true.mp hv n hn)

end Json

/-! ## Definitions and expectations -/

namespace BodyPattern

def isExact : BodyPattern → Bool
  | json v _ => v.isExact
  | _ => true

theorem equal_iff_eq {a b : BodyPattern} (ha : a.isExact = true) (hb : b.isExact = true) :
    a.equal b = true ↔ a = b := by
  cases a <;> cases b <;> simp only [equal, Bool.and_eq_true, beq_iff_eq, json.injEq, jsonPath.injEq,
    xpath.injEq, xmlSchema.injEq, string.injEq, regex.injEq, binary.injEq, reduceCtorEq,
    Bool.false_eq_true]
  exact and_congr_left fun _ => Json.equal_iff_eq ha hb

end BodyPattern

namespace RequestDefinition

def isExact (d : RequestDefinition) : Bool :=
  d.body.all (·.pattern.isExact)

theorem equalBodies_iff_eq : ∀ {a b : Option BodyDefinition}, a.all (·.pattern.isExact) = true →
    b.all (·.pattern.isExact) = true → (equalBodies a b = true ↔ a = b)
  | none, none, _, _ => by simp [equalBodies]
  | none, some _, _, _ | some _, none, _, _ => by simp [equalBodies]
  | some ⟨p, s⟩, some ⟨q, t⟩, ha, hb => by
    simp only [equalBodies, BodyDefinition.equal_iff, BodyPattern.equal_iff_eq ha hb,
      Option.some.injEq, BodyDefinition.mk.injEq]

theorem equal_iff_eq {a b : RequestDefinition} (ha : a.isExact = true) (hb : b.isExact = true) :
    a.equal b = true ↔ a = b := by
  rw [equal_iff, equalBodies_iff_eq ha hb]
  constructor
  · rintro ⟨hrest, hbody⟩
    calc a = { { a with body := none } with body := a.body } := rfl
      _ = { { b with body := none } with body := b.body } := by rw [hrest, hbody]
      _ = b := rfl
  · rintro rfl
    exact ⟨rfl, rfl⟩

end RequestDefinition

namespace Expectation

def isExact (e : Expectation) : Bool :=
  e.request.isExact && e.action.isExact

theorem equal_iff_eq {a b : Expectation} (ha : a.isExact = true) (hb : b.isExact = true) :
    a.equal b = true ↔ a = b := by
  obtain ⟨hra, haa⟩ := Bool.and_eq_true_iff.mp ha
  obtain ⟨hrb, hab⟩ := Bool.and_eq_true_iff.mp hb
  obtain ⟨⟩ := a
  obtain ⟨⟩ := b
  rw [equal_iff, RequestDefinition.equal_iff_eq hra hrb, Json.equal_iff_eq haa hab]
  simp only [precedence, Precedence.mk.injEq, mk.injEq, and_assoc]

end Expectation
end RequestMatching
